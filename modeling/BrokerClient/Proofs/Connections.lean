import BrokerClient.Connection.Lifecycle
import BrokerClient.Proofs.Client
import BrokerClient.Proofs.Interleaving

/-!
# Connections that are lost

Calls of `connect` and `disconnect` of one manager overlap in any order. A connection that the
broker has returned is the manager's, or its close has been asked for, unless it is lost: the
manager has let go of it before that. This happens where a dial ends while the manager has another
connection, or where the close of one connection ends after the manager has come by another. So no
connection is lost as long as no dial overlaps another dial or the close of a connection.

## Main definitions

* `Manager.rules` — how calls of a manager run side by side.
* `Manager.returned`, `Manager.closesAsked`, `Manager.Lost` — what has become of connections.
* `Manager.Crossed` — a dial has overlapped another dial or a close.

## Main results

* `Manager.current_or_closed_iff` — which connections are lost, and how.
-/

namespace BrokerClient.Connection.Manager

open Broker Channel

/-- What has happened to a manager. -/
abbrev Past : Type := List (Happening requests Manager)

/-- A manager with all that has happened to it. -/
abbrev Moment : Type := BrokerClient.Moment requests Manager

/-- The connection that a happening returns. -/
def connection? : Happening requests Manager → Option ConnectionId
  | .replied ⟨.connect .., .ok c⟩ => some c
  | _ => none

/-- The connection whose close a happening asks for. -/
def close? : Happening requests Manager → Option ConnectionId
  | .asked (.closeConnection c) => some c
  | _ => none

/-- The connections that the broker has returned. -/
def returned (past : Past) : List ConnectionId :=
  past.filterMap connection?

/-- The connections whose close has been asked for. -/
def closesAsked (past : Past) : List ConnectionId :=
  past.filterMap close?

/-- Whether a request is a dial. -/
def isDial : Request → Bool
  | .connect .. => true
  | _ => false

/-- Whether a request is the close of a connection. -/
def isClose : Request → Bool
  | .closeConnection _ => true
  | _ => false

/-- The manager has let go of a connection whose close had not been asked for. -/
def Lost (past : Past) (c : ConnectionId) : Prop :=
  ∃ before m m' after, past = before ++ .changed m m' :: after ∧ m.connection = some c ∧
    m'.connection ≠ some c ∧ c ∉ closesAsked before

/-- At some time a dial has waited together with another dial, or with the close of a connection. -/
def Crossed (past : Past) : Prop :=
  ∃ before, before <+: past ∧ (2 ≤ Happening.awaited isDial before ∨
    0 < Happening.awaited isDial before ∧
      0 < Happening.awaited isClose before)

/-- How calls of a manager run side by side. To close no channels takes no time, and the broker
returns every connection once. -/
def rules (begins : Act Unit → Prop) : Rules requests Manager Unit where
  begins
  pass
    | .closeChannels _ [] => some ()
    | _ => none
  allows
    | w, .connect .., .ok c => c ∉ returned w.past
    | _, _, _ => True

/-- The calls that open and close connections. -/
def lifecycle (p : Act Unit) : Prop :=
  p = connect ∨ p = disconnect

/-! ### What happenings add -/

section Past

variable {past : Past} {c : ConnectionId}

theorem Lost.append (x : Happening requests Manager) (h : Lost past c) : Lost (past ++ [x]) c := by
  obtain ⟨before, m, m', after, rfl, was, goes, unclosed⟩ := h
  exact ⟨before, m, m', after ++ [x], by simp, was, goes, unclosed⟩

/-- Only a change loses a connection. -/
theorem lost_append_iff {x : Happening requests Manager} :
    Lost (past ++ [x]) c ↔ Lost past c ∨ ∃ m m', x = .changed m m' ∧ m.connection = some c ∧
      m'.connection ≠ some c ∧ c ∉ closesAsked past := by
  constructor
  · rintro ⟨before, m, m', after, eq, was, goes, unclosed⟩
    obtain ⟨rfl, rfl, -⟩ | ⟨after, -, rfl⟩ := concat_eq_append_cons_iff.mp eq
    · exact .inr ⟨m, m', rfl, was, goes, unclosed⟩
    · exact .inl ⟨before, m, m', after, rfl, was, goes, unclosed⟩
  · rintro (h | ⟨m, m', rfl, was, goes, unclosed⟩)
    · exact h.append x
    · exact ⟨past, m, m', [], rfl, was, goes, unclosed⟩

theorem Crossed.append (x : Happening requests Manager) (h : Crossed past) :
    Crossed (past ++ [x]) := by
  obtain ⟨before, isPrefix, crossed⟩ := h
  exact ⟨before, isPrefix.trans (List.prefix_append ..), crossed⟩

@[simp]
theorem returned_append_asked (r : Request) : returned (past ++ [.asked r]) = returned past := by
  simp [returned, connection?]

@[simp]
theorem returned_append_changed (m m' : Manager) :
    returned (past ++ [.changed m m']) = returned past := by
  simp [returned, connection?]

@[simp]
theorem closesAsked_append_replied (a : Answer requests) :
    closesAsked (past ++ [.replied a]) = closesAsked past := by
  simp [closesAsked, close?]

@[simp]
theorem closesAsked_append_changed (m m' : Manager) :
    closesAsked (past ++ [.changed m m']) = closesAsked past := by
  simp [closesAsked, close?]

@[simp]
theorem lost_append_asked_iff (r : Request) : Lost (past ++ [.asked r]) c ↔ Lost past c := by
  simp [lost_append_iff]

@[simp]
theorem lost_append_replied_iff (a : Answer requests) :
    Lost (past ++ [.replied a]) c ↔ Lost past c := by
  simp [lost_append_iff]

end Past

/-! ### What holds of connections -/

/-- What is known of the connections of a manager. -/
structure Kept (w : Moment) : Prop where
  held : ∀ c, w.state.connection = some c → c ∈ returned w.past ∧ ¬ Lost w.past c
  closed : ∀ c ∈ closesAsked w.past, c ∈ returned w.past ∧ ¬ Lost w.past c
  lost : ∀ c, Lost w.past c → c ∈ returned w.past ∧ Crossed w.past
  fate : ∀ c ∈ returned w.past,
    w.state.connection = some c ∨ c ∈ closesAsked w.past ∨ Lost w.past c
  /-- While a dial waits, the manager has no connection. -/
  dialling : 0 < Happening.awaited isDial w.past →
    ∀ c, w.state.connection = some c → Crossed w.past
  /-- While a close waits, the manager has no other connection. -/
  closing : 0 < Happening.awaited isClose w.past →
    ∀ c, w.state.connection = some c → c ∈ closesAsked w.past ∨ Crossed w.past

namespace Kept

variable {w : Moment} {r : Request} {c : ConnectionId}

theorem start {m : Manager} (none : m.connection = none) : Kept { state := m } where
  held c h := by simp [none] at h
  closed := nofun
  lost := by
    rintro c ⟨before, m, m', after, eq, -⟩
    simp at eq
  fate := nofun
  dialling := nofun
  closing := nofun

/-- Requests other than dials and closes of connections make no difference. -/
theorem ask (h : Kept w) (dial : isDial r = false) (close : isClose r = false) :
    Kept (w.ask r) := by
  have same : closesAsked (w.past ++ [.asked r]) = closesAsked w.past := by
    cases r with
    | closeConnection c => cases close
    | _ => simp [closesAsked, close?]
  constructor <;> simp only [Moment.ask, returned_append_asked, lost_append_asked_iff, same,
    awaited_append_asked (S := requests) dial, awaited_append_asked (S := requests) close]
  · exact h.held
  · exact h.closed
  · exact fun c lost => ⟨(h.lost c lost).1, (h.lost c lost).2.append _⟩
  · exact h.fate
  · exact fun waits c has => (h.dialling waits c has).append _
  · exact fun waits c has => (h.closing waits c has).imp_right (·.append _)

/-- Replies that return no connection make no difference. -/
theorem reply (h : Kept w) {a : Except Error r.Reply}
    (none : connection? (.replied ⟨r, a⟩) = none) : Kept (w.reply r a) := by
  have same : returned (w.past ++ [.replied ⟨r, a⟩]) = returned w.past := by
    simp [returned, none]
  constructor <;> simp only [Moment.reply, same, lost_append_replied_iff,
    closesAsked_append_replied]
  · exact h.held
  · exact h.closed
  · exact fun c lost => ⟨(h.lost c lost).1, (h.lost c lost).2.append _⟩
  · exact h.fate
  · exact fun waits c has => (h.dialling (awaited_pos_of_append_replied waits) c has).append _
  · exact fun waits c has =>
      (h.closing (awaited_pos_of_append_replied waits) c has).imp_right (·.append _)

/-- Nothing is lost by a change that leaves the connection alone. -/
theorem change (h : Kept w) {f : Manager → Manager}
    (same : ∀ m, (f m).connection = m.connection) : Kept (w.change f) := by
  have lost (c : ConnectionId) : Lost (w.past ++ [.changed w.state (f w.state)]) c ↔
      Lost w.past c := by
    rw [lost_append_iff]
    refine ⟨?_, .inl⟩
    rintro (h | ⟨m, m', eq, was, goes, -⟩)
    · exact h
    · cases eq
      exact absurd (same w.state ▸ was) goes
  constructor <;> simp only [Moment.change, same, lost, returned_append_changed,
    closesAsked_append_changed, awaited_append_changed]
  · exact h.held
  · exact h.closed
  · exact fun c lost => ⟨(h.lost c lost).1, (h.lost c lost).2.append _⟩
  · exact h.fate
  · exact fun waits c has => (h.dialling waits c has).append _
  · exact fun waits c has => (h.closing waits c has).imp_right (·.append _)

/-- A dial begins where there is no connection. -/
theorem ask_dial (h : Kept w) (close : close? (.asked r) = none) (other : isClose r = false)
    (none : w.state.connection = none) : Kept (w.ask r) := by
  have same : closesAsked (w.past ++ [.asked r]) = closesAsked w.past := by
    simp [closesAsked, close]
  constructor <;> simp only [Moment.ask, returned_append_asked, lost_append_asked_iff, same,
    awaited_append_asked (S := requests) other, none]
  · rintro c ⟨⟩
  · exact h.closed
  · exact fun c lost => ⟨(h.lost c lost).1, (h.lost c lost).2.append _⟩
  · exact fun c was => none ▸ h.fate c was
  · rintro - c ⟨⟩
  · rintro - c ⟨⟩

/-- The connection that the manager has is closed. -/
theorem ask_close (h : Kept w) (has : w.state.connection = some c) :
    Kept (w.ask (.closeConnection c)) := by
  have more : closesAsked (w.past ++ [.asked (.closeConnection c)]) =
      closesAsked w.past ++ [c] := by
    simp [closesAsked, close?]
  constructor <;> simp only [Moment.ask, returned_append_asked, lost_append_asked_iff, more,
    List.mem_append, List.mem_singleton]
  · exact h.held
  · rintro d (asked | rfl)
    · exact h.closed d asked
    · exact h.held d has
  · exact fun d lost => ⟨(h.lost d lost).1, (h.lost d lost).2.append _⟩
  · intro d was
    obtain current | asked | lost := h.fate d was
    · exact .inl current
    · exact .inr (.inl (.inl asked))
    · exact .inr (.inr lost)
  · rw [awaited_append_asked (S := requests) rfl]
    exact fun waits d has' => (h.dialling waits d has').append _
  · intro _ d has'
    rw [has, Option.some.injEq] at has'
    exact .inl (.inr has'.symm)

/-- A connection that has been closed, or a crossing, allows the manager to have none. -/
theorem drop (h : Kept w) {f : Manager → Manager} (none : ∀ m, (f m).connection = none)
    (closed : ∀ c, w.state.connection = some c → c ∈ closesAsked w.past ∨ Crossed w.past) :
    Kept (w.change f) := by
  have lost (c : ConnectionId) (h' : Lost (w.past ++ [.changed w.state (f w.state)]) c) :
      Lost w.past c ∨ w.state.connection = some c ∧ c ∉ closesAsked w.past := by
    obtain h' | ⟨m, m', eq, was, -, unclosed⟩ := lost_append_iff.mp h'
    · exact .inl h'
    · cases eq
      exact .inr ⟨was, unclosed⟩
  constructor <;> simp only [Moment.change, none, returned_append_changed,
    closesAsked_append_changed]
  · rintro c ⟨⟩
  · intro c asked
    refine ⟨(h.closed c asked).1, fun lost' => ?_⟩
    obtain before | ⟨-, unclosed⟩ := lost c lost'
    · exact (h.closed c asked).2 before
    · exact unclosed asked
  · intro c lost'
    obtain before | ⟨was, unclosed⟩ := lost c lost'
    · exact ⟨(h.lost c before).1, (h.lost c before).2.append _⟩
    · exact ⟨(h.held c was).1, ((closed c was).resolve_left unclosed).append _⟩
  · intro c was
    obtain current | asked | before := h.fate c was
    · by_cases asked : c ∈ closesAsked w.past
      · exact .inr (.inl asked)
      · refine .inr (.inr (lost_append_iff.mpr (.inr ⟨_, _, rfl, current, ?_, asked⟩)))
        simp [none]
    · exact .inr (.inl asked)
    · exact .inr (.inr (before.append _))
  · rintro - c ⟨⟩
  · rintro - c ⟨⟩

/-- A dial ends with a connection that has not been there before. -/
theorem take (h : Kept w) (dial : isDial r) {a : Except Error r.Reply}
    (returns : connection? (.replied ⟨r, a⟩) = some c) (fresh : c ∉ returned w.past)
    (awaits : w.Awaits r) {f : Manager → Manager} (takes : ∀ m, (f m).connection = some c) :
    Kept ((w.reply r a).change f) := by
  have waits := awaits.awaited_pos dial
  have more : returned (w.past ++ [.replied ⟨r, a⟩]) = returned w.past ++ [c] := by
    simp [returned, returns]
  have lost (d : ConnectionId) :
      Lost (w.past ++ [.replied ⟨r, a⟩] ++ [.changed w.state (f w.state)]) d ↔
        Lost w.past d ∨ w.state.connection = some d ∧ d ≠ c ∧ d ∉ closesAsked w.past := by
    rw [lost_append_iff, lost_append_replied_iff, closesAsked_append_replied]
    refine or_congr_right ⟨?_, ?_⟩
    · rintro ⟨m, m', eq, was, goes, unclosed⟩
      cases eq
      refine ⟨was, fun same => goes ?_, unclosed⟩
      rw [takes, same]
    · rintro ⟨was, other, unclosed⟩
      refine ⟨_, _, rfl, was, ?_, unclosed⟩
      rw [takes]
      exact fun same => other (Option.some.inj same).symm
  constructor <;> simp only [Moment.change, Moment.reply, takes, lost, more,
    returned_append_changed, closesAsked_append_changed, closesAsked_append_replied,
    awaited_append_changed, List.mem_append, List.mem_singleton]
  · rintro d has
    obtain rfl := Option.some.inj has
    refine ⟨.inr rfl, ?_⟩
    rintro (before | ⟨-, other, -⟩)
    · exact fresh (h.lost _ before).1
    · exact other rfl
  · rintro d asked
    refine ⟨.inl (h.closed d asked).1, ?_⟩
    rintro (before | ⟨-, -, unclosed⟩)
    · exact (h.closed d asked).2 before
    · exact unclosed asked
  · rintro d (before | ⟨was, -, -⟩)
    · exact ⟨.inl (h.lost d before).1, ((h.lost d before).2.append _).append _⟩
    · exact ⟨.inl (h.held d was).1, ((h.dialling waits d was).append _).append _⟩
  · rintro d (was | rfl)
    · obtain current | asked | before := h.fate d was
      · by_cases asked : d ∈ closesAsked w.past
        · exact .inr (.inl asked)
        · exact .inr (.inr (.inr ⟨current, fun same => fresh (same ▸ was), asked⟩))
      · exact .inr (.inl asked)
      · exact .inr (.inr (.inl before))
    · exact .inl rfl
  · intro more _ _
    rw [awaited_append_replied (S := requests) dial] at more
    have crossed : Crossed w.past := ⟨w.past, List.prefix_refl _, .inl (by omega)⟩
    exact (crossed.append _).append _
  · intro more _ _
    have closing := awaited_pos_of_append_replied more
    have crossed : Crossed w.past := ⟨w.past, List.prefix_refl _, .inr ⟨waits, closing⟩⟩
    exact .inr ((crossed.append _).append _)

end Kept

/-! ### Calls keep it -/

section Calls

variable {begins : Act Unit → Prop}

/-- Requests other than dials and closes of connections. -/
theorem heeds_ask {r : Request} (dial : isDial r = false)
    (close : isClose r = false) : (ask r : Act r.Reply).Heeds (rules begins) Kept := by
  refine .perform (fun w h => h.ask dial close) fun w a h _ _ => h.reply ?_
  cases r with
  | connect => cases dial
  | _ => rfl

theorem heeds_closeQuietly {c : ChannelId} {purpose : String} :
    (closeQuietly (ask (.closeChannel c)) purpose : Act Bool).Heeds (rules begins) Kept :=
  .rescue (.seq (heeds_ask rfl rfl) fun _ => .done true) fun _ =>
    .seq (.logFailure _ _ _ _) fun _ => .done false

theorem heeds_onPool {α : Type} (p : Pool.Act α) : (onPool p).Heeds (rules begins) Kept := by
  refine .within (fun c w h => h.change fun _ => rfl) (fun r => ?_) p
  cases r with
  | openChannel =>
    refine .seq .state fun m => ?_
    cases m.connection with
    | some c => exact heeds_ask rfl rfl
    | none => exact .fail _
  | closeChannel c => exact heeds_ask rfl rfl
  | closeChannels cs => exact heeds_ask rfl rfl

/-- While the close of a connection is waited for, the manager comes by no other connection, unless
a dial overlaps it. -/
theorem heeds_closeConnection : closeConnection.Heeds (rules begins) Kept := by
  intro w h
  cases has : w.state.connection with
  | none =>
    simp only [closeConnection, bind, Program.state, Program.bind, Program.Abides, has]
    exact h
  | some c =>
    have forgets (w' : Moment) (h' : Kept w')
        (closed : ∀ c, w'.state.connection = some c → c ∈ closesAsked w'.past ∨ Crossed w'.past) :
        Kept (w'.change fun m => { m with connection := none }) := h'.drop (fun _ => rfl) closed
    simp only [closeConnection, bind, Program.state, Program.bind, Program.Abides, has]
    refine Program.abides_bind.mpr (Program.abides_rescue.mpr ((Program.abides_perform rfl).mpr
      ⟨h.ask_close has, fun w' a _ h' awaits _ => ?_⟩))
    have replied : Kept (w'.reply (Request.closeConnection c) a) := h'.reply rfl
    have closed (d : ConnectionId) (has' : w'.state.connection = some d) :
        d ∈ closesAsked (w'.reply (Request.closeConnection c) a).past ∨
          Crossed (w'.reply (Request.closeConnection c) a).past := by
      refine (h'.closing (awaits.awaited_pos rfl) d has').imp (fun asked => ?_) (·.append _)
      simpa [Moment.reply] using asked
    cases a with
    | ok u => exact forgets _ replied closed
    | error e =>
      by_cases ordinary : e.isOrdinary
      · simp only [Program.ofExcept, Program.Abides, if_pos ordinary]
        exact forgets _ replied closed
      · simp only [Program.ofExcept, Program.Abides, if_neg ordinary]
        exact replied

theorem heeds_disconnect : disconnect.Heeds (rules begins) Kept := by
  have phase (p : Phase) : (Program.modify fun m => { m with phase := p } : Act Unit).Heeds
      (rules begins) Kept := .modify fun w h => h.change fun _ => rfl
  have consumers : closeConsumerChannels.Heeds (rules begins) Kept := by
    have close (cs : List ChannelId) : (do
        ask (.closeChannels "consumer" cs)
        .modify fun m => { m with consumerChannels := [] } : Act Unit).Heeds (rules begins) Kept :=
      .seq (heeds_ask rfl rfl) fun _ => .modify fun w h => h.change fun _ => rfl
    refine .seq .state fun m => ?_
    dsimp only
    split
    · exact .seq (.log _ _ _ _) fun _ => close _
    · exact close _
  exact .seq (phase _) fun _ => .seq consumers fun _ => .seq (heeds_onPool _) fun _ =>
    .seq heeds_closeConnection fun _ => .seq (phase _) fun _ => .log _ _ _ _

theorem heeds_bootstrap (c : ConnectionId) (names : Routing.ExchangeNames) :
    (Routing.bootstrap c names : Act Unit).Heeds (rules begins) Kept :=
  .seq (.log _ _ _ _) fun _ => .seq (heeds_ask rfl rfl) fun _ =>
    .seq (.ensuring (.forM fun _ _ => .seq (heeds_ask rfl rfl) fun _ => .log _ _ _ _)
      (.seq heeds_closeQuietly fun _ => .done ())) fun _ => .log _ _ _ _

/-- A dial begins without a connection, and what it returns becomes the manager's. -/
theorem abides_establish {w : Moment} (h : Kept w) (none : w.state.connection = none) :
    establish.Abides (rules begins) Kept (fun _ => Kept) (fun _ => Kept) w := by
  let dial := Request.connect w.state.settings.url w.state.settings.heartbeat
    w.state.settings.reconnectInterval
  have waits : (rules begins).pass dial = .none := rfl
  simp only [establish, bind, Program.state, Program.bind, Program.Abides]
  refine Program.abides_bind.mpr ((Program.abides_perform waits).mpr
    ⟨h.ask_dial rfl rfl none, fun w' a _ h' awaits fresh => ?_⟩)
  cases a with
  | error e => exact h'.reply rfl
  | ok c =>
    have taken (watching : Manager → List ConnectionId) :
        Kept ((w'.reply dial (.ok c)).change fun m =>
          { m with connection := some c, watching := watching m }) :=
      h'.take rfl rfl fresh awaits fun _ => rfl
    exact Program.Heeds.seq (heeds_bootstrap c w.state.names) (fun _ => heeds_onPool Pool.fill) _
      (taken fun m => m.watching ++ [c])

/-- A dial begins only where there is no connection. -/
theorem heeds_connect : connect.Heeds (rules begins) Kept := by
  have phase (p : Phase) : (Program.modify fun m => { m with phase := p } : Act Unit).Heeds
      (rules begins) Kept := .modify fun w h => h.change fun _ => rfl
  intro w h
  simp only [connect, bind, Program.state, Program.bind, Program.Abides]
  by_cases left : w.state.connection.isSome || w.state.phase == .connecting
  · rw [if_pos left]
    exact h
  · rw [if_neg left]
    have none : w.state.connection = none := by
      by_contra has
      exact left (by simp [Option.isSome_iff_ne_none.mpr has])
    have begun : Kept (w.change fun m => { m with phase := .connecting }) := h.change fun _ => rfl
    have opened : (Program.rescue establish fun e => do
          .logFailure .connection s!"Failed to connect to RabbitMQ: {e.message}" e
            (w.state.urlDetail :: errorDetails e)
          disconnect
          .fail e).Abides (rules begins) Kept (fun _ => Kept) (fun _ => Kept)
        (w.change fun m => { m with phase := .connecting }) := by
      refine Program.abides_rescue.mpr ((abides_establish begun none).mono (fun _ _ h => h)
        fun e w h => ?_)
      by_cases ordinary : e.isOrdinary
      · rw [if_pos ordinary]
        exact Program.Heeds.seq (.logFailure _ _ _ _)
          (fun _ => .seq heeds_disconnect fun _ => .fail e)
          w h
      · rwa [if_neg ordinary]
    change Program.Abides _ _ (Program.bind (Program.rescue establish _) _) _ _ (w.change _)
    exact Program.abides_bind.mpr (opened.mono (fun _ => phase .connected) fun _ _ h => h)

end Calls

/-! ### All scenes -/

/-- A manager with what it is made of and nothing else. -/
def fresh (settings : Settings) (names : Routing.ExchangeNames) (size : Nat) : Manager where
  settings := settings
  names := names
  pool := { size }

/-- However calls of `connect` and `disconnect` overlap, a connection that the broker has returned
is the manager's, or its close has been asked for, unless it is lost; and none is lost unless a dial
has overlapped another dial or the close of a connection. -/
theorem current_or_closed_iff {settings : Settings} {names : Routing.ExchangeNames} {size : Nat}
    {s : Scene requests Manager Unit}
    (reached : Scene.Reached (rules lifecycle) (fresh settings names size) s) :
    (∀ c ∈ returned s.past,
      (s.state.connection = some c ∨ c ∈ closesAsked s.past) ↔ ¬ Lost s.past c) ∧
    ∀ c, Lost s.past c → Crossed s.past := by
  have kept : Kept s.toMoment := by
    refine reached.holds (.start rfl) ?_
    rintro p (rfl | rfl)
    · exact heeds_connect
    · exact heeds_disconnect
  refine ⟨fun c was => ⟨?_, fun found => ?_⟩, fun c lost => (kept.lost c lost).2⟩
  · rintro (current | asked)
    · exact (kept.held c current).2
    · exact (kept.closed c asked).2
  · obtain current | asked | lost := kept.fate c was
    · exact .inl current
    · exact .inr asked
    · exact absurd lost found

/-- Every request is granted, a dial with a connection. -/
def grants (c : ConnectionId) : (r : Request) → Except Error r.Reply
  | .connect .. => .ok c
  | r => .ok r.granted

/-- Every request fails. -/
def refuses (r : Request) : Except Error r.Reply :=
  .error (.fault .connection "gone")

theorem allows_grants {begins : Act Unit → Prop} {w : Moment} {c : ConnectionId}
    (fresh : c ∉ returned w.past) (r : Request) : (rules begins).allows w r (grants c r) := by
  cases r with
  | connect => exact fresh
  | _ => trivial

theorem allows_refuses {begins : Act Unit → Prop} {w : Moment} (r : Request) :
    (rules begins).allows w r (refuses r) := by
  cases r <;> trivial

/-- While a first call dials, the manager is disconnected and a second call dials. Both dials end,
and then both calls fail to open a channel. -/
def twoDials : Scene requests Manager Unit :=
  [.begin connect, .begin disconnect, .begin connect, .reply 0 (grants ⟨1⟩), .reply 0 (grants ⟨2⟩),
    .reply 0 refuses, .reply 1 (grants ⟨3⟩), .reply 0 refuses].foldl
      (Scene.move (rules lifecycle).pass) { state := fresh default default 1 }

theorem reached_twoDials :
    Scene.Reached (rules lifecycle) (fresh default default 1) twoDials := by
  have connects : (rules lifecycle).begins connect := .inl rfl
  have disconnects : (rules lifecycle).begins disconnect := .inr rfl
  have start : Scene.Reached (rules lifecycle) (fresh default default 1) _ := .start
  have dials := ((start.begin connects).begin disconnects).begin connects
  have returns := (dials.reply 0 (allows_grants (c := ⟨1⟩) (by decide))).reply 0
    (allows_grants (c := ⟨2⟩) (by decide))
  exact ((returns.reply 0 allows_refuses).reply 1
    (allows_grants (c := ⟨3⟩) (by decide))).reply 0 allows_refuses

/-- The first connection is lost, as both dials have waited together. -/
theorem current_or_closed_twoDials :
    Scene.Reached (rules lifecycle) (fresh default default 1) twoDials ∧
      (∀ c ∈ returned twoDials.past, (twoDials.state.connection = some c ∨
        c ∈ closesAsked twoDials.past) ↔ ¬ Lost twoDials.past c) ∧
      ∀ c, Lost twoDials.past c → Crossed twoDials.past :=
  ⟨reached_twoDials, current_or_closed_iff reached_twoDials⟩

/-- It is not true that every connection that the broker has returned is the manager's or has been
closed when no call waits any more. -/
theorem loses_first_of_two_dials :
    ¬ ∀ (settings : Settings) (names : Routing.ExchangeNames) (size : Nat)
      (s : Scene requests Manager Unit),
      Scene.Reached (rules lifecycle) (fresh settings names size) s → s.waiting.length = 0 →
        ∀ c ∈ returned s.past, s.state.connection = some c ∨ c ∈ closesAsked s.past := by
  intro kept
  have rest : twoDials.waiting.length = 0 := by decide
  have was : ⟨1⟩ ∈ returned twoDials.past := by decide
  have neither : twoDials.state.connection = none ∧ ⟨1⟩ ∉ closesAsked twoDials.past := by
    decide
  obtain current | asked := kept _ _ _ _ reached_twoDials rest ⟨1⟩ was
  · rw [neither.1] at current
    cases current
  · exact neither.2 asked

end BrokerClient.Connection.Manager
