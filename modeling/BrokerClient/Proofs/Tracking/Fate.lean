import BrokerClient.Proofs.Provisioning

/-!
# What becomes of consumer channels

Calls that create and remove consumer channels overlap with each other and with disconnections of
the same manager. A channel that was opened for a consumer is in the making until it is tracked or
its close is asked for; and it may be forgotten: the manager ceases to track it although its close
has not been asked for.

What happens in such calls keeps two assertions. `Custody` says of each channel where it is.
`Timing` says of the channels that begin to be tracked late, while a disconnection waits or when it
is over, that they alone are forgotten or left behind.

## Main definitions

* `Manager.channelsOpened`, `Manager.channelCloses` — what has been opened and closed.
* `Manager.Forgotten`, `Manager.Slipped` — how channels cease and begin to be tracked.
* `Manager.Overlapped` — a consumer channel was in the making while a disconnection waited.
* `Manager.Custody`, `Manager.Timing`, `Manager.Tracking` — what is known of channels.

## Main results

* `Manager.Tracking.reply`, `Manager.Tracking.track`, `Manager.Tracking.untrack` — what happens to
  channels, step by step.
-/

namespace BrokerClient

open Broker Channel

/-- The channel that a request provisions for a consumer. -/
def Broker.Request.provisions : Request → List ChannelId
  | .declareExchange c _ | .declareQueue c _ | .bindQueue c .. | .setPrefetch c _ => [c]
  | _ => []

namespace Connection.Manager

/-- The channels that have been opened. -/
def channelsOpened (past : Past) : List ChannelId :=
  past.flatMap fun
    | .replied a => a.request.opens a.reply
    | _ => []

/-- The channels whose close has been asked for. -/
def channelCloses (past : Past) : List ChannelId :=
  past.flatMap fun
    | .asked r => r.closes
    | _ => []

/-- Whether a request provisions a channel. -/
def isProvisioning (c : ChannelId) (r : Request) : Bool :=
  r.provisions.contains c

/-- Whether a request belongs to the making of a consumer channel. -/
def isMaking : Request → Bool
  | .openChannel _ => true
  | r => r.provisions.length ≠ 0

/-- Whether a request is the close of the consumer channels. -/
def isEmptying : Request → Bool
  | .closeChannels purpose _ => purpose == "consumer"
  | _ => false

/-- Whether a request is the close of the publisher channels or of the connection. -/
def isClearing : Request → Bool
  | .closeChannels purpose _ => purpose != "consumer"
  | .closeConnection _ => true
  | _ => false

/-- A disconnection waits. -/
def Disconnecting (past : Past) : Prop :=
  0 < Happening.awaited isEmptying past ∨ 0 < Happening.awaited isClearing past

/-- At some time the manager has changed in such a way, which may depend on what had happened. -/
def Changed (how : Past → Manager → Manager → Prop) (past : Past) : Prop :=
  ∃ before m m' after, past = before ++ .changed m m' :: after ∧ how before m m'

/-- The manager has ceased to track a channel whose close had not been asked for. -/
def Forgotten (past : Past) (c : ChannelId) : Prop :=
  Changed (fun before m m' => c ∈ m.tracked ∧ c ∉ m'.tracked ∧ c ∉ channelCloses before) past

/-- The manager has begun to track a channel while a disconnection was waiting, or when it had no
connection any more. -/
def Slipped (past : Past) (c : ChannelId) : Prop :=
  Changed (fun before m m' => c ∉ m.tracked ∧ c ∈ m'.tracked ∧
    (Disconnecting before ∨ m.connection = none)) past

/-- At some time a consumer channel was in the making while a disconnection was waiting. -/
def Overlapped (past : Past) : Prop :=
  ∃ before, before <+: past ∧ 0 < Happening.awaited isMaking before ∧ Disconnecting before

theorem isProvisioning_iff {c : ChannelId} {r : Request} :
    isProvisioning c r ↔ c ∈ r.provisions :=
  List.contains_iff_mem

/-! ### What happenings add -/

section Past

variable {past : Past} {c : ChannelId}

theorem not_changed_nil (how : Past → Manager → Manager → Prop) : ¬ Changed how [] :=
  Happening.not_changed_nil how

theorem Changed.append {how : Past → Manager → Manager → Prop} (h : Changed how past)
    (x : Happening requests Manager) : Changed how (past ++ [x]) :=
  Happening.Changed.append h x

@[simp]
theorem changed_append_asked_iff {how : Past → Manager → Manager → Prop} (r : Request) :
    Changed how (past ++ [.asked r]) ↔ Changed how past :=
  Happening.changed_append_asked_iff (S := requests) r

@[simp]
theorem changed_append_replied_iff {how : Past → Manager → Manager → Prop}
    (a : Answer requests) : Changed how (past ++ [.replied a]) ↔ Changed how past :=
  Happening.changed_append_replied_iff a

@[simp]
theorem changed_append_changed_iff {how : Past → Manager → Manager → Prop} (m m' : Manager) :
    Changed how (past ++ [.changed m m']) ↔ Changed how past ∨ how past m m' :=
  Happening.changed_append_changed_iff m m'

theorem Overlapped.append (h : Overlapped past) (x : Happening requests Manager) :
    Overlapped (past ++ [x]) := by
  obtain ⟨before, isPrefix, waits⟩ := h
  exact ⟨before, isPrefix.trans (List.prefix_append ..), waits⟩

@[simp]
theorem channelsOpened_append_asked (r : Request) :
    channelsOpened (past ++ [.asked r]) = channelsOpened past := by
  simp [channelsOpened]

@[simp]
theorem channelsOpened_append_changed (m m' : Manager) :
    channelsOpened (past ++ [.changed m m']) = channelsOpened past := by
  simp [channelsOpened]

@[simp]
theorem channelsOpened_append_replied (a : Answer requests) :
    channelsOpened (past ++ [.replied a]) = channelsOpened past ++ a.request.opens a.reply := by
  simp [channelsOpened]

@[simp]
theorem channelCloses_append_asked (r : Request) :
    channelCloses (past ++ [.asked r]) = channelCloses past ++ r.closes := by
  simp [channelCloses]

@[simp]
theorem channelCloses_append_changed (m m' : Manager) :
    channelCloses (past ++ [.changed m m']) = channelCloses past := by
  simp [channelCloses]

@[simp]
theorem channelCloses_append_replied (a : Answer requests) :
    channelCloses (past ++ [.replied a]) = channelCloses past := by
  simp [channelCloses]

theorem disconnecting_append_asked {r : Request} (emptying : isEmptying r = false)
    (clearing : isClearing r = false) :
    Disconnecting (past ++ [.asked r]) ↔ Disconnecting past := by
  rw [Disconnecting, awaited_append_asked (S := requests) emptying,
    awaited_append_asked (S := requests) clearing, Disconnecting]

theorem disconnecting_of_append_replied {a : Answer requests}
    (h : Disconnecting (past ++ [.replied a])) : Disconnecting past :=
  h.imp awaited_pos_of_append_replied awaited_pos_of_append_replied

@[simp]
theorem disconnecting_append_changed (m m' : Manager) :
    Disconnecting (past ++ [.changed m m']) ↔ Disconnecting past := by
  simp [Disconnecting]

end Past

/-! ### What becomes of a channel -/

/-- What is known of the channels that have been opened, if the pool had some in the beginning and
if a call has those in hand that it has just been replied about. -/
structure Custody (pool hand : List ChannelId) (w : Moment) : Prop where
  publisher : ∀ c ∈ w.state.pool.channels, c ∈ pool
  apart : ∀ c ∈ channelsOpened w.past, c ∉ pool
  known : ∀ c, c ∈ w.state.tracked ∨ Forgotten w.past c → c ∈ channelsOpened w.past
  /-- A channel in the making is not tracked yet. -/
  making : ∀ c, c ∈ hand ∨ 0 < Happening.awaited (isProvisioning c) w.past →
    c ∈ channelsOpened w.past ∧ c ∉ w.state.tracked ∧ ¬ Forgotten w.past c
  /-- One call at most has a channel in the making. -/
  single : ∀ c, Happening.awaited (isProvisioning c) w.past ≤ 1 ∧
    (c ∈ hand → Happening.awaited (isProvisioning c) w.past = 0)
  fate : ∀ c ∈ channelsOpened w.past, c ∈ hand ∨ 0 < Happening.awaited (isProvisioning c) w.past ∨
    c ∈ w.state.tracked ∨ c ∈ channelCloses w.past ∨ Forgotten w.past c
  kept : ∀ c, c ∈ w.state.tracked ∨ c ∈ channelCloses w.past → ¬ Forgotten w.past c

/-- What is known of channels that begin to be tracked late. -/
structure Timing (hand : List ChannelId) (w : Moment) : Prop where
  forgotten : ∀ c, Forgotten w.past c → Slipped w.past c
  slipped : ∀ c, Slipped w.past c → Overlapped w.past
  emptying : 0 < Happening.awaited isEmptying w.past →
    ∀ c ∈ w.state.tracked, c ∈ channelCloses w.past ∨ Slipped w.past c
  clearing : 0 < Happening.awaited isClearing w.past → ∀ c ∈ w.state.tracked, Slipped w.past c
  unconnected : w.state.connection = none → ∀ c ∈ w.state.tracked, Slipped w.past c
  /-- While a channel is in the making, there is a connection and no disconnection waits. -/
  busy : hand ≠ [] ∨ 0 < Happening.awaited isMaking w.past →
    w.state.connection ≠ none ∧ ¬ Disconnecting w.past ∨ Overlapped w.past

namespace Custody

variable {pool hand : List ChannelId} {w : Moment} {r : Request} {c : ChannelId}

theorem start {m : Manager} (untracked : m.consumerChannels = []) :
    Custody m.pool.channels [] { state := m } := by
  have tracked : m.tracked = [] := by rw [Manager.tracked, untracked, List.map_nil]
  constructor
  · exact fun c h => h
  · exact fun c hand => absurd hand List.not_mem_nil
  · rintro c (h | h)
    · rw [tracked] at h
      cases h
    · exact absurd h (not_changed_nil _)
  · rintro c (h | h)
    · cases h
    · exact absurd h (Nat.lt_irrefl 0)
  · exact fun c => ⟨Nat.zero_le 1, fun hand => absurd hand List.not_mem_nil⟩
  · exact fun c opened => absurd opened List.not_mem_nil
  · exact fun c _ => not_changed_nil _

/-- A request is asked for. What it provisions or closes has been in hand, and it closes no
forgotten channel. -/
theorem ask (h : Custody pool hand w) (sound : Happening.Sound w.past) {hand' : List ChannelId}
    (keeps : ∀ c, c ∈ hand' ↔ c ∈ hand ∧ c ∉ r.provisions ∧ c ∉ r.closes)
    (provides : ∀ c ∈ r.provisions, c ∈ hand)
    (closes : ∀ c ∈ r.closes, ¬ Forgotten w.past c) : Custody pool hand' (w.ask r) := by
  have other {c : ChannelId} (hc : c ∉ r.provisions) :
      Happening.awaited (isProvisioning c) (w.past ++ [.asked r]) =
        Happening.awaited (isProvisioning c) w.past :=
    awaited_append_asked (S := requests) (by simpa [isProvisioning] using hc)
  have more {c : ChannelId} (hc : c ∈ r.provisions) :
      Happening.awaited (isProvisioning c) (w.past ++ [.asked r]) = 1 := by
    rw [sound.awaited_append_asked (isProvisioning_iff.mpr hc), (h.single c).2 (provides c hc)]
  constructor <;> simp only [Moment.ask, Forgotten, changed_append_asked_iff,
    channelsOpened_append_asked, channelCloses_append_asked, List.mem_append]
  · exact h.publisher
  · exact h.apart
  · exact h.known
  · rintro c (held | waits)
    · exact h.making c (.inl ((keeps c).mp held).1)
    · by_cases hc : c ∈ r.provisions
      · exact h.making c (.inl (provides c hc))
      · exact h.making c (.inr (other hc ▸ waits))
  · intro c
    by_cases hc : c ∈ r.provisions
    · exact ⟨Nat.le_of_eq (more hc), fun held => (((keeps c).mp held).2.1 hc).elim⟩
    · rw [other hc]
      exact ⟨(h.single c).1, fun held => (h.single c).2 ((keeps c).mp held).1⟩
  · intro c opened
    obtain held | waits | tracked | closed | forgotten := h.fate c opened
    · by_cases hc : c ∈ r.provisions
      · exact .inr (.inl ((more hc).symm ▸ Nat.one_pos))
      · by_cases closed : c ∈ r.closes
        · exact .inr (.inr (.inr (.inl (.inr closed))))
        · exact .inl ((keeps c).mpr ⟨held, hc, closed⟩)
    · exact .inr (.inl (Nat.lt_of_lt_of_le waits (awaited_le_append_asked ..)))
    · exact .inr (.inr (.inl tracked))
    · exact .inr (.inr (.inr (.inl (.inl closed))))
    · exact .inr (.inr (.inr (.inr forgotten)))
  · rintro c (tracked | closed | closed)
    · exact h.kept c (.inl tracked)
    · exact h.kept c (.inr closed)
    · exact closes c closed

/-- What a reply has opened or provisioned is in hand. -/
theorem reply (h : Custody pool [] w) (awaits : w.Awaits r) {a : Except Error r.Reply}
    (fresh : ∀ c ∈ r.opens a, c ∉ pool ∧ c ∉ channelsOpened w.past) :
    Custody pool (r.opens a ++ r.provisions) (w.reply r a) := by
  have waits {c : ChannelId} (hc : c ∈ r.provisions) :
      0 < Happening.awaited (isProvisioning c) w.past :=
    awaits.awaited_pos (isProvisioning_iff.mpr hc)
  constructor <;> simp only [Moment.reply, Forgotten, changed_append_replied_iff,
    channelsOpened_append_replied, channelCloses_append_replied, List.mem_append]
  · exact h.publisher
  · rintro c (opened | new)
    · exact h.apart c opened
    · exact (fresh c new).1
  · exact fun c found => .inl (h.known c found)
  · rintro c ((new | held) | more)
    · exact ⟨.inr new, fun tracked => (fresh c new).2 (h.known c (.inl tracked)),
        fun forgotten => (fresh c new).2 (h.known c (.inr forgotten))⟩
    · exact (h.making c (.inr (waits held))).imp_left .inl
    · exact (h.making c (.inr (awaited_pos_of_append_replied more))).imp_left .inl
  · intro c
    refine ⟨Nat.le_trans (awaited_append_replied_le ..) (h.single c).1, ?_⟩
    rintro (new | held)
    · by_contra more
      have waiting := awaited_pos_of_append_replied (Nat.pos_of_ne_zero more)
      exact (fresh c new).2 (h.making c (.inr waiting)).1
    · rw [awaited_append_replied (S := requests) (isProvisioning_iff.mpr held)]
      exact Nat.sub_eq_zero_of_le (h.single c).1
  · rintro c (opened | new)
    · obtain held | waiting | rest := h.fate c opened
      · cases held
      · by_cases hc : c ∈ r.provisions
        · exact .inl (.inr hc)
        · refine .inr (.inl ?_)
          rwa [awaited_append_replied_other (S := requests) (by simpa [isProvisioning] using hc)]
      · exact .inr (.inr rest)
    · exact .inl (.inl new)
  · exact h.kept

/-- A channel in hand is tracked. -/
theorem track (h : Custody pool [c] w) {f : Manager → Manager}
    (tracks : ∀ m, (f m).tracked = m.tracked ++ [c]) (same : ∀ m, (f m).pool = m.pool) :
    Custody pool [] (w.change f) := by
  have forgotten (d : ChannelId) :
      Forgotten (w.past ++ [.changed w.state (f w.state)]) d ↔ Forgotten w.past d := by
    rw [Forgotten, changed_append_changed_iff, tracks]
    refine or_iff_left ?_
    rintro ⟨was, goes, -⟩
    exact goes (List.mem_append_left _ was)
  obtain ⟨opened, untracked, unforgotten⟩ := h.making c (.inl List.mem_cons_self)
  constructor <;> simp only [Moment.change, forgotten, tracks, same, channelsOpened_append_changed,
    channelCloses_append_changed, awaited_append_changed, List.mem_append, List.mem_singleton]
  · exact h.publisher
  · exact h.apart
  · rintro d ((tracked | rfl) | lost)
    · exact h.known d (.inl tracked)
    · exact opened
    · exact h.known d (.inr lost)
  · rintro d (held | waits)
    · cases held
    · obtain ⟨opened, untracked, unforgotten⟩ := h.making d (.inr waits)
      refine ⟨opened, not_or.mpr ⟨untracked, ?_⟩, unforgotten⟩
      rintro rfl
      exact Nat.ne_of_gt waits ((h.single d).2 List.mem_cons_self)
  · exact fun d => ⟨(h.single d).1, fun held => absurd held List.not_mem_nil⟩
  · intro d opened
    obtain held | waits | tracked | rest := h.fate d opened
    · exact .inr (.inr (.inl (.inr (List.mem_singleton.mp held))))
    · exact .inr (.inl waits)
    · exact .inr (.inr (.inl (.inl tracked)))
    · exact .inr (.inr (.inr rest))
  · rintro d ((tracked | rfl) | closed)
    · exact h.kept d (.inl tracked)
    · exact unforgotten
    · exact h.kept d (.inr closed)

/-- A change that begins to track nothing. -/
theorem change (h : Custody pool [] w) {f : Manager → Manager}
    (untracks : ∀ m, (f m).tracked ⊆ m.tracked)
    (publisher : ∀ m, (f m).pool.channels ⊆ m.pool.channels) : Custody pool [] (w.change f) := by
  constructor <;> simp only [Moment.change, Forgotten, changed_append_changed_iff,
    channelsOpened_append_changed, channelCloses_append_changed, awaited_append_changed]
  · exact fun c hc => h.publisher c (publisher _ hc)
  · exact h.apart
  · rintro c (tracked | lost | ⟨was, -⟩)
    · exact h.known c (.inl (untracks _ tracked))
    · exact h.known c (.inr lost)
    · exact h.known c (.inl was)
  · intro c waits
    obtain ⟨opened, untracked, unforgotten⟩ := h.making c waits
    refine ⟨opened, fun tracked => untracked (untracks _ tracked), ?_⟩
    rintro (lost | ⟨was, -⟩)
    · exact unforgotten lost
    · exact untracked was
  · exact h.single
  · intro c opened
    obtain held | waits | was | closed | lost := h.fate c opened
    · exact .inl held
    · exact .inr (.inl waits)
    · by_cases tracked : c ∈ (f w.state).tracked
      · exact .inr (.inr (.inl tracked))
      · by_cases closed : c ∈ channelCloses w.past
        · exact .inr (.inr (.inr (.inl closed)))
        · exact .inr (.inr (.inr (.inr (.inr ⟨was, tracked, closed⟩))))
    · exact .inr (.inr (.inr (.inl closed)))
    · exact .inr (.inr (.inr (.inr (.inl lost))))
  · rintro c (tracked | closed) (lost | ⟨-, goes, unclosed⟩)
    · exact h.kept c (.inl (untracks _ tracked)) lost
    · exact goes tracked
    · exact h.kept c (.inr closed) lost
    · exact unclosed closed

end Custody

namespace Timing

variable {hand hand' : List ChannelId} {w : Moment} {r : Request} {c : ChannelId}

theorem start {m : Manager} (untracked : m.consumerChannels = []) : Timing [] { state := m } := by
  have tracked : m.tracked = [] := by rw [Manager.tracked, untracked, List.map_nil]
  constructor
  · exact fun c h => absurd h (not_changed_nil _)
  · exact fun c h => absurd h (not_changed_nil _)
  · exact fun waits => absurd waits (Nat.lt_irrefl 0)
  · exact fun waits => absurd waits (Nat.lt_irrefl 0)
  · intro _ c h
    rw [tracked] at h
    cases h
  · rintro (held | waits)
    · exact (held rfl).elim
    · exact absurd waits (Nat.lt_irrefl 0)

/-- A request is asked for. It closes consumer channels that are tracked, or what is left of those
has slipped in; and a consumer channel is made on a connection. -/
theorem ask (h : Timing hand w) (sound : Happening.Sound w.past) (fewer : hand' ≠ [] → hand ≠ [])
    (emptying : isEmptying r → ∀ c ∈ w.state.tracked, c ∈ r.closes)
    (clearing : isClearing r → ∀ c ∈ w.state.tracked, Slipped w.past c)
    (making : isMaking r → w.state.connection ≠ none ∨ hand ≠ [])
    (last : isEmptying r ∨ isClearing r → hand' = []) : Timing hand' (w.ask r) := by
  constructor <;> simp only [Moment.ask, Forgotten, Slipped, changed_append_asked_iff,
    channelCloses_append_asked, List.mem_append]
  · exact h.forgotten
  · exact fun c slipped => (h.slipped c slipped).append _
  · intro waits c tracked
    cases of : isEmptying r with
    | true => exact .inl (.inr (emptying of c tracked))
    | false =>
      rw [awaited_append_asked (S := requests) of] at waits
      exact (h.emptying waits c tracked).imp_left .inl
  · intro waits c tracked
    cases of : isClearing r with
    | true => exact clearing of c tracked
    | false =>
      rw [awaited_append_asked (S := requests) of] at waits
      exact h.clearing waits c tracked
  · exact h.unconnected
  · intro busy
    have overlapped (waits : 0 < Happening.awaited isMaking (w.past ++ [.asked r]))
        (closes : Disconnecting (w.past ++ [.asked r])) : Overlapped (w.past ++ [.asked r]) :=
      ⟨_, List.prefix_refl _, waits, closes⟩
    by_cases tears : isEmptying r ∨ isClearing r
    · refine .inr (overlapped (busy.resolve_left fun held => held (last tears)) ?_)
      exact tears.imp sound.awaited_pos_of_asked sound.awaited_pos_of_asked
    · rw [not_or, Bool.not_eq_true, Bool.not_eq_true] at tears
      rw [disconnecting_append_asked tears.1 tears.2]
      cases of : isMaking r with
      | true =>
        have waits := sound.awaited_pos_of_asked of
        by_cases closes : Disconnecting w.past
        · exact .inr (overlapped waits ((disconnecting_append_asked tears.1 tears.2).mpr closes))
        · obtain connected | held := making of
          · exact .inl ⟨connected, closes⟩
          · exact (h.busy (.inl held)).imp_right (·.append _)
      | false =>
        rw [awaited_append_asked (S := requests) of] at busy
        exact (h.busy (busy.imp_left fewer)).imp_right (·.append _)

/-- After a reply, what is in hand has been in the making. -/
theorem reply (h : Timing [] w) (awaits : w.Awaits r) (a : Except Error r.Reply)
    (making : hand' ≠ [] → isMaking r) : Timing hand' (w.reply r a) := by
  constructor <;> simp only [Moment.reply, Forgotten, Slipped, changed_append_replied_iff,
    channelCloses_append_replied]
  · exact h.forgotten
  · exact fun c slipped => (h.slipped c slipped).append _
  · exact fun waits => h.emptying (awaited_pos_of_append_replied waits)
  · exact fun waits => h.clearing (awaited_pos_of_append_replied waits)
  · exact h.unconnected
  · intro busy
    have before : 0 < Happening.awaited isMaking w.past :=
      busy.elim (fun held => awaits.awaited_pos (making held)) awaited_pos_of_append_replied
    exact (h.busy (.inr before)).imp
      (fun quiet => ⟨quiet.1, fun closes => quiet.2 (disconnecting_of_append_replied closes)⟩)
      (·.append _)

/-- A channel in hand is tracked. It slips in if a disconnection waits or is over. -/
theorem track (h : Timing [c] w) {f : Manager → Manager}
    (tracks : ∀ m, (f m).tracked = m.tracked ++ [c])
    (same : ∀ m, (f m).connection = m.connection) : Timing [] (w.change f) := by
  have slips {d : ChannelId} (late : Disconnecting w.past ∨ w.state.connection = none)
      (tracked : d ∈ w.state.tracked ∨ d = c) : d ∈ w.state.tracked ∨
        Slipped (w.past ++ [.changed w.state (f w.state)]) d := by
    rw [Slipped, changed_append_changed_iff, tracks, List.mem_append, List.mem_singleton]
    by_cases was : d ∈ w.state.tracked
    · exact .inl was
    · exact .inr (.inr ⟨was, tracked, late⟩)
  constructor <;> simp only [Moment.change, tracks, same, channelCloses_append_changed,
    awaited_append_changed, disconnecting_append_changed, List.mem_append, List.mem_singleton]
  · intro d lost
    rw [Forgotten, changed_append_changed_iff, tracks] at lost
    obtain lost | ⟨was, goes, -⟩ := lost
    · exact (h.forgotten d lost).append _
    · exact (goes (List.mem_append_left _ was)).elim
  · intro d slipped
    rw [Slipped, changed_append_changed_iff] at slipped
    obtain slipped | ⟨-, -, late⟩ := slipped
    · exact (h.slipped d slipped).append _
    · obtain ⟨connected, quiet⟩ | overlapped := h.busy (.inl (List.cons_ne_nil c []))
      · exact (late.elim quiet connected).elim
      · exact overlapped.append _
  · intro waits d tracked
    obtain was | slipped := slips (.inl (.inl waits)) tracked
    · exact (h.emptying waits d was).imp_right (·.append _)
    · exact .inr slipped
  · intro waits d tracked
    obtain was | slipped := slips (.inl (.inr waits)) tracked
    · exact (h.clearing waits d was).append _
    · exact slipped
  · intro none d tracked
    obtain was | slipped := slips (.inr none) tracked
    · exact (h.unconnected none d was).append _
    · exact slipped
  · rintro (held | waits)
    · exact (held rfl).elim
    · exact (h.busy (.inr waits)).imp_right (·.append _)

/-- A change that begins to track nothing. It ceases to track what has been closed or has slipped
in, and it gives the connection up only if all that is tracked has slipped in. -/
theorem change (h : Timing [] w) {f : Manager → Manager}
    (untracks : ∀ m, (f m).tracked ⊆ m.tracked)
    (lost : ∀ c ∈ w.state.tracked, c ∉ (f w.state).tracked →
      c ∈ channelCloses w.past ∨ Slipped w.past c)
    (connection : (f w.state).connection = w.state.connection ∨
      (∀ c ∈ w.state.tracked, Slipped w.past c) ∧
        (0 < Happening.awaited isMaking w.past → Overlapped w.past)) :
    Timing [] (w.change f) := by
  constructor <;> simp only [Moment.change, channelCloses_append_changed, awaited_append_changed,
    disconnecting_append_changed]
  · intro c forgotten
    rw [Forgotten, changed_append_changed_iff] at forgotten
    obtain forgotten | ⟨was, goes, unclosed⟩ := forgotten
    · exact (h.forgotten c forgotten).append _
    · exact ((lost c was goes).resolve_left unclosed).append _
  · intro c slipped
    rw [Slipped, changed_append_changed_iff] at slipped
    obtain slipped | ⟨new, tracked, -⟩ := slipped
    · exact (h.slipped c slipped).append _
    · exact (new (untracks _ tracked)).elim
  · exact fun waits c tracked =>
      (h.emptying waits c (untracks _ tracked)).imp_right (·.append _)
  · exact fun waits c tracked => (h.clearing waits c (untracks _ tracked)).append _
  · intro none c tracked
    obtain same | ⟨slipped, -⟩ := connection
    · exact (h.unconnected (same ▸ none) c (untracks _ tracked)).append _
    · exact (slipped c (untracks _ tracked)).append _
  · rintro (held | waits)
    · exact (held rfl).elim
    · obtain same | ⟨-, overlapped⟩ := connection
      · rw [same]
        exact (h.busy (.inr waits)).imp_right (·.append _)
      · exact .inr ((overlapped waits).append _)

end Timing

/-- What is known of consumer channels between the pieces of calls, if a call has some in hand. -/
structure Tracking (pool hand : List ChannelId) (w : Moment) : Prop where
  sound : Happening.Sound w.past
  custody : Custody pool hand w
  timing : Timing hand w

namespace Tracking

variable {pool : List ChannelId} {w : Moment} {r : Request} {c : ChannelId}

/-- A channel is opened on a connection. -/
theorem ask_open (h : Tracking pool [] w) (connected : w.state.connection ≠ none)
    (k : ConnectionId) : Tracking pool [] (w.ask (.openChannel k)) where
  sound := h.sound.ask _
  custody := h.custody.ask h.sound (by simp) nofun nofun
  timing := h.timing.ask h.sound id nofun nofun (fun _ => .inl connected) fun _ => rfl

/-- A channel in hand is provisioned. -/
theorem ask_provision (h : Tracking pool [c] w) (provisions : r.provisions = [c]) :
    Tracking pool [] (w.ask r) := by
  have closes : r.closes = [] := by
    cases r with
    | closeChannel | closeChannels => cases provisions
    | _ => rfl
  have tears : isEmptying r = false ∧ isClearing r = false := by
    cases r with
    | closeChannels | closeConnection => cases provisions
    | _ => exact ⟨rfl, rfl⟩
  constructor
  · exact h.sound.ask _
  · refine h.custody.ask h.sound (fun d => iff_of_false nofun ?_) (fun d hd => provisions ▸ hd) ?_
    · rintro ⟨held, other, -⟩
      exact other (provisions ▸ held)
    · rw [closes]
      exact nofun
  · refine h.timing.ask h.sound (fun held => (held rfl).elim) ?_ ?_
      (fun _ => .inr (List.cons_ne_nil c [])) fun _ => rfl
    · rw [tears.1]
      exact nofun
    · rw [tears.2]
      exact nofun

/-- A channel is closed that is in hand or tracked. -/
theorem ask_close {hand : List ChannelId} (h : Tracking pool hand w)
    (inHand : ∀ d ∈ hand, d = c) (known : c ∈ hand ∨ c ∈ w.state.tracked) :
    Tracking pool [] (w.ask (.closeChannel c)) where
  sound := h.sound.ask _
  custody := by
    refine h.custody.ask h.sound (fun d => ?_) nofun ?_
    · refine iff_of_false nofun ?_
      rintro ⟨held, -, other⟩
      exact other (List.mem_singleton.mpr (inHand d held))
    · intro d hd
      obtain rfl := List.mem_singleton.mp hd
      obtain held | tracked := known
      · exact (h.custody.making d (.inl held)).2.2
      · exact h.custody.kept d (.inl tracked)
  timing := h.timing.ask h.sound (fun held => (held rfl).elim) nofun nofun nofun fun _ => rfl

/-- The consumer channels are closed. -/
theorem ask_consumers (h : Tracking pool [] w) :
    Tracking pool [] (w.ask (.closeChannels "consumer" w.state.tracked)) where
  sound := h.sound.ask _
  custody := h.custody.ask h.sound (by simp) nofun fun c tracked => h.custody.kept c (.inl tracked)
  timing := h.timing.ask h.sound id (fun _ _ tracked => tracked) nofun nofun fun _ => rfl

/-- The publisher channels are closed, when only those consumer channels are tracked that have
slipped in. -/
theorem ask_publishers (h : Tracking pool [] w)
    (slipped : ∀ c ∈ w.state.tracked, Slipped w.past c) :
    Tracking pool [] (w.ask (.closeChannels "publisher" w.state.pool.channels)) where
  sound := h.sound.ask _
  custody := by
    refine h.custody.ask h.sound (by simp) nofun fun c hc lost => ?_
    exact h.custody.apart c (h.custody.known c (.inr lost)) (h.custody.publisher c hc)
  timing := h.timing.ask h.sound id nofun (fun _ => slipped) nofun fun _ => rfl

theorem ask_connection (h : Tracking pool [] w)
    (slipped : ∀ c ∈ w.state.tracked, Slipped w.past c) (k : ConnectionId) :
    Tracking pool [] (w.ask (.closeConnection k)) where
  sound := h.sound.ask _
  custody := h.custody.ask h.sound (by simp) nofun nofun
  timing := h.timing.ask h.sound id nofun (fun _ => slipped) nofun fun _ => rfl

theorem reply (h : Tracking pool [] w) (awaits : w.Awaits r) {a : Except Error r.Reply}
    (fresh : ∀ c ∈ r.opens a, c ∉ pool ∧ c ∉ channelsOpened w.past) :
    Tracking pool (r.opens a ++ r.provisions) (w.reply r a) where
  sound := h.sound.reply awaits a
  custody := h.custody.reply awaits fresh
  timing := by
    refine h.timing.reply awaits a fun held => ?_
    cases r with
    | openChannel => rfl
    | declareExchange | declareQueue | bindQueue | setPrefetch => rfl
    | _ => exact (held rfl).elim

/-- A channel in hand is tracked. -/
theorem track {d : ConsumerChannel} (h : Tracking pool [d.channel] w) :
    Tracking pool [] (w.change (Manager.track d)) where
  sound := h.sound.change _ _
  custody := h.custody.track (fun _ => List.map_append ..) fun _ => rfl
  timing := h.timing.track (fun _ => List.map_append ..) fun _ => rfl

/-- A change that touches neither what is tracked nor the connection. -/
theorem change (h : Tracking pool [] w) {f : Manager → Manager}
    (tracked : ∀ m, (f m).tracked = m.tracked) (connection : ∀ m, (f m).connection = m.connection)
    (publisher : ∀ m, (f m).pool.channels ⊆ m.pool.channels) : Tracking pool [] (w.change f) where
  sound := h.sound.change _ _
  custody := h.custody.change (fun m _ hc => tracked m ▸ hc) publisher
  timing := h.timing.change (fun m _ hc => tracked m ▸ hc)
    (fun _ was goes => (goes ((tracked w.state).symm ▸ was)).elim) (.inl (connection _))

/-- A change that ceases to track what has been closed or has slipped in. -/
theorem untrack (h : Tracking pool [] w) {f : Manager → Manager}
    (untracks : ∀ m, (f m).tracked ⊆ m.tracked)
    (lost : ∀ c ∈ w.state.tracked, c ∉ (f w.state).tracked →
      c ∈ channelCloses w.past ∨ Slipped w.past c)
    (same : ∀ m, (f m).pool = m.pool ∧ (f m).connection = m.connection) :
    Tracking pool [] (w.change f) where
  sound := h.sound.change _ _
  custody := h.custody.change untracks fun m c hc => by rwa [(same m).1] at hc
  timing := h.timing.change untracks lost (.inl (same _).2)

/-- The connection is given up. -/
theorem giveUp (h : Tracking pool [] w) (slipped : ∀ c ∈ w.state.tracked, Slipped w.past c)
    (overlapped : 0 < Happening.awaited isMaking w.past → Overlapped w.past) :
    Tracking pool [] (w.change fun m => { m with connection := none }) where
  sound := h.sound.change _ _
  custody := h.custody.change (fun _ _ hc => hc) fun _ _ hc => hc
  timing := h.timing.change (fun _ _ hc => hc) (fun _ was goes => (goes was).elim)
    (.inr ⟨slipped, overlapped⟩)

end Tracking

end Connection.Manager

end BrokerClient
