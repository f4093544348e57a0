import BrokerClient.Proofs.Connecting
import Mathlib.Data.List.Induction
import Mathlib.Logic.Relation

/-!
# Reports of the transport

The transport reports that it has restored or lost a connection, and it may do so at any time: while
a call waits, and also when the manager has given the connection up long ago. A manager without a
connection should be disconnected, and it should dial when it is told to connect.

A report that a connection has been restored breaks this if the manager has no connection: the
manager then takes itself to be connected. If it hears after that of a connection that was lost to
an error, it takes itself to be about to connect and ignores whoever tells it to. Nothing else
breaks it, and the next disconnection mends it.

## Main definitions

* `Manager.Report`, `Manager.Occurrence` — what the transport reports and what happens to a manager.
* `Manager.Reporting` — surroundings where the transport may report while a call waits.
* `Manager.Outlived`, `Manager.Stranded` — reports that have come too late.

## Main results

* `Manager.ends_connect`, `Manager.ends_disconnect` — how calls end, whatever is reported meanwhile.
* `Manager.disconnected_iff_no_outlived` — when a manager without a connection is disconnected and
  dials.
-/

namespace BrokerClient.Connection.Manager

open Broker Channel Routing

/-- What the transport reports about a connection. -/
inductive Report
  | restored
  | lost (error : Option Error)

/-- What a manager does about a report. -/
def Report.program : Report → Act Unit
  | .restored => Manager.restored
  | .lost error => Manager.lost error

/-- What becomes of a manager by a report. -/
def Report.applied : Report → Manager → Manager
  | .restored, m => { m with reconnections := m.reconnections + 1, phase := .connected }
  | .lost (some _), m => if m.phase == .connected then { m with phase := .connecting } else m
  | .lost none, m => m

/-- What happens to a manager. -/
inductive Occurrence
  | connect
  | disconnect
  | reported (connection : ConnectionId) (report : Report)

/-- The program of what happens. Only connections that the manager has opened report to it. -/
def Occurrence.program : Occurrence → Act Unit
  | .connect => Manager.connect
  | .disconnect => Manager.disconnect
  | .reported c r => do
    if (← Program.state).watching.contains c then r.program else return

/-- The course of a manager. -/
abbrev Course : Type := BrokerClient.Course requests Manager

/-- The surroundings of a manager. -/
abbrev Surroundings : Type := BrokerClient.Surroundings requests Manager

/-- One report after the other. -/
def Reported : Manager → Manager → Prop :=
  Relation.ReflTransGen fun m m' =>
    ∃ c r, (Occurrence.reported c r).program.Alone m [] (.ok ()) m'

/-- The broker may fail as it likes, and the transport may report while a call waits, but nobody
else uses the manager. Waiting for several closes never fails, as each of them fails quietly. -/
structure Reporting (env : Surroundings) : Prop where
  ordinary : env.Ordinary
  reports : ∀ w r, Reported w.state (env w r).2
  closes_quietly : ∀ w purpose cs, (env w (.closeChannels purpose cs)).1 = .ok ()

/-- The course after something has happened, whether it has failed or not. -/
def occurred (env : Surroundings) (w : Course) (o : Occurrence) : Course :=
  (o.program.run env.host Course.statePart w).2

/-- The course of what happens one after the other. -/
def after (env : Surroundings) (start : Manager) (occurrences : List Occurrence) : Course :=
  occurrences.foldl (occurred env) { state := start }

theorem after_concat {env : Surroundings} {start : Manager} {os : List Occurrence}
    {o : Occurrence} : after env start (os ++ [o]) = occurred env (after env start os) o :=
  List.foldl_concat ..

/-- How often a connection has been dialled. -/
def dials (w : Course) : Nat :=
  w.answers.countP fun a => isDial a.request

@[simp]
theorem dials_note (w : Course) (x : Signal) : dials (w.note x) = dials w := by
  rw [dials, Course.answers_note, dials]

theorem dials_answer (w : Course) (r : Request) (reply : Except Error r.Reply) (m : Manager) :
    dials (w.answer r reply m) = dials w + if isDial r then 1 else 0 := by
  rw [dials, Course.answers_answer, List.countP_append, List.countP_singleton, dials]

/-! ### Reports -/

section Reports

variable {m m' : Manager} {asked : List (Answer requests)} {result : Except Error Unit}

theorem runs_report {r : Report} (h : r.program.Alone m asked result m') : m' = r.applied m := by
  match r with
  | .restored =>
    obtain ⟨-, -, rfl⟩ := h
    rfl
  | .lost none =>
    obtain ⟨-, -, rfl⟩ := h
    rfl
  | .lost (some e) =>
    obtain ⟨-, -, rfl⟩ := h
    rfl

/-- Reports change neither the connection nor what reports to the manager. -/
theorem Report.applied_connection (r : Report) (m : Manager) :
    (r.applied m).connection = m.connection ∧ (r.applied m).watching = m.watching := by
  match r with
  | .restored | .lost none => exact ⟨rfl, rfl⟩
  | .lost (some e) =>
    rw [applied]
    split
    · exact ⟨rfl, rfl⟩
    · exact ⟨rfl, rfl⟩

theorem Report.applied_lost (e : Error) (m : Manager) :
    ((Report.lost (some e)).applied m).phase =
      if m.phase = .connected then .connecting else m.phase := by
  rw [applied, apply_ite Manager.phase]
  exact if_congr beq_iff_eq rfl rfl

theorem Reported.connection (h : Reported m m') :
    m'.connection = m.connection ∧ m'.watching = m.watching := by
  induction h with
  | refl => exact ⟨rfl, rfl⟩
  | @tail m₁ m₂ _ reported ih =>
    obtain ⟨c, r, runs⟩ := reported
    rw [Occurrence.program, Program.Alone, Program.runs_state_seq] at runs
    split at runs
    · obtain rfl := runs_report runs
      obtain ⟨connection, watching⟩ := r.applied_connection m₁
      exact ⟨connection.trans ih.1, watching.trans ih.2⟩
    · obtain ⟨-, -, rfl⟩ := runs
      exact ih

end Reports

/-- A report does what it does if the connection reports to the manager, and nothing else. -/
theorem occurred_reported (env : Surroundings) (w : Course) (c : ConnectionId) (r : Report) :
    dials (occurred env w (.reported c r)) = dials w ∧
      (occurred env w (.reported c r)).state =
        if w.state.watching.contains c then r.applied w.state else w.state := by
  have reports : dials (r.program.run env.host Course.statePart w).2 = dials w ∧
      (r.program.run env.host Course.statePart w).2.state = r.applied w.state := by
    match r with
    | .restored | .lost none | .lost (some _) => exact ⟨dials_note _ _, rfl⟩
  have run : occurred env w (.reported c r) = (Program.run env.host Course.statePart
      (if w.state.watching.contains c then r.program else return) w).2 := rfl
  rw [run]
  split
  · exact reports
  · exact ⟨rfl, rfl⟩

/-! ### Calls -/

section Calls

variable {σ α : Type} {env : Surroundings} {part : Lens Course σ} {n : Nat}
  {c? : Option ConnectionId} {watching : List ConnectionId} {w : Course}

/-- There have been so many dials, and the manager has this connection and hears of those. -/
structure Steady (n : Nat) (c? : Option ConnectionId) (watching : List ConnectionId) (w : Course) :
    Prop where
  dials : dials w = n
  connection : w.state.connection = c?
  watching : w.state.watching = watching

namespace Steady

theorem note (h : Steady n c? watching w) (x : Signal) : Steady n c? watching (w.note x) :=
  ⟨(dials_note w x).trans h.dials, h.connection, h.watching⟩

/-- A change that touches neither the connection nor who reports. -/
theorem modify (h : Steady n c? watching w) {f : Manager → Manager}
    (same : (f w.state).connection = w.state.connection ∧
      (f w.state).watching = w.state.watching) :
    Steady n c? watching (Course.statePart.modify f w) :=
  ⟨h.dials, same.1.trans h.connection, same.2.trans h.watching⟩

theorem answer (henv : Reporting env) (h : Steady n c? watching w) (r : Request) :
    Steady (n + if isDial r then 1 else 0) c? watching (w.answer r (env w r).1 (env w r).2) := by
  obtain ⟨connection, watches⟩ := (henv.reports w r).connection
  exact ⟨by rw [dials_answer, h.dials], connection.trans h.connection, watches.trans h.watching⟩

/-- A request other than a dial. -/
theorem keeps_ask (henv : Reporting env) {r : Request} (other : isDial r = false) :
    (ask r : Broker.Act σ r.Reply).Keeps env.host part (Steady n c? watching) := by
  intro w h
  have answered := h.answer henv r
  rw [other] at answered
  refine Program.ends_request (fun a ha => ?_) fun e he => ?_
  · rw [ha] at answered
    exact answered
  · rw [he] at answered
    exact ⟨answered, henv.ordinary w r e he⟩

theorem keeps_log (level : Log.Level) (logger : Log.Logger) (message : String)
    (details : List (String × Json)) :
    (Program.log level logger message details : Broker.Act σ Unit).Keeps env.host part
      (Steady n c? watching) :=
  .signal (fun x _ h => h.note x) _

theorem keeps_logFailure (logger : Log.Logger) (message : String) (error : Error)
    (details : List (String × Json)) :
    (Program.logFailure logger message error details : Broker.Act σ Unit).Keeps env.host part
      (Steady n c? watching) :=
  .signal (fun x _ h => h.note x) _

/-- A change of the pool. -/
theorem modifyPool (h : Steady n c? watching w) (f : Pool → Pool) :
    Steady n c? watching ((Course.statePart.andThen poolPart).modify f w) :=
  h.modify (f := fun m => { m with pool := f m.pool }) ⟨rfl, rfl⟩

theorem keeps_onPool {p : Pool.Act α}
    (h : p.Keeps (Program.hostWithin env.host Course.statePart servePool)
      (Course.statePart.andThen poolPart) (Steady n c? watching)) :
    (onPool p).Keeps env.host Course.statePart (Steady n c? watching) := by
  intro w hw
  rw [onPool, Program.ends_within]
  exact h w hw

/-- Serving the pool does not dial. -/
theorem keeps_serve (henv : Reporting env) (r : Pool.Request) :
    (Pool.ask r).Keeps (Program.hostWithin env.host Course.statePart servePool)
      (Course.statePart.andThen poolPart) (Steady n c? watching) := by
  intro w h
  rw [Pool.ask, Program.ends_perform_within]
  refine (?_ : (servePool r).Keeps env.host Course.statePart (Steady n c? watching)) w h
  cases r with
  | openChannel =>
    refine .seq .state fun m => ?_
    split
    · exact keeps_ask henv rfl
    · exact .fail rfl
  | closeChannel c => exact keeps_ask henv rfl
  | closeChannels cs => exact keeps_ask henv rfl

theorem keeps_fill (henv : Reporting env) :
    Pool.fill.Keeps (Program.hostWithin env.host Course.statePart servePool)
      (Course.statePart.andThen poolPart) (Steady n c? watching) := by
  have signal (x : Signal) (w : Course) (h : Steady n c? watching w) :
      Steady n c? watching (w.note x) := h.note x
  have opens (generation : Nat) (operation : String) (join : ChannelId → Pool → Pool) :
      (Pool.openFor generation operation join).Keeps
        (Program.hostWithin env.host Course.statePart servePool)
        (Course.statePart.andThen poolPart) (Steady n c? watching) := by
    refine .seq (.rescue (keeps_serve henv _) fun e => .seq .state fun p =>
      .seq (.signal signal _) fun _ => .fail rfl) fun c => .seq .state fun p => ?_
    split
    · exact .seq (.modify fun _ h => h.modifyPool _) fun _ => .done c
    · refine .seq (.seq .state fun p => .seq (.signal signal _) fun _ => .seq ?_ fun _ =>
        .done ()) fun _ => .fail rfl
      exact .rescue (.bind (keeps_serve henv _) fun _ => .done _) fun _ =>
        .seq (.signal signal _) fun _ => .done _
  have rounds (generation rounds : Nat) :
      (Pool.fillFrom generation rounds).Keeps
        (Program.hostWithin env.host Course.statePart servePool)
        (Course.statePart.andThen poolPart) (Steady n c? watching) := by
    induction rounds with
    | zero => exact .done ()
    | succ rounds ih =>
      refine .seq .state fun p => ?_
      split
      · exact .seq (opens _ _ _) fun _ => .seq .state fun p => .seq (.signal signal _) fun _ => ih
      · exact .done ()
  exact .seq .state fun p => .seq (.signal signal _) fun _ => rounds _ _

/-- The shared exchanges are declared on a connection that is there. -/
theorem keeps_bootstrap (henv : Reporting env) (c : ConnectionId) (names : ExchangeNames) :
    (bootstrap c names : Broker.Act σ Unit).Keeps env.host part (Steady n c? watching) := by
  refine .seq (keeps_log _ _ _ _) fun _ => .seq (keeps_ask henv rfl) fun b =>
    .seq (.ensuring (.forM fun spec _ => ?_) (.seq ?_ fun _ => .done ())) fun _ => keeps_log _ _ _ _
  · exact .seq (keeps_ask henv rfl) fun _ => keeps_log _ _ _ _
  · exact .rescue (.bind (keeps_ask henv rfl) fun _ => .done _) fun _ =>
      .seq (keeps_logFailure _ _ _ _) fun _ => .done _

end Steady

/-- Closing several channels never fails. -/
theorem ends_closeChannels (henv : Reporting env) (h : Steady n c? watching w) (purpose : String)
    (cs : List ChannelId) :
    (ask (.closeChannels purpose cs) : Broker.Act σ Unit).Ends env.host part
      (fun _ => Steady n c? watching) (fun _ _ => False) w := by
  have answered := h.answer henv (.closeChannels purpose cs)
  refine Program.ends_request (fun a ha => ?_) fun e he => ?_
  · rw [ha] at answered
    exact answered
  · rw [henv.closes_quietly] at he
    cases he

/-- A disconnection succeeds, and leaves the manager disconnected and without a connection. -/
theorem ends_disconnect (henv : Reporting env) (h : Steady n c? watching w) :
    disconnect.Ends env.host Course.statePart
      (fun _ w => Steady n none watching w ∧ w.state.phase = .disconnected)
      (fun _ _ => False) w := by
  have closesConsumers {w : Course} (h : Steady n c? watching w) :
      closeConsumerChannels.Ends env.host Course.statePart (fun _ => Steady n c? watching)
        (fun _ _ => False) w := by
    have closes {w : Course} (h : Steady n c? watching w) (cs : List ChannelId) :
        (do
          ask (.closeChannels "consumer" cs)
          Program.modify fun m => { m with consumerChannels := [] } : Act Unit).Ends env.host
          Course.statePart (fun _ => Steady n c? watching) (fun _ _ => False) w :=
      .seq (ends_closeChannels henv h "consumer" cs) fun _ _ h => h.modify ⟨rfl, rfl⟩
    rw [closeConsumerChannels, Program.ends_seq, Program.ends_state]
    dsimp only
    split
    · rw [Program.log, Program.ends_seq, Program.ends_signal]
      exact closes (h.note _) _
    · exact closes h _
  have closesPool {w : Course} (h : Steady n c? watching w) :
      (onPool Pool.close).Ends env.host Course.statePart (fun _ => Steady n c? watching)
        (fun _ _ => False) w := by
    rw [onPool, Program.ends_within]
    simp only [Pool.close, Program.log, Program.ends_seq, Program.ends_state, Program.ends_modify,
      Program.ends_signal, Program.ends_ensuring, Pool.ask]
    rw [Program.ends_perform_within]
    have begun := (h.modifyPool Pool.beginClose).note
    refine (ends_closeChannels henv (begun _) "publisher" _).mono (fun _ _ h => ?_)
      fun _ _ h => h.elim
    exact ((h.modifyPool Pool.endClose).modifyPool Pool.forget).note _
  have closesConnection {w : Course} (h : Steady n c? watching w) :
      closeConnection.Ends env.host Course.statePart (fun _ => Steady n none watching)
        (fun _ _ => False) w := by
    rw [closeConnection, Program.ends_seq, Program.ends_state]
    dsimp only
    split
    · refine .seq (M := fun _ => Steady n c? watching) ?_ fun _ w h => ?_
      · refine .rescue (M := fun _ => Steady n c? watching) ?_ fun e w h => h.note _
        exact (Steady.keeps_ask henv rfl w h).mono (fun _ _ h => h) fun _ _ h => h
      · exact ⟨h.dials, rfl, h.watching⟩
    · rename_i none
      exact ⟨h.dials, none, h.watching⟩
  rw [disconnect, Program.ends_seq, Program.ends_modify]
  refine .seq (closesConsumers (h.modify ⟨rfl, rfl⟩)) fun _ _ h => ?_
  refine .seq (closesPool h) fun _ _ h => .seq (closesConnection h) fun _ _ h => ?_
  rw [Program.ends_seq, Program.ends_modify, Program.log, Program.ends_signal]
  exact ⟨(h.modify ⟨rfl, rfl⟩).note _, rfl⟩

/-- Opening everything dials once, and it leaves a connection unless it fails. -/
theorem ends_establish (henv : Reporting env) (h : Steady n c? watching w) :
    establish.Ends env.host Course.statePart
      (fun _ w => dials w = n + 1 ∧ w.state.connection.isSome)
      (fun e w => (∃ c? watching, Steady (n + 1) c? watching w) ∧ e.isOrdinary) w := by
  rw [establish, Program.ends_seq, Program.ends_state]
  dsimp only
  rw [Program.ends_seq]
  have answered (url : String) (heartbeat : Int) (interval : Float) :=
    h.answer henv (.connect url heartbeat interval)
  refine Program.ends_request (fun c hc => ?_) fun e he => ?_
  · have answered := hc ▸ answered _ _ _
    rw [Program.ends_seq, Program.ends_modify]
    have connected : Steady (n + 1) (some c) (watching ++ [c]) (Course.statePart.modify
        (fun m => { m with connection := some c, watching := m.watching ++ [c] })
        (w.answer _ (.ok c) (env w _).2)) :=
      ⟨answered.dials, rfl, congrArg (· ++ [c]) answered.watching⟩
    refine ((Program.Keeps.seq (Steady.keeps_bootstrap henv c _) fun _ =>
      Steady.keeps_onPool (Steady.keeps_fill henv)) _ connected).mono (fun _ _ h => ?_)
      fun _ _ h => ⟨⟨_, _, h.1⟩, h.2⟩
    exact ⟨h.dials, h.connection ▸ rfl⟩
  · exact ⟨⟨_, _, he ▸ answered _ _ _⟩, henv.ordinary _ _ e he⟩

/-- A manager that has no connection, and is not about to have one, dials once when it is told to
connect. Then it is connected, or it is disconnected and has no connection. -/
theorem ends_connect (henv : Reporting env)
    (free : (w.state.connection.isSome || w.state.phase == .connecting) = false) :
    connect.Ends env.host Course.statePart
      (fun _ w' => dials w' = dials w + 1 ∧ w'.state.connection.isSome ∧
        w'.state.phase = .connected)
      (fun _ w' => dials w' = dials w + 1 ∧ w'.state.connection = none ∧
        w'.state.phase = .disconnected) w := by
  have steady : Steady (dials w) w.state.connection w.state.watching w := ⟨rfl, rfl, rfl⟩
  rw [connect, Program.ends_seq, Program.ends_state]
  dsimp only
  rw [if_neg (by rw [Course.statePart]; simp [free]), Program.ends_seq, Program.ends_modify,
    Program.log]
  dsimp only
  rw [Program.ends_seq, Program.ends_signal]
  refine .seq (M := fun _ w' => dials w' = dials w + 1 ∧ w'.state.connection.isSome) ?_ ?_
  · refine .rescue (ends_establish henv ((steady.modify ⟨rfl, rfl⟩).note _)) fun e w h => ?_
    obtain ⟨c?, watching, h⟩ := h
    rw [Program.logFailure, Program.ends_seq, Program.ends_signal]
    refine .seq (M := fun _ w' => Steady _ none watching w' ∧ w'.state.phase = .disconnected)
      ((ends_disconnect henv (h.note _)).mono (fun _ _ h => h) fun _ _ h => h.elim) fun _ w h => ?_
    exact ⟨h.1.dials, h.1.connection, h.2⟩
  · rintro _ w ⟨dialled, connected⟩
    exact ⟨(dials_note _ _).trans dialled, connected, rfl⟩

/-- A manager that has a connection, or is about to have one, ignores a call to connect. -/
theorem occurred_connect_ignored (env : Surroundings)
    (taken : (w.state.connection.isSome || w.state.phase == .connecting) = true) :
    dials (occurred env w .connect) = dials w ∧ (occurred env w .connect).state = w.state := by
  have run : occurred env w .connect = (Program.run env.host Course.statePart (if
      w.state.connection.isSome || w.state.phase == .connecting then _ else _) w).2 := rfl
  rw [run, if_pos taken]
  exact ⟨dials_note _ _, rfl⟩

theorem occurred_connect (henv : Reporting env)
    (free : (w.state.connection.isSome || w.state.phase == .connecting) = false) :
    let w' := occurred env w .connect
    dials w' = dials w + 1 ∧ (w'.state.connection.isSome ∧ w'.state.phase = .connected ∨
      w'.state.connection = none ∧ w'.state.phase = .disconnected) := by
  refine Program.Ends.world (Q := fun w' => dials w' = dials w + 1 ∧
    (w'.state.connection.isSome ∧ w'.state.phase = .connected ∨
      w'.state.connection = none ∧ w'.state.phase = .disconnected)) ?_
  exact (ends_connect henv free).mono (fun _ _ h => ⟨h.1, .inl h.2⟩) fun _ _ h => ⟨h.1, .inr h.2⟩

theorem occurred_disconnect (henv : Reporting env) :
    let w' := occurred env w .disconnect
    w'.state.connection = none ∧ w'.state.phase = .disconnected := by
  have steady : Steady (dials w) w.state.connection w.state.watching w := ⟨rfl, rfl, rfl⟩
  refine Program.Ends.world (Q := fun w' : Course =>
    w'.state.connection = none ∧ w'.state.phase = .disconnected) ?_
  exact (ends_disconnect henv steady).mono (fun _ _ h => ⟨h.1.connection, h.2⟩)
    fun _ _ h => h.elim

end Calls

/-! ### Reports that come too late -/

/-- Something of one kind has happened, and nothing of another kind since. Of which kind something
is may depend on what has happened before it. -/
def Since (begins ends : List Occurrence → Occurrence → Prop) (os : List Occurrence) : Prop :=
  ∃ before o later, os = before ++ o :: later ∧ begins before o ∧
    ∀ mid o' rest, later = mid ++ o' :: rest → ¬ ends (before ++ o :: mid) o'

theorem since_nil {begins ends : List Occurrence → Occurrence → Prop} : ¬ Since begins ends [] := by
  rintro ⟨before, o, later, eq, -⟩
  cases before <;> cases eq

theorem since_concat_iff {begins ends : List Occurrence → Occurrence → Prop}
    {os : List Occurrence} {o : Occurrence} :
    Since begins ends (os ++ [o]) ↔ begins os o ∨ Since begins ends os ∧ ¬ ends os o := by
  constructor
  · rintro ⟨before, o', later, eq, begun, lasts⟩
    obtain ⟨rfl, rfl, -⟩ | ⟨later, rfl, rfl⟩ := concat_eq_append_cons_iff.mp eq
    · exact .inl begun
    · refine .inr ⟨⟨before, o', later, rfl, begun, fun mid p rest eq => ?_⟩, lasts _ _ [] rfl⟩
      exact lasts mid p (rest ++ [o]) (concat_eq_append_cons_iff.mpr (.inr ⟨rest, rfl, eq⟩))
  · rintro (begun | ⟨⟨before, o', later, rfl, begun, lasts⟩, goes⟩)
    · exact ⟨os, o, [], rfl, begun, fun mid p rest eq => by cases mid <;> cases eq⟩
    · refine ⟨before, o', later ++ [o], by rw [List.append_assoc]; rfl, begun, ?_⟩
      intro mid p rest eq
      obtain ⟨rfl, rfl, -⟩ | ⟨rest, -, eq⟩ := concat_eq_append_cons_iff.mp eq
      · exact goes
      · exact lasts mid p rest eq

section Late

variable (env : Surroundings) (start : Manager)

/-- The manager dials. -/
def Dials (os : List Occurrence) (o : Occurrence) : Prop :=
  dials (after env start os) < dials (after env start (os ++ [o]))

/-- A connection that the manager has opened makes a report. -/
def Hears (report : Report → Prop) (os : List Occurrence) (o : Occurrence) : Prop :=
  ∃ c r, o = .reported c r ∧ c ∈ (after env start os).state.watching ∧ report r

/-- The manager disconnects or dials. -/
def Renews (os : List Occurrence) (o : Occurrence) : Prop :=
  o = .disconnect ∨ Dials env start os o

/-- A connection has been restored when the manager had none, and nothing has mended this since. -/
def Outlived : List Occurrence → Prop :=
  Since (fun os o => (after env start os).state.connection = none ∧
    Hears env start (· = .restored) os o) (Renews env start)

/-- After that, a connection has been lost to an error, and nothing has mended this since. -/
def Stranded : List Occurrence → Prop :=
  Since (fun os o => Outlived env start os ∧ Hears env start (∃ e, · = .lost (some e)) os o)
    fun os o => Renews env start os o ∨ Hears env start (· = .restored) os o

/-- What is known of a manager when no call is in progress. -/
structure Settled (os : List Occurrence) : Prop where
  idle : (after env start os).state.phase ≠ .closing
  connected : (after env start os).state.connection ≠ none →
    (after env start os).state.phase ≠ .disconnected ∧ ¬ Outlived env start os
  unconnected : (after env start os).state.connection = none →
    ((after env start os).state.phase ≠ .disconnected ↔ Outlived env start os) ∧
    ((after env start os).state.phase = .connecting ↔ Stranded env start os)

variable {env start} {os : List Occurrence} {o : Occurrence}

theorem hears_reported_iff {P : Report → Prop} {c : ConnectionId} {r : Report} :
    Hears env start P os (.reported c r) ↔ c ∈ (after env start os).state.watching ∧ P r := by
  constructor
  · rintro ⟨c, r, eq, watched, holds⟩
    cases eq
    exact ⟨watched, holds⟩
  · rintro ⟨watched, holds⟩
    exact ⟨c, r, rfl, watched, holds⟩

theorem not_renews_reported {c : ConnectionId} {r : Report} :
    ¬ Renews env start os (.reported c r) := by
  obtain ⟨undialled, -⟩ := occurred_reported env (after env start os) c r
  rw [← after_concat] at undialled
  rintro (eq | dials)
  · cases eq
  · exact Nat.ne_of_lt dials undialled.symm

/-- Whoever disconnects or dials mends everything. -/
theorem mended (renews : Renews env start os o) (silent : ∀ P, ¬ Hears env start P os o) :
    ¬ Outlived env start (os ++ [o]) ∧ ¬ Stranded env start (os ++ [o]) := by
  constructor
  · rw [Outlived, since_concat_iff]
    rintro (⟨-, hears⟩ | ⟨-, lasts⟩)
    · exact silent _ hears
    · exact lasts renews
  · rw [Stranded, since_concat_iff]
    rintro (⟨-, hears⟩ | ⟨-, lasts⟩)
    · exact silent _ hears
    · exact lasts (.inl renews)

namespace Settled

/-- Something that nobody notices. -/
theorem unnoticed (h : Settled env start os)
    (same : (after env start (os ++ [o])).state = (after env start os).state)
    (lasts : ¬ Renews env start os o) (silent : ∀ P, Hears env start P os o → P (.lost none)) :
    Settled env start (os ++ [o]) := by
  have restored : ¬ Hears env start (· = .restored) os o := fun hears => nomatch silent _ hears
  have lost : ¬ Hears env start (∃ e, · = .lost (some e)) os o := by
    intro hears
    obtain ⟨e, eq⟩ := silent _ hears
    cases eq
  have outlived : Outlived env start (os ++ [o]) ↔ Outlived env start os := by
    rw [Outlived, since_concat_iff, ← Outlived]
    simp only [restored, lasts, and_false, false_or, not_false_eq_true, and_true]
  have stranded : Stranded env start (os ++ [o]) ↔ Stranded env start os := by
    rw [Stranded, since_concat_iff, ← Stranded]
    simp only [restored, lost, lasts, and_false, false_or, or_self, not_false_eq_true, and_true]
  constructor
  · rw [same]
    exact h.idle
  · rw [same, outlived]
    exact h.connected
  · rw [same, outlived, stranded]
    exact h.unconnected

theorem connect (henv : Reporting env) (h : Settled env start os) :
    Settled env start (os ++ [.connect]) := by
  have silent (P : Report → Prop) : ¬ Hears env start P os .connect := by
    rintro ⟨c, r, eq, -⟩
    cases eq
  cases taken : (after env start os).state.connection.isSome ||
      (after env start os).state.phase == .connecting with
  | true =>
    obtain ⟨undialled, same⟩ := occurred_connect_ignored env taken
    rw [← after_concat] at undialled same
    refine h.unnoticed same ?_ fun P hears => (silent P hears).elim
    rintro (eq | dials)
    · cases eq
    · exact Nat.ne_of_lt dials undialled.symm
  | false =>
    obtain ⟨dialled, ends⟩ := occurred_connect henv taken
    rw [← after_concat] at dialled ends
    have dials : Dials env start os .connect := by
      rw [Dials, dialled]
      exact Nat.lt_succ_self _
    obtain ⟨outlived, stranded⟩ := mended (.inr dials) silent
    obtain ⟨connection, phase⟩ | ⟨connection, phase⟩ := ends
    · refine ⟨by simp [phase], fun _ => ⟨by simp [phase], outlived⟩, fun none => ?_⟩
      rw [none] at connection
      cases connection
    · refine ⟨by simp [phase], fun some => (some connection).elim, fun _ => ?_⟩
      simp [phase, outlived, stranded]

theorem disconnect (henv : Reporting env) : Settled env start (os ++ [.disconnect]) := by
  obtain ⟨connection, phase⟩ := occurred_disconnect (w := after env start os) henv
  rw [← after_concat] at connection phase
  have silent (P : Report → Prop) : ¬ Hears env start P os .disconnect := by
    rintro ⟨c, r, eq, -⟩
    cases eq
  obtain ⟨outlived, stranded⟩ := mended (.inl rfl) silent
  refine ⟨by simp [phase], fun some => (some connection).elim, fun _ => ?_⟩
  simp [phase, outlived, stranded]

theorem restored (h : Settled env start os) {c : ConnectionId}
    (watched : c ∈ (after env start os).state.watching) :
    Settled env start (os ++ [.reported c .restored]) := by
  obtain ⟨-, state⟩ := occurred_reported env (after env start os) c .restored
  rw [← after_concat, if_pos (List.contains_iff_mem.mpr watched)] at state
  have hears : Hears env start (· = .restored) os (.reported c .restored) :=
    hears_reported_iff.mpr ⟨watched, rfl⟩
  have outlived : Outlived env start (os ++ [.reported c .restored]) ↔
      (after env start os).state.connection = none ∨ Outlived env start os := by
    rw [Outlived, since_concat_iff, ← Outlived]
    simp only [hears, not_renews_reported, and_true, not_false_eq_true]
  have stranded : ¬ Stranded env start (os ++ [.reported c .restored]) := by
    rw [Stranded, since_concat_iff, hears_reported_iff]
    rintro (⟨-, -, e, eq⟩ | ⟨-, lasts⟩)
    · cases eq
    · exact lasts (.inr hears)
  constructor
  · rw [state]
    exact nofun
  · rw [state, outlived]
    intro (some : (after env start os).state.connection ≠ none)
    exact ⟨nofun, not_or.mpr ⟨some, (h.connected some).2⟩⟩
  · rw [state, outlived]
    intro none
    exact ⟨iff_of_true nofun (.inl none), iff_of_false nofun stranded⟩

theorem lost (h : Settled env start os) {c : ConnectionId} {e : Error}
    (watched : c ∈ (after env start os).state.watching) :
    Settled env start (os ++ [.reported c (.lost (some e))]) := by
  obtain ⟨-, state⟩ := occurred_reported env (after env start os) c (.lost (some e))
  rw [← after_concat, if_pos (List.contains_iff_mem.mpr watched)] at state
  have hears : Hears env start (∃ e, · = .lost (some e)) os (.reported c (.lost (some e))) :=
    hears_reported_iff.mpr ⟨watched, e, rfl⟩
  have unrestored : ¬ Hears env start (· = .restored) os (.reported c (.lost (some e))) := by
    rw [hears_reported_iff]
    rintro ⟨-, eq⟩
    cases eq
  have outlived : Outlived env start (os ++ [.reported c (.lost (some e))]) ↔
      Outlived env start os := by
    rw [Outlived, since_concat_iff, ← Outlived]
    simp only [unrestored, not_renews_reported, and_false, false_or, not_false_eq_true, and_true]
  have stranded : Stranded env start (os ++ [.reported c (.lost (some e))]) ↔
      Outlived env start os ∨ Stranded env start os := by
    rw [Stranded, since_concat_iff, ← Stranded]
    simp only [hears, unrestored, not_renews_reported, or_self, not_false_eq_true, and_true]
  obtain ⟨connection, -⟩ := Report.applied_connection (.lost (some e)) (after env start os).state
  have phase := Report.applied_lost e (after env start os).state
  have idle := h.idle
  constructor
  · rw [state, phase]
    split
    · exact nofun
    · exact idle
  · rw [state, connection, phase, outlived]
    intro some
    refine ⟨?_, (h.connected some).2⟩
    split
    · exact nofun
    · exact (h.connected some).1
  · rw [state, connection, phase, outlived, stranded]
    intro none
    obtain ⟨disconnected, connecting⟩ := h.unconnected none
    rw [← disconnected, ← connecting]
    generalize (after env start os).state.phase = now at idle ⊢
    cases now with
    | closing => exact (idle rfl).elim
    | disconnected | connecting | connected => decide

theorem reported (h : Settled env start os) (c : ConnectionId) (r : Report) :
    Settled env start (os ++ [.reported c r]) := by
  obtain ⟨-, state⟩ := occurred_reported env (after env start os) c r
  rw [← after_concat] at state
  by_cases watched : c ∈ (after env start os).state.watching
  case neg =>
    rw [if_neg (by simpa using watched)] at state
    exact h.unnoticed state not_renews_reported fun P hears =>
      (watched (hears_reported_iff.mp hears).1).elim
  match r with
  | .restored => exact h.restored watched
  | .lost (some e) => exact h.lost watched
  | .lost none =>
    rw [if_pos (List.contains_iff_mem.mpr watched)] at state
    exact h.unnoticed state not_renews_reported fun P hears => (hears_reported_iff.mp hears).2

theorem of_after (henv : Reporting env) {settings : Settings}
    (created : create settings = .ok start) (os : List Occurrence) : Settled env start os := by
  induction os using List.reverseRecOn with
  | nil =>
    obtain ⟨phase, connection, -⟩ := resting_of_create created
    have outlived : ¬ Outlived env start [] := since_nil
    have stranded : ¬ Stranded env start [] := since_nil
    have idle : (after env start []).state.phase = .disconnected := phase
    refine ⟨by rw [idle]; exact nofun, fun some => (some connection).elim, fun _ => ?_⟩
    rw [idle]
    exact ⟨iff_of_false (fun h => h rfl) outlived, iff_of_false nofun stranded⟩
  | append_singleton os o ih =>
    cases o with
    | connect => exact ih.connect henv
    | disconnect => exact .disconnect henv
    | reported c r => exact ih.reported c r

end Settled

/-- When no call is in progress, a manager has no connection just when it is disconnected, unless a
connection has been restored too late. While it has no connection, it dials when it is told to
connect, unless after such a report it has heard of a connection that was lost to an error. -/
theorem disconnected_iff_no_outlived (henv : Reporting env) {settings : Settings}
    (created : create settings = .ok start) (os : List Occurrence) :
    (((after env start os).state.connection = none ↔
        (after env start os).state.phase = .disconnected) ↔ ¬ Outlived env start os) ∧
      ((after env start os).state.connection = none →
        (Dials env start os .connect ↔ ¬ Stranded env start os)) := by
  obtain ⟨idle, connected, unconnected⟩ := Settled.of_after henv created os
  refine ⟨?_, fun none => ?_⟩
  · by_cases none : (after env start os).state.connection = none
    · rw [← (unconnected none).1, iff_true_left none, not_not]
    · obtain ⟨phase, outlived⟩ := connected none
      exact iff_of_true (iff_of_false none phase) outlived
  · rw [← (unconnected none).2, Dials, after_concat]
    cases taken : (after env start os).state.connection.isSome ||
        (after env start os).state.phase == .connecting with
    | true =>
      obtain ⟨undialled, -⟩ := occurred_connect_ignored env taken
      rw [none, Option.isSome_none, Bool.false_or, beq_iff_eq] at taken
      exact iff_of_false (by rw [undialled]; exact Nat.lt_irrefl _) (not_not.mpr taken)
    | false =>
      obtain ⟨dialled, -⟩ := occurred_connect henv taken
      rw [none, Option.isSome_none, Bool.false_or, beq_eq_false_iff_ne] at taken
      exact iff_of_true (by rw [dialled]; exact Nat.lt_succ_self _) taken

end Late

/-- A connection that refuses to be closed and is restored at that very time. -/
def tenacious : Surroundings
  | w, .closeConnection c => (.error (.fault .connection "broken"),
      if w.state.watching.contains c then Report.restored.applied w.state else w.state)
  | w, r => (.ok r.granted, w.state)

theorem reporting_tenacious : Reporting tenacious where
  ordinary w r e h := by
    cases r with
    | closeConnection =>
      cases h
      rfl
    | _ => cases h
  reports w r := by
    cases r with
    | closeConnection c =>
      refine .single ⟨c, .restored, ?_⟩
      change Program.Alone (if w.state.watching.contains c then _ else _) w.state [] (.ok ())
        (if w.state.watching.contains c then _ else _)
      split
      · exact ⟨rfl, rfl, rfl⟩
      · exact ⟨rfl, rfl, rfl⟩
    | _ => exact .refl
  closes_quietly _ _ _ := rfl

/-- A connection is lost and restored, and it is restored again when it has been given up. The next
disconnection mends this. -/
theorem disconnected_iff_no_outlived_tenacious :
    let lost := Occurrence.reported ⟨0⟩ (.lost (some (.fault .connection "reset")))
    let restored := Occurrence.reported ⟨0⟩ .restored
    let os := [.connect, lost, restored, .disconnect, lost, restored, .disconnect]
    let start := Client.shop.manager
    Reporting tenacious ∧ create Client.shopSettings = .ok start ∧
      (after tenacious start os).state.phase = .disconnected ∧ ¬ Outlived tenacious start os ∧
      (Dials tenacious start os .connect ↔ ¬ Stranded tenacious start os) := by
  intro lost restored os start
  have created : create Client.shopSettings = .ok start := rfl
  obtain ⟨outlived, dials⟩ := disconnected_iff_no_outlived reporting_tenacious created os
  have connection : (after tenacious start os).state.connection = none := by decide
  have phase : (after tenacious start os).state.phase = .disconnected := by decide
  exact ⟨reporting_tenacious, created, phase, outlived.mp (iff_of_true connection phase),
    dials connection⟩

/-- A manager has connected and disconnected again when it hears first that its connection has been
restored and then that it has been lost. It takes itself to be about to connect and does not dial.
-/
theorem connect_ignored_after_late_reports :
    let lost := Occurrence.reported ⟨0⟩ (.lost (some (.fault .connection "reset")))
    let os := [.connect, .disconnect, .reported ⟨0⟩ .restored, lost]
    let start := Client.shop.manager
    Reporting tenacious ∧ create Client.shopSettings = .ok start ∧
      (after tenacious start os).state.connection = none ∧
      (after tenacious start os).state.phase = .connecting ∧
      ¬ Dials tenacious start os .connect := by
  intro lost os start
  refine ⟨reporting_tenacious, rfl, by decide, by decide +kernel, ?_⟩
  have dialled : dials (after tenacious start os) = 1 := by decide
  have undialled : dials (after tenacious start (os ++ [.connect])) = 1 := by decide
  rw [Dials, dialled, undialled]
  exact Nat.lt_irrefl 1

end BrokerClient.Connection.Manager
