import BrokerClient.Proofs.Client
import BrokerClient.Proofs.Decoding
import BrokerClient.Proofs.Wrapping

/-!
# Deliveries are settled once

A delivery to a consumer is settled exactly once, and it is counted as received and as exactly one
of succeeded, failed and rejected, if its body can be read or is undecodable. The one other case is
a body whose timestamp leaves the calendar on the way to UTC: the error escapes, the delivery is
counted as received only, and it is never settled.

The handlers may do what they like, other programs may run in the meantime, and these may change the
counters too. So the counters are taken without what was added to them during requests:
`Client.counted` is what the consumer's own programs have counted.

## Main definitions

* `Client.counted`, `Client.settlements` — what a consumer has counted, and what was settled.
* `Fate` — what becomes of a delivery, with its settlement and its counts.
* `Client.SettledOnce` — a delivery that is settled and counted once.

## Main results

* `Client.receive_settles_once_iff` — which deliveries are settled once, and after which deliveries
  the counters add up.
-/

namespace BrokerClient

open Broker Event Retry

/-- What the counters have grown by together. -/
instance : Add ConsumerStats :=
  ⟨fun a b => ⟨a.received + b.received, a.succeeded + b.succeeded, a.failed + b.failed,
    a.rejected + b.rejected⟩⟩

theorem ConsumerStats.add_def (a b : ConsumerStats) :
    a + b = ⟨a.received + b.received, a.succeeded + b.succeeded, a.failed + b.failed,
      a.rejected + b.rejected⟩ :=
  rfl

theorem ConsumerStats.add_none (n : ConsumerStats) : n + {} = n := by
  simp [add_def]

/-- What becomes of a delivery. -/
inductive Fate
  | succeeded
  | failed
  | rejected
  deriving DecidableEq, Repr

/-- What a delivery is counted as, besides received. -/
def Fate.outcome : Fate → ConsumerStats
  | .succeeded => { succeeded := 1 }
  | .failed => { failed := 1 }
  | .rejected => { rejected := 1 }

/-- How a delivery is settled; `requeue` says whether a failed one goes back to the queue. -/
def Fate.settlement (requeue : Bool) : Fate → Settlement
  | .succeeded => .acknowledge
  | .failed => .nack requeue
  | .rejected => .reject false

namespace ConsumerStats

/-- Every delivery that has come in has had one fate. -/
def AddsUp (n : ConsumerStats) : Prop :=
  n.received = n.succeeded + n.failed + n.rejected

/-- How many deliveries have come in and had no fate. -/
def missing (n : ConsumerStats) : Int :=
  n.received - (n.succeeded + n.failed + n.rejected)

theorem addsUp_iff {n : ConsumerStats} : n.AddsUp ↔ n.missing = 0 := by
  unfold AddsUp missing
  omega

end ConsumerStats

namespace Client

/-- What the settlement of a request is. -/
def settlementOf : Request → Option (Option String × Settlement)
  | .settle messageId s => some (messageId, s)
  | _ => none

/-- The settlement that an entry asks for. -/
def settlementIn : Entry requests Client → Option (Option String × Settlement)
  | .exchanged x => settlementOf x.request
  | .heard _ => none

/-- The settlements that have been asked for, the first first. -/
def settlements (w : Client.Course) : List (Option String × Settlement) :=
  w.past.filterMap settlementIn

/-- What was added to a counter of a consumer during requests. -/
def addedMeanwhile (i : Nat) (f : ConsumerStats → Int) : List (Entry requests Client) → Int
  | [] => 0
  | .exchanged x :: past =>
    f (x.after.consumers i).stats - f (x.before.consumers i).stats + addedMeanwhile i f past
  | .heard _ :: past => addedMeanwhile i f past

/-- The counters of a consumer without what was added to them during requests. -/
def counted (i : Nat) (w : Client.Course) : ConsumerStats :=
  let own (f : ConsumerStats → Int) : Int :=
    f (w.state.consumers i).stats - addedMeanwhile i f w.past
  ⟨own (·.received), own (·.succeeded), own (·.failed), own (·.rejected)⟩

theorem addedMeanwhile_append (i : Nat) (f : ConsumerStats → Int)
    (a b : List (Entry requests Client)) :
    addedMeanwhile i f (a ++ b) = addedMeanwhile i f a + addedMeanwhile i f b := by
  induction a with
  | nil => simp [addedMeanwhile]
  | cons x a ih =>
    cases x with
    | heard x => exact ih
    | exchanged x =>
      simp only [List.cons_append, addedMeanwhile, ih]
      omega

/-- Where nothing else has changed its counters, a consumer has counted what they show. -/
theorem counted_eq_stats {i : Nat} {w : Client.Course}
    (alone : ∀ x, Entry.exchanged x ∈ w.past →
      (x.after.consumers i).stats = (x.before.consumers i).stats) :
    counted i w = (w.state.consumers i).stats := by
  have none (f : ConsumerStats → Int) : addedMeanwhile i f w.past = 0 := by
    generalize w.past = past at alone
    induction past with
    | nil => rfl
    | cons x past ih =>
      have rest := ih fun y hy => alone y (List.mem_cons_of_mem x hy)
      cases x with
      | heard x => exact rest
      | exchanged x =>
        rw [addedMeanwhile, alone x List.mem_cons_self, rest]
        omega
  simp only [counted, none, Int.sub_zero]

/-- What happens during a request is not counted. -/
@[simp]
theorem counted_answer (i : Nat) (w : Client.Course) (r : Request) (reply : Except Error r.Reply)
    (s : Client) : counted i (w.answer r reply s) = counted i w := by
  simp only [counted, Course.answer, addedMeanwhile_append, addedMeanwhile]
  congr 1 <;> omega

@[simp]
theorem counted_note (i : Nat) (w : Client.Course) (x : Signal) :
    counted i (w.note x) = counted i w := by
  simp [counted, Course.note, addedMeanwhile_append, addedMeanwhile]

@[simp]
theorem settlements_answer (w : Client.Course) (r : Request) (reply : Except Error r.Reply)
    (s : Client) :
    settlements (w.answer r reply s) = settlements w ++ (settlementOf r).toList := by
  simp only [settlements, Course.answer, List.filterMap_append, List.filterMap_cons,
    List.filterMap_nil, settlementIn]
  cases settlementOf r <;> rfl

@[simp]
theorem settlements_note (w : Client.Course) (x : Signal) :
    settlements (w.note x) = settlements w := by
  simp [settlements, Course.note, settlementIn]

/-- What a consumer has counted and the settlements that have been asked for. -/
def Tally (i : Nat) (n : ConsumerStats) (l : List (Option String × Settlement))
    (w : Client.Course) : Prop :=
  counted i w = n ∧ settlements w = l

section Tally

variable {σ : Type} {env : Client.Surroundings} {part : Lens Client.Course σ} {i : Nat}
  {n : ConsumerStats} {l : List (Option String × Settlement)} {w : Client.Course}

theorem Tally.note (x : Signal) (h : Tally i n l w) : Tally i n l (w.note x) := by
  simpa [Tally] using h

/-- Only requests that settle a delivery change a tally. -/
theorem Tally.answer (h : Tally i n l w) (r : Request) (reply : Except Error r.Reply)
    (s : Client) : Tally i n (l ++ (settlementOf r).toList) (w.answer r reply s) := by
  simpa [Tally] using h

theorem Tally.keeps_log (level : Log.Level) (logger : Log.Logger) (message : String)
    (details : List (String × Json)) :
    (Program.log level logger message details : Act σ Unit).Keeps env.host part (Tally i n l) :=
  .signal (fun x _ h => h.note x) _

theorem Tally.keeps_logFailure (logger : Log.Logger) (message : String) (error : Error)
    (details : List (String × Json)) :
    (Program.logFailure logger message error details : Act σ Unit).Keeps env.host part
      (Tally i n l) :=
  .signal (fun x _ h => h.note x) _

theorem Tally.keeps_ask (henv : env.Ordinary) {r : Request} (hr : settlementOf r = none) :
    (ask r : Act σ r.Reply).Keeps env.host part (Tally i n l) :=
  .perform henv fun w reply s h => by simpa [hr] using h.answer r reply s

/-- A settlement enters the tally whether it fails or not. -/
theorem Tally.ends_settle (h : Tally i n l w) (messageId : Option String) (s : Settlement) :
    (ask (.settle messageId s) : Act σ Unit).Ends env.host part
      (fun _ => Tally i n (l ++ [(messageId, s)])) (fun _ => Tally i n (l ++ [(messageId, s)])) w :=
  Program.ends_request (fun _ _ => h.answer (.settle messageId s) _ _)
    fun _ _ => h.answer (.settle messageId s) _ _

/-- A consumer counts by what it adds to its counters. -/
theorem Tally.change (h : Tally i n l w) {f : Consumer → Consumer} {d : ConsumerStats}
    (hf : ∀ c, (f c).stats = c.stats + d) :
    Tally i (n + d) l (Course.statePart.modify ((consumerPart i).modify f) w) := by
  obtain ⟨rfl, rfl⟩ := h
  refine ⟨?_, rfl⟩
  simp only [counted, Course.statePart, Lens.modify, consumerPart, hf, Function.update_self,
    ConsumerStats.add_def]
  congr 1 <;> omega

theorem Tally.count (h : Tally i n l w) {f : ConsumerStats → ConsumerStats} {d : ConsumerStats}
    (hf : ∀ n, f n = n + d) :
    Tally i (n + d) l (Course.statePart.modify ((consumerPart i).modify (Consumer.count f)) w) :=
  h.change fun c => hf c.stats

/-- The job of a handler is kept without being counted. -/
theorem Tally.keeps_wrap {r : Nat} (h : Handler) :
    (Consumer.wrap (site i r) h).Keeps env.host Course.statePart (Tally i n l) := by
  unfold Consumer.wrap
  cases h.unhashable with
  | some text => exact .fail rfl
  | none =>
    refine .seq (.modify fun w tally => ?_) fun _ => .seq (.read fun _ => .done _) fun _ => .done _
    have kept := tally.change (f := Consumer.keep h) fun c => by
      rw [Consumer.stats_keep, ConsumerStats.add_none]
    rwa [ConsumerStats.add_none] at kept

theorem Tally.keeps_pause (henv : env.Ordinary) (j : Job) (e : Envelope) (number : Int) :
    (j.pause e number).Keeps env.host part (Tally i n l) :=
  .seq (.ofExcept fun _ h => Schedule.backoff_ordinary h) fun _ =>
    .seq (Tally.keeps_log _ _ _ _) fun _ => Tally.keeps_ask henv rfl

/-- Runs of jobs neither count nor settle. -/
theorem Tally.keeps_runFrom (henv : env.Ordinary) (j : Job) (e : Envelope) (remaining : Nat)
    (number : Int) : (j.runFrom e remaining number).Keeps env.host part (Tally i n l) := by
  have attempt (number : Int) : (j.attempt e number).Keeps env.host part (Tally i n l) :=
    .inSpan (fun x _ h => h.note x) _ _ (Tally.keeps_ask henv rfl)
  induction remaining generalizing number with
  | zero =>
    rw [Job.runFrom]
    refine .seq (Tally.keeps_log _ _ _ _) fun _ => (attempt number).attempt_seq ?_ ?_
    · exact fun _ => Tally.keeps_log _ _ _ _
    · intro error ordinary
      simp only [if_pos ordinary]
      exact .seq (Tally.keeps_logFailure _ _ _ _) fun _ =>
        .seq (Tally.keeps_log _ _ _ _) fun _ => .fail ordinary
  | succ remaining ih =>
    rw [Job.runFrom]
    refine .seq (Tally.keeps_log _ _ _ _) fun _ => (attempt number).attempt_seq ?_ ?_
    · exact fun _ => Tally.keeps_log _ _ _ _
    · intro error ordinary
      simp only [if_pos ordinary]
      exact .seq (Tally.keeps_logFailure _ _ _ _) fun _ =>
        .seq (Tally.keeps_pause henv j e number) fun _ => ih (number + 1)

theorem Tally.keeps_runOne (henv : env.Ordinary) (r : Nat) (e : Envelope) (h : Handler) :
    (Consumer.runOne (site i r) e h).Keeps env.host Course.statePart (Tally i n l) :=
  .seq (Tally.keeps_wrap h) fun job => Tally.keeps_runFrom henv job e _ 0

/-- Dispatching an event neither counts nor settles, whatever the handlers do. -/
theorem Tally.keeps_process (henv : env.Ordinary) (r : Nat) (e : Envelope) :
    (Consumer.process (site i r) e).Keeps env.host Course.statePart (Tally i n l) := by
  have unregistered (r : Registry) :
      (r.reportUnregistered e : Act Client Unit).Keeps env.host Course.statePart (Tally i n l) := by
    unfold Registry.reportUnregistered
    cases r.unregistered with
    | ignore => exact .done ()
    | error => exact .fail rfl
    | warn => exact Tally.keeps_log _ _ _ _
  refine .seq (.read fun s => ?_) fun _ => .done ()
  dsimp only
  cases ((site i r).registry s).handlers e.eventType with
  | nil => exact .seq (unregistered _) fun _ => .done false
  | cons h hs =>
    exact .seq (.forM fun h _ => Tally.keeps_runOne henv r e h) fun _ => .done true

/-! ### Settling a delivery -/

variable {r : Nat} {c : Consumer} {messageId : Option String}

/-- The tally of a consumer after a delivery has met its fate. -/
def Settled (i : Nat) (n : ConsumerStats) (l : List (Option String × Settlement))
    (messageId : Option String) (requeue : Bool) (fate : Fate) : Client.Course → Prop :=
  Tally i (n + fate.outcome) (l ++ [(messageId, fate.settlement requeue)])

theorem Tally.ends_rejectDelivery (h : Tally i n l w) (error : Error) (requeue : Bool) :
    (Consumer.rejectDelivery (site i r) c messageId error).Ends env.host Course.statePart
      (fun _ => Settled i n l messageId requeue .rejected)
      (fun _ => Settled i n l messageId requeue .rejected) w := by
  simp only [Consumer.rejectDelivery, Consumer.change, Program.log, Program.ends_seq,
    Program.ends_modify, Program.ends_signal]
  refine ((h.count (d := Fate.rejected.outcome) fun n => ?_).note _).ends_settle _ _
  simp [ConsumerStats.add_def, Fate.outcome]

theorem Tally.ends_refuseDelivery (h : Tally i n l w) (e : Envelope) (error : Error) :
    (Consumer.refuseDelivery (site i r) c messageId e error).Ends env.host Course.statePart
      (fun _ => Settled i n l messageId c.requeue .failed)
      (fun _ => Settled i n l messageId c.requeue .failed) w := by
  simp only [Consumer.refuseDelivery, Consumer.change, Program.log, Program.ends_seq,
    Program.ends_modify, Program.ends_signal]
  refine ((h.count (d := Fate.failed.outcome) fun n => ?_).note _).ends_settle _ _
  simp [ConsumerStats.add_def, Fate.outcome]

theorem Tally.ends_acknowledgeDelivery (h : Tally i n l w) (requeue : Bool) :
    (Consumer.acknowledgeDelivery (site i r) messageId).Ends env.host Course.statePart
      (fun _ => Settled i n l messageId requeue .succeeded)
      (fun _ => Settled i n l messageId requeue .succeeded) w := by
  simp only [Consumer.acknowledgeDelivery, Consumer.change, Program.ends_seq,
    Program.ends_modify]
  refine (h.count (d := Fate.succeeded.outcome) fun n => ?_).ends_settle _ _
  simp [ConsumerStats.add_def, Fate.outcome]

/-- An event whose handlers succeed is not settled yet; any other has been refused. -/
theorem Tally.ends_processOrRefuse (henv : env.Ordinary) (h : Tally i n l w) (e : Envelope) :
    (Consumer.processOrRefuse (site i r) c messageId e).Ends env.host Course.statePart
      (fun processed =>
        if processed then Tally i n l else Settled i n l messageId c.requeue .failed)
      (fun _ => Settled i n l messageId c.requeue .failed) w := by
  refine Program.Ends.inSpan (fun x _ h => h.note x) ?_ (fun _ x _ h => Tally.note x h) _ _ ?_ h
  · rintro (_ | _) x w h
    · exact Tally.note x h
    · exact Tally.note x h
  · intro w h
    simp only [Program.ends_rescue, Program.ends_seq, Program.ends_pure]
    refine (Tally.keeps_process henv r e w h).mono (fun _ _ h => h) ?_
    rintro error w ⟨h, ordinary⟩
    rw [if_pos ordinary]
    exact h.ends_refuseDelivery e error

/-- An event is settled once, by its refusal or after its handlers have succeeded. -/
theorem Tally.ends_dispatch (henv : env.Ordinary) (h : Tally i n l w) (e : Envelope) :
    (do
      if ← Consumer.processOrRefuse (site i r) c messageId e then
        Consumer.acknowledgeDelivery (site i r) messageId
      else return : Act Client Unit).Ends env.host Course.statePart
        (fun _ w' => ∃ fate, Settled i n l messageId c.requeue fate w')
        (fun _ w' => ∃ fate, Settled i n l messageId c.requeue fate w') w := by
  rw [Program.ends_seq]
  refine (h.ends_processOrRefuse henv e).mono ?_ fun _ _ h => ⟨.failed, h⟩
  rintro (_ | _) w h
  · exact ⟨.failed, h⟩
  · exact (h.ends_acknowledgeDelivery _).mono (fun _ _ h => ⟨.succeeded, h⟩)
      fun _ _ h => ⟨.succeeded, h⟩

end Tally

/-! ### Deliveries -/

/-- A message that comes in, with what its envelope takes where it gives nothing itself. -/
structure Delivery where
  fresh : Fresh
  body : ByteArray
  messageId : Option String

/-- Whether the timestamp of a delivery leaves the calendar on the way to UTC. -/
def Delivery.leavesCalendar (d : Delivery) : Bool :=
  Envelope.leavesCalendar d.body

/-- What a consumer does with a delivery. -/
def receive (i r : Nat) (d : Delivery) : Act Client Unit :=
  Consumer.receive (site i r) d.fresh d.body d.messageId

/-- The course after a delivery. -/
def received (env : Client.Surroundings) (i r : Nat) (w : Client.Course) (d : Delivery) :
    Client.Course :=
  ((receive i r d).run env.host Course.statePart w).2

/-- One settlement is asked for, and the delivery is counted as received and as one thing more. -/
def SettledOnce (i : Nat) (messageId : Option String) (w w' : Client.Course) : Prop :=
  ∃ fate : Fate, counted i w' = counted i w + { received := 1 } + fate.outcome ∧
    settlements w' =
      settlements w ++ [(messageId, fate.settlement (w.state.consumers i).requeue)]

/-- The delivery is counted as received and forgotten. -/
def Dropped (i : Nat) (w w' : Client.Course) : Prop :=
  counted i w' = counted i w + { received := 1 } ∧ settlements w' = settlements w

section Receive

variable {env : Client.Surroundings} {i r : Nat} {w : Client.Course} {d : Delivery}

/-- The counters after a delivery has come in. -/
theorem tally_received (i : Nat) (w : Client.Course) :
    Tally i (counted i w + { received := 1 }) (settlements w)
      (Course.statePart.modify ((consumerPart i).modify
        (Consumer.count fun n => { n with received := n.received + 1 })) w) := by
  have tally : Tally i (counted i w) (settlements w) w := ⟨rfl, rfl⟩
  exact tally.count fun n => by simp [ConsumerStats.add_def]

/-- Whatever the body and the handlers, a delivery that stays in the calendar is settled once. -/
theorem receive_settles (henv : env.Ordinary) (stays : d.leavesCalendar = false) :
    SettledOnce i d.messageId w (received env i r w d) := by
  have tally := tally_received i w
  refine Program.Ends.world (p := receive i r d) ?_
  simp only [receive, Consumer.receive, Consumer.change, Consumer.current, Program.ends_seq,
    Program.ends_modify, Program.ends_read, Program.ends_done]
  cases hd : Envelope.ofBytes d.fresh d.body with
  | error e =>
    obtain ⟨reason, issues, rfl⟩ | ⟨leaves, -⟩ := Envelope.ofBytes_error hd
    · exact (tally.ends_rejectDelivery _ _).mono (fun _ _ h => ⟨.rejected, h⟩)
        fun _ _ h => ⟨.rejected, h⟩
    · exact absurd leaves (Bool.eq_false_iff.mp stays)
  | ok e =>
    generalize hc : (site i r).consumer.get _ = c
    have requeue : c.requeue = (w.state.consumers i).requeue := by
      rw [← hc]
      simp [site, Course.statePart, Lens.modify, consumerPart, Consumer.count]
    have settled : SettledOnce i d.messageId w = fun w' => ∃ fate,
        Settled i (counted i w + { received := 1 }) (settlements w) d.messageId c.requeue fate
          w' := by
      rw [requeue]
      rfl
    rw [settled]
    exact tally.ends_dispatch henv e

theorem receive_drops (leaves : d.leavesCalendar) : Dropped i w (received env i r w d) := by
  have unreadable : Envelope.ofBytes d.fresh d.body = .error Envelope.beyondCalendar :=
    Envelope.ofBytes_of_leavesCalendar leaves
  refine Program.Ends.world (p := receive i r d) ?_
  simp only [receive, Consumer.receive, Consumer.change, Consumer.current, Program.ends_seq,
    Program.ends_modify, Program.ends_read, Program.ends_done, unreadable,
    Envelope.beyondCalendar, Program.ends_fail]
  exact tally_received i w

/-- No delivery is both settled and dropped. -/
theorem SettledOnce.not_dropped {messageId : Option String} {w' : Client.Course}
    (h : SettledOnce i messageId w w') : ¬ Dropped i w w' := by
  rintro ⟨-, unsettled⟩
  obtain ⟨fate, -, settled⟩ := h
  rw [unsettled] at settled
  simpa using congrArg List.length settled

/-- A settled delivery has had its fate. -/
theorem SettledOnce.missing_eq {messageId : Option String} {w' : Client.Course}
    (h : SettledOnce i messageId w w') : (counted i w').missing = (counted i w).missing := by
  obtain ⟨fate, counts, -⟩ := h
  rw [counts]
  cases fate <;> simp only [ConsumerStats.missing, ConsumerStats.add_def, Fate.outcome] <;> omega

theorem Dropped.missing_eq {w' : Client.Course} (h : Dropped i w w') :
    (counted i w').missing = (counted i w).missing + 1 := by
  rw [h.1]
  simp only [ConsumerStats.missing, ConsumerStats.add_def]
  omega

/-- Every delivery that leaves the calendar is missing from the counters for good. -/
theorem missing_foldl (henv : env.Ordinary) (ds : List Delivery) (w : Client.Course) :
    (counted i (ds.foldl (received env i r) w)).missing =
      (counted i w).missing + ds.countP Delivery.leavesCalendar := by
  induction ds generalizing w with
  | nil => simp
  | cons d ds ih =>
    rw [List.foldl_cons, ih, List.countP_cons]
    cases leaves : d.leavesCalendar with
    | true =>
      rw [(receive_drops leaves).missing_eq, if_pos rfl]
      omega
    | false =>
      rw [(receive_settles henv leaves).missing_eq, if_neg Bool.false_ne_true]
      omega

/-- A delivery is settled once and counted once exactly if its timestamp stays in the calendar; any
other is dropped. So the counters add up after deliveries exactly if none of these has left the
calendar. -/
theorem receive_settles_once_iff (henv : env.Ordinary) (i r : Nat) :
    (∀ (w : Client.Course) (d : Delivery),
      (SettledOnce i d.messageId w (received env i r w d) ↔ d.leavesCalendar = false) ∧
        (Dropped i w (received env i r w d) ↔ d.leavesCalendar)) ∧
      ∀ (w : Client.Course) (ds : List Delivery), (counted i w).AddsUp →
        ((counted i (ds.foldl (received env i r) w)).AddsUp ↔
          ∀ d ∈ ds, d.leavesCalendar = false) := by
  refine ⟨fun w d => ?_, fun w ds adds => ?_⟩
  · cases leaves : d.leavesCalendar with
    | true =>
      have dropped : Dropped i w (received env i r w d) := receive_drops leaves
      exact ⟨iff_of_false (fun settled => settled.not_dropped dropped) nofun,
        iff_of_true dropped rfl⟩
    | false =>
      have settled : SettledOnce i d.messageId w (received env i r w d) :=
        receive_settles henv leaves
      exact ⟨iff_of_true settled rfl, iff_of_false settled.not_dropped Bool.false_ne_true⟩
  · rw [ConsumerStats.addsUp_iff, missing_foldl henv, ConsumerStats.addsUp_iff.mp adds]
    have none : ds.countP Delivery.leavesCalendar = 0 ↔ ∀ d ∈ ds, d.leavesCalendar = false := by
      rw [List.countP_eq_zero]
      simp only [Bool.not_eq_true]
    rw [← none]
    omega

end Receive

/-- Handlers always fail, and all else that is asked for is granted. -/
def failingHandlers : Client.Surroundings := fun w r =>
  (match r with
    | .handle .. => .error (.fault .runtime "boom")
    | r => .ok r.granted, w.state)

theorem failingHandlers_ordinary : failingHandlers.Ordinary := by
  intro w r e h
  cases r <;> cases h
  rfl

/-- A handler of orders. -/
def shipping : Handler :=
  { identity := "ship", qualifiedName := some "ship" }

/-- A consumer of orders that has nothing behind it. -/
def waiting : Client.Course where
  state := {
    manager := default
    consumers := fun _ => .create { queueName := "orders" }
    registries := fun _ => { table := [("order.placed", [shipping])] }
    closed := fun _ => false }

/-- An order that gives no moment of its own. -/
def order : Delivery :=
  ⟨⟨"e1", default⟩, "\x7b\"eventType\":\"order.placed\"\x7d".toUTF8, some "m1"⟩

/-- An order from the first hour of the calendar, written an hour east of Greenwich. -/
def earlyOrder : Delivery :=
  ⟨⟨"e2", default⟩, ("\x7b\"eventType\":\"order.placed\"," ++
    "\"timestamp\":\"0001-01-01T00:00:00+01:00\"\x7d").toUTF8, some "m2"⟩

theorem receive_settles_failed_order :
    failingHandlers.Ordinary ∧ (counted 0 waiting).AddsUp ∧
      SettledOnce 0 (some "m1") waiting (received failingHandlers 0 0 waiting order) ∧
        (counted 0 ([order].foldl (received failingHandlers 0 0) waiting)).AddsUp := by
  have stays : order.leavesCalendar = false := by decide +kernel
  have adds : (counted 0 waiting).AddsUp := rfl
  obtain ⟨once, sums⟩ := receive_settles_once_iff failingHandlers_ordinary 0 0
  exact ⟨failingHandlers_ordinary, adds, (once waiting order).1.mpr stays,
    (sums waiting [order] adds).mpr fun d h => List.mem_singleton.mp h ▸ stays⟩

/-- It is not true that every delivery is settled once: an early order never is. -/
theorem receive_drops_early_order :
    ¬ ∀ (env : Client.Surroundings) (i r : Nat) (w : Client.Course) (d : Delivery),
      env.Ordinary → SettledOnce i d.messageId w (received env i r w d) := by
  intro settles
  have leaves : earlyOrder.leavesCalendar := by decide +kernel
  exact (settles failingHandlers 0 0 waiting earlyOrder failingHandlers_ordinary).not_dropped
    (receive_drops leaves)

end Client

end BrokerClient
