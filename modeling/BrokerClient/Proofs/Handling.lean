import BrokerClient.Proofs.Attempts
import BrokerClient.Proofs.Deliveries
import BrokerClient.Proofs.Registering

/-!
# What a delivery makes the handlers do

The handlers of an event's type run one after another, each as a job with attempts of its own, up to
the first whose job fails. `Dispatched` and `Processed` say this without a program, by the requests
that are sent. A delivery asks for just what processing its event asks for and then for one
settlement, which tells whether a job has failed; a body that is no envelope is rejected and no
handler is called. A cancelled job is no failed job: the cancellation passes, and the delivery is
neither settled nor counted again.

What is called for a handler is its stand-in, by the table of jobs that the consumer has after the
delivery. The table may have been filled by other deliveries, before or meanwhile; nobody takes
anything from it (`Client.Retains`). For a handler that no other one is equal to, this is the
handler itself (`Consumer.Unrivalled.callee_eq`). A handler that cannot be hashed is not called, and
its delivery is refused.

## Main definitions

* `Dispatched`, `Processed` — what handlers and events ask for, and how they end.
* `Fate.ofProcessing` — the fate of a delivery by how the processing of its event has ended.
* `Client.Concluded` — how a delivery is settled and counted by its fate.
* `Client.Retains` — surroundings that leave a consumer the jobs that it keeps.
* `Consumer.Unrivalled` — a handler that can be hashed and that no other one is equal to.

## Main results

* `Client.receive_handles` — what a delivery asks for, and what it is counted as.
-/

namespace BrokerClient

open Broker Event Retry Validation

/-- What the handlers of an event ask for, one after another up to the first that fails, and how
this ends; `callee` gives what is called for a handler. -/
inductive Dispatched (callee : Handler → Except Error Handler) (s : Schedule) (e : Envelope) :
    List Handler → List (Answer requests) → Except Error Unit → Prop
  | finished : Dispatched callee s e [] [] (.ok ())
  /-- Nothing can be called for a handler. -/
  | uncalled {h hs error} (none : callee h = .error error) :
    Dispatched callee s e (h :: hs) [] (.error error)
  | stopped {h g hs asked error} (called : callee h = .ok g)
    (failed : Attempts s g e 0 asked (.error error)) :
    Dispatched callee s e (h :: hs) asked (.error error)
  | next {h g hs asked asked' result} (called : callee h = .ok g)
    (succeeded : Attempts s g e 0 asked (.ok ())) (rest : Dispatched callee s e hs asked' result) :
    Dispatched callee s e (h :: hs) (asked ++ asked') result

/-- How the processing of an event ends whose type has no handler. -/
def Registry.unhandled (r : Registry) (e : Envelope) : Except Error Unit :=
  match r.unregistered with
  | .error => .error (.unhandledEvent e.eventType e.eventId)
  | .ignore | .warn => .ok ()

/-- What an event asks for, and how its processing ends. -/
inductive Processed (callee : Handler → Except Error Handler) (r : Registry) (s : Schedule)
    (e : Envelope) : List (Answer requests) → Except Error Unit → Prop
  | unhandled (none : r.handlers e.eventType = []) : Processed callee r s e [] (r.unhandled e)
  | handled {asked result} (some : r.handlers e.eventType ≠ [])
    (dispatched : Dispatched callee s e (r.handlers e.eventType) asked result) :
    Processed callee r s e asked result

/-- The fate of a delivery by how the processing of its event has ended. A cancellation is no
fate. -/
def Fate.ofProcessing : Except Error Unit → Option Fate
  | .ok () => some .succeeded
  | .error e => if e.isOrdinary then some .failed else none

/-- How a delivery is settled and counted by its fate: by one request, or not at all. -/
def Client.Concluded (messageId : Option String) (requeue : Bool) :
    Option Fate → List (Answer requests) → ConsumerStats → Prop
  | some fate, asked, n =>
    (∃ settled, asked = [⟨.settle messageId (fate.settlement requeue), settled⟩]) ∧
      n = fate.outcome
  | none, asked, n => asked = [] ∧ n = {}

/-! ### Dispatching an event -/

namespace Registry

variable {S : Signature} {A ω σ : Type} {service : Service S A ω} {part : Lens ω σ} {w w' : ω}
  {asked : List A} {e : Envelope}

theorem runs_reportUnregistered {r : Registry} {result : Except Error Unit}
    (h : (r.reportUnregistered e : Program S σ Unit).Runs service part w asked result w') :
    asked = [] ∧ result = r.unhandled e ∧ w' = w := by
  unfold reportUnregistered at h
  unfold unhandled
  cases mode : r.unregistered with
  | ignore | error | warn =>
    rw [mode] at h
    exact h

/-- Dispatching an event runs the handlers that its type has at the beginning, if there are any. -/
theorem runs_dispatch {registry : σ → Registry} {run : Handler → Program S σ Unit}
    {result : Except Error Bool}
    (h : (dispatch registry e run).Runs service part w asked result w') :
    let r := registry (part.get w)
    (r.handlers e.eventType = [] ∧ asked = [] ∧ result.map (fun _ => ()) = r.unhandled e ∧
      w' = w) ∨
    (r.handlers e.eventType ≠ [] ∧ ((r.handlers e.eventType).forM run).Runs service part w asked
      (result.map fun _ => ()) w') := by
  intro r
  rw [dispatch, Program.runs_read] at h
  cases none : r.handlers e.eventType with
  | nil =>
    simp only [r, none, Program.runs_seq, Program.runs_pure] at h
    obtain ⟨error, failed, rfl⟩ | ⟨_, _, asked₁, _, rfl, succeeded, rfl, rfl, rfl⟩ := h
    · obtain ⟨rfl, eq, rfl⟩ := runs_reportUnregistered failed
      exact .inl ⟨rfl, rfl, eq, rfl⟩
    · obtain ⟨rfl, eq, rfl⟩ := runs_reportUnregistered succeeded
      exact .inl ⟨rfl, rfl, eq, rfl⟩
  | cons handler hs =>
    simp only [r, none, Program.runs_seq, Program.runs_pure] at h
    refine .inr ⟨List.cons_ne_nil _ _, ?_⟩
    obtain ⟨error, failed, rfl⟩ | ⟨_, _, asked₁, _, rfl, succeeded, rfl, rfl, rfl⟩ := h
    · exact failed
    · rwa [List.append_nil]

end Registry

/-! ### What a consumer has counted -/

/-- What the counters have grown by since then. -/
instance : Sub ConsumerStats :=
  ⟨fun a b => ⟨a.received - b.received, a.succeeded - b.succeeded, a.failed - b.failed,
    a.rejected - b.rejected⟩⟩

theorem ConsumerStats.sub_def (a b : ConsumerStats) :
    a - b = ⟨a.received - b.received, a.succeeded - b.succeeded, a.failed - b.failed,
      a.rejected - b.rejected⟩ :=
  rfl

namespace Client

/-- A client with what one of its consumers has counted itself. -/
def tallied (i : Nat) : Lens (Client × ConsumerStats) Client where
  get := Prod.fst
  set s p := (s, p.2 + ((s.consumers i).stats - (p.1.consumers i).stats))

theorem counted_modify (i : Nat) (c : Client → Client) (w : Client.Course) :
    counted i (Course.statePart.modify c w) =
      counted i w + (((c w.state).consumers i).stats - (w.state.consumers i).stats) := by
  simp only [counted, Course.statePart, Lens.modify, ConsumerStats.add_def, ConsumerStats.sub_def]
  congr 1 <;> omega

/-- A course as what its state is and what a consumer has counted. -/
def tallyView (i : Nat) :
    View (Course.statePart : Lens Client.Course Client) (Client × ConsumerStats) where
  see w := (w.state, counted i w)
  inner := tallied i
  get_see _ := rfl
  see_modify c w := Prod.ext rfl (counted_modify i c w)
  answers_modify _ _ := rfl
  see_note w x := Prod.ext rfl (counted_note i w x)

/-- What a consumer has counted is `n` more, and it keeps more jobs at most, those of `others`. -/
structure Counts (i : Nat) (others : Handler → Prop) (n : ConsumerStats)
    (p p' : Client × ConsumerStats) : Prop where
  counted : p'.2 = p.2 + n
  later : (p.1.consumers i).Later others (p'.1.consumers i)

/-- What others may do: they count for themselves, and they leave a consumer its schedule and the
jobs that it keeps. -/
abbrev Beside (i : Nat) (others : Handler → Prop) : Client × ConsumerStats →
    Client × ConsumerStats → Prop :=
  Counts i others {}

section Counts

variable {i r : Nat} {others others' : Handler → Prop} {n n' : ConsumerStats}
  {p p₁ p' : Client × ConsumerStats}

theorem Counts.beside (h : Counts i others n p p₁) (h' : Beside i others p₁ p') :
    Counts i others n p p' :=
  ⟨by rw [h'.counted, h.counted, ConsumerStats.add_none], h.later.trans h'.later⟩

theorem Beside.counts (h : Beside i others p p₁) (h' : Counts i others n p₁ p') :
    Counts i others n p p' :=
  ⟨by rw [h'.counted, h.counted, ConsumerStats.add_none], h.later.trans h'.later⟩

theorem Counts.mono (h : Counts i others n p p') (imp : ∀ h, others h → others' h) :
    Counts i others' n p p' :=
  ⟨h.counted, h.later.mono imp⟩

instance (i : Nat) (others : Handler → Prop) :
    IsPreorder (Client × ConsumerStats) (Beside i others) where
  refl p := ⟨(ConsumerStats.add_none p.2).symm, .refl _⟩
  trans _ _ _ h h' := h.beside h'

/-- A consumer counts what it adds to its counters. -/
theorem counts_modify (p : Client × ConsumerStats) {g : Consumer → Consumer}
    (stats : ∀ c, (g c).stats = c.stats + n) (later : ∀ c, Consumer.Later others c (g c)) :
    Counts i others n p ((tallied i).modify ((site i r).consumer.modify g) p) := by
  refine ⟨?_, ?_⟩
  · simp only [tallied, site, Lens.modify, consumerPart, Function.update_self, stats,
      ConsumerStats.add_def, ConsumerStats.sub_def]
    congr 1 <;> omega
  · simpa [tallied, site, Lens.modify, consumerPart] using later (p.1.consumers i)

end Counts

end Client

/-! ### Taking a delivery apart -/

namespace Consumer

open Client

variable {i r : Nat} {others : Handler → Prop} {p p' : Client × ConsumerStats} {c : Consumer}
  {e : Envelope} {h : Handler} {asked : List (Answer requests)} {messageId : Option String}

/-- The job that a handler is run by is that of its stand-in, and it is kept. -/
theorem runs_wrap {result : Except Error Job}
    (runs : (wrap (site i r) h).Runs (.direct requests (Beside i others)) (tallied i) p asked result
      p') :
    asked = [] ∧ Beside i (· = h) p p' ∧
      ((∃ text, h.unhashable = some text ∧ result = .error (.fault .type text)) ∨
        h.unhashable = none ∧ p'.1.consumers i = keep h (p.1.consumers i) ∧
          result = .ok ((p.1.consumers i).job ((p.1.consumers i).standIn h))) := by
  unfold wrap at runs
  cases hashed : h.unhashable with
  | some text =>
    rw [hashed] at runs
    obtain ⟨rfl, rfl, rfl⟩ := runs
    exact ⟨rfl, refl _, .inl ⟨text, rfl, rfl⟩⟩
  | none =>
    rw [hashed] at runs
    obtain ⟨rfl, rfl, rfl⟩ := runs
    have there : ((tallied i).modify ((site i r).consumer.modify (keep h)) p).1.consumers i =
        keep h (p.1.consumers i) := by simp [tallied, site, Lens.modify, consumerPart]
    refine ⟨rfl, counts_modify p (fun c => ?_) (later_keep h),
      .inr ⟨rfl, there, congrArg Except.ok ?_⟩⟩
    · rw [stats_keep, ConsumerStats.add_none]
    · rw [← wrapped_keep_getD, ← there]
      rfl

/-- A handler that can be hashed is run by attempts of its stand-in. This is the stand-in by the
table as it is at any time later, too. -/
theorem attempts_of_runOne {result : Except Error Unit}
    (runs : (runOne (site i r) e h).Runs (.direct requests (Beside i others)) (tallied i) p asked
      result p') :
    Beside i (fun g => others g ∨ g = h) p p' ∧
      ((∃ error, (∀ c : Consumer, c.callee h = .error error) ∧ asked = [] ∧
        result = .error error) ∨
      ∃ g, (∀ c, Later (fun _ => True) (p'.1.consumers i) c → c.callee h = .ok g) ∧
        Attempts (p.1.consumers i).schedule g e 0 asked result) := by
  rw [runOne, Program.runs_seq] at runs
  obtain ⟨error, failed, rfl⟩ | ⟨job, p₁, asked₁, asked₂, rfl, wrapped, runs⟩ := runs
  · obtain ⟨rfl, beside, ⟨text, unhashable, failure⟩ | ⟨-, -, made⟩⟩ := runs_wrap failed
    · cases failure
      exact ⟨beside.mono fun _ => .inr, .inl ⟨_, fun c => by simp only [callee, unhashable], rfl,
        rfl⟩⟩
    · cases made
  · obtain ⟨rfl, beside, ⟨_, -, failure⟩ | ⟨hashable, kept, made⟩⟩ := runs_wrap wrapped
    · cases failure
    · cases made
      obtain ⟨attempts, beside'⟩ := Job.attempts_of_runs runs
      refine ⟨(beside.mono fun _ => .inr).beside (beside'.mono fun _ => .inl),
        .inr ⟨_, fun c later => ?_, attempts⟩⟩
      have since : Later (fun _ => True) (keep h (p.1.consumers i)) c :=
        kept ▸ (beside'.later.mono fun _ _ => trivial).trans later
      rw [callee_of_hashable hashable, since.standIn_of_keep]
      rfl

/-- The handlers of an event run one after another, and no jobs are kept but theirs and those that
others keep. -/
theorem dispatched_of_runs {hs : List Handler} {result : Except Error Unit}
    (runs : (hs.forM (runOne (site i r) e)).Runs (.direct requests (Beside i others)) (tallied i) p
      asked result p') :
    Beside i (fun g => others g ∨ g ∈ hs) p p' ∧
      ∀ c, Later (fun _ => True) (p'.1.consumers i) c →
        Dispatched c.callee (p.1.consumers i).schedule e hs asked result := by
  induction hs generalizing p asked with
  | nil =>
    obtain ⟨rfl, rfl, rfl⟩ := Program.runs_done.mp runs
    exact ⟨refl _, fun _ _ => .finished⟩
  | cons h hs ih =>
    have first {p p'} (beside : Beside i (fun g => others g ∨ g = h) p p') :
        Beside i (fun g => others g ∨ g ∈ h :: hs) p p' :=
      beside.mono fun g => .imp_right fun eq => eq ▸ List.mem_cons_self
    rw [List.forM_eq_forM, List.forM_cons, Program.runs_seq] at runs
    obtain ⟨error, failed, rfl⟩ | ⟨_, p₁, asked₁, asked₂, rfl, succeeded, runs⟩ := runs
    · obtain ⟨beside, ⟨error, uncalled, rfl, failure⟩ | ⟨g, called, attempts⟩⟩ :=
        attempts_of_runOne failed
      · cases failure
        exact ⟨first beside, fun c _ => .uncalled (uncalled c)⟩
      · exact ⟨first beside, fun c later => .stopped (called c later) attempts⟩
    · obtain ⟨beside, ⟨error, -, -, failure⟩ | ⟨g, called, attempts⟩⟩ :=
        attempts_of_runOne succeeded
      · cases failure
      · obtain ⟨beside', rest⟩ := ih runs
        refine ⟨(first beside).beside (beside'.mono fun g => .imp_right (List.mem_cons_of_mem h)),
          fun c later => ?_⟩
        have rest := rest c later
        rw [beside.later.schedule] at rest
        exact .next (called c ((beside'.later.mono fun _ _ => trivial).trans later)) attempts rest

/-- Dispatching an event processes it with the registry as it is at the beginning. -/
theorem processed_of_runs_dispatch {result : Except Error Bool}
    (runs : (Registry.dispatch (registry r) e (runOne (site i r) e)).Runs
      (.direct requests (Beside i others)) (tallied i) p asked result p') :
    Beside i (fun g => others g ∨ g ∈ (p.1.registries r).handlers e.eventType) p p' ∧
      ∀ c, Later (fun _ => True) (p'.1.consumers i) c →
        Processed c.callee (p.1.registries r) (p.1.consumers i).schedule e asked
          (result.map fun _ => ()) := by
  obtain ⟨none, rfl, unhandled, rfl⟩ | ⟨some, all⟩ := Registry.runs_dispatch runs
  · rw [unhandled]
    exact ⟨refl _, fun _ _ => .unhandled none⟩
  · obtain ⟨beside, dispatched⟩ := dispatched_of_runs all
    exact ⟨beside, fun c later => .handled some (dispatched c later)⟩

theorem processed_of_runs {result : Except Error Unit}
    (runs : (process (site i r) e).Runs (.direct requests (Beside i others)) (tallied i) p asked
      result p') :
    Beside i (fun g => others g ∨ g ∈ (p.1.registries r).handlers e.eventType) p p' ∧
      ∀ c, Later (fun _ => True) (p'.1.consumers i) c →
        Processed c.callee (p.1.registries r) (p.1.consumers i).schedule e asked result := by
  rw [process, Program.runs_seq] at runs
  simp only [Program.runs_pure] at runs
  obtain ⟨error, failed, rfl⟩ | ⟨_, _, asked₁, _, rfl, succeeded, rfl, rfl, rfl⟩ := runs
  · exact processed_of_runs_dispatch failed
  · rw [List.append_nil]
    exact processed_of_runs_dispatch succeeded

/-! ### Settling a delivery -/

/-- A delivery is settled by one request, after it has been counted. -/
theorem runs_count_settle {g : ConsumerStats → ConsumerStats} {n : ConsumerStats}
    {settlement : Settlement} {result : Except Error Unit} (hg : ∀ m, g m = m + n)
    (runs : (ask (.settle messageId settlement) : Act Client Unit).Runs
      (.direct requests (Beside i others)) (tallied i)
      ((tallied i).modify ((site i r).consumer.modify (count g)) p) asked result p') :
    asked = [⟨.settle messageId settlement, result⟩] ∧ Counts i others n p p' := by
  obtain ⟨rfl, beside⟩ := Program.runs_perform.mp runs
  exact ⟨rfl, (counts_modify p (fun c => hg c.stats) (later_count g)).beside beside⟩

theorem runs_rejectDelivery {error : Error} {result : Except Error Unit}
    (runs : (rejectDelivery (site i r) c messageId error).Runs (.direct requests (Beside i others))
      (tallied i) p asked result p') :
    asked = [⟨.settle messageId (.reject false), result⟩] ∧
      Counts i others Fate.rejected.outcome p p' := by
  rw [rejectDelivery, change, Program.runs_modify_seq, Program.runs_log_seq] at runs
  refine runs_count_settle (fun n => ?_) runs
  simp [ConsumerStats.add_def, Fate.outcome]

theorem runs_refuseDelivery {error : Error} {result : Except Error Unit}
    (runs : (refuseDelivery (site i r) c messageId e error).Runs
      (.direct requests (Beside i others)) (tallied i) p asked result p') :
    asked = [⟨.settle messageId (.nack c.requeue), result⟩] ∧
      Counts i others Fate.failed.outcome p p' := by
  rw [refuseDelivery, change, Program.runs_modify_seq, Program.runs_log_seq] at runs
  refine runs_count_settle (fun n => ?_) runs
  simp [ConsumerStats.add_def, Fate.outcome]

theorem runs_acknowledgeDelivery {result : Except Error Unit}
    (runs : (acknowledgeDelivery (site i r) messageId).Runs (.direct requests (Beside i others))
      (tallied i) p asked result p') :
    asked = [⟨.settle messageId .acknowledge, result⟩] ∧
      Counts i others Fate.succeeded.outcome p p' := by
  rw [acknowledgeDelivery, change, Program.runs_modify_seq] at runs
  refine runs_count_settle (fun n => ?_) runs
  simp [ConsumerStats.add_def, Fate.outcome]

/-- The handlers whose jobs may be kept by the time an event has been processed. -/
def Newcomers (others : Handler → Prop) (registry : Registry) (e : Envelope) (g : Handler) : Prop :=
  others g ∨ g ∈ registry.handlers e.eventType

/-- A handler that can be hashed and that no other one is equal to: neither one whose job a consumer
keeps, nor one whose job may be kept by the time an event has been processed. -/
structure Unrivalled (c : Consumer) (others : Handler → Prop) (registry : Registry) (e : Envelope)
    (h : Handler) : Prop where
  hashable : h.unhashable = none
  only : ∀ g, g ∈ c.kept ∨ Newcomers others registry e g → h == g → g = h

/-- An unrivalled handler is called itself. -/
theorem Unrivalled.callee_eq {c' : Consumer} {registry : Registry}
    (own : c.Unrivalled others registry e h) (later : c.Later (Newcomers others registry e) c') :
    c'.callee h = .ok h := by
  rw [callee_of_hashable own.hashable, later.standIn_eq_self own.only]

/-- After an event has been processed, a failed delivery is refused, and a cancellation passes. -/
theorem runs_processOrRefuse {result : Except Error Bool}
    (runs : (processOrRefuse (site i r) c messageId e).Runs (.direct requests (Beside i others))
      (tallied i) p asked result p') :
    ∃ processed outcome,
      (∀ c', Later (fun _ => True) (p'.1.consumers i) c' →
        Processed c'.callee (p.1.registries r) (p.1.consumers i).schedule e processed outcome) ∧
        (outcome = .ok () ∧ asked = processed ∧ result = .ok true ∧
            Beside i (Newcomers others (p.1.registries r) e) p p' ∨
          ∃ error, outcome = .error error ∧
            (error.isOrdinary = false ∧ asked = processed ∧ result = .error error ∧
                Beside i (Newcomers others (p.1.registries r) e) p p' ∨
              error.isOrdinary ∧ ∃ settled,
                asked = processed ++ [⟨.settle messageId (.nack c.requeue), settled⟩] ∧
                result = settled.map (fun _ => false) ∧
                Counts i (Newcomers others (p.1.registries r) e) Fate.failed.outcome p p')) := by
  rw [processOrRefuse, Program.runs_inSpan, Program.runs_rescue] at runs
  simp only [Program.runs_seq, Program.runs_pure] at runs
  obtain ⟨_, runs, rfl⟩ | ⟨error, runs, passes, rfl⟩ |
    ⟨error, p₁, asked₁, asked₂, rfl, runs, ordinary, refuses⟩ := runs
  · obtain ⟨_, _, ended⟩ | ⟨_, p₁, asked₁, _, rfl, runs, rfl, ended, rfl⟩ := runs
    · cases ended
    · cases ended
      obtain ⟨beside, processed⟩ := processed_of_runs runs
      rw [List.append_nil]
      exact ⟨asked₁, .ok (), processed, .inl ⟨rfl, rfl, rfl, beside⟩⟩
  · obtain ⟨_, runs, ended⟩ | ⟨_, _, _, _, rfl, _, _, ended, _⟩ := runs
    · cases ended
      obtain ⟨beside, processed⟩ := processed_of_runs runs
      exact ⟨asked, .error error, processed, .inr ⟨error, rfl, .inl ⟨passes, rfl, rfl, beside⟩⟩⟩
    · cases ended
  · obtain ⟨_, runs, ended⟩ | ⟨_, _, _, _, rfl, _, _, ended, _⟩ := runs
    · cases ended
      obtain ⟨beside, processed⟩ := processed_of_runs runs
      have refused : ∃ settled, asked₂ = [⟨.settle messageId (.nack c.requeue), settled⟩] ∧
          result = settled.map (fun _ => false) ∧ Counts i others Fate.failed.outcome p₁ p' := by
        obtain ⟨error', refusal, rfl⟩ | ⟨_, _, asked₃, _, rfl, refusal, rfl, rfl, rfl⟩ := refuses
        · obtain ⟨rfl, counts⟩ := runs_refuseDelivery refusal
          exact ⟨.error error', rfl, rfl, counts⟩
        · obtain ⟨rfl, counts⟩ := runs_refuseDelivery refusal
          exact ⟨.ok _, List.append_nil _, rfl, counts⟩
      obtain ⟨settled, rfl, ended, counts⟩ := refused
      refine ⟨asked₁, .error error, fun c' later => processed c' ?_, .inr ⟨error, rfl,
        .inr ⟨ordinary, settled, rfl, ended, Beside.counts beside (counts.mono fun _ => .inl)⟩⟩⟩
      exact (counts.later.mono fun _ _ => trivial).trans later
    · cases ended

/-- An event is processed, and then its delivery is settled by what has come of it. -/
theorem runs_settle {result : Except Error Unit}
    (runs : (do
      if ← processOrRefuse (site i r) c messageId e then acknowledgeDelivery (site i r) messageId
      else return : Act Client Unit).Runs (.direct requests (Beside i others)) (tallied i) p asked
        result p') :
    ∃ processed outcome last n,
      (∀ c', Later (fun _ => True) (p'.1.consumers i) c' →
        Processed c'.callee (p.1.registries r) (p.1.consumers i).schedule e processed outcome) ∧
        Concluded messageId c.requeue (Fate.ofProcessing outcome) last n ∧
        asked = processed ++ last ∧ Counts i (Newcomers others (p.1.registries r) e) n p p' := by
  rw [Program.runs_seq] at runs
  obtain ⟨error, failed, rfl⟩ | ⟨succeeded, p₁, asked₁, asked₂, rfl, ended, runs⟩ := runs
  · obtain ⟨processed, outcome, events, ⟨-, -, ended, -⟩ | ⟨error', rfl, refused⟩⟩ :=
      runs_processOrRefuse failed
    · cases ended
    · obtain ⟨cancelled, rfl, -, beside⟩ | ⟨ordinary, settled, rfl, -, counts⟩ := refused
      · refine ⟨asked, _, [], {}, events, ?_, (List.append_nil _).symm, beside⟩
        simp [Fate.ofProcessing, cancelled, Concluded]
      · refine ⟨processed, _, _, _, events, ?_, rfl, counts⟩
        rw [Fate.ofProcessing, if_pos ordinary]
        exact ⟨⟨settled, rfl⟩, rfl⟩
  · obtain ⟨processed, outcome, events, ⟨rfl, rfl, all, beside⟩ | ⟨error', rfl, refused⟩⟩ :=
      runs_processOrRefuse ended
    · cases all
      rw [if_pos rfl] at runs
      obtain ⟨rfl, counts⟩ := runs_acknowledgeDelivery runs
      refine ⟨asked₁, _, _, _, fun c' later => events c' ?_, ⟨⟨result, rfl⟩, rfl⟩, rfl,
        Beside.counts beside (counts.mono fun _ => .inl)⟩
      exact (counts.later.mono fun _ _ => trivial).trans later
    · obtain ⟨-, -, none, -⟩ | ⟨ordinary, settled, rfl, none, counts⟩ := refused
      · cases none
      · cases settled with
        | error e' => cases none
        | ok u =>
          cases none
          obtain ⟨rfl, -, rfl⟩ := Program.runs_pure.mp runs
          refine ⟨processed, _, [⟨.settle messageId (.nack c.requeue), .ok u⟩], _, events, ?_,
            List.append_nil _, counts⟩
          rw [Fate.ofProcessing, if_pos ordinary]
          exact ⟨⟨.ok u, rfl⟩, rfl⟩

end Consumer

/-! ### Deliveries -/

namespace Client

/-- Others may do anything to a client, but they leave a consumer its schedule and the jobs that it
keeps, and they make it keep no jobs but those of `others`. -/
def Retains (i : Nat) (others : Handler → Prop) (env : Client.Surroundings) : Prop :=
  ∀ (w : Client.Course) q, (w.state.consumers i).Later others ((env w q).2.consumers i)

section Receive

variable {env : Client.Surroundings} {i r : Nat} {others : Handler → Prop} {w : Client.Course}
  {d : Delivery}

/-- A run beside others, as what the state is and what the consumer has counted. -/
theorem Retains.runs {α : Type} (retains : Retains i others env) (p : Act Client α)
    (w : Client.Course) :
    ∃ asked, (p.run env.host Course.statePart w).2.answers = w.answers ++ asked ∧
      p.Runs (.direct requests (Beside i others)) (tallied i) (w.state, counted i w) asked
        (p.run env.host Course.statePart w).1 ((p.run env.host Course.statePart w).2.state,
          counted i (p.run env.host Course.statePart w).2) := by
  refine Program.runs_of_served (tallyView i) (.direct requests (Beside i others))
    (fun w q => ⟨rfl, ?_, retains w q⟩) p w
  rw [ConsumerStats.add_none]
  exact counted_answer i w q (env w q).1 (env w q).2

/-- A delivery is counted as received, and what the consumer does then runs by its requests. -/
theorem runs_received (retains : Retains i others env) {k : Consumer → Act Client Unit}
    (receives : receive i r d = (do
      Consumer.change (site i r) (Consumer.count fun n => { n with received := n.received + 1 })
      let c ← Consumer.current (site i r)
      k c)) :
    ∃ c p asked result, c.requeue = (w.state.consumers i).requeue ∧
      p.1.registries = w.state.registries ∧
      Counts i others { received := 1 } (w.state, counted i w) p ∧
      (received env i r w d).answers = w.answers ++ asked ∧
      (k c).Runs (.direct requests (Beside i others)) (tallied i) p asked result
        ((received env i r w d).state, counted i (received env i r w d)) := by
  obtain ⟨asked, answers, runs⟩ := retains.runs (receive i r d) w
  change Program.Runs _ _ _ _ _ _
    ((received env i r w d).state, counted i (received env i r w d)) at runs
  generalize ((receive i r d).run env.host Course.statePart w).1 = ended at runs
  rw [receives] at runs
  refine ⟨_, _, asked, ended, ?_, ?_, ?_, answers, runs⟩
  · simp [tallied, site, Lens.modify, consumerPart, Consumer.count]
  · rfl
  · refine counts_modify _ (fun c => ?_) (Consumer.later_count _)
    simp [Consumer.count, ConsumerStats.add_def]

/-- An envelope is processed, and then its delivery is settled by what has come of it. -/
theorem received_envelope (retains : Retains i others env) {e : Envelope}
    (decoded : Envelope.ofBytes d.fresh d.body = .ok e) :
    ∃ asked result last n,
      Processed ((received env i r w d).state.consumers i).callee (w.state.registries r)
        (w.state.consumers i).schedule e asked result ∧
      Concluded d.messageId (w.state.consumers i).requeue (Fate.ofProcessing result) last n ∧
      (received env i r w d).answers = w.answers ++ asked ++ last ∧
      counted i (received env i r w d) = counted i w + { received := 1 } + n ∧
      (w.state.consumers i).Later (Consumer.Newcomers others (w.state.registries r) e)
        ((received env i r w d).state.consumers i) := by
  have receives : receive i r d = (do
      Consumer.change (site i r) (Consumer.count fun n => { n with received := n.received + 1 })
      let c ← Consumer.current (site i r)
      if ← Consumer.processOrRefuse (site i r) c d.messageId e then
        Consumer.acknowledgeDelivery (site i r) d.messageId
      else return) := by simp only [receive, Consumer.receive, decoded]
  obtain ⟨c, p, asked, ended, requeue, registries, begun, answers, runs⟩ :=
    runs_received (w := w) retains receives
  obtain ⟨processed, result, last, n, events, concluded, rfl, counts⟩ := Consumer.runs_settle runs
  have events := events _ (.refl _)
  rw [registries] at events counts
  rw [begun.later.schedule] at events
  rw [requeue] at concluded
  rw [← List.append_assoc] at answers
  exact ⟨processed, result, last, n, events, concluded, answers,
    counts.counted.trans (by rw [begun.counted]),
    (begun.later.mono fun _ => .inl).trans counts.later⟩

/-- A body that is no envelope is rejected. -/
theorem received_undecodable (retains : Retains i others env) {reason : String}
    {issues : List Issue}
    (undecodable : Envelope.ofBytes d.fresh d.body = .error (.undecodable reason issues)) :
    ∃ last n, Concluded d.messageId (w.state.consumers i).requeue (some .rejected) last n ∧
      (received env i r w d).answers = w.answers ++ last ∧
      counted i (received env i r w d) = counted i w + { received := 1 } + n := by
  have receives : receive i r d = (do
      Consumer.change (site i r) (Consumer.count fun n => { n with received := n.received + 1 })
      let c ← Consumer.current (site i r)
      Consumer.rejectDelivery (site i r) c d.messageId (.undecodable reason issues)) := by
    simp only [receive, Consumer.receive, undecodable]
  obtain ⟨c, p, asked, ended, -, -, begun, answers, runs⟩ :=
    runs_received (w := w) retains receives
  obtain ⟨rfl, counts⟩ := Consumer.runs_rejectDelivery runs
  exact ⟨_, _, ⟨⟨ended, rfl⟩, rfl⟩, answers, counts.counted.trans (by rw [begun.counted])⟩

/-- What the handlers do decides what becomes of a delivery. An envelope is processed: the handlers
of its type run one after another up to the first whose job fails, and one request after this
settles the delivery by what has come of it; only a cancellation leaves it unsettled. A body that is
no envelope is rejected, and no handler is called. In all these cases the delivery is counted as
received and by how it was settled.

What is called for a handler is equal to it. It is the handler whose job the consumer has kept since
before the delivery, if there is one, and else it is the handler itself, unless others make the
consumer keep the job of an equal one meanwhile. -/
theorem receive_handles (retains : Retains i others env) (r : Nat) (w : Client.Course)
    (d : Delivery) :
    let before := w.state.consumers i
    let after := (received env i r w d).state.consumers i
    (∀ e, Envelope.ofBytes d.fresh d.body = .ok e →
      (∃ asked result last n,
        Processed after.callee (w.state.registries r) before.schedule e asked result ∧
          Concluded d.messageId before.requeue (Fate.ofProcessing result) last n ∧
          (received env i r w d).answers = w.answers ++ asked ++ last ∧
          counted i (received env i r w d) = counted i w + { received := 1 } + n) ∧
      (∀ h, (∃ g ∈ before.kept, h == g) → after.callee h = before.callee h) ∧
      (Registry.Distinct ((w.state.registries r).handlers e.eventType) →
        ∀ h ∈ (w.state.registries r).handlers e.eventType,
          (∀ g, others g → h == g → g = h) → after.callee h = before.callee h)) ∧
    (∀ reason issues, Envelope.ofBytes d.fresh d.body = .error (.undecodable reason issues) →
      ∃ last n, Concluded d.messageId before.requeue (some .rejected) last n ∧
        (received env i r w d).answers = w.answers ++ last ∧
        counted i (received env i r w d) = counted i w + { received := 1 } + n) ∧
    ∀ h g, after.callee h = .ok g → h.unhashable = none ∧ h == g := by
  intro before after
  refine ⟨fun e decoded => ?_, fun _ _ => received_undecodable retains,
    fun _ _ => Consumer.callee_beq⟩
  obtain ⟨asked, result, last, n, processed, concluded, answers, counts, later⟩ :=
    received_envelope (r := r) (w := w) retains decoded
  refine ⟨⟨asked, result, last, n, processed, concluded, answers, counts⟩,
    fun h there => Consumer.callee_congr (later.standIn_of_kept there),
    fun distinct h member own => Consumer.callee_congr (later.standIn_eq ?_)⟩
  rintro g (other | registered) equal
  · rw [own g other equal]
  · rw [distinct.eq_of_beq member registered equal]

end Receive

/-! ### Equal handlers and cancelled ones -/

/-- Surroundings that do not touch a client leave a consumer the jobs that it keeps. -/
theorem retains_of_still {env : Client.Surroundings} (still : ∀ w q, (env w q).2 = w.state)
    (i : Nat) (others : Handler → Prop) : Retains i others env := by
  intro w q
  rw [still]
  exact .refl _

/-- A handler of invoices. -/
def billing : Handler :=
  { identity := "bill", key := "invoices" }

/-- Another handler of invoices, which is equal to the first. -/
def collecting : Handler :=
  { identity := "collect", key := "invoices" }

/-- A consumer of invoices, with one of two equal handlers for each type. -/
def invoicing : Client.Course where
  state := { waiting.state with
    consumers := fun _ => .create { queueName := "invoices" } { maxRetries := 0 }
    registries := fun _ =>
      { table := [("order.created", [billing]), ("order.paid", [collecting])] } }

/-- An order that has been created. -/
def created : Delivery :=
  ⟨⟨"e1", default⟩, "\x7b\"eventType\":\"order.created\"\x7d".toUTF8, some "m1"⟩

/-- An order that has been paid. -/
def paid : Delivery :=
  ⟨⟨"e2", default⟩, "\x7b\"eventType\":\"order.paid\"\x7d".toUTF8, some "m2"⟩

/-- Which objects have been called, the first first. -/
def calledObjects (asked : List (Answer requests)) : List String :=
  asked.filterMap fun a => match a.request with
    | .handle h _ => some h.identity
    | _ => none

/-- Whatever comes of a job, its handler is called. -/
theorem mem_calledObjects {s : Schedule} {h : Handler} {e : Envelope} {n : Int}
    {asked : List (Answer requests)} {result : Except Error Unit}
    (attempts : Attempts s h e n asked result) : h.identity ∈ calledObjects asked := by
  cases attempts <;> exact List.mem_cons_self

theorem calledObjects_append (asked asked' : List (Answer requests)) :
    calledObjects (asked ++ asked') = calledObjects asked ++ calledObjects asked' :=
  List.filterMap_append

theorem exists_envelope (d : Delivery) (t : String)
    (decodes : (Envelope.ofBytes d.fresh d.body).toOption.map (·.eventType) = some t) :
    ∃ e, Envelope.ofBytes d.fresh d.body = .ok e ∧ e.eventType = t := by
  cases decoded : Envelope.ofBytes d.fresh d.body with
  | ok e => exact ⟨e, rfl, by simpa [decoded, Except.toOption] using decodes⟩
  | error error => simp [decoded, Except.toOption] at decodes

/-- After an order has been created, the handler of created orders is called for a paid one, too. -/
theorem receive_handles_paid :
    let before := received granting 0 0 invoicing created
    let after := received granting 0 0 before paid
    Retains 0 (fun _ => False) granting ∧
      (∃ e asked result last n, Envelope.ofBytes paid.fresh paid.body = .ok e ∧
        Processed (after.state.consumers 0).callee (before.state.registries 0)
          (before.state.consumers 0).schedule e asked result ∧
        Concluded paid.messageId (before.state.consumers 0).requeue (Fate.ofProcessing result) last
          n ∧
        after.answers = before.answers ++ asked ++ last ∧
        counted 0 after = counted 0 before + { received := 1 } + n) ∧
      calledObjects after.answers = ["bill", "bill"] := by
  have retains : Retains 0 (fun _ => False) granting := retains_of_still (fun _ _ => rfl) _ _
  obtain ⟨e, decoded, -⟩ := exists_envelope paid "order.paid" (by decide +kernel)
  have called : calledObjects (received granting 0 0 (received granting 0 0 invoicing created)
      paid).answers = ["bill", "bill"] := by decide +kernel
  generalize received granting 0 0 invoicing created = before at called ⊢
  obtain ⟨asked, result, last, n, handles⟩ :=
    ((receive_handles retains 0 before paid).1 e decoded).1
  exact ⟨retains, ⟨e, asked, result, last, n, decoded, handles⟩, called⟩

/-- Handlers are always cancelled, and all else that is asked for is granted. -/
def cancelledHandlers : Client.Surroundings := fun w r =>
  (match r with
    | .handle .. => .error (.fault .cancelled "stop")
    | r => .ok r.granted, w.state)

/-- It is not true that every job that ends with an error makes its delivery refused: an order whose
handler is cancelled is not settled at all. Nor is it true that every handler that can be hashed is
called itself: for a paid order an equal handler is called, if an order has been created before. -/
theorem receive_leaves_cancelled_and_confuses_equal :
    (¬ ∀ (env : Client.Surroundings) (i r : Nat) (w : Client.Course) (d : Delivery) (e : Envelope),
      Retains i (fun _ => False) env → Envelope.ofBytes d.fresh d.body = .ok e →
      (∀ h ∈ (w.state.registries r).handlers e.eventType, h.unhashable = none) →
      ∃ asked result settled,
        Processed ((received env i r w d).state.consumers i).callee (w.state.registries r)
          (w.state.consumers i).schedule e asked result ∧
        (received env i r w d).answers = w.answers ++ asked ++
          [⟨.settle d.messageId ((if result.isOk then Fate.succeeded else .failed).settlement
            (w.state.consumers i).requeue), settled⟩]) ∧
    ¬ ∀ (env : Client.Surroundings) (i r : Nat) (w : Client.Course) (d : Delivery) (e : Envelope),
      Retains i (fun _ => False) env → Envelope.ofBytes d.fresh d.body = .ok e →
      (∀ h ∈ (w.state.registries r).handlers e.eventType, h.unhashable = none) →
      ∃ asked result last,
        Processed .ok (w.state.registries r) (w.state.consumers i).schedule e asked result ∧
        (received env i r w d).answers = w.answers ++ asked ++ last := by
  constructor
  · intro settles
    obtain ⟨e, decoded, type⟩ := exists_envelope order "order.placed" (by decide +kernel)
    have unsettled : (received cancelledHandlers 0 0 waiting order).answers.all
        fun a => (settlementOf a.request).isNone := by decide +kernel
    obtain ⟨asked, result, settled, -, answers⟩ := settles cancelledHandlers 0 0 waiting order e
      (retains_of_still (fun _ _ => rfl) _ _) decoded (type ▸ by decide)
    rw [answers] at unsettled
    simp [settlementOf] at unsettled
  · intro calls
    obtain ⟨e, decoded, type⟩ := exists_envelope paid "order.paid" (by decide +kernel)
    have called : calledObjects (received granting 0 0 (received granting 0 0 invoicing created)
        paid).answers = ["bill", "bill"] := by decide +kernel
    have row : ((received granting 0 0 invoicing created).state.registries 0).handlers
        "order.paid" = [collecting] := by decide +kernel
    generalize received granting 0 0 invoicing created = before at called row
    rw [← type] at row
    obtain ⟨asked, result, last, processed, answers⟩ := calls granting 0 0 before paid e
      (retains_of_still (fun _ _ => rfl) _ _) decoded (by simp [row, collecting])
    have own : "collect" ∈ calledObjects asked := by
      cases processed with
      | unhandled none => rw [row] at none; cases none
      | handled _ dispatched =>
        rw [row] at dispatched
        cases dispatched with
        | uncalled none => cases none
        | stopped called failed =>
          cases called
          exact mem_calledObjects failed
        | next called succeeded rest =>
          cases called
          rw [calledObjects_append]
          exact List.mem_append_left _ (mem_calledObjects succeeded)
    rw [answers, calledObjects_append, calledObjects_append] at called
    have foreign : "collect" ∈ ["bill", "bill"] :=
      called ▸ List.mem_append_left _ (List.mem_append_right _ own)
    simp at foreign

end Client

end BrokerClient
