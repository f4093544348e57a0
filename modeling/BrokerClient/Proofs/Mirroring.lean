import BrokerClient.Consumer
import BrokerClient.Program.Laws
import BrokerClient.Proofs.Deliveries

/-!
# Programs that mirror each other

Two programs mirror each other if, whatever is replied, they do the same: from states that are alike
they send the same requests and write the same log records, they make changes that are alike, and
they end in the same way. Only spans are their own business. One of the two may open and close spans
where the other does nothing.

What it means for states and changes to be alike, and which requests may be sent at all, is left
open in a `Likeness`. So programs that differ can be compared, and a program with itself, run from
states that are not quite the same.

A consumer reads little while it takes a delivery: what it was given when it was made, its registry,
and for the handlers in it whose jobs it keeps. `Consumer.receive_mirrors` says so. Its tracer makes
a difference to spans only.

## Main definitions

* `Likeness`, `Program.Mirrors` — programs that do the same from states that are alike.
* `Consumer.settings` — what a consumer was given when it was made, but for its tracer.
* `Consumer.Site.Blurs` — states that a consumer does not tell apart.

## Main results

* `Program.Mirrors.bind`, `Program.Mirrors.inSpan` — mirrored programs, part by part.
* `Consumer.receive_mirrors` — a delivery is taken in the same way from states that are alike.
-/

namespace BrokerClient

open Broker Event Retry

/-- Whether a signal is about a span. -/
def Signal.isSpan : Signal → Bool
  | log _ => false
  | spanOpened .. | spanClosed .. => true

/-- Which states and which changes count as alike, and which requests may be sent. -/
structure Likeness (S : Signature) (σ : Type) where
  states : σ → σ → Prop
  changes : (σ → σ) → (σ → σ) → Prop
  asks : S.Request → Prop

variable {S : Signature} {σ τ α β : Type}

namespace Program

/-- Two programs that do the same from states that are alike, but for spans. -/
inductive Mirrors (l : Likeness S σ) : Program S σ α → Program S σ α → Prop
  | done (a : α) : Mirrors l (done a) (done a)
  | fail (e : Error) : Mirrors l (fail e) (fail e)
  | read {k k'} (next : ∀ s s', l.states s s' → Mirrors l (k s) (k' s')) :
    Mirrors l (read k) (read k')
  | update {c c' p p'} (alike : l.changes c c') (next : Mirrors l p p') :
    Mirrors l (update c p) (update c' p')
  /-- The first program looks at what it has just made of its state. -/
  | look {c c' k k'} (alike : l.changes c c')
    (next : ∀ s s', l.states (c s) s' → Mirrors l (k (c s)) (k' s')) :
    Mirrors l (update c (read k)) (update c' (read k'))
  | emit (x : Signal) {p p'} (next : Mirrors l p p') : Mirrors l (emit x p) (emit x p')
  | call {r k k'} (may : l.asks r) (next : ∀ reply, Mirrors l (k reply) (k' reply)) :
    Mirrors l (call r k) (call r k')
  /-- The first program notes something about a span. -/
  | aside {x p p'} (span : x.isSpan) (next : Mirrors l p p') : Mirrors l (emit x p) p'
  /-- The second program notes something about a span. -/
  | aside' {x p p'} (span : x.isSpan) (next : Mirrors l p p') : Mirrors l p (emit x p')

/-- To end with what has come of a program is to run it. -/
theorem attempt_bind_ofExcept (p : Program S σ α) : p.attempt.bind ofExcept = p := by
  induction p with
  | done a | fail e => rfl
  | read k ih => exact congrArg Program.read (funext ih)
  | update c p ih => exact congrArg (Program.update c) ih
  | emit x p ih => exact congrArg (Program.emit x) ih
  | call r k ih => exact congrArg (Program.call r) (funext ih)

namespace Mirrors

variable {l : Likeness S σ} {p p' : Program S σ α}

theorem bind {f f' : α → Program S σ β} (h : Mirrors l p p') (hf : ∀ a, Mirrors l (f a) (f' a)) :
    Mirrors l (p.bind f) (p'.bind f') := by
  induction h with
  | done a => exact hf a
  | fail e => exact .fail e
  | read _ ih => exact .read ih
  | update alike _ ih => exact .update alike ih
  | look alike _ ih => exact .look alike ih
  | emit x _ ih => exact .emit x ih
  | call may _ ih => exact .call may ih
  | aside span _ ih => exact .aside span ih
  | aside' span _ ih => exact .aside' span ih

theorem seq {f f' : α → Program S σ β} (h : Mirrors l p p') (hf : ∀ a, Mirrors l (f a) (f' a)) :
    Mirrors l (p >>= f) (p' >>= f') :=
  h.bind hf

theorem attempt (h : Mirrors l p p') : Mirrors l p.attempt p'.attempt := by
  induction h with
  | done a | fail e => exact .done _
  | read _ ih => exact .read ih
  | update alike _ ih => exact .update alike ih
  | look alike _ ih => exact .look alike ih
  | emit x _ ih => exact .emit x ih
  | call may _ ih => exact .call may ih
  | aside span _ ih => exact .aside span ih
  | aside' span _ ih => exact .aside' span ih

theorem ofExcept (r : Except Error α) : Mirrors l (ofExcept r) (Program.ofExcept r) := by
  cases r with
  | ok a => exact .done a
  | error e => exact .fail e

theorem ite {P : Prop} [Decidable P] {q q' : Program S σ α} (h : Mirrors l p p')
    (h' : Mirrors l q q') : Mirrors l (if P then p else q) (if P then p' else q') := by
  split
  · exact h
  · exact h'

theorem rescue {recover recover' : Error → Program S σ α} (h : Mirrors l p p')
    (hr : ∀ e, Mirrors l (recover e) (recover' e)) :
    Mirrors l (p.rescue recover) (p'.rescue recover') := by
  refine h.attempt.bind ?_
  rintro (e | a)
  · exact .ite (hr e) (.fail e)
  · exact .done a

theorem ensuring {last last' : Program S σ Unit} (h : Mirrors l p p') (hl : Mirrors l last last') :
    Mirrors l (p.ensuring last) (p'.ensuring last') :=
  h.attempt.bind fun r => hl.bind fun _ => .ofExcept r

theorem log (level : Log.Level) (logger : Log.Logger) (message : String)
    (details : List (String × Json)) :
    Mirrors l (log level logger message details) (Program.log level logger message details) :=
  .emit _ (.done ())

theorem logFailure (logger : Log.Logger) (message : String) (error : Error)
    (details : List (String × Json)) :
    Mirrors l (logFailure logger message error details)
      (Program.logFailure logger message error details) :=
  .emit _ (.done ())

theorem modify {c c' : σ → σ} (alike : l.changes c c') :
    Mirrors l (modify c) (Program.modify c') :=
  .update alike (.done ())

theorem perform {r : S.Request} (may : l.asks r) : Mirrors l (perform r) (Program.perform r) :=
  .call may .ofExcept

theorem forM {f f' : β → Program S σ Unit} {bs : List β}
    (h : ∀ b ∈ bs, Mirrors l (f b) (f' b)) : Mirrors l (bs.forM f) (bs.forM f') := by
  induction bs with
  | nil => exact .done ()
  | cons b bs ih =>
    obtain ⟨first, rest⟩ := List.forall_mem_cons.mp h
    rw [List.forM_eq_forM, List.forM_cons, List.forM_cons]
    exact first.seq fun _ => ih rest

/-- What the end of a span adds to a program is about that span only. -/
theorem spanned (h : Mirrors l p p') (tracer : Trace.Tracer) (span : Trace.Span) :
    Mirrors l (p.inSpan tracer span) p' := by
  cases tracer with
  | silent => exact h
  | recording name => exact .aside rfl h
  | exporting =>
    rw [← attempt_bind_ofExcept p']
    refine .aside rfl (h.attempt.bind ?_)
    rintro (e | a)
    · exact .aside rfl (.fail e)
    · exact .aside rfl (.done a)

theorem spanned' (h : Mirrors l p p') (tracer : Trace.Tracer) (span : Trace.Span) :
    Mirrors l p (p'.inSpan tracer span) := by
  cases tracer with
  | silent => exact h
  | recording name => exact .aside' rfl h
  | exporting =>
    rw [← attempt_bind_ofExcept p]
    refine .aside' rfl (h.attempt.bind ?_)
    rintro (e | a)
    · exact .aside' rfl (.fail e)
    · exact .aside' rfl (.done a)

/-- Spans of any two tracers around programs make no difference. -/
theorem inSpan (h : Mirrors l p p') (tracer tracer' : Trace.Tracer) (span span' : Trace.Span) :
    Mirrors l (p.inSpan tracer span) (p'.inSpan tracer' span') :=
  (h.spanned' tracer' span').spanned tracer span

/-- A program on a part mirrors itself if states that are alike do not differ in this part. -/
theorem on_self {part : Lens σ τ} (same : ∀ s s', l.states s s' → part.get s = part.get s')
    (changes : ∀ c, l.changes (part.modify c) (part.modify c)) (asks : ∀ r, l.asks r)
    (p : Program S τ α) : Mirrors l (p.on part) (p.on part) := by
  induction p with
  | done a => exact .done a
  | fail e => exact .fail e
  | read k ih =>
    refine .read fun s s' alike => ?_
    rw [same s s' alike]
    exact ih _
  | update c p ih => exact .update (changes c) ih
  | emit x p ih => exact .emit x ih
  | call r k ih => exact (Mirrors.perform (asks r)).attempt.bind ih

end Mirrors

end Program

/-! ### Jobs -/

namespace Retry.Job

variable {l : Likeness requests σ}

/-- Jobs that differ in their tracers do the same. -/
theorem runFrom_mirrors (handles : ∀ h e, l.asks (.handle h e)) (sleeps : ∀ x, l.asks (.sleep x))
    (j : Job) (tracer : Trace.Tracer) (e : Envelope) (remaining : Nat) (number : Int) :
    Program.Mirrors l (j.runFrom e remaining number)
      ({ j with tracer := tracer }.runFrom e remaining number) := by
  have attempt (number : Int) : Program.Mirrors l (j.attempt e number)
      ({ j with tracer := tracer }.attempt e number) :=
    .inSpan (.perform (handles _ _)) _ _ _ _
  have pause (number : Int) : Program.Mirrors l (j.pause e number)
      ({ j with tracer := tracer }.pause e number) :=
    .seq (.ofExcept _) fun _ => .seq (.log _ _ _ _) fun _ => .perform (sleeps _)
  induction remaining generalizing number with
  | zero =>
    rw [runFrom, runFrom]
    refine .seq (.log _ _ _ _) fun _ => .seq (attempt number).attempt ?_
    rintro (error | _)
    · refine .ite ?_ (.fail error)
      exact .seq (.logFailure _ _ _ _) fun _ => .seq (.log _ _ _ _) fun _ => .fail error
    · exact .log _ _ _ _
  | succ remaining ih =>
    rw [runFrom, runFrom]
    refine .seq (.log _ _ _ _) fun _ => .seq (attempt number).attempt ?_
    rintro (error | _)
    · refine .ite ?_ (.fail error)
      exact .seq (.logFailure _ _ _ _) fun _ => .seq (pause number) fun _ => ih _
    · exact .log _ _ _ _

end Retry.Job

/-! ### Deliveries -/

namespace Registry

variable {l : Likeness requests σ}

/-- An event is dispatched in the same way if the handlers that are registered in one of the states
are run in the same way. -/
theorem dispatch_mirrors {registry : σ → Registry} {run run' : Handler → Act σ Unit}
    (same : ∀ s s', l.states s s' → registry s = registry s') (e : Envelope)
    (h : ∀ s s', l.states s s' → ∀ h ∈ (registry s').handlers e.eventType,
      Program.Mirrors l (run h) (run' h)) :
    Program.Mirrors l (dispatch registry e run) (dispatch registry e run') := by
  have unregistered (r : Registry) : Program.Mirrors l (r.reportUnregistered e : Act σ Unit)
      (r.reportUnregistered e) := by
    unfold reportUnregistered
    cases r.unregistered with
    | ignore => exact .done ()
    | error => exact .fail _
    | warn => exact .log _ _ _ _
  refine .read fun s s' alike => ?_
  have h := h s s' alike
  rw [same s s' alike]
  dsimp only
  cases row : (registry s').handlers e.eventType with
  | nil => exact .seq (unregistered _) fun _ => .done false
  | cons handler hs => exact .seq (.forM (row ▸ h)) fun _ => .done true

end Registry

namespace Consumer

/-- What a consumer was given when it was made, but for its tracer. -/
def settings (c : Consumer) : Consumer :=
  .create c.options c.schedule c.requeue

@[simp]
theorem settings_keep (h : Handler) (c : Consumer) : (keep h c).settings = c.settings := by
  unfold keep
  split <;> rfl

/-- In states that are like another one, the handlers of an event that can be hashed are as `runs`
says. -/
def Site.Registers (site : Site σ) (l : Likeness requests σ) (runs : Handler → Prop)
    (e : Envelope) : Prop :=
  ∀ s s', l.states s s' → ∀ h ∈ (site.registry s').handlers e.eventType, h.unhashable = none →
    runs h

/-- States that are alike for a consumer that takes the delivery of a message: they differ neither
in what it was given when it was made nor in its registry, nor in the handlers that stand in for
those that it runs. -/
structure Site.Blurs (site : Site σ) (messageId : Option String) (runs : Handler → Prop)
    (l : Likeness requests σ) : Prop where
  settings : ∀ s s', l.states s s' →
    (site.consumer.get s).settings = (site.consumer.get s').settings
  registry : ∀ s s', l.states s s' → site.registry s = site.registry s'
  standIns : ∀ h, runs h → ∀ s s', l.states (site.consumer.modify (keep h) s) s' →
    (site.consumer.get (site.consumer.modify (keep h) s)).standIn h =
      (site.consumer.get s').standIn h
  keeps : ∀ h, runs h →
    l.changes (site.consumer.modify (keep h)) (site.consumer.modify (keep h))
  counts : ∀ (f : ConsumerStats → ConsumerStats) (d : ConsumerStats), (∀ n, f n = n + d) →
    l.changes (site.consumer.modify (count f)) (site.consumer.modify (count f))
  handles : ∀ h e, l.asks (.handle h e)
  sleeps : ∀ x, l.asks (.sleep x)
  settles : ∀ x, l.asks (.settle messageId x)

variable {site : Site σ} {messageId : Option String} {runs : Handler → Prop}
  {l : Likeness requests σ} {c c' : Consumer}

theorem Site.registers_true (site : Site σ) (l : Likeness requests σ) (e : Envelope) :
    site.Registers l (fun _ => True) e :=
  fun _ _ _ _ _ _ => trivial

/-- The job of a handler depends on the settings of its consumer, and on the tracer. -/
theorem job_of_settings (same : c.settings = c'.settings) (h : Handler) :
    c'.job h = { c.job h with tracer := c'.tracer } := by
  have schedule : c.schedule = c'.schedule := (congrArg Consumer.schedule same :)
  simp only [job, Job.create, schedule]

namespace Site.Blurs

/-- A handler is run in the same way: in both states its stand-in is. -/
theorem runOne (b : site.Blurs messageId runs l) (e : Envelope) {h : Handler}
    (may : h.unhashable = none → runs h) :
    Program.Mirrors l (runOne site e h) (Consumer.runOne site e h) := by
  unfold Consumer.runOne wrap
  cases hashed : h.unhashable with
  | some text => exact .fail _
  | none =>
    refine .look (b.keeps h (may hashed)) fun s s' alike => ?_
    change Program.Mirrors l
      (Job.run (((site.consumer.get (site.consumer.modify (keep h) s)).wrapped.lookup h).getD _) e
        0)
      (Job.run (((site.consumer.get s').wrapped.lookup h).getD _) e 0)
    rw [wrapped_getD, wrapped_getD, b.standIns h (may hashed) s s' alike,
      job_of_settings (b.settings _ s' alike)]
    exact Job.runFrom_mirrors b.handles b.sleeps _ _ _ _ _

theorem process (b : site.Blurs messageId runs l) (e : Envelope)
    (registers : site.Registers l runs e) :
    Program.Mirrors l (process site e) (Consumer.process site e) := by
  refine .seq (Registry.dispatch_mirrors b.registry e fun s s' alike h member => ?_) fun _ =>
    .done ()
  exact b.runOne e (registers s s' alike h member)

theorem rejectDelivery (b : site.Blurs messageId runs l) (same : c.settings = c'.settings)
    (error : Error) : Program.Mirrors l (rejectDelivery site c messageId error)
      (Consumer.rejectDelivery site c' messageId error) := by
  have options : c.options = c'.options := (congrArg Consumer.options same :)
  unfold Consumer.rejectDelivery queueDetail queueName
  rw [options]
  refine .seq (.modify (b.counts _ Fate.rejected.outcome fun n => ?_)) fun _ =>
    .seq (.log _ _ _ _) fun _ => .perform (b.settles _)
  simp [ConsumerStats.add_def, Fate.outcome]

theorem refuseDelivery (b : site.Blurs messageId runs l) (same : c.settings = c'.settings)
    (e : Envelope) (error : Error) : Program.Mirrors l (refuseDelivery site c messageId e error)
      (Consumer.refuseDelivery site c' messageId e error) := by
  have options : c.options = c'.options := (congrArg Consumer.options same :)
  have requeue : c.requeue = c'.requeue := (congrArg Consumer.requeue same :)
  unfold Consumer.refuseDelivery queueDetail queueName
  rw [options, requeue]
  refine .seq (.modify (b.counts _ Fate.failed.outcome fun n => ?_)) fun _ =>
    .seq (.log _ _ _ _) fun _ => .perform (b.settles _)
  simp [ConsumerStats.add_def, Fate.outcome]

theorem acknowledgeDelivery (b : site.Blurs messageId runs l) :
    Program.Mirrors l (acknowledgeDelivery site messageId)
      (Consumer.acknowledgeDelivery site messageId) := by
  refine .seq (.modify (b.counts _ Fate.succeeded.outcome fun n => ?_)) fun _ =>
    .perform (b.settles _)
  simp [ConsumerStats.add_def, Fate.outcome]

theorem processOrRefuse (b : site.Blurs messageId runs l) (same : c.settings = c'.settings)
    (e : Envelope) (registers : site.Registers l runs e) :
    Program.Mirrors l (processOrRefuse site c messageId e)
      (Consumer.processOrRefuse site c' messageId e) :=
  .inSpan (.rescue (.seq (b.process e registers) fun _ => .done true) fun error =>
    .seq (b.refuseDelivery same e error) fun _ => .done false) _ _ _ _

end Site.Blurs

/-- From states that a consumer does not tell apart, it does the same with a delivery. -/
theorem receive_mirrors (b : site.Blurs messageId runs l) (fresh : Fresh) (body : ByteArray)
    (registers : ∀ e, Envelope.ofBytes fresh body = .ok e → site.Registers l runs e) :
    Program.Mirrors l (receive site fresh body messageId) (receive site fresh body messageId) := by
  refine .seq (.modify (b.counts _ { received := 1 } fun n => ?_)) fun _ =>
    .read fun s s' alike => ?_
  · simp [ConsumerStats.add_def]
  · have same := b.settings s s' alike
    simp only [Program.done_bind]
    split
    · exact b.rejectDelivery same _
    · exact .fail _
    · rename_i e decoded
      exact .seq (b.processOrRefuse same e (registers e decoded)) fun _ =>
        .ite b.acknowledgeDelivery (.done ())

end Consumer

end BrokerClient
