import BrokerClient.Proofs.Mirroring
import BrokerClient.Proofs.Runs
import BrokerClient.Publisher

/-!
# Tracing makes no difference

Publishers and consumers open spans around what they do, and a tracer may do nothing with a span,
note it, or follow it to the end of its block and pass on the error that has ended it. Whatever the
tracers are, the same traffic leads to the same results, the same requests in the same order, the
same log records and the same counters.

Two courses are compared without what is about spans: signals of spans are left out, and tracers are
taken to be silent (`Client.unspanned`). What is around a client must not look at spans either
(`Client.SpanBlind`), for if a handler asked a tracer for its spans, it could do anything with them.

## Main definitions

* `Client.untraced`, `Client.unspanned` — states and courses without tracers and spans.
* `Client.SpanBlind` — surroundings that do not look at spans.
* `Client.Traffic`, `Client.carried` — what is published and delivered, and what comes of it.

## Main results

* `Client.carried_whatever_tracers` — traffic has the same results under any tracers.
-/

namespace BrokerClient

open Broker Channel Connection Event

namespace Publisher

variable {σ : Type} {l : Likeness requests σ} {manager : Lens σ Manager}

section Sending

variable (same : ∀ s s', l.states s s' → manager.get s = manager.get s')
  (changes : ∀ c, l.changes (manager.modify c) (manager.modify c)) (asks : ∀ r, l.asks r)

include same changes asks

theorem sendOnce_mirrors (x : Sending) :
    Program.Mirrors l (sendOnce manager x) (sendOnce manager x) :=
  .seq (.on_self same changes asks _) fun _ =>
    .ensuring (.seq (.perform (asks _)) fun _ => .perform (asks _)) (.on_self same changes asks _)

/-- Sending a message depends on the manager only. -/
theorem sendFrom_mirrors (schedule : Retry.Schedule) (x : Sending) (remaining number : Nat) :
    Program.Mirrors l (sendFrom manager schedule x remaining number)
      (sendFrom manager schedule x remaining number) := by
  have pause (number : Nat) : Program.Mirrors l (pause schedule x number : Act σ Unit)
      (pause schedule x number) :=
    .seq (.ofExcept _) fun _ => .seq (.log _ _ _ _) fun _ => .perform (asks _)
  have once := sendOnce_mirrors same changes asks x
  induction remaining generalizing number with
  | zero =>
    rw [sendFrom]
    refine .seq once.attempt ?_
    rintro (error | _)
    · exact .ite (.seq (.logFailure _ _ _ _) fun _ => .fail error) (.fail error)
    · exact .done ()
  | succ remaining ih =>
    rw [sendFrom]
    refine .seq once.attempt ?_
    rintro (error | _)
    · exact .ite (.seq (.logFailure _ _ _ _) fun _ => .seq (pause number) fun _ => ih _)
        (.fail error)
    · exact .done ()

/-- Publishers that differ in their tracers do the same. -/
theorem publish_mirrors (p : Publisher) (tracer : Trace.Tracer) (e : Envelope)
    (o : PublishOptions) :
    Program.Mirrors l (p.publish manager e o) ({ p with tracer := tracer }.publish manager e o) :=
  .seq (.log _ _ _ _) fun _ => .seq (.ofExcept _) fun _ =>
    .seq (.inSpan (sendFrom_mirrors same changes asks _ _ _ _) _ _ _ _) fun _ => .log _ _ _ _

theorem publishBytes_mirrors (p : Publisher) (exchange routingKey : String) (body : ByteArray)
    (contentType : String) (headers : List (String × Json)) (o : PublishOptions) :
    Program.Mirrors l (p.publishBytes manager exchange routingKey body contentType headers o)
      (p.publishBytes manager exchange routingKey body contentType headers o) :=
  .seq (.ofExcept _) fun _ => sendFrom_mirrors same changes asks _ _ _ _

end Sending

theorem emitLocal_mirrors {registry : σ → Registry}
    (same : ∀ s s', l.states s s' → registry s = registry s') (asks : ∀ r, l.asks r)
    (e : Envelope) : Program.Mirrors l (emitLocal registry e) (emitLocal registry e) :=
  .seq (.log _ _ _ _) fun _ =>
    .seq (Registry.dispatch_mirrors same e fun _ _ _ _ _ => .perform (asks _)) fun _ => .done ()

end Publisher

namespace Consumer

variable {c : Consumer} {h : Handler}

/-- A consumer with another tracer, which is also that of the jobs that it keeps. -/
def retraced (tracer : Trace.Tracer) (c : Consumer) : Consumer :=
  { c with
    tracer := tracer
    wrapped := c.wrapped.map fun p => (p.1, { p.2 with tracer := tracer })
    wrapped_eq := by
      intro p member
      obtain ⟨q, old, rfl⟩ := List.mem_map.mp member
      dsimp only
      rw [c.wrapped_eq q old]
      rfl }

@[simp]
theorem kept_retraced (tracer : Trace.Tracer) (c : Consumer) :
    (c.retraced tracer).kept = c.kept := by
  simp [kept, retraced]

@[simp]
theorem standIn_retraced (tracer : Trace.Tracer) (c : Consumer) (h : Handler) :
    (c.retraced tracer).standIn h = c.standIn h := by
  rw [standIn, standIn, kept_retraced]

/-- To keep a job has nothing to do with tracers. -/
theorem retraced_keep (tracer : Trace.Tracer) (h : Handler) (c : Consumer) :
    (keep h c).retraced tracer = keep h (c.retraced tracer) := by
  unfold keep
  rw [lookup_wrapped, lookup_wrapped, Option.isSome_map, Option.isSome_map, kept_retraced]
  split
  · rfl
  · simp [retraced, job, Retry.Job.create]

end Consumer

namespace Client

/-- A client whose tracers are silent. -/
def untraced (s : Client) : Client :=
  { s with consumers := fun i => (s.consumers i).retraced .silent }

/-- States are alike if they differ in tracers at most. -/
def upToTracers : Likeness requests Client where
  states s s' := s.untraced = s'.untraced
  changes c c' := ∀ s s', s.untraced = s'.untraced → (c s).untraced = (c' s').untraced
  asks _ := True

section Untraced

variable {s s' : Client}

theorem manager_of_untraced (h : s.untraced = s'.untraced) : s.manager = s'.manager :=
  (congrArg manager h :)

theorem registries_of_untraced (h : s.untraced = s'.untraced) : s.registries = s'.registries :=
  (congrArg registries h :)

theorem consumer_of_untraced (h : s.untraced = s'.untraced) (i : Nat) :
    (s.consumers i).retraced .silent = (s'.consumers i).retraced .silent :=
  congrFun (congrArg consumers h) i

theorem stats_of_untraced (h : s.untraced = s'.untraced) (i : Nat) :
    (s.consumers i).stats = (s'.consumers i).stats :=
  (congrArg Consumer.stats (consumer_of_untraced h i) :)

/-- What a consumer changes without looking at its tracer has nothing to do with tracers. -/
theorem untraced_modify (i : Nat) {f : Consumer → Consumer}
    (blind : ∀ c, (f c).retraced .silent = f (c.retraced .silent)) (s : Client) :
    ((consumerPart i).modify f s).untraced = (consumerPart i).modify f s.untraced := by
  simp only [untraced, modify_consumerPart, mk.injEq, true_and, and_true]
  funext j
  obtain rfl | other := eq_or_ne j i
  · simp [blind]
  · simp [Function.update_of_ne other]

/-- A consumer looks at its tracer for spans only. -/
theorem blurs_upToTracers (i r : Nat) (messageId : Option String) :
    (site i r).Blurs messageId (fun _ => True) upToTracers where
  settings s s' h := (congrArg Consumer.settings (consumer_of_untraced h i) :)
  registry s s' h := congrFun (registries_of_untraced h) r
  standIns h _ s s' same := by
    have standIns (s : Client) : (s.untraced.consumers i).standIn h = (s.consumers i).standIn h :=
      Consumer.standIn_retraced _ _ _
    exact (standIns _).symm.trans (same ▸ standIns s')
  keeps h _ s s' same := by
    have blind := Consumer.retraced_keep .silent h
    rw [site, untraced_modify i blind, untraced_modify i blind, same]
  counts f _ _ s s' same := by
    have blind (c : Consumer) : (c.count f).retraced .silent = (c.retraced .silent).count f := rfl
    rw [site, untraced_modify i blind, untraced_modify i blind, same]
  handles _ _ := trivial
  sleeps _ := trivial
  settles _ := trivial

end Untraced

/-! ### Courses without spans -/

/-- An entry without tracers, unless it is about a span. -/
def unspannedEntry : Entry requests Client → Option (Entry requests Client)
  | .heard x => if x.isSpan then none else some (.heard x)
  | .exchanged x =>
    some (.exchanged { x with before := x.before.untraced, after := x.after.untraced })

/-- A course without spans and tracers. -/
def unspanned (w : Client.Course) : Client.Course where
  past := w.past.filterMap unspannedEntry
  state := w.state.untraced

theorem answers_unspanned (w : Client.Course) : (unspanned w).answers = w.answers := by
  simp only [Course.answers, unspanned, List.filterMap_filterMap]
  congr 1
  funext x
  cases x with
  | exchanged x => rfl
  | heard signal =>
    cases signal with
    | log | spanOpened | spanClosed => rfl

theorem unspanned_note {x : Signal} (w : Client.Course) :
    unspanned (w.note x) = if x.isSpan then unspanned w else (unspanned w).note x := by
  cases h : x.isSpan <;> simp [unspanned, Course.note, unspannedEntry, h]

theorem unspanned_answer (w : Client.Course) (r : Request) (reply : Except Error r.Reply)
    (s : Client) : unspanned (w.answer r reply s) = (unspanned w).answer r reply s.untraced := by
  simp [unspanned, Course.answer, unspannedEntry]

/-- What is around a client does not look at spans and tracers. -/
def SpanBlind (env : Client.Surroundings) : Prop :=
  ∀ w w' r, unspanned w = unspanned w' →
    (env w r).1 = (env w' r).1 ∧ (env w r).2.untraced = (env w' r).2.untraced

section Runs

variable {env : Client.Surroundings}

/-- Programs that mirror each other have the same results, and their courses differ in spans and
tracers at most. -/
theorem run_of_mirrors {α : Type} (blind : SpanBlind env) {p p' : Act Client α}
    (mirrors : p.Mirrors upToTracers p') {w w' : Client.Course} (h : unspanned w = unspanned w') :
    (p.run env.host Course.statePart w).1 = (p'.run env.host Course.statePart w').1 ∧
      unspanned (p.run env.host Course.statePart w).2 =
        unspanned (p'.run env.host Course.statePart w').2 := by
  have states {w w' : Client.Course} (h : unspanned w = unspanned w') :
      w.state.untraced = w'.state.untraced := congrArg Course.state h
  have changed {c c' : Client → Client} (alike : upToTracers.changes c c') {w w' : Client.Course}
      (h : unspanned w = unspanned w') :
      unspanned (Course.statePart.modify c w) = unspanned (Course.statePart.modify c' w') :=
    congrArg₂ Course.mk (congrArg Course.past h) (alike _ _ (states h))
  induction mirrors generalizing w w' with
  | done a | fail e => exact ⟨rfl, h⟩
  | read _ ih => exact ih _ _ (states h) h
  | update alike _ ih => exact ih (changed alike h)
  | look alike _ ih => exact ih _ _ (states (changed alike h)) (changed alike h)
  | emit x _ ih =>
    refine ih ?_
    simp only [Surroundings.host, unspanned_note, h]
  | @call r _ _ _ _ ih =>
    obtain ⟨reply, after⟩ := blind w w' r h
    simp only [Program.run, Surroundings.host]
    rw [reply]
    refine ih _ ?_
    rw [unspanned_answer, unspanned_answer, h, after]
  | aside span _ ih =>
    refine ih ?_
    simpa only [Surroundings.host, unspanned_note, if_pos span] using h
  | aside' span _ ih =>
    refine ih ?_
    simpa only [Surroundings.host, unspanned_note, if_pos span] using h

end Runs

/-! ### Traffic -/

/-- What is published or delivered. -/
inductive Traffic
  | publish (publisher : Publisher) (envelope : Envelope) (options : PublishOptions)
  | publishBytes (publisher : Publisher) (exchange routingKey : String) (body : ByteArray)
      (contentType : String) (headers : List (String × Json)) (options : PublishOptions)
  /-- An event within the process. -/
  | emitLocal (registry : Nat) (envelope : Envelope)
  /-- An event within the process that is published as well. -/
  | emitAll (publisher : Publisher) (registry : Nat) (envelope : Envelope)
      (options : PublishOptions)
  | deliver (consumer registry : Nat) (delivery : Delivery)

namespace Traffic

/-- What the client does. -/
def program : Traffic → Act Client Unit
  | publish p e o => p.publish managerPart e o
  | publishBytes p exchange routingKey body contentType headers o =>
    p.publishBytes managerPart exchange routingKey body contentType headers o
  | emitLocal r e => Publisher.emitLocal (registry r) e
  | emitAll p r e o => p.emitAll managerPart (registry r) e o
  | deliver i r d => receive i r d

/-- The same with a silent tracer. -/
def untraced : Traffic → Traffic
  | publish p e o => publish { p with tracer := .silent } e o
  | publishBytes p exchange routingKey body contentType headers o =>
    publishBytes { p with tracer := .silent } exchange routingKey body contentType headers o
  | emitLocal r e => emitLocal r e
  | emitAll p r e o => emitAll { p with tracer := .silent } r e o
  | deliver i r d => deliver i r d

/-- What a client does differs from what it does with a silent tracer in spans at most, from all
states that do not differ in what it looks at. -/
theorem mirrors {l : Likeness requests Client}
    (managers : ∀ s s', l.states s s' → s.manager = s'.manager)
    (registries : ∀ s s', l.states s s' → s.registries = s'.registries)
    (changes : ∀ c, l.changes (managerPart.modify c) (managerPart.modify c))
    (asks : ∀ r, l.asks r)
    (blurs : ∀ i r messageId, (site i r).Blurs messageId (fun _ => True) l) (t : Traffic) :
    t.program.Mirrors l t.untraced.program := by
  have registered (r : Nat) (s s' : Client) (h : l.states s s') : registry r s = registry r s' :=
    congrFun (registries s s' h) r
  cases t with
  | publish p e o => exact p.publish_mirrors managers changes asks .silent e o
  | publishBytes p exchange routingKey body contentType headers o =>
    exact p.publishBytes_mirrors managers changes asks exchange routingKey body contentType headers
      o
  | emitLocal r e => exact Publisher.emitLocal_mirrors (registered r) asks e
  | emitAll p r e o =>
    exact (Publisher.emitLocal_mirrors (registered r) asks e).seq fun _ =>
      p.publish_mirrors managers changes asks .silent e o
  | deliver i r d =>
    exact Consumer.receive_mirrors (blurs i r _) _ _ fun e _ => (site i r).registers_true l e

theorem program_mirrors (t : Traffic) : t.program.Mirrors upToTracers t.untraced.program := by
  refine t.mirrors (fun _ _ => manager_of_untraced) (fun _ _ => registries_of_untraced) ?_
    (fun _ => trivial) blurs_upToTracers
  intro c s s' h
  have managers := manager_of_untraced h
  simp only [modify_managerPart, managers]
  exact congrArg (fun s : Client => { s with manager := c s'.manager }) h

end Traffic

/-- What comes of traffic, one after the other: the results and the course. -/
def carried (env : Client.Surroundings) :
    Client.Course → List Traffic → List (Except Error Unit) × Client.Course
  | w, [] => ([], w)
  | w, t :: ts =>
    let ended := t.program.run env.host Course.statePart w
    let rest := carried env ended.2 ts
    (ended.1 :: rest.1, rest.2)

section Carried

variable {env : Client.Surroundings}

/-- Traffic has the results that it has with silent tracers. -/
theorem carried_untraced (blind : SpanBlind env) {w w' : Client.Course}
    (h : unspanned w = unspanned w') (ts : List Traffic) :
    (carried env w ts).1 = (carried env w' (ts.map Traffic.untraced)).1 ∧
      unspanned (carried env w ts).2 =
        unspanned (carried env w' (ts.map Traffic.untraced)).2 := by
  induction ts generalizing w w' with
  | nil => exact ⟨rfl, h⟩
  | cons t ts ih =>
    obtain ⟨result, course⟩ := run_of_mirrors blind t.program_mirrors h
    obtain ⟨results, courses⟩ := ih course
    exact ⟨congrArg₂ List.cons result results, courses⟩

/-- Whatever the tracers of publishers and consumers are, traffic has the same results, it makes
the client ask for the same in the same order, and it leaves the same counters; in all, the courses
differ in spans and tracers at most. -/
theorem carried_whatever_tracers (blind : SpanBlind env) {w w' : Client.Course}
    (courses : unspanned w = unspanned w') {ts ts' : List Traffic}
    (traffic : ts.map Traffic.untraced = ts'.map Traffic.untraced) :
    (carried env w ts).1 = (carried env w' ts').1 ∧
      (carried env w ts).2.answers = (carried env w' ts').2.answers ∧
      (∀ i, ((carried env w ts).2.state.consumers i).stats =
        ((carried env w' ts').2.state.consumers i).stats) ∧
      unspanned (carried env w ts).2 = unspanned (carried env w' ts').2 := by
  obtain ⟨results, silent⟩ := carried_untraced blind courses ts
  obtain ⟨results', silent'⟩ := carried_untraced blind (w := w') rfl ts'
  rw [traffic] at results silent
  have same := silent.trans silent'.symm
  refine ⟨results.trans results'.symm, ?_, fun i => ?_, same⟩
  · rw [← answers_unspanned, same, answers_unspanned]
  · exact stats_of_untraced (congrArg Course.state same) i

/-- A course with other tracers. -/
def retraced (tracer : Trace.Tracer) (w : Client.Course) : Client.Course :=
  { w with state := { w.state with
      consumers := fun i => (w.state.consumers i).retraced tracer } }

/-- An event that is published, and an order that is delivered. -/
def busyHour (tracer : Trace.Tracer) : List Traffic :=
  [.publish { exchange := "events", tracer := tracer } default {}, .deliver 0 0 order]

/-- An exporting tracer hears of spans, and yet all else is as it is with a silent one. -/
theorem carried_busyHour :
    SpanBlind failingHandlers ∧
      unspanned (retraced .exporting waiting) = unspanned waiting ∧
      (busyHour .exporting).map Traffic.untraced = (busyHour .silent).map Traffic.untraced ∧
      (carried failingHandlers waiting (busyHour .silent)).2.past.length <
        (carried failingHandlers (retraced .exporting waiting) (busyHour .exporting)).2.past.length ∧
      (carried failingHandlers (retraced .exporting waiting) (busyHour .exporting)).1 =
        (carried failingHandlers waiting (busyHour .silent)).1 ∧
      (carried failingHandlers (retraced .exporting waiting) (busyHour .exporting)).2.answers =
        (carried failingHandlers waiting (busyHour .silent)).2.answers := by
  have blind : SpanBlind failingHandlers := fun w w' r h => ⟨rfl, congrArg Course.state h⟩
  have courses : unspanned (retraced .exporting waiting) = unspanned waiting := rfl
  have traffic : (busyHour .exporting).map Traffic.untraced =
      (busyHour .silent).map Traffic.untraced := rfl
  obtain ⟨results, answers, -⟩ := carried_whatever_tracers blind courses traffic
  exact ⟨blind, courses, traffic, by decide +kernel, results, answers⟩

end Carried

end Client

end BrokerClient
