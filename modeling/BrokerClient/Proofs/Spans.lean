import BrokerClient.Proofs.Lifecycle

/-!
# Spans of deliveries

A recording tracer notes a span when it is opened. What it has noted and which handlers were called,
in the order in which it happened, are the marks of a course (`Client.marks`). A consumer with
such a tracer adds nothing to them by a delivery that cannot be decoded. By any other delivery it
adds a span of the delivery and then the attempts of one handler after another, each of which is a
span and a call; the attempts of each handler are numbered from zero. The job of a handler may have
been made for an earlier delivery: it has the tracer of the consumer all the same, and it counts its
attempts anew.

What a run adds is put together from what its parts add: `Program.Appends` has one law for each way
to build a program. Whether a part fails makes no difference to these laws, and so it makes none to
the spans.

## Main definitions

* `Program.Appends` — what a run appends to a trace.
* `Client.marks` — the spans that a tracer has noted and the calls of handlers.
* `Client.Attempted`, `Client.Rounds` — the attempts of a handler, and of one handler after another.
* `Client.Recording`, `Client.Recordings` — what a delivery adds, and what deliveries add in turn.

## Main results

* `Client.receive_recorded` — what a consumer with a recording tracer adds by a delivery.
* `Client.deliveries_recorded` — what it adds by deliveries, with as many attempts as calls.
-/

namespace BrokerClient

open Broker Event Retry

/-! ### What a run appends to a trace -/

namespace Program

variable {S : Signature} {ω σ α β γ : Type} {host : Host S ω} {part : Lens ω σ}
  {trace : ω → List γ} {P Q R : List γ → Prop} {w : ω}

/-- However it ends, a run appends something to a trace that is as `P` says. -/
def Appends (host : Host S ω) (part : Lens ω σ) (trace : ω → List γ) (P : List γ → Prop)
    (p : Program S σ α) (w : ω) : Prop :=
  ∃ added, P added ∧ trace (p.run host part w).2 = trace w ++ added

namespace Appends

variable {p : Program S σ α}

theorem done (a : α) (none : P []) : (done a : Program S σ α).Appends host part trace P w :=
  ⟨[], none, (List.append_nil _).symm⟩

theorem fail (e : Error) (none : P []) : (fail e : Program S σ α).Appends host part trace P w :=
  ⟨[], none, (List.append_nil _).symm⟩

theorem ofExcept (r : Except Error α) (none : P []) :
    (ofExcept r : Program S σ α).Appends host part trace P w := by
  cases r with
  | ok a => exact done a none
  | error e => exact fail e none

theorem read {k : σ → Program S σ α} (h : (k (part.get w)).Appends host part trace P w) :
    (Program.read k).Appends host part trace P w :=
  h

theorem mono (h : p.Appends host part trace P w) (imp : ∀ added, P added → Q added) :
    p.Appends host part trace Q w := by
  obtain ⟨added, holds, eq⟩ := h
  exact ⟨added, imp added holds, eq⟩

/-- A signal comes first, and then what the rest of the program appends. -/
theorem emit {x : Signal} {heard : List γ} (hears : trace (host.hear x w) = trace w ++ heard)
    (h : p.Appends host part trace P (host.hear x w))
    (all : ∀ added, P added → Q (heard ++ added)) :
    (Program.emit x p).Appends host part trace Q w := by
  obtain ⟨added, holds, eq⟩ := h
  refine ⟨heard ++ added, all added holds, ?_⟩
  rw [← List.append_assoc, ← hears]
  exact eq

/-- A request appends what its exchange does, whatever is replied. -/
theorem perform {r : S.Request} {asked : List γ}
    (serves : trace (host.serve r w).2 = trace w ++ asked) (all : P asked) :
    (perform r : Program S σ (S.Reply r)).Appends host part trace P w := by
  refine ⟨asked, all, ?_⟩
  rw [← serves]
  change trace ((Program.ofExcept (host.serve r w).1).run host part (host.serve r w).2).2 = _
  cases (host.serve r w).1 <;> rfl

/-- The second part of a sequence runs where the first has ended. It may append nothing, for the
first may fail. -/
theorem seq_run {f : α → Program S σ β} (h : p.Appends host part trace P w)
    (hf : ∀ a, (f a).Appends host part trace Q (p.run host part w).2) (none : Q [])
    (all : ∀ first rest, P first → Q rest → R (first ++ rest)) :
    (p >>= f).Appends host part trace R w := by
  change (p.bind f).Appends host part trace R w
  obtain ⟨first, holds, eq⟩ := h
  rw [Appends, run_bind]
  match p.run host part w, eq, hf with
  | (.ok a, w'), eq, hf =>
    obtain ⟨rest, holds', eq'⟩ := hf a
    refine ⟨first ++ rest, all first rest holds holds', ?_⟩
    rw [← List.append_assoc, ← eq]
    exact eq'
  | (.error e, w'), eq, _ =>
    refine ⟨first ++ [], all first [] holds none, ?_⟩
    rwa [List.append_nil]

theorem seq {f : α → Program S σ β} (h : p.Appends host part trace P w)
    (hf : ∀ a w, (f a).Appends host part trace Q w) (none : Q [])
    (all : ∀ first rest, P first → Q rest → R (first ++ rest)) :
    (p >>= f).Appends host part trace R w :=
  h.seq_run (fun a => hf a _) none all

/-- A first part that appends nothing. -/
theorem silent_seq {f : α → Program S σ β} (h : p.Appends host part trace (· = []) w)
    (hf : ∀ a w, (f a).Appends host part trace P w) (none : P []) :
    (p >>= f).Appends host part trace P w :=
  h.seq hf none fun | _, _, rfl, holds => holds

/-- A second part that appends nothing. -/
theorem seq_silent {f : α → Program S σ β} (h : p.Appends host part trace P w)
    (hf : ∀ a w, (f a).Appends host part trace (· = []) w) :
    (p >>= f).Appends host part trace P w := by
  refine h.seq hf rfl ?_
  rintro first _ holds rfl
  rwa [List.append_nil]

theorem attempt (h : p.Appends host part trace P w) :
    p.attempt.Appends host part trace P w := by
  rwa [Appends, run_attempt]

/-- A recovery that appends nothing. -/
theorem rescue_silent {recover : Error → Program S σ α} (h : p.Appends host part trace P w)
    (hr : ∀ e w, (recover e).Appends host part trace (· = []) w) :
    (p.rescue recover).Appends host part trace P w := by
  refine h.attempt.seq_silent ?_
  rintro (e | a) w'
  · dsimp only
    split
    · exact hr e w'
    · exact fail e rfl
  · exact done a rfl

end Appends

end Program

/-! ### The marks of a course -/

/-- The value of an attribute of a span. -/
def Trace.Span.attribute (s : Trace.Span) (a : Trace.Attribute) : Option Json :=
  s.attributes.bind (List.lookup a.key)

namespace Client

/-- What a recording tracer and the handlers see. -/
inductive Mark
  | opened (span : Trace.Span)
  | called (handler : Handler) (envelope : Envelope)

/-- The mark of a request. -/
def markOf : Request → Option Mark
  | .handle h e => some (.called h e)
  | _ => none

/-- The mark of an entry, to the recording tracer with a name. -/
def markIn (name : String) : Entry requests Client → Option Mark
  | .heard (.spanOpened (.recording n) s) => if n = name then some (.opened s) else none
  | .heard _ => none
  | .exchanged x => markOf x.request

/-- The spans that the recording tracer with a name has noted and the calls of handlers, the first
first. -/
def marks (name : String) (w : Client.Course) : List Mark :=
  w.past.filterMap (markIn name)

@[simp]
theorem marks_answer (name : String) (w : Client.Course) (r : Request)
    (reply : Except Error r.Reply) (s : Client) :
    marks name (w.answer r reply s) = marks name w ++ (markOf r).toList := by
  simp only [marks, Course.answer, List.filterMap_append, List.filterMap_cons,
    List.filterMap_nil, markIn]
  cases markOf r <;> rfl

@[simp]
theorem marks_note (name : String) (w : Client.Course) (x : Signal) :
    marks name (w.note x) = marks name w ++ (markIn name (.heard x)).toList := by
  simp only [marks, Course.note, List.filterMap_append, List.filterMap_cons, List.filterMap_nil]
  cases markIn name (.heard x) <;> rfl

/-! ### What is recorded -/

/-- A span names an envelope. -/
structure Names (e : Envelope) (s : Trace.Span) : Prop where
  eventId : s.attribute .eventId = some (.str e.eventId)
  eventType : s.attribute .eventType = some (.str e.eventType)

/-- The span of a delivery with an envelope. -/
structure IsDelivery (e : Envelope) (s : Trace.Span) : Prop where
  name : s.name = "brokerkit.consume"
  kind : s.kind = .consumer
  envelope : Names e s

/-- The span of an attempt, with its number. -/
structure IsAttempt (h : Handler) (e : Envelope) (n : Int) (s : Trace.Span) : Prop where
  name : s.name = "brokerkit.handler.execute"
  handler : s.attribute .handlerName = some (.str h.name)
  envelope : Names e s
  number : s.attribute .retryAttempt = some (.int n)

/-- The attempts of a handler from a number on: a span for each, and then the call. -/
inductive Attempted (h : Handler) (e : Envelope) : Int → List Mark → Prop
  | ended {n : Int} : Attempted h e n []
  | again {n : Int} {s ms} (span : IsAttempt h e n s) (rest : Attempted h e (n + 1) ms) :
    Attempted h e n (.opened s :: .called h e :: ms)

/-- The attempts of the first few of these handlers, one handler after another. What is attempted
for a handler is a call of this handler, or of another one that is equal to it and stands in for it.
There is an attempt for each of them, and the number of the first attempt is zero. -/
inductive Rounds (e : Envelope) : List Handler → List Mark → Prop
  | ended {hs} : Rounds e hs []
  | next {h g hs first rest} (equal : h == g) (attempted : Attempted g e 0 first)
    (any : first ≠ []) (others : Rounds e hs rest) : Rounds e (h :: hs) (first ++ rest)

/-- What a delivery adds, if the handlers are registered like this. -/
inductive Recording (registry : Registry) (d : Delivery) : List Mark → Prop
  | undecodable {error} (unread : Envelope.ofBytes d.fresh d.body = .error error) :
    Recording registry d []
  | decoded {e s ms} (read : Envelope.ofBytes d.fresh d.body = .ok e) (span : IsDelivery e s)
    (rounds : Rounds e (registry.handlers e.eventType) ms) : Recording registry d (.opened s :: ms)

/-- What deliveries to a consumer add one after another. -/
inductive Recordings (env : Client.Surroundings) (i r : Nat) :
    Client.Course → List Delivery → List (List Mark) → Prop
  | ended {w} : Recordings env i r w [] []
  | next {w d ds ms parts} (first : Recording (w.state.registries r) d ms)
    (rest : Recordings env i r (received env i r w d) ds parts) :
    Recordings env i r w (d :: ds) (ms :: parts)

/-! ### Attempts and calls -/

/-- Whether a mark is the beginning of an attempt. -/
def Mark.isAttempt : Mark → Bool
  | .opened s => s.name == "brokerkit.handler.execute"
  | .called .. => false

/-- Whether a mark is the call of a handler. -/
def Mark.isCall : Mark → Bool
  | .opened _ => false
  | .called .. => true

/-- There are as many attempts as calls. -/
def Paired (ms : List Mark) : Prop :=
  ms.countP Mark.isAttempt = ms.countP Mark.isCall

theorem Paired.append {ms ms' : List Mark} (h : Paired ms) (h' : Paired ms') :
    Paired (ms ++ ms') := by
  rw [Paired, List.countP_append, List.countP_append, h, h']

section Pairs

variable {h : Handler} {e : Envelope} {ms : List Mark}

theorem Attempted.paired {n : Int} (attempted : Attempted h e n ms) : Paired ms := by
  induction attempted with
  | ended => rfl
  | @again n s ms span rest ih =>
    have pair : Paired [.opened s, .called h e] := by
      simp [Paired, Mark.isAttempt, Mark.isCall, span.name]
    exact pair.append ih

theorem Rounds.paired {hs : List Handler} (rounds : Rounds e hs ms) : Paired ms := by
  induction rounds with
  | ended => rfl
  | next equal attempted any others ih => exact attempted.paired.append ih

theorem Recording.paired {registry : Registry} {d : Delivery}
    (recording : Recording registry d ms) : Paired ms := by
  cases recording with
  | undecodable unread => rfl
  | @decoded e s ms read span rounds =>
    have none : Paired [.opened s] := by
      simp [Paired, Mark.isAttempt, Mark.isCall, span.name]
    exact none.append rounds.paired

theorem Recordings.paired {env : Client.Surroundings} {i r : Nat} {w : Client.Course}
    {ds : List Delivery} {parts : List (List Mark)} (recordings : Recordings env i r w ds parts) :
    Paired parts.flatten := by
  induction recordings with
  | ended => rfl
  | next first rest ih => exact first.paired.append ih

end Pairs

/-! ### What programs add -/

section Adding

variable {σ α : Type} {env : Client.Surroundings} {part : Lens Client.Course σ} {name : String}
  {P Q : List Mark → Prop} {w : Client.Course} {e : Envelope}

/-- However it ends, a program adds marks that are as `P` says. -/
abbrev Adds (env : Client.Surroundings) (part : Lens Client.Course σ) (name : String)
    (P : List Mark → Prop) (p : Act σ α) : Client.Course → Prop :=
  p.Appends env.host part (marks name) P

theorem marks_hear_log (name : String) (record : Log.Record) (w : Client.Course) :
    marks name (env.host.hear (.log record) w) = marks name w ++ [] :=
  marks_note name w (.log record)

theorem adds_log (level : Log.Level) (logger : Log.Logger) (message : String)
    (details : List (String × Json)) (none : P []) :
    Adds env part name P (Program.log level logger message details) w :=
  .emit (marks_hear_log ..) (.done () none) fun _ h => h

theorem adds_log_seq {level : Log.Level} {logger : Log.Logger} {message : String}
    {details : List (String × Json)} {f : Unit → Act σ α}
    (h : ∀ w, Adds env part name P (f ()) w) :
    Adds env part name P (Program.log level logger message details >>= f) w :=
  .emit (marks_hear_log ..) (h _) fun _ h => h

theorem adds_logFailure_seq {logger : Log.Logger} {message : String} {error : Error}
    {details : List (String × Json)} {f : Unit → Act σ α}
    (h : ∀ w, Adds env part name P (f ()) w) :
    Adds env part name P (Program.logFailure logger message error details >>= f) w :=
  .emit (marks_hear_log ..) (h _) fun _ h => h

/-- A request adds the call of a handler or nothing. -/
theorem adds_ask (r : Request) (all : P (markOf r).toList) :
    Adds env part name P (ask r) w :=
  .perform (marks_answer ..) all

/-- A span of the recording tracer comes first. -/
theorem adds_inSpan {p : Act σ α} {s : Trace.Span}
    (h : Adds env part name P p (w.note (.spanOpened (.recording name) s)))
    (all : ∀ ms, P ms → Q (.opened s :: ms)) :
    Adds env part name Q (p.inSpan (.recording name) s) w := by
  have heard : marks name (env.host.hear (.spanOpened (.recording name) s) w) =
      marks name w ++ [.opened s] := by
    simp [Surroundings.host, markIn]
  exact .emit heard h all

/-! ### Jobs -/

variable {j : Job} {n : Int}

theorem isAttempt_span (named : j.name = j.handler.name) :
    IsAttempt j.handler e n (j.span e n) where
  name := rfl
  handler := by rw [← named]; rfl
  envelope := ⟨rfl, rfl⟩
  number := rfl

/-- A wait adds nothing. -/
theorem adds_pause (number : Int) : Adds env part name (· = []) (j.pause e number) w := by
  refine .silent_seq (.ofExcept _ rfl) (fun _ _ => ?_) rfl
  exact adds_log_seq fun _ => adds_ask _ rfl

/-- An attempt opens its span and calls the handler, whatever comes of it. -/
theorem adds_attempt_seq (traced : j.tracer = .recording name) (named : j.name = j.handler.name)
    {f : Except Error Unit → Act σ Unit}
    (h : ∀ r w, Adds env part name (Attempted j.handler e (n + 1)) (f r) w) :
    Adds env part name (fun ms => Attempted j.handler e n ms ∧ ms ≠ [])
      ((j.attempt e n).attempt >>= f) w := by
  have once : Adds env part name (· = [.opened (j.span e n), .called j.handler e])
      (j.attempt e n) w := by
    rw [Job.attempt, traced]
    refine adds_inSpan (P := (· = [.called j.handler e])) (adds_ask _ rfl) ?_
    rintro _ rfl
    rfl
  refine once.attempt.seq h .ended ?_
  rintro _ rest rfl attempts
  exact ⟨.again (isAttempt_span named) attempts, List.cons_ne_nil _ _⟩

/-- A job makes attempts, one at least, with numbers from the first on. -/
theorem adds_runFrom (traced : j.tracer = .recording name) (named : j.name = j.handler.name)
    (remaining : Nat) :
    Adds env part name (fun ms => Attempted j.handler e n ms ∧ ms ≠ []) (j.runFrom e remaining n)
      w := by
  induction remaining generalizing n w with
  | zero =>
    rw [Job.runFrom]
    refine adds_log_seq fun w => adds_attempt_seq traced named ?_
    rintro (error | _) w
    · dsimp only
      split
      · exact adds_logFailure_seq fun _ => adds_log_seq fun _ => .fail error .ended
      · exact .fail error .ended
    · exact adds_log _ _ _ _ .ended
  | succ remaining ih =>
    rw [Job.runFrom]
    refine adds_log_seq fun w => adds_attempt_seq traced named ?_
    rintro (error | _) w
    · dsimp only
      split
      · refine adds_logFailure_seq fun w => (adds_pause n).silent_seq (fun _ w => ?_) .ended
        exact ih.mono fun _ h => h.1
      · exact .fail error .ended
    · exact adds_log _ _ _ _ .ended

theorem adds_reportUnregistered (registry : Registry) (none : P []) :
    Adds env part name P (registry.reportUnregistered e) w := by
  unfold Registry.reportUnregistered
  cases registry.unregistered with
  | ignore => exact .done () none
  | error => exact .fail _ none
  | warn => exact adds_log _ _ _ _ none

end Adding

/-! ### The tracer of a consumer -/

section Sparing

variable {α : Type} {env : Client.Surroundings} {w : Client.Course} {i r : Nat}

/-- Changes that spare the tracer of a consumer. -/
def sparingTracer (i : Nat) : Likeness requests Client where
  states := Eq
  changes c _ := ∀ s, ((c s).consumers i).tracer = (s.consumers i).tracer
  asks _ := True

theorem blurs_sparingTracer (i r : Nat) (messageId : Option String) :
    (site i r).Blurs messageId (fun _ => True) (sparingTracer i) where
  settings _ _ same := by rw [same]
  registry _ _ same := by rw [same]
  standIns _ _ _ _ same := by rw [same]
  keeps h _ s := by simp [site]
  counts f _ _ s := by simp [site, Consumer.count]
  handles _ _ := trivial
  sleeps _ := trivial
  settles _ := trivial

/-- A consumer has the same tracer after a program that spares it, if others leave it. -/
theorem tracer_run {p p' : Act Client α} (mirrors : p.Mirrors (sparingTracer i) p')
    (spares : ∀ w q, ((env w q).2.consumers i).tracer = (w.state.consumers i).tracer) :
    ((p.run env.host Course.statePart w).2.state.consumers i).tracer =
      (w.state.consumers i).tracer := by
  let Same (w' : Client.Course) : Prop :=
    (w'.state.consumers i).tracer = (w.state.consumers i).tracer
  have ends : p.Ends env.host Course.statePart (fun _ => Same) (fun _ => Same) w := by
    refine mirrors.ends (fun _ => rfl) ?_ ?_ (fun _ _ same => same) rfl
    · intro c c' spared w' same
      exact (spared w'.state).trans same
    · intro w' q same
      exact (spares w' q).trans same
  exact ends.world

end Sparing

/-! ### Deliveries -/

section Receiving

variable {env : Client.Surroundings} {name : String} {w : Client.Course} {c : Consumer}
  {i r : Nat} {e : Envelope} {messageId : Option String} {d : Delivery} {h : Handler}
  {hs : List Handler}

theorem name_job (c : Consumer) (h : Handler) : (c.job h).name = h.name := by
  simp [Consumer.job, Job.create]

theorem adds_change_seq {α : Type} {P : List Mark → Prop} {g : Consumer → Consumer}
    {f : Unit → Act Client α}
    (h : Adds env Course.statePart name P (f ())
      (Course.statePart.modify ((site i r).consumer.modify g) w)) :
    Adds env Course.statePart name P (Consumer.change (site i r) g >>= f) w :=
  h

theorem adds_current_seq {α : Type} {P : List Mark → Prop} {f : Consumer → Act Client α}
    (h : Adds env Course.statePart name P (f (w.state.consumers i)) w) :
    Adds env Course.statePart name P (Consumer.current (site i r) >>= f) w :=
  h

/-- A handler is run by attempts of its stand-in, and their spans are noted by the tracer of the
consumer. -/
theorem adds_runOne (hashable : h.unhashable = none)
    (traced : (w.state.consumers i).tracer = .recording name) :
    Adds env Course.statePart name
      (fun ms => Attempted ((w.state.consumers i).standIn h) e 0 ms ∧ ms ≠ [])
      (Consumer.runOne (site i r) e h) w := by
  let w' := Course.statePart.modify ((site i r).consumer.modify (Consumer.keep h)) w
  let kept := w'.state.consumers i
  have eq : kept = (w.state.consumers i).keep h := by
    simp [kept, w', Course.statePart, Lens.modify, site, consumerPart]
  unfold Consumer.runOne Consumer.wrap
  rw [hashable]
  change Adds env Course.statePart name _
    (Job.run ((kept.wrapped.lookup h).getD (kept.job h)) e 0) _
  rw [eq, Consumer.wrapped_keep_getD]
  exact adds_runFrom traced (name_job _ _) _

/-- A handler that cannot be hashed is not run at all. -/
theorem runOne_of_unhashable {text : String} (unhashable : h.unhashable = some text) :
    Consumer.runOne (site i r) e h = .fail (.fault .type text) := by
  unfold Consumer.runOne Consumer.wrap
  rw [unhashable]
  rfl

/-- Handlers are run one after another, up to the first that fails. -/
theorem adds_forM
    (spares : ∀ w q, ((env w q).2.consumers i).tracer = (w.state.consumers i).tracer)
    (traced : (w.state.consumers i).tracer = .recording name) :
    Adds env Course.statePart name (Rounds e hs) (hs.forM (Consumer.runOne (site i r) e)) w := by
  induction hs generalizing w with
  | nil => exact .done () .ended
  | cons h hs ih =>
    rw [List.forM_eq_forM, List.forM_cons]
    cases hashed : h.unhashable with
    | some text =>
      rw [runOne_of_unhashable hashed]
      exact .fail _ .ended
    | none =>
      have mirrors : Program.Mirrors (sparingTracer i) (Consumer.runOne (site i r) e h) _ :=
        (blurs_sparingTracer i r none).runOne e fun _ => trivial
      refine (adds_runOne hashed traced).seq_run (fun _ => ih ?_) .ended ?_
      · exact (tracer_run mirrors spares).trans traced
      · rintro first rest ⟨attempts, any⟩ more
        exact .next (Consumer.standIn_beq _ h) attempts any more

/-- An event is dispatched to the handlers that its type has at the beginning. -/
theorem adds_process
    (spares : ∀ w q, ((env w q).2.consumers i).tracer = (w.state.consumers i).tracer)
    (traced : (w.state.consumers i).tracer = .recording name) :
    Adds env Course.statePart name (Rounds e ((w.state.registries r).handlers e.eventType))
      (Consumer.process (site i r) e) w := by
  refine Program.Appends.seq_silent (Program.Appends.read ?_) fun _ _ => .done () rfl
  have here : (site i r).registry (Course.statePart.get w) = w.state.registries r := rfl
  dsimp only
  rw [here]
  cases (w.state.registries r).handlers e.eventType with
  | nil => exact (adds_reportUnregistered _ .ended).seq_silent fun _ _ => .done false rfl
  | cons h hs => exact (adds_forM spares traced).seq_silent fun _ _ => .done true rfl

theorem adds_rejectDelivery (error : Error) :
    Adds env Course.statePart name (· = [])
      (Consumer.rejectDelivery (site i r) c messageId error) w :=
  adds_change_seq (adds_log_seq fun _ => adds_ask _ rfl)

theorem adds_refuseDelivery (error : Error) :
    Adds env Course.statePart name (· = [])
      (Consumer.refuseDelivery (site i r) c messageId e error) w :=
  adds_change_seq (adds_log_seq fun _ => adds_ask _ rfl)

theorem adds_acknowledgeDelivery :
    Adds env Course.statePart name (· = [])
      (Consumer.acknowledgeDelivery (site i r) messageId) w :=
  adds_change_seq (adds_ask _ rfl)

theorem isDelivery_span (c : Consumer) (e : Envelope) : IsDelivery e (c.span e) where
  name := rfl
  kind := rfl
  envelope := ⟨rfl, rfl⟩

/-- A delivery that can be decoded adds its span, and then what the handlers add. -/
theorem adds_processOrRefuse
    (spares : ∀ w q, ((env w q).2.consumers i).tracer = (w.state.consumers i).tracer)
    (traced : (w.state.consumers i).tracer = .recording name) (own : c.tracer = .recording name)
    (read : Envelope.ofBytes d.fresh d.body = .ok e) :
    Adds env Course.statePart name (Recording (w.state.registries r) d)
      (Consumer.processOrRefuse (site i r) c messageId e) w := by
  rw [Consumer.processOrRefuse, own]
  have processes (x : Signal) :
      Adds env Course.statePart name (Rounds e ((w.state.registries r).handlers e.eventType))
        (Consumer.process (site i r) e) (w.note x) :=
    adds_process (w := w.note x) spares traced
  have refuses (error : Error) (w : Client.Course) : Adds env Course.statePart name (· = []) (do
      Consumer.refuseDelivery (site i r) c messageId e error
      return false) w :=
    (adds_refuseDelivery error).seq_silent fun _ _ => .done false rfl
  refine adds_inSpan
    (.rescue_silent ((processes _).seq_silent fun _ _ => .done true rfl) refuses) ?_
  exact fun ms rounds => .decoded read (isDelivery_span c e) rounds

/-- By a delivery, a consumer with a recording tracer adds nothing if the body cannot be decoded,
and else the span of the delivery and the attempts of the handlers. -/
theorem receive_recorded
    (spares : ∀ w q, ((env w q).2.consumers i).tracer = (w.state.consumers i).tracer)
    (traced : (w.state.consumers i).tracer = .recording name) :
    Adds env Course.statePart name (Recording (w.state.registries r) d) (receive i r d) w := by
  rw [receive, Consumer.receive]
  refine adds_change_seq (adds_current_seq ?_)
  -- counting the delivery has changed neither the tracer nor the registries
  let begun := Course.statePart.modify ((site i r).consumer.modify
    (Consumer.count fun n => { n with received := n.received + 1 })) w
  have still : (begun.state.consumers i).tracer = .recording name := by
    simp [begun, site, Course.statePart, Lens.modify, consumerPart, Consumer.count, traced]
  change Adds env Course.statePart name (Recording (begun.state.registries r) d) _ begun
  cases read : Envelope.ofBytes d.fresh d.body with
  | error error =>
    have rejected : Recording (begun.state.registries r) d [] := .undecodable read
    cases error with
    | undecodable reason issues =>
      exact (adds_rejectDelivery _).mono fun _ none => none ▸ rejected
    | _ => exact .fail _ rejected
  | ok e =>
    refine (adds_processOrRefuse spares still still read).seq_silent fun processed _ => ?_
    cases processed with
    | true => exact adds_acknowledgeDelivery
    | false => exact .done () rfl

end Receiving

/-! ### Deliveries one after another -/

section Receptions

variable {env : Client.Surroundings} {name : String} {w : Client.Course} {i r : Nat}

/-- What deliveries to a consumer with a recording tracer add to the spans that its tracer has noted
and to the calls of handlers: part by part, what each delivery adds. There are as many spans of
attempts as calls. -/
theorem deliveries_recorded
    (spares : ∀ w q, ((env w q).2.consumers i).tracer = (w.state.consumers i).tracer)
    (traced : (w.state.consumers i).tracer = .recording name) (r : Nat) (ds : List Delivery) :
    ∃ parts, Recordings env i r w ds parts ∧
      marks name (ds.foldl (received env i r) w) = marks name w ++ parts.flatten ∧
      parts.flatten.countP Mark.isAttempt = parts.flatten.countP Mark.isCall := by
  suffices ∃ parts, Recordings env i r w ds parts ∧
      marks name (ds.foldl (received env i r) w) = marks name w ++ parts.flatten by
    obtain ⟨parts, recordings, eq⟩ := this
    exact ⟨parts, recordings, eq, recordings.paired⟩
  induction ds generalizing w with
  | nil => exact ⟨[], .ended, (List.append_nil _).symm⟩
  | cons d ds ih =>
    have adds : Adds env Course.statePart name (Recording (w.state.registries r) d) (receive i r d)
        w := receive_recorded spares traced
    have mirrors : (receive i r d).Mirrors (sparingTracer i) (receive i r d) :=
      Consumer.receive_mirrors (blurs_sparingTracer i r d.messageId) d.fresh d.body
        fun e _ => (site i r).registers_true _ e
    have still : ((received env i r w d).state.consumers i).tracer = .recording name :=
      (tracer_run mirrors spares).trans traced
    obtain ⟨first, recording, added⟩ := adds
    obtain ⟨parts, recordings, eq⟩ := ih still
    refine ⟨first :: parts, .next recording recordings, ?_⟩
    rw [List.foldl_cons, eq, List.flatten_cons, ← List.append_assoc]
    exact congrArg (· ++ parts.flatten) added

end Receptions

/-- A delivery that is not JSON. -/
def garbled : Delivery :=
  ⟨⟨"e0", default⟩, "order".toUTF8, none⟩

/-- A delivery that cannot be decoded adds nothing, and an order whose handler always fails adds its
span and four attempts, each with its call. -/
theorem deliveries_recorded_failing_order :
    let w := retraced (.recording "spans") waiting
    let w' := [garbled, order].foldl (received failingHandlers 0 0) w
    (∀ w q, ((failingHandlers w q).2.consumers 0).tracer = (w.state.consumers 0).tracer) ∧
      (w.state.consumers 0).tracer = .recording "spans" ∧
      (∃ parts, Recordings failingHandlers 0 0 w [garbled, order] parts ∧
        marks "spans" w' = marks "spans" w ++ parts.flatten ∧
        parts.flatten.countP Mark.isAttempt = parts.flatten.countP Mark.isCall) ∧
      (marks "spans" w').map Mark.isAttempt =
        [false, true, false, true, false, true, false, true, false] := by
  intro w w'
  have spares (w : Client.Course) (q : Request) :
      ((failingHandlers w q).2.consumers 0).tracer = (w.state.consumers 0).tracer := rfl
  have traced : (w.state.consumers 0).tracer = .recording "spans" := rfl
  refine ⟨spares, traced, deliveries_recorded spares traced 0 [garbled, order], ?_⟩
  decide +kernel

end Client

end BrokerClient
