import BrokerClient.Proofs.Handling
import BrokerClient.Proofs.Registering

/-!
# Handlers that change the registry they are dispatched from

A dispatch takes the handlers of its event's type once, when it begins. A handler may register and
unregister handlers, or drop all of them, while it runs; this changes the registry, but not which
handlers the dispatch runs. It runs them in their order up to the first that fails, each of them
decorated first if there is a decorator.

What handlers do is left open: a `Behaviour` gives for each handler, at each point of each course of
events, the calls it makes and how it ends.

## Main definitions

* `Registry.Errand` — what a dispatch asks for: a decorated handler, or the call of one.
* `Registry.Behaviour` — what decorator and handlers do.
* `Registry.Visit` — a handler that has been run, with what it has done.
* `Registry.Call.effect` — what becomes of a registry by a call.

## Main results

* `Registry.Behaviour.run_forM` — the run of any list of handlers.
* `Registry.Behaviour.dispatch_runs_initial` — a dispatch runs the handlers there were at its
  beginning, whatever they do to the registry.
-/

namespace BrokerClient.Registry

open Event

/-! ### Calls made by handlers -/

/-- Surroundings of programs that ask for nothing. -/
def quiet : Surroundings ⟨Empty, Empty.elim⟩ Registry :=
  fun _ r => r.elim

/-- What becomes of a registry by a call, whether it is refused or not. -/
def Call.effect (r : Registry) (c : Call) : Registry :=
  (performed quiet ⟨[], r⟩ c).state

/-- A registry that stands for pairs stands for what becomes of them by calls. -/
theorem Holds.effects {r : Registry} {ps : List (String × Handler)} (holds : r.Holds ps)
    (calls : List Call) : (calls.foldl Call.effect r).Holds (calls.foldl Call.change ps) := by
  induction calls generalizing r ps with
  | nil => exact holds
  | cons c calls ih => exact ih (Holds.performed quiet (w := ⟨[], r⟩) holds c).1

/-! ### What a dispatch asks for -/

/-- What a dispatch asks for. -/
inductive Errand
  | decorate (h : Handler)
  | call (h : Handler) (e : Envelope)

/-- What an errand brings: a decorator gives a handler, and the call of a handler gives nothing. -/
def Errand.Reply : Errand → Type
  | decorate _ => Handler
  | call .. => Unit

/-- The errands of dispatches. -/
def errands : Signature :=
  ⟨Errand, Errand.Reply⟩

/-- Sends for a decorated handler, or calls a handler. -/
def send (x : Errand) : Program errands Registry x.Reply :=
  Program.perform (S := errands) x

/-- Runs a handler, decorated if there is a decorator. -/
def runOne (decorated : Bool) (e : Envelope) (h : Handler) : Program errands Registry Unit :=
  if decorated then do
    let called : Handler ← send (.decorate h)
    send (.call called e)
  else send (.call h e)

/-- What a handler does when it is called: calls of its own, and how it ends. -/
structure Conduct where
  calls : List Call
  result : Except Error Unit

/-- What a decorator makes of handlers, and what handlers do, after any course of events. -/
structure Behaviour where
  decorate : Course errands Registry → Handler → Handler
  act : Course errands Registry → Handler → Envelope → Conduct

/-- A handler that has been run: what was called in its place, and what that has done. -/
structure Visit where
  handler : Handler
  called : Handler
  conduct : Conduct

namespace Visit

variable (decorated : Bool) (e : Envelope)

/-- What is asked for to run a handler. -/
def answers (v : Visit) : List (Answer errands) :=
  if decorated then [⟨.decorate v.handler, .ok v.called⟩, ⟨.call v.called e, v.conduct.result⟩]
  else [⟨.call v.called e, v.conduct.result⟩]

end Visit

namespace Behaviour

variable (b : Behaviour) (decorated : Bool) (e : Envelope)

/-- Surroundings in which decorator and handlers behave in this way. -/
def surroundings : Surroundings errands Registry := fun w r =>
  match r with
  | .decorate h => (.ok (b.decorate w h), w.state)
  | .call h e => ((b.act w h e).result, (b.act w h e).calls.foldl Call.effect w.state)

/-- The course after a handler has been decorated, if there is a decorator. -/
def prepared (w : Course errands Registry) (h : Handler) : Course errands Registry :=
  if decorated then w.answer (.decorate h) (.ok (b.decorate w h)) w.state else w

/-- The visit of a handler after a course. -/
def visit (w : Course errands Registry) (h : Handler) : Visit :=
  let called := if decorated then b.decorate w h else h
  ⟨h, called, b.act (b.prepared decorated w h) called e⟩

/-- The course after the visit of a handler. -/
def visited (w : Course errands Registry) (h : Handler) : Course errands Registry :=
  let v := b.visit decorated e w h
  (b.prepared decorated w h).answer (.call v.called e) v.conduct.result
    (v.conduct.calls.foldl Call.effect w.state)

theorem answers_visited (w : Course errands Registry) (h : Handler) :
    (b.visited decorated e w h).answers =
      w.answers ++ (b.visit decorated e w h).answers decorated e := by
  cases decorated with
  | false => exact Course.answers_answer ..
  | true =>
    refine (Course.answers_answer ..).trans ?_
    refine (congrArg (· ++ _) (Course.answers_answer ..)).trans ?_
    exact List.append_assoc ..

@[simp]
theorem state_visited (w : Course errands Registry) (h : Handler) :
    (b.visited decorated e w h).state =
      (b.visit decorated e w h).conduct.calls.foldl Call.effect w.state :=
  rfl

/-- Running a handler is a visit of it. -/
theorem run_runOne (w : Course errands Registry) (h : Handler) :
    (runOne decorated e h).run b.surroundings.host Course.statePart w =
      ((b.visit decorated e w h).conduct.result, b.visited decorated e w h) := by
  have called (g : Handler) (w : Course errands Registry) :
      (send (.call g e)).run b.surroundings.host Course.statePart w = ((b.act w g e).result,
        w.answer (.call g e) (b.act w g e).result
          ((b.act w g e).calls.foldl Call.effect w.state)) := by
    change (Program.ofExcept (b.act w g e).result).run b.surroundings.host Course.statePart
      (w.answer (.call g e) (b.act w g e).result
        ((b.act w g e).calls.foldl Call.effect w.state)) = _
    cases (b.act w g e).result <;> rfl
  cases decorated with
  | false => exact called h w
  | true => exact called _ _

/-- What there is of visits that run handlers of a list one after another from a course on: each is
what decorator and handlers do after the visits before it. -/
structure Trail (w : Course errands Registry) (visits : List Visit)
    (w' : Course errands Registry) : Prop where
  answers_eq : w'.answers = w.answers ++ visits.flatMap (Visit.answers decorated e)
  state_eq : w'.state = (visits.flatMap (·.conduct.calls)).foldl Call.effect w.state
  made (i : Nat) (v : Visit) : visits[i]? = some v → ∃ w₁ : Course errands Registry,
    w₁.answers = w.answers ++ (visits.take i).flatMap (Visit.answers decorated e) ∧
      w₁.state = ((visits.take i).flatMap (·.conduct.calls)).foldl Call.effect w.state ∧
      v = b.visit decorated e w₁ v.handler

variable {b decorated e} {w w' : Course errands Registry}

theorem Trail.nil : b.Trail decorated e w [] w :=
  ⟨(List.append_nil _).symm, rfl, nofun⟩

/-- Visits from the course after a visit are, with it, visits from the course before it. -/
theorem Trail.cons {h : Handler} {visits : List Visit}
    (trail : b.Trail decorated e (b.visited decorated e w h) visits w') :
    b.Trail decorated e w (b.visit decorated e w h :: visits) w' where
  answers_eq := by
    rw [trail.answers_eq, answers_visited, List.flatMap_cons, List.append_assoc]
  state_eq := by
    rw [trail.state_eq, state_visited, List.flatMap_cons, List.foldl_append]
  made
    | 0, v, found => by
      obtain rfl : b.visit decorated e w h = v := by simpa using found
      exact ⟨w, (List.append_nil _).symm, rfl, rfl⟩
    | i + 1, v, found => by
      obtain ⟨w₁, answers, state, made⟩ := trail.made i v (by simpa using found)
      refine ⟨w₁, ?_, ?_, made⟩
      · rw [answers, answers_visited, List.take_succ_cons, List.flatMap_cons, List.append_assoc]
      · rw [state, state_visited, List.take_succ_cons, List.flatMap_cons, List.foldl_append]

/-- The handlers of a list run one after another up to the first that fails. -/
theorem run_forM (b : Behaviour) (decorated : Bool) (e : Envelope) (hs : List Handler)
    (w : Course errands Registry) :
    let outcome := (hs.forM (runOne decorated e)).run b.surroundings.host Course.statePart w
    ∃ visits rest, visits.map (·.handler) ++ rest = hs ∧
      b.Trail decorated e w visits outcome.2 ∧
      ((rest = [] ∧ (∀ v ∈ visits, v.conduct.result = .ok ()) ∧ outcome.1 = .ok ()) ∨
        ∃ before last error, visits = before ++ [last] ∧
          (∀ v ∈ before, v.conduct.result = .ok ()) ∧ last.conduct.result = .error error ∧
          outcome.1 = .error error) := by
  induction hs generalizing w with
  | nil => exact ⟨[], [], rfl, .nil, .inl ⟨rfl, nofun, rfl⟩⟩
  | cons h hs ih =>
    have first := b.run_runOne decorated e w h
    rw [List.forM_eq_forM, List.forM_cons]
    dsimp only
    rw [show (runOne decorated e h >>= fun _ => forM hs (runOne decorated e)) =
      (runOne decorated e h).bind fun _ => hs.forM (runOne decorated e) from rfl,
      Program.run_bind, first]
    cases ended : (b.visit decorated e w h).conduct.result with
    | error error =>
      exact ⟨[b.visit decorated e w h], hs, rfl, Trail.nil.cons,
        .inr ⟨[], _, error, rfl, nofun, ended, rfl⟩⟩
    | ok =>
      obtain ⟨visits, rest, list, trail, ends⟩ := ih (b.visited decorated e w h)
      refine ⟨b.visit decorated e w h :: visits, rest, congrArg (h :: ·) list, trail.cons, ?_⟩
      obtain ⟨all, succeeded, result⟩ | ⟨before, last, error, rfl, succeeded, failed, result⟩ :=
        ends
      · exact .inl ⟨all, List.forall_mem_cons.mpr ⟨ended, succeeded⟩, result⟩
      · exact .inr ⟨_ :: before, last, error, rfl, List.forall_mem_cons.mpr ⟨ended, succeeded⟩,
          failed, result⟩

/-- No two handlers of a type are equal. -/
theorem distinct_of_prefix {r : Registry} {ps : List (String × Handler)} {t : String}
    {visits : List Visit} {rest : List Handler} (holds : r.Holds ps)
    (list : visits.map (·.handler) ++ rest = r.handlers t) : Distinct (visits.map (·.handler)) :=
  (holds.lists.handlers_distinct t).of_sublist (list ▸ List.sublist_append_left _ _)

/-- Without a handler the registry says what becomes of the event. -/
theorem run_dispatch_of_nil {host : Host errands (Course errands Registry)} {e : Envelope}
    {run : Handler → Program errands Registry Unit} {w : Course errands Registry}
    (none : w.state.handlers e.eventType = []) :
    (dispatch id e run).run host Course.statePart w =
      (do w.state.reportUnregistered e; return false : Program errands Registry Bool).run host
        Course.statePart w := by
  have get : (Course.statePart.get w : Registry) = w.state := rfl
  simp only [dispatch, Program.run, get, id, none]

/-- With a handler all of them run. -/
theorem run_dispatch_of_cons {host : Host errands (Course errands Registry)} {e : Envelope}
    {run : Handler → Program errands Registry Unit} {w : Course errands Registry} {h : Handler}
    {hs : List Handler} (some : w.state.handlers e.eventType = h :: hs) :
    (dispatch id e run).run host Course.statePart w =
      (do (h :: hs).forM run; return true : Program errands Registry Bool).run host
        Course.statePart w := by
  have get : (Course.statePart.get w : Registry) = w.state := rfl
  simp only [dispatch, Program.run, get, id, some]

/-- A dispatch runs the handlers that are registered for the event's type when it begins, in their
order and each once, no two of them equal, up to the first that fails, whatever they do to the
registry in the meantime; each is decorated before, if there is a decorator, and no other is. The
error of a handler that fails is the error of the dispatch; if none fails, all of them have run. The
registry is left with the changes that the handlers have made, in their order. Without a handler
nothing is asked for, and the registry says what becomes of the event. -/
theorem dispatch_runs_initial (b : Behaviour) (decorated : Bool) (e : Envelope)
    (w : Course errands Registry) :
    let initial := w.state.handlers e.eventType
    let outcome := (dispatch id e (runOne decorated e)).run b.surroundings.host Course.statePart w
    (initial = [] → outcome.1 = (w.state.unhandled e).map (fun _ => false) ∧
      outcome.2.answers = w.answers ∧ outcome.2.state = w.state) ∧
    (initial ≠ [] → ∃ visits rest, visits.map (·.handler) ++ rest = initial ∧
      b.Trail decorated e w visits outcome.2 ∧
      ((rest = [] ∧ (∀ v ∈ visits, v.conduct.result = .ok ()) ∧ outcome.1 = .ok true) ∨
        ∃ before last error, visits = before ++ [last] ∧
          (∀ v ∈ before, v.conduct.result = .ok ()) ∧ last.conduct.result = .error error ∧
          outcome.1 = .error error) ∧
      ∀ ps, w.state.Holds ps → Distinct (visits.map (·.handler)) ∧
        outcome.2.state.Holds ((visits.flatMap (·.conduct.calls)).foldl Call.change ps)) := by
  intro initial outcome
  cases registered : initial with
  | nil =>
    refine ⟨fun _ => ?_, fun some => absurd rfl some⟩
    have run : outcome = _ := run_dispatch_of_nil registered
    rw [run]
    unfold reportUnregistered unhandled
    cases w.state.unregistered with
    | ignore | error => exact ⟨rfl, rfl, rfl⟩
    | warn => exact ⟨rfl, Course.answers_note .., rfl⟩
  | cons h hs =>
    refine ⟨nofun, fun _ => ?_⟩
    obtain ⟨visits, rest, list, trail, ends⟩ := b.run_forM decorated e (h :: hs) w
    have run : outcome = _ := (run_dispatch_of_cons registered).trans
      (Program.run_bind ((h :: hs).forM (runOne decorated e)) _ w)
    revert run trail ends
    generalize ((h :: hs).forM (runOne decorated e)).run b.surroundings.host Course.statePart w =
      ran
    intro trail ends run
    have state : outcome.2 = ran.2 := by
      rw [run]
      obtain ⟨_ | _, _⟩ := ran <;> rfl
    have result : outcome.1 = ran.1.map fun _ => true := by
      rw [run]
      obtain ⟨_ | _, _⟩ := ran <;> rfl
    rw [result, state]
    refine ⟨visits, rest, list, trail, ?_, fun ps holds => ⟨?_, ?_⟩⟩
    · obtain ⟨all, succeeded, ended⟩ | ⟨before, last, error, split, succeeded, failed, ended⟩ :=
        ends
      · exact .inl ⟨all, succeeded, by rw [ended]; rfl⟩
      · exact .inr ⟨before, last, error, split, succeeded, failed, by rw [ended]; rfl⟩
    · exact distinct_of_prefix holds (list.trans registered.symm)
    · rw [trail.state_eq]
      exact holds.effects _

end Behaviour

end BrokerClient.Registry
