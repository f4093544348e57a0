import BrokerClient.Proofs.Running

/-!
# Courses of events

The course of events is what has happened so far, the first first, with the state that it has led
to. A request is noted with its reply and with the states before and after it, because other
programs may change the state while a program waits for a reply.

The surroundings of a program are any function that replies to a request and gives the state to go
on with. They know the whole course up to the request, so every pattern of failures and every
behaviour of what is outside the program is such a function.

## Main definitions

* `Exchange`, `Entry`, `Course` — what happens, and the course of it.
* `Surroundings` — replies to requests.
* `Surroundings.host` — surroundings as a host that writes down the course.
-/

namespace BrokerClient

/-- A request with its reply, and the states before and after it. -/
structure Exchange (S : Signature) (σ : Type) where
  request : S.Request
  reply : Except Error (S.Reply request)
  before : σ
  after : σ

/-- What happens in a run. -/
inductive Entry (S : Signature) (σ : Type)
  | heard (signal : Signal)
  | exchanged (exchange : Exchange S σ)

/-- What has happened so far, the first first, and the state that it has led to. -/
structure Course (S : Signature) (σ : Type) where
  past : List (Entry S σ) := []
  state : σ

/-- Replies to a request after a course, with the state to go on with. -/
def Surroundings (S : Signature) (σ : Type) : Type :=
  Course S σ → (r : S.Request) → Except Error (S.Reply r) × σ

variable {S : Signature} {σ τ : Type}

namespace Course

/-- The state of a course. -/
def statePart : Lens (Course S σ) σ :=
  ⟨(·.state), fun s w => { w with state := s }⟩

/-- The course after a request. -/
def answer (w : Course S σ) (r : S.Request) (reply : Except Error (S.Reply r)) (s : σ) :
    Course S σ :=
  { past := w.past ++ [.exchanged ⟨r, reply, w.state, s⟩], state := s }

/-- The course after a signal. -/
def note (x : Signal) (w : Course S σ) : Course S σ :=
  { w with past := w.past ++ [.heard x] }

/-- The part of a part of the state. -/
def on (inner : Lens σ τ) : Lens (Course S σ) τ :=
  statePart.andThen inner

@[simp]
theorem get_on (inner : Lens σ τ) (w : Course S σ) : (on inner).get w = inner.get w.state :=
  rfl

@[simp]
theorem modify_on (inner : Lens σ τ) (f : τ → τ) (w : Course S σ) :
    (on inner).modify f w = { w with state := inner.modify f w.state } :=
  rfl

end Course

namespace Surroundings

/-- Surroundings as a host that writes down the course. -/
def host (env : Surroundings S σ) : Host S (Course S σ) where
  serve r w := ((env w r).1, w.answer r (env w r).1 (env w r).2)
  hear := Course.note

/-- Nothing is cancelled: only ordinary errors are replied. -/
def Ordinary (env : Surroundings S σ) : Prop :=
  ∀ w r e, (env w r).1 = .error e → e.isOrdinary

end Surroundings

namespace Program

variable {env : Surroundings S σ} {part : Lens (Course S σ) τ}

/-- A request ends well if every reply that the surroundings may give does. -/
theorem ends_request {r : S.Request} {ok : S.Reply r → Course S σ → Prop}
    {err : Error → Course S σ → Prop} {w : Course S σ}
    (hok : ∀ a, (env w r).1 = .ok a → ok a (w.answer r (.ok a) (env w r).2))
    (herr : ∀ e, (env w r).1 = .error e → err e (w.answer r (.error e) (env w r).2)) :
    (perform r : Program S τ (S.Reply r)).Ends env.host part ok err w := by
  rw [ends_perform]
  simp only [Surroundings.host]
  cases h : (env w r).1 with
  | ok a => exact hok a h
  | error e => exact herr e h

/-- A request keeps what its exchange does not touch. -/
theorem Keeps.perform {I : Course S σ → Prop} (henv : env.Ordinary) {r : S.Request}
    (h : ∀ w reply s, I w → I (w.answer r reply s)) :
    (perform r : Program S τ (S.Reply r)).Keeps env.host part I :=
  fun w hw => ends_request (fun _ _ => h w _ _ hw) fun e he => ⟨h w _ _ hw, henv w r e he⟩

end Program

end BrokerClient
