import BrokerClient.Log
import BrokerClient.Trace.Span

/-!
# Programs

A program is a tree of what it does next: it reads or changes its state, emits a signal, or sends
a request and goes on with the reply. Everything between two requests happens in one go; only at a
request may other programs run in between. What requests there are is a `Signature`, and the state
is a type of the program's own, so that a small program can be embedded in a larger one
(`within`).

A request may fail, and so may a program. `attempt` turns a failure into a value, `rescue` recovers
from ordinary errors and lets a cancellation pass, and `ensuring` runs a last step in either case.

## Main definitions

* `Program` — programs with requests, a state and a result.
* `Program.within` — a program on a part of a larger state.
* `Program.attempt`, `Program.rescue`, `Program.ensuring` — what happens after a failure.
* `Program.inSpan` — a program inside a span.
-/

namespace BrokerClient

/-- The requests that programs may send, and what each is replied with. -/
structure Signature where
  Request : Type
  Reply : Request → Type

/-- What a program lets others know while it runs. -/
inductive Signal
  | log (record : Log.Record)
  | spanOpened (tracer : Trace.Tracer) (span : Trace.Span)
  | spanClosed (tracer : Trace.Tracer) (span : Trace.Span) (error : Option Error)

/-- Programs with requests of `S`, a state of type `σ` and a result of type `α`. -/
inductive Program (S : Signature) (σ : Type) (α : Type) where
  | done (result : α)
  | fail (error : Error)
  | read (next : σ → Program S σ α)
  | update (change : σ → σ) (next : Program S σ α)
  | emit (signal : Signal) (next : Program S σ α)
  | call (request : S.Request) (next : Except Error (S.Reply request) → Program S σ α)

/-- A part of a state that can be read and replaced. -/
structure Lens (σ τ : Type) where
  get : σ → τ
  set : τ → σ → σ

/-- The part of a part. -/
def Lens.andThen {σ τ υ : Type} (outer : Lens σ τ) (inner : Lens τ υ) : Lens σ υ where
  get s := inner.get (outer.get s)
  set u s := outer.set (inner.set u (outer.get s)) s

/-- Changes a part. -/
def Lens.modify {σ τ : Type} (part : Lens σ τ) (change : τ → τ) (s : σ) : σ :=
  part.set (change (part.get s)) s

namespace Program

variable {S T : Signature} {σ τ α β : Type}

/-- Runs a program and then the one that its result gives. -/
protected def bind : Program S σ α → (α → Program S σ β) → Program S σ β
  | done a, f => f a
  | fail e, _ => fail e
  | read k, f => read fun s => (k s).bind f
  | update c p, f => update c (p.bind f)
  | emit x p, f => emit x (p.bind f)
  | call r k, f => call r fun reply => (k reply).bind f

instance : Monad (Program S σ) where
  pure := done
  bind := Program.bind

/-- Runs a program and gives its failure as a value. -/
def attempt : Program S σ α → Program S σ (Except Error α)
  | done a => done (.ok a)
  | fail e => done (.error e)
  | read k => read fun s => (k s).attempt
  | update c p => update c p.attempt
  | emit x p => emit x p.attempt
  | call r k => call r fun reply => (k reply).attempt

/-- The program of a result. -/
def ofExcept : Except Error α → Program S σ α
  | .ok a => done a
  | .error e => fail e

/-- Runs a program, and the recovery of its error if that is an ordinary one. -/
def rescue (p : Program S σ α) (recover : Error → Program S σ α) : Program S σ α :=
  p.attempt.bind fun
    | .ok a => done a
    | .error e => if e.isOrdinary then recover e else fail e

/-- Runs a program and then a last step, whether the program failed or not. A failure of the last
step takes the place of the program's. -/
def ensuring (p : Program S σ α) (last : Program S σ Unit) : Program S σ α :=
  p.attempt.bind fun result => last.bind fun _ => ofExcept result

/-- The state. -/
def state : Program S σ σ := read done

/-- Changes the state. -/
def modify (change : σ → σ) : Program S σ Unit := update change (done ())

/-- Emits a signal. -/
def signal (x : Signal) : Program S σ Unit := emit x (done ())

/-- Sends a request and gives the reply. -/
def perform (r : S.Request) : Program S σ (S.Reply r) := call r ofExcept

/-- Writes a log record. -/
def log (level : Log.Level) (logger : Log.Logger) (message : String)
    (details : List (String × Json)) : Program S σ Unit :=
  signal (.log ⟨level, logger, message, details, none⟩)

/-- Writes a log record about a failure. -/
def logFailure (logger : Log.Logger) (message : String) (error : Error)
    (details : List (String × Json)) : Program S σ Unit :=
  signal (.log ⟨.error, logger, message, details, some error⟩)

/-- Runs a program on a part of a state. Its requests are served by programs on the whole state. -/
def within (part : Lens σ τ) (serve : (r : T.Request) → Program S σ (T.Reply r)) :
    Program T τ α → Program S σ α
  | done a => done a
  | fail e => fail e
  | read k => read fun s => (k (part.get s)).within part serve
  | update c p => update (part.modify c) (p.within part serve)
  | emit x p => emit x (p.within part serve)
  | call r k => (serve r).attempt.bind fun reply => (k reply).within part serve

/-- Runs a program on a part of a state and passes its requests on. -/
def on (part : Lens σ τ) : Program S τ α → Program S σ α :=
  within part perform

/-- Runs a program inside a span. The span of an exporting tracer ends with the program and notes
the error that ended it; the error goes on. -/
def inSpan (tracer : Trace.Tracer) (span : Trace.Span) (p : Program S σ α) : Program S σ α :=
  match tracer with
  | .silent => p
  | .recording _ => emit (.spanOpened tracer span) p
  | .exporting =>
    emit (.spanOpened tracer span) <| p.attempt.bind fun
      | .ok a => emit (.spanClosed tracer span none) (done a)
      | .error e => emit (.spanClosed tracer span (some e)) (fail e)

end Program

end BrokerClient
