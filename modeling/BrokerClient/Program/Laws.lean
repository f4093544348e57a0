import BrokerClient.Program

/-!
# Laws of programs

Running one program after another is associative and has `done` as its unit, so that programs form a
lawful monad. Embedding a program in a larger one respects running one after another: an embedded
sequence is the sequence of the embedded parts.

## Main results

* `Program.bind_assoc` — sequences may be grouped at will; with this, programs form a lawful
  monad.
* `Program.within_bind` — an embedded sequence, part by part.
* `Program.on_rescue`, `Program.on_perform` — programs on a part, part by part.
-/

namespace BrokerClient.Program

variable {S T : Signature} {σ τ α β γ : Type}

/-- A result is passed on as it is. -/
@[simp]
theorem done_bind (a : α) (f : α → Program S σ β) : (done a).bind f = f a :=
  rfl

/-- Nothing is run after a failure. -/
@[simp]
theorem fail_bind (e : Error) (f : α → Program S σ β) : (fail e : Program S σ α).bind f = fail e :=
  rfl

/-- To end with the result of a program is to run it. -/
@[simp]
theorem bind_done (p : Program S σ α) : p.bind done = p := by
  induction p with
  | done a => rfl
  | fail e => rfl
  | read k ih => exact congrArg read (funext ih)
  | update c p ih => exact congrArg (update c) ih
  | emit x p ih => exact congrArg (emit x) ih
  | call r k ih => exact congrArg (call r) (funext ih)

/-- Running three programs in sequence does not depend on which two are taken together. -/
theorem bind_assoc (p : Program S σ α) (f : α → Program S σ β) (g : β → Program S σ γ) :
    (p.bind f).bind g = p.bind fun a => (f a).bind g := by
  induction p with
  | done a => rfl
  | fail e => rfl
  | read k ih => exact congrArg read (funext ih)
  | update c p ih => exact congrArg (update c) ih
  | emit x p ih => exact congrArg (emit x) ih
  | call r k ih => exact congrArg (call r) (funext ih)

instance : LawfulMonad (Program S σ) :=
  LawfulMonad.mk' (Program S σ) bind_done done_bind bind_assoc

/-- An embedded sequence is the sequence of the embedded parts. -/
theorem within_bind (part : Lens σ τ) (serve : (r : T.Request) → Program S σ (T.Reply r))
    (p : Program T τ α) (f : α → Program T τ β) :
    (p.bind f).within part serve =
      (p.within part serve).bind fun a => (f a).within part serve := by
  induction p with
  | done a => rfl
  | fail e => rfl
  | read k ih => exact congrArg read (funext fun s => ih (part.get s))
  | update c p ih => exact congrArg (update (part.modify c)) ih
  | emit x p ih => exact congrArg (emit x) ih
  | call r k ih =>
    simp only [Program.bind, within, bind_assoc]
    exact congrArg _ (funext ih)

/-! ### Programs on a part -/

section On

variable (part : Lens σ τ)

theorem on_read (k : τ → Program S τ α) :
    (read k).on part = read fun s => (k (part.get s)).on part :=
  rfl

theorem on_emit (x : Signal) (p : Program S τ α) : (emit x p).on part = emit x (p.on part) :=
  rfl

/-- A program on a part asks for what the program asks for. -/
theorem on_call (r : S.Request) (k : Except Error (S.Reply r) → Program S τ α) :
    (call r k).on part = call r fun reply => (k reply).on part := by
  have passed (reply : Except Error (S.Reply r)) :
      (ofExcept reply : Program S σ (S.Reply r)).attempt = done reply := by
    cases reply <;> rfl
  simp only [on, within, perform, attempt, Program.bind, passed]

theorem on_bind (p : Program S τ α) (f : α → Program S τ β) :
    (p.bind f).on part = (p.on part).bind fun a => (f a).on part :=
  within_bind part perform p f

theorem on_attempt (p : Program S τ α) : p.attempt.on part = (p.on part).attempt := by
  induction p with
  | done a => rfl
  | fail e => rfl
  | read k ih => exact congrArg read (funext fun s => ih (part.get s))
  | update c p ih => exact congrArg (update (part.modify c)) ih
  | emit x p ih => exact congrArg (emit x) ih
  | call r k ih =>
    rw [attempt, on_call, on_call, attempt]
    exact congrArg (call r) (funext ih)

theorem on_rescue (p : Program S τ α) (recover : Error → Program S τ α) :
    (p.rescue recover).on part = (p.on part).rescue fun e => (recover e).on part := by
  rw [rescue, on_bind, on_attempt, rescue]
  congr 1
  funext result
  cases result with
  | ok a => rfl
  | error e => exact apply_ite (on part) _ _ _

theorem on_ofExcept (r : Except Error α) :
    (ofExcept r : Program S τ α).on part = ofExcept r := by
  cases r <;> rfl

theorem on_perform (r : S.Request) :
    (perform r : Program S τ (S.Reply r)).on part = perform r := by
  rw [perform, on_call]
  exact congrArg (call r) (funext (on_ofExcept part))

end On

end BrokerClient.Program
