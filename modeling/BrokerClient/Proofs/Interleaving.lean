import BrokerClient.Proofs.Runs
import Mathlib.Data.List.Perm.Basic
import Mathlib.Logic.Relation

/-!
# Programs side by side

Programs that share a state run in pieces. A piece goes from the beginning of a program, or from the
reply that it has waited for, up to the next request that it has to wait for, and no other program
runs in between. A scene is a state with the programs that wait; it keeps everything that has
happened, so that what a program has asked for, and when, can be said afterwards.

An assertion about what has happened holds in all scenes if every program abides by it: the
assertion may be used where a piece begins, and it has to hold again where the piece ends. Whatever
other programs do meanwhile, the past only grows.

## Main definitions

* `Happening`, `Moment` — what happens, and a state with all that has happened.
* `Happening.awaited`, `Happening.Changed` — what a history tells.
* `Program.piece` — a piece of a program.
* `Scene`, `Scene.Step`, `Scene.Reached` — programs side by side.
* `Program.Abides`, `Program.Heeds` — programs that abide by an assertion.

## Main results

* `Scene.Reached.holds` — assertions about all scenes.
* `Program.abides_bind`, `Program.Heeds.within` — programs that abide, part by part.
-/

namespace BrokerClient

variable {S T : Signature} {σ τ α β ρ : Type}

/-- What stands in a history with one more entry is that entry or stands in the history before. -/
theorem concat_eq_append_cons_iff {xs before after : List α} {x y : α} :
    xs ++ [x] = before ++ y :: after ↔
      (before = xs ∧ y = x ∧ after = []) ∨
        ∃ rest, after = rest ++ [x] ∧ xs = before ++ y :: rest := by
  constructor
  · intro eq
    obtain rfl | ⟨rest, z, rfl⟩ := after.eq_nil_or_concat'
    · obtain ⟨rfl, last⟩ := List.append_inj' eq rfl
      exact .inl ⟨rfl, (List.singleton_inj.mp last).symm, rfl⟩
    · rw [← List.cons_append, ← List.append_assoc] at eq
      obtain ⟨rfl, last⟩ := List.append_inj' eq rfl
      exact .inr ⟨rest, by rw [last], rfl⟩
  · rintro (⟨rfl, rfl, rfl⟩ | ⟨rest, rfl, rfl⟩)
    · rfl
    · rw [List.append_assoc, List.cons_append]

/-- What happens where programs run side by side. -/
inductive Happening (S : Signature) (σ : Type)
  | asked (request : S.Request)
  | replied (answer : Answer S)
  | changed (before after : σ)

namespace Happening

/-- Whether a request of a kind is asked for. -/
def asks (kind : S.Request → Bool) : Happening S σ → Bool
  | asked r => kind r
  | _ => false

/-- Whether a request of a kind is replied to. -/
def replies (kind : S.Request → Bool) : Happening S σ → Bool
  | replied a => kind a.request
  | _ => false

/-- How many requests of a kind wait for their replies. -/
def awaited (kind : S.Request → Bool) (past : List (Happening S σ)) : Nat :=
  past.countP (asks kind) - past.countP (replies kind)

end Happening

/-- A state with all that has happened, the first first. -/
structure Moment (S : Signature) (σ : Type) where
  state : σ
  past : List (Happening S σ) := []

namespace Moment

/-- The moment after a request has been asked for. -/
def ask (r : S.Request) (w : Moment S σ) : Moment S σ :=
  { w with past := w.past ++ [.asked r] }

/-- The moment after a reply. -/
def reply (r : S.Request) (reply : Except Error (S.Reply r)) (w : Moment S σ) : Moment S σ :=
  { w with past := w.past ++ [.replied ⟨r, reply⟩] }

/-- The moment after a change of the state. -/
def change (c : σ → σ) (w : Moment S σ) : Moment S σ :=
  { state := c w.state, past := w.past ++ [.changed w.state (c w.state)] }

/-- One moment comes after another. -/
def Before (w w' : Moment S σ) : Prop :=
  w.past <+: w'.past

theorem Before.refl (w : Moment S σ) : w.Before w :=
  List.prefix_refl _

theorem Before.trans {w w' w'' : Moment S σ} (h : w.Before w') (h' : w'.Before w'') :
    w.Before w'' :=
  List.IsPrefix.trans h h'

theorem before_ask (r : S.Request) (w : Moment S σ) : w.Before (w.ask r) :=
  List.prefix_append ..

theorem before_reply (r : S.Request) (a : Except Error (S.Reply r)) (w : Moment S σ) :
    w.Before (w.reply r a) :=
  List.prefix_append ..

theorem before_change (c : σ → σ) (w : Moment S σ) : w.Before (w.change c) :=
  List.prefix_append ..

/-- Some program waits for the reply to a request. -/
def Awaits (w : Moment S σ) (r : S.Request) : Prop :=
  ∀ kind : S.Request → Bool, kind r →
    w.past.countP (Happening.replies kind) < w.past.countP (Happening.asks kind)

theorem Awaits.awaited_pos {w : Moment S σ} {r : S.Request} (h : w.Awaits r)
    {kind : S.Request → Bool} (of : kind r) : 0 < Happening.awaited kind w.past := by
  have less := h kind of
  unfold Happening.awaited
  omega

end Moment

/-! ### Histories -/

section Histories

variable {past : List (Happening S σ)} {kind : S.Request → Bool}

@[simp]
theorem awaited_append_changed (kind : S.Request → Bool) (s s' : σ) :
    Happening.awaited kind (past ++ [.changed s s']) = Happening.awaited kind past := by
  simp [Happening.awaited, Happening.asks, Happening.replies]

/-- What is asked for without being of a kind changes nothing of what that kind waits for. -/
theorem awaited_append_asked {r : S.Request} (other : kind r = false) :
    Happening.awaited kind (past ++ [.asked r]) = Happening.awaited kind past := by
  simp [Happening.awaited, Happening.asks, Happening.replies, other]

theorem awaited_le_append_asked (kind : S.Request → Bool) (r : S.Request) :
    Happening.awaited kind past ≤ Happening.awaited kind (past ++ [.asked r]) := by
  simp only [Happening.awaited, List.countP_append, List.countP_singleton, Happening.asks,
    Happening.replies, Bool.false_eq_true, if_false]
  omega

theorem awaited_append_replied_le (kind : S.Request → Bool) (a : Answer S) :
    Happening.awaited kind (past ++ [.replied a]) ≤ Happening.awaited kind past := by
  simp only [Happening.awaited, List.countP_append]
  simp only [List.countP_singleton, Happening.asks, Bool.false_eq_true, if_false]
  omega

/-- What is waited for after a reply has been waited for before. -/
theorem awaited_pos_of_append_replied {a : Answer S}
    (h : 0 < Happening.awaited kind (past ++ [.replied a])) : 0 < Happening.awaited kind past :=
  Nat.lt_of_lt_of_le h (awaited_append_replied_le kind a)

/-- A reply to a request of a kind leaves one less to wait for. -/
theorem awaited_append_replied {a : Answer S} (of : kind a.request) :
    Happening.awaited kind (past ++ [.replied a]) = Happening.awaited kind past - 1 := by
  simp only [Happening.awaited, List.countP_append]
  simp only [List.countP_singleton, Happening.asks, Happening.replies, of,
    Bool.false_eq_true, if_false, if_true]
  omega

theorem awaited_append_replied_other {a : Answer S} (other : kind a.request = false) :
    Happening.awaited kind (past ++ [.replied a]) = Happening.awaited kind past := by
  simp [Happening.awaited, Happening.asks, Happening.replies, other]

namespace Happening

/-- Nothing is replied to more often than it is asked for. -/
def Sound (past : List (Happening S σ)) : Prop :=
  ∀ kind : S.Request → Bool, past.countP (replies kind) ≤ past.countP (asks kind)

theorem Sound.ask (h : Sound past) (r : S.Request) : Sound (past ++ [.asked r]) := by
  intro kind
  have before := h kind
  simp only [List.countP_append, List.countP_singleton, replies, Bool.false_eq_true, if_false]
  omega

theorem Sound.reply {w : Moment S σ} {r : S.Request} (h : Sound w.past) (awaits : w.Awaits r)
    (a : Except Error (S.Reply r)) : Sound (w.reply r a).past := by
  intro kind
  have before := h kind
  have asked : (w.reply r a).past.countP (asks kind) = w.past.countP (asks kind) := by
    simp [Moment.reply, asks]
  have replied : (w.reply r a).past.countP (replies kind) =
      w.past.countP (replies kind) + if kind r then 1 else 0 := by
    rw [Moment.reply, List.countP_append, List.countP_singleton]
    rfl
  rw [asked, replied]
  split
  · rename_i of
    exact awaits kind of
  · exact before

theorem Sound.change (h : Sound past) (s s' : σ) : Sound (past ++ [.changed s s']) := by
  intro kind
  simpa [asks, replies] using h kind

/-- What is asked for and of a kind is one more to wait for. -/
theorem Sound.awaited_append_asked (h : Sound past) {r : S.Request} (of : kind r) :
    awaited kind (past ++ [.asked r]) = awaited kind past + 1 := by
  have before := h kind
  simp only [awaited, List.countP_append, List.countP_singleton, asks, replies, of,
    Bool.false_eq_true, if_false, if_true]
  omega

theorem Sound.awaited_pos_of_asked (h : Sound past) {r : S.Request} (of : kind r) :
    0 < awaited kind (past ++ [.asked r]) := by
  rw [h.awaited_append_asked of]
  exact Nat.succ_pos _

/-- At some time the state has changed in such a way, which may depend on what had happened. -/
def Changed (how : List (Happening S σ) → σ → σ → Prop) (past : List (Happening S σ)) : Prop :=
  ∃ before s s' after, past = before ++ .changed s s' :: after ∧ how before s s'

variable {how : List (Happening S σ) → σ → σ → Prop}

theorem not_changed_nil (how : List (Happening S σ) → σ → σ → Prop) : ¬ Changed how [] := by
  rintro ⟨before, s, s', after, eq, -⟩
  cases before <;> cases eq

theorem changed_append_iff {x : Happening S σ} :
    Changed how (past ++ [x]) ↔
      Changed how past ∨ ∃ s s', x = .changed s s' ∧ how past s s' := by
  constructor
  · rintro ⟨before, s, s', after, eq, holds⟩
    obtain ⟨rfl, rfl, -⟩ | ⟨after, -, rfl⟩ := concat_eq_append_cons_iff.mp eq
    · exact .inr ⟨s, s', rfl, holds⟩
    · exact .inl ⟨before, s, s', after, rfl, holds⟩
  · rintro (⟨before, s, s', after, rfl, holds⟩ | ⟨s, s', rfl, holds⟩)
    · exact ⟨before, s, s', after ++ [x], by simp, holds⟩
    · exact ⟨past, s, s', [], rfl, holds⟩

theorem Changed.append (h : Changed how past) (x : Happening S σ) : Changed how (past ++ [x]) :=
  changed_append_iff.mpr (.inl h)

@[simp]
theorem changed_append_asked_iff (r : S.Request) :
    Changed how (past ++ [.asked r]) ↔ Changed how past := by
  simp [changed_append_iff]

@[simp]
theorem changed_append_replied_iff (a : Answer S) :
    Changed how (past ++ [.replied a]) ↔ Changed how past := by
  simp [changed_append_iff]

@[simp]
theorem changed_append_changed_iff (s s' : σ) :
    Changed how (past ++ [.changed s s']) ↔ Changed how past ∨ how past s s' := by
  rw [changed_append_iff]
  refine or_congr_right ⟨?_, fun h => ⟨s, s', rfl, h⟩⟩
  rintro ⟨_, _, ⟨⟩, h⟩
  exact h

end Happening

end Histories

/-- How programs run side by side: which requests are replied to at once, which programs may begin,
and which replies may come. -/
structure Rules (S : Signature) (σ ρ : Type) where
  pass : (r : S.Request) → Option (S.Reply r)
  begins : Program S σ ρ → Prop
  allows : Moment S σ → (r : S.Request) → Except Error (S.Reply r) → Prop

namespace Program

/-- Runs a program up to the first request that it has to wait for. Gives what is left of the
program. -/
def piece (pass : (r : S.Request) → Option (S.Reply r)) :
    Program S σ α → Moment S σ → Program S σ α × Moment S σ
  | done a, w => (done a, w)
  | fail e, w => (fail e, w)
  | read k, w => (k w.state).piece pass w
  | update c p, w => p.piece pass (w.change c)
  | emit _ p, w => p.piece pass w
  | call r k, w => match pass r with
    | some a => (k (.ok a)).piece pass w
    | none => (call r k, w.ask r)

/-- The programs that something leaves waiting. -/
def waits : Program S σ α → List (Program S σ α)
  | call r k => [call r k]
  | _ => []

/-- Whether a program waits for the reply to a request of a kind. -/
def waitsFor (kind : S.Request → Bool) : Program S σ α → Bool
  | call r _ => kind r
  | _ => false

end Program

/-- A state, all that has happened, and the programs that wait. -/
structure Scene (S : Signature) (σ ρ : Type) extends Moment S σ where
  waiting : List (Program S σ ρ) := []

namespace Scene

/-- Goes on after a piece beside other waiting programs. -/
def proceed (others : List (Program S σ ρ)) (r : Program S σ ρ × Moment S σ) : Scene S σ ρ where
  toMoment := r.2
  waiting := others ++ r.1.waits

/-- What may happen next: a program begins, or a waiting one is replied to. -/
inductive Step (rules : Rules S σ ρ) (s : Scene S σ ρ) : Scene S σ ρ → Prop
  | begin {p} (may : rules.begins p) :
    Step rules s (proceed s.waiting (p.piece rules.pass s.toMoment))
  | reply {r k rest} {reply : Except Error (S.Reply r)}
    (waiting : s.waiting.Perm (.call r k :: rest)) (may : rules.allows s.toMoment r reply) :
    Step rules s (proceed rest ((k reply).piece rules.pass (s.toMoment.reply r reply)))

/-- The scenes that may come about from a state in which nothing waits. -/
def Reached (rules : Rules S σ ρ) (state : σ) : Scene S σ ρ → Prop :=
  Relation.ReflTransGen (Step rules) { state }

/-- A step in the order of one's choice: a program begins, or the waiting program with a number is
replied to as `answer` says. -/
inductive Move (S : Signature) (σ ρ : Type)
  | begin (program : Program S σ ρ)
  | reply (number : Nat) (answer : (r : S.Request) → Except Error (S.Reply r))

/-- The scene after a move. -/
def move (pass : (r : S.Request) → Option (S.Reply r)) (s : Scene S σ ρ) :
    Move S σ ρ → Scene S σ ρ
  | .begin p => proceed s.waiting (p.piece pass s.toMoment)
  | .reply i answer => match s.waiting[i]? with
    | some (.call r k) => proceed (s.waiting.eraseIdx i)
        ((k (answer r)).piece pass (s.toMoment.reply r (answer r)))
    | _ => s

variable {rules : Rules S σ ρ} {state : σ} {s : Scene S σ ρ}

theorem Reached.start : Reached rules state { state } :=
  .refl

theorem Reached.begin (h : Reached rules state s) {p : Program S σ ρ} (may : rules.begins p) :
    Reached rules state (s.move rules.pass (.begin p)) :=
  h.tail (.begin may)

theorem Reached.reply (h : Reached rules state s) (i : Nat)
    {answer : (r : S.Request) → Except Error (S.Reply r)}
    (may : ∀ r, rules.allows s.toMoment r (answer r)) :
    Reached rules state (s.move rules.pass (.reply i answer)) := by
  simp only [move]
  split
  · rename_i r k found
    obtain ⟨inside, found⟩ := List.getElem?_eq_some_iff.mp found
    refine h.tail (.reply ?_ (may r))
    rw [← found]
    exact (List.getElem_cons_eraseIdx_perm inside).symm
  · exact h

end Scene

/-! ### Abiding by an assertion -/

namespace Program

variable {rules : Rules S σ ρ} {I : Moment S σ → Prop}

/-- The moments from which a program abides by an assertion: each piece of it leads to a moment of
which this holds, if it has held before the reply with which the piece begins. At the end of the
program, `ok` holds of a result and `err` of an error. -/
def Abides (rules : Rules S σ ρ) (I : Moment S σ → Prop) :
    Program S σ α → (α → Moment S σ → Prop) → (Error → Moment S σ → Prop) → Moment S σ → Prop
  | done a, ok, _, w => ok a w
  | fail e, _, err, w => err e w
  | read k, ok, err, w => (k w.state).Abides rules I ok err w
  | update c p, ok, err, w => p.Abides rules I ok err (w.change c)
  | emit _ p, ok, err, w => p.Abides rules I ok err w
  | call r k, ok, err, w => match rules.pass r with
    | some a => (k (.ok a)).Abides rules I ok err w
    | none => I (w.ask r) ∧ ∀ w' reply, (w.ask r).Before w' → I w' → w'.Awaits r →
      rules.allows w' r reply → (k reply).Abides rules I ok err (w'.reply r reply)

variable {ok : α → Moment S σ → Prop} {err : Error → Moment S σ → Prop}

/-- Weaker assertions about the end hold too. -/
theorem Abides.mono {p : Program S σ α} {w : Moment S σ} {ok' : α → Moment S σ → Prop}
    {err' : Error → Moment S σ → Prop} (h : p.Abides rules I ok err w)
    (hok : ∀ a w, ok a w → ok' a w) (herr : ∀ e w, err e w → err' e w) :
    p.Abides rules I ok' err' w := by
  induction p generalizing w with
  | done a => exact hok a w h
  | fail e => exact herr e w h
  | read k ih => exact ih _ h
  | update c p ih => exact ih h
  | emit x p ih => exact ih h
  | call r k ih =>
    unfold Abides at h ⊢
    cases pass : rules.pass r with
    | some a =>
      rw [pass] at h
      exact ih _ h
    | none =>
      rw [pass] at h
      obtain ⟨now, later⟩ := h
      exact ⟨now, fun w' reply after hw' awaits may => ih _ (later w' reply after hw' awaits may)⟩

/-- The second part of a sequence begins in the piece in which the first has ended. -/
theorem abides_bind {p : Program S σ α} {f : α → Program S σ β} {ok : β → Moment S σ → Prop}
    {w : Moment S σ} :
    (p.bind f).Abides rules I ok err w ↔
      p.Abides rules I (fun a => (f a).Abides rules I ok err) err w := by
  induction p generalizing w with
  | done a | fail e => rfl
  | read k ih => exact ih _
  | update c p ih => exact ih
  | emit x p ih => exact ih
  | call r k ih =>
    simp only [Program.bind, Abides]
    cases rules.pass r with
    | some a => exact ih _
    | none => simp only [ih]

/-- An attempt goes on with what has come of the program. -/
theorem abides_attempt {p : Program S σ α} {ok : Except Error α → Moment S σ → Prop}
    {w : Moment S σ} :
    p.attempt.Abides rules I ok err w ↔
      p.Abides rules I (fun a => ok (.ok a)) (fun e => ok (.error e)) w := by
  induction p generalizing w with
  | done a | fail e => rfl
  | read k ih => exact ih _
  | update c p ih => exact ih
  | emit x p ih => exact ih
  | call r k ih =>
    simp only [attempt, Abides]
    cases rules.pass r with
    | some a => exact ih _
    | none => simp only [ih]

/-- The recovery begins in the piece in which the program has ended with an ordinary error. -/
theorem abides_rescue {p : Program S σ α} {recover : Error → Program S σ α} {w : Moment S σ} :
    (p.rescue recover).Abides rules I ok err w ↔
      p.Abides rules I ok (fun e w => if e.isOrdinary then (recover e).Abides rules I ok err w
        else err e w) w := by
  refine abides_bind.trans (abides_attempt.trans ?_)
  refine iff_of_eq (congrArg (fun err => p.Abides rules I ok err w)
    (funext fun e => funext fun w' => ?_))
  by_cases ordinary : e.isOrdinary
  · simp only [if_pos ordinary]
  · simp only [if_neg ordinary, Abides]

/-- A request that has to be waited for. -/
theorem abides_perform {r : S.Request} (waits : rules.pass r = none)
    {ok : S.Reply r → Moment S σ → Prop} {w : Moment S σ} :
    (perform r : Program S σ (S.Reply r)).Abides rules I ok err w ↔
      I (w.ask r) ∧ ∀ w' reply, (w.ask r).Before w' → I w' → w'.Awaits r →
        rules.allows w' r reply → (ofExcept reply : Program S σ (S.Reply r)).Abides rules I ok err
          (w'.reply r reply) := by
  simp only [perform, Abides, waits]

/-- A program that keeps an assertion at every request, and leaves it true at the end. -/
def Heeds (rules : Rules S σ ρ) (I : Moment S σ → Prop) (p : Program S σ α) : Prop :=
  ∀ w, I w → p.Abides rules I (fun _ => I) (fun _ => I) w

theorem Heeds.done (a : α) : (done a : Program S σ α).Heeds rules I :=
  fun _ h => h

theorem Heeds.fail (e : Error) : (fail e : Program S σ α).Heeds rules I :=
  fun _ h => h

theorem Heeds.state : (state : Program S σ σ).Heeds rules I :=
  fun _ h => h

theorem Heeds.read {k : σ → Program S σ α} (h : ∀ s, (k s).Heeds rules I) :
    (read k).Heeds rules I :=
  fun w hw => h _ w hw

theorem Heeds.log (level : Log.Level) (logger : Log.Logger) (message : String)
    (details : List (String × Json)) :
    (log level logger message details : Program S σ Unit).Heeds rules I :=
  fun _ h => h

theorem Heeds.logFailure (logger : Log.Logger) (message : String) (error : Error)
    (details : List (String × Json)) :
    (logFailure logger message error details : Program S σ Unit).Heeds rules I :=
  fun _ h => h

theorem Heeds.modify {c : σ → σ} (h : ∀ w, I w → I (w.change c)) :
    (modify c : Program S σ Unit).Heeds rules I :=
  h

theorem Heeds.ofExcept (r : Except Error α) : (ofExcept r : Program S σ α).Heeds rules I := by
  cases r <;> exact fun _ h => h

/-- A request heeds an assertion that it and its replies leave true. -/
theorem Heeds.perform {r : S.Request} (asked : ∀ w, I w → I (w.ask r))
    (replied : ∀ w a, I w → w.Awaits r → rules.allows w r a → I (w.reply r a)) :
    (perform r : Program S σ (S.Reply r)).Heeds rules I := by
  intro w hw
  unfold Program.perform Abides
  cases rules.pass r with
  | some a => exact hw
  | none =>
    exact ⟨asked w hw, fun w' a _ hw' awaits may =>
      Heeds.ofExcept a _ (replied w' a hw' awaits may)⟩

theorem Heeds.seq {p : Program S σ α} {f : α → Program S σ β} (hp : p.Heeds rules I)
    (hf : ∀ a, (f a).Heeds rules I) : (p >>= f).Heeds rules I :=
  fun w hw => abides_bind.mpr ((hp w hw).mono (fun a w' h => hf a w' h) fun _ _ h => h)

theorem Heeds.attempt_seq {p : Program S σ α} {f : Except Error α → Program S σ β}
    (hp : p.Heeds rules I) (hf : ∀ r, (f r).Heeds rules I) : (p.attempt >>= f).Heeds rules I :=
  fun w hw => abides_bind.mpr (abides_attempt.mpr
    ((hp w hw).mono (fun a w' h => hf (.ok a) w' h) fun e w' h => hf (.error e) w' h))

theorem Heeds.rescue {p : Program S σ α} {recover : Error → Program S σ α}
    (hp : p.Heeds rules I) (hr : ∀ e, (recover e).Heeds rules I) :
    (p.rescue recover).Heeds rules I := by
  refine hp.attempt_seq ?_
  rintro (e | a)
  · by_cases ordinary : e.isOrdinary
    · simpa only [if_pos ordinary] using hr e
    · simpa only [if_neg ordinary] using Heeds.fail e
  · exact .done a

theorem Heeds.ensuring {p : Program S σ α} {last : Program S σ Unit} (hp : p.Heeds rules I)
    (hl : last.Heeds rules I) : (p.ensuring last).Heeds rules I :=
  hp.attempt_seq fun r => hl.seq fun _ => .ofExcept r

theorem Heeds.forM {f : β → Program S σ Unit} {l : List β} (h : ∀ b ∈ l, (f b).Heeds rules I) :
    (l.forM f).Heeds rules I := by
  induction l with
  | nil => exact .done ()
  | cons b l ih =>
    rw [List.forM_eq_forM, List.forM_cons]
    exact (h b List.mem_cons_self).seq fun _ => ih fun c hc => h c (List.mem_cons_of_mem b hc)

/-- An embedded program heeds what the changes of its part leave true and the programs that serve it
heed. -/
theorem Heeds.within {part : Lens σ τ} {serve : (r : T.Request) → Program S σ (T.Reply r)}
    (changes : ∀ c w, I w → I (w.change (part.modify c))) (serves : ∀ r, (serve r).Heeds rules I)
    (p : Program T τ α) : (p.within part serve).Heeds rules I := by
  induction p with
  | done a => exact .done a
  | fail e => exact .fail e
  | read k ih => exact .read fun s => ih (part.get s)
  | update c p ih => exact fun w hw => ih _ (changes c w hw)
  | emit x p ih => exact ih
  | call r k ih => exact (serves r).attempt_seq ih

end Program

/-! ### Assertions about all scenes -/

namespace Scene

open Program

variable {rules : Rules S σ ρ} {I : Moment S σ → Prop}

/-- What is known of a program that waits since a moment. -/
def Pending (rules : Rules S σ ρ) (I : Moment S σ → Prop) (now : Moment S σ)
    (p : Program S σ ρ) : Prop :=
  ∃ r k, p = .call r k ∧ ∀ w reply, now.Before w → I w → w.Awaits r → rules.allows w r reply →
    (k reply).Abides rules I (fun _ => I) (fun _ => I) (w.reply r reply)

theorem Pending.mono {now later : Moment S σ} {p : Program S σ ρ} (h : Pending rules I now p)
    (before : now.Before later) : Pending rules I later p := by
  obtain ⟨r, k, rfl, next⟩ := h
  exact ⟨r, k, rfl, fun w reply after => next w reply (before.trans after)⟩

/-- After a piece of a program that abides by an assertion this holds, and what is left of the
program abides by it. -/
theorem piece_abides {p : Program S σ ρ} {w : Moment S σ}
    (h : p.Abides rules I (fun _ => I) (fun _ => I) w) :
    I (p.piece rules.pass w).2 ∧ w.Before (p.piece rules.pass w).2 ∧
      ∀ q ∈ (p.piece rules.pass w).1.waits, Pending rules I (p.piece rules.pass w).2 q := by
  induction p generalizing w with
  | done a | fail e => exact ⟨h, .refl w, nofun⟩
  | read k ih => exact ih _ h
  | update c p ih =>
    obtain ⟨now, after, left⟩ := ih h
    exact ⟨now, (w.before_change c).trans after, left⟩
  | emit x p ih => exact ih h
  | call r k ih =>
    simp only [piece]
    unfold Abides at h
    cases pass : rules.pass r with
    | some a =>
      rw [pass] at h
      exact ih _ h
    | none =>
      rw [pass] at h
      refine ⟨h.1, w.before_ask r, fun q hq => ?_⟩
      obtain rfl := List.mem_singleton.mp hq
      exact ⟨r, k, rfl, h.2⟩

/-- The requests of a kind that have been asked for and not replied to are those that programs wait
for. -/
def Accounted (s : Scene S σ ρ) : Prop :=
  ∀ kind, s.past.countP (Happening.asks kind) =
    s.past.countP (Happening.replies kind) + s.waiting.countP (waitsFor kind)

theorem piece_accounted (pass : (r : S.Request) → Option (S.Reply r)) (p : Program S σ ρ)
    (w : Moment S σ) (kind : S.Request → Bool) (n : Nat)
    (h : w.past.countP (Happening.asks kind) =
      w.past.countP (Happening.replies kind) + n) :
    (p.piece pass w).2.past.countP (Happening.asks kind) =
      (p.piece pass w).2.past.countP (Happening.replies kind) +
        (n + (p.piece pass w).1.waits.countP (waitsFor kind)) := by
  induction p generalizing w with
  | done a | fail e => exact h
  | read k ih => exact ih _ w h
  | update c p ih =>
    refine ih (w.change c) ?_
    simpa [Moment.change, Happening.asks, Happening.replies] using h
  | emit x p ih => exact ih w h
  | call r k ih =>
    simp only [piece]
    cases pass r with
    | some a => exact ih _ w h
    | none =>
      cases of : kind r with
      | true =>
        simp [Moment.ask, waits, List.countP_append, Happening.asks, Happening.replies, waitsFor, h,
          of]
        omega
      | false =>
        simp [Moment.ask, waits, List.countP_append, Happening.asks, Happening.replies, waitsFor, h,
          of]

/-- A waiting program is awaited. -/
theorem Accounted.awaits {s : Scene S σ ρ} (h : s.Accounted) {r k rest}
    (waiting : s.waiting.Perm (.call r k :: rest)) : s.toMoment.Awaits r := by
  intro kind of
  have asked := h kind
  rw [waiting.countP_eq, List.countP_cons] at asked
  simp only [waitsFor, of, if_true] at asked
  omega

theorem Step.accounted {s s' : Scene S σ ρ} (step : Step rules s s') (h : s.Accounted) :
    s'.Accounted := by
  intro kind
  cases step with
  | @begin p may =>
    have := piece_accounted rules.pass p s.toMoment kind _ (h kind)
    rwa [← List.countP_append] at this
  | @reply r k rest reply waiting may =>
    have replied : (s.toMoment.reply r reply).past.countP (Happening.asks kind) =
        (s.toMoment.reply r reply).past.countP (Happening.replies kind) +
          rest.countP (waitsFor kind) := by
      have asked := h kind
      rw [waiting.countP_eq, List.countP_cons] at asked
      cases of : kind r with
      | true =>
        simp [Moment.reply, List.countP_append, Happening.asks, Happening.replies, asked, waitsFor,
          of]
        omega
      | false =>
        simp [Moment.reply, List.countP_append, Happening.asks, Happening.replies, asked, waitsFor,
          of]
    have := piece_accounted rules.pass (k reply) _ kind _ replied
    rwa [← List.countP_append] at this

theorem Reached.accounted {state : σ} {s : Scene S σ ρ} (reached : Reached rules state s) :
    s.Accounted := by
  induction reached with
  | refl => exact fun _ => rfl
  | tail _ step ih => exact step.accounted ih

/-- Where no program waits, no request waits for its reply. -/
theorem Reached.awaited_eq_zero {state : σ} {s : Scene S σ ρ} (reached : Reached rules state s)
    (rest : s.waiting = []) (kind : S.Request → Bool) : Happening.awaited kind s.past = 0 := by
  have accounted := reached.accounted kind
  rw [rest, List.countP_nil] at accounted
  unfold Happening.awaited
  omega

/-- If all programs that may begin heed an assertion that holds in the beginning, then it holds in
every scene. -/
theorem Reached.holds {state : σ} {s : Scene S σ ρ} (reached : Reached rules state s)
    (start : I { state }) (programs : ∀ p, rules.begins p → p.Heeds rules I) : I s.toMoment := by
  have all : I s.toMoment ∧ s.Accounted ∧ ∀ q ∈ s.waiting, Pending rules I s.toMoment q := by
    induction reached with
    | refl => exact ⟨start, fun _ => rfl, nofun⟩
    | @tail s s' _ step ih =>
      obtain ⟨now, accounted, pending⟩ := ih
      have accounted' := step.accounted accounted
      -- beside a piece, the other programs go on waiting
      have beside {p : Program S σ ρ} {w : Moment S σ} {others : List (Program S σ ρ)}
          (abides : p.Abides rules I (fun _ => I) (fun _ => I) w) (before : s.toMoment.Before w)
          (rest : ∀ q ∈ others, Pending rules I s.toMoment q) :
          I (p.piece rules.pass w).2 ∧
            ∀ q ∈ others ++ (p.piece rules.pass w).1.waits,
              Pending rules I (p.piece rules.pass w).2 q := by
        obtain ⟨now, after, left⟩ := piece_abides abides
        refine ⟨now, fun q hq => ?_⟩
        obtain hq | hq := List.mem_append.mp hq
        · exact (rest q hq).mono (before.trans after)
        · exact left q hq
      cases step with
      | begin may =>
        obtain ⟨now', pending'⟩ := beside (programs _ may _ now) (.refl _) pending
        exact ⟨now', accounted', pending'⟩
      | @reply r k rest reply waiting may =>
        obtain ⟨r', k', eq, next⟩ := pending (.call r k)
          (waiting.mem_iff.mpr List.mem_cons_self)
        cases eq
        obtain ⟨now', pending'⟩ := beside
          (next s.toMoment reply (.refl _) now (accounted.awaits waiting) may)
          (s.toMoment.before_reply r reply)
          fun q hq => pending q (waiting.mem_iff.mpr (List.mem_cons_of_mem _ hq))
        exact ⟨now', accounted', pending'⟩
  exact all.1

end Scene

end BrokerClient
