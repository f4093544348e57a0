import BrokerClient.Proofs.Pool.Stages
import Mathlib.Data.List.Perm.Basic

/-!
# Calls of a pool side by side

A scene is a pool with the calls that wait for something, and a record of what has happened to the
channels: which have been opened, on which `close` has been called, which are lent, and when each
of them joined the pool and left it. A move begins a call, replies to a waiting one, or begins one
of the closes that a waiting one has asked for; the code between two awaits runs in one go. Moves
come in any order. A move that is not possible changes nothing: a channel is opened once only, and
only a lent channel is released, once for each loan.

`Scene.Change` lists what a move can do. Every invariant of a pool is proved from this list.

## Main definitions

* `Scene`, `Move`, `Scene.step` — calls side by side.
* `Scene.after` — the scene after a sequence of moves.
* `Turn`, `Scene.Change` — what a call does in one go, and what a move does.

## Main results

* `Scene.step_change` — every move makes a change of the list.
* `Scene.after_induction` — invariants of all reachable scenes.
-/

namespace BrokerClient.Channel.Pool

open Broker (ChannelId)

/-- A call that waits, with the closes that it has asked for and that have not begun. -/
structure Thread where
  program : Act (Option ChannelId)
  unclosed : List ChannelId := []

/-- A channel that joins the pool, with what the pool counts at that moment. -/
structure Join where
  channel : ChannelId
  generation : Nat
  closing : Nat
  deriving DecidableEq, Repr

/-- A pool, the calls that wait, and what has happened to the channels. -/
structure Scene where
  pool : Pool
  waiting : List Thread := []
  /-- The channels that have been opened, the first first. -/
  opened : List ChannelId := []
  /-- The channels on which `close` has been called. -/
  closed : List ChannelId := []
  /-- The channels that are lent, once for each loan. -/
  loans : List ChannelId := []
  joined : List Join := []
  /-- The channels that have left the pool, with the generation in which they did. -/
  left : List (ChannelId × Nat) := []

/-- What may happen next. -/
inductive Move
  | begin (call : Call)
  /-- The waiting call with a number is replied to. -/
  | reply (number : Nat) (reply : Reply)
  /-- The first close that a waiting call has asked for begins. -/
  | beginClose (number : Nat)

/-- The threads that a program leaves waiting. -/
def waits : Act (Option ChannelId) → List Thread
  | .call (.closeChannels cs) k => [⟨.call (.closeChannels cs) k, cs⟩]
  | .call r k => [⟨.call r k, []⟩]
  | _ => []

/-- The channels that a program begins to close itself. -/
def closesNow : Act (Option ChannelId) → List ChannelId
  | .call (.closeChannel c) _ => [c]
  | _ => []

/-- The channels that a program has lent. -/
def lends : Act (Option ChannelId) → List ChannelId
  | .done (some c) => [c]
  | _ => []

/-- The channels that a reply opens. -/
def Reply.channels : Reply → List ChannelId
  | .opened c => [c]
  | _ => []

/-- The channels of one list that are not in another. -/
def newIn (cs old : List ChannelId) : List ChannelId :=
  cs.filter fun c => !old.contains c

namespace Scene

/-- An empty pool. -/
def start (size : Nat) : Scene where
  pool := { size }

/-- Goes on after a call has run and left this, beside the other waiting calls. -/
def proceed (s : Scene) (others : List Thread) (r : Act (Option ChannelId) × Pool) : Scene :=
  { s with
    pool := r.2
    waiting := others ++ waits r.1
    closed := s.closed ++ closesNow r.1
    loans := s.loans ++ lends r.1
    joined := s.joined ++ (newIn r.2.channels s.pool.channels).map fun c =>
      ⟨c, r.2.generation, r.2.closing⟩
    left := s.left ++ (newIn s.pool.channels r.2.channels).map fun c => (c, r.2.generation) }

/-- Notes the channels that have been opened. -/
def noteOpened (cs : List ChannelId) (s : Scene) : Scene :=
  { s with opened := s.opened ++ cs }

/-- Ends a loan of a channel. -/
def endLoan (c : ChannelId) (s : Scene) : Scene :=
  { s with loans := s.loans.erase c }

/-- The scene after a waiting call has been replied to. A call whose closes have not all begun
cannot be, and no channel is opened twice. -/
def reply (s : Scene) (i : Nat) (reply : Reply) : Scene :=
  match s.waiting[i]? with
  | some ⟨program, []⟩ =>
    if ∀ c ∈ reply.channels, c ∉ s.opened then
      match reply.turn s.pool program with
      | some r => (s.noteOpened reply.channels).proceed (s.waiting.eraseIdx i) r
      | none => s
    else s
  | _ => s

/-- The scene after a close has begun that a waiting call has asked for. -/
def beginClose (s : Scene) (i : Nat) : Scene :=
  match s.waiting[i]? with
  | some ⟨program, c :: cs⟩ =>
    { s with waiting := s.waiting.set i ⟨program, cs⟩, closed := s.closed ++ [c] }
  | _ => s

/-- The scene after a move. -/
def step (s : Scene) : Move → Scene
  | .begin (.release c) =>
    if c ∈ s.loans then
      (s.endLoan c).proceed s.waiting ((Call.release c).program.advance pass s.pool)
    else s
  | .begin call => s.proceed s.waiting (call.program.advance pass s.pool)
  | .reply i reply => s.reply i reply
  | .beginClose i => s.beginClose i

/-- The scene after moves from an empty pool. -/
def after (size : Nat) (moves : List Move) : Scene :=
  moves.foldl step (start size)

end Scene

/-! ### What a move can do -/

/-- What is left of a call that does not begin or end a close. A filling has so many rounds to
come. -/
inductive Quiet (p : Pool) : Nat → Act (Option ChannelId) → Prop
  | done {rounds} (finished : rounds = 0 ∨ p.size ≤ p.channels.length) : Quiet p rounds (.done none)
  | fail {rounds} (e : Error) : Quiet p rounds (.fail e)
  | grow {rounds} : Quiet p rounds (Stage.growing p.generation).program
  | fill {rounds} (small : p.channels.length < p.size) :
    Quiet p (rounds + 1) (Stage.filling p.generation rounds).program

/-- The closes that a stage begins with. -/
def Stage.unclosed : Stage → List ChannelId
  | .closing cs => cs
  | _ => []

theorem waits_program (st : Stage) : waits st.program = [⟨st.program, st.unclosed⟩] := by
  cases st <;> rfl

/-- The closes that a program begins or asks for. -/
def claims (q : Act (Option ChannelId)) : List ChannelId :=
  closesNow q ++ (waits q).flatMap Thread.unclosed

/-- The channels that a stage is going to close. -/
def Stage.claims : Stage → List ChannelId
  | .discarding _ c => [c]
  | .closing cs => cs
  | _ => []

theorem claims_program (st : Stage) : Pool.claims st.program = st.claims := by
  rw [Pool.claims, waits_program]
  cases st <;> simp [Stage.unclosed, Stage.claims] <;> rfl

@[simp]
theorem lends_none : lends (.done none) = [] :=
  rfl

@[simp]
theorem lends_program (st : Stage) : lends st.program = [] := by
  cases st <;> rfl

/-- Whether a call waits for closes that run side by side. -/
def Thread.isClosing (t : Thread) : Bool :=
  match t.program with
  | .call (.closeChannels _) _ => true
  | _ => false

/-- Whether a stage waits for closes that run side by side. -/
def Stage.isClosing : Stage → Bool
  | .closing _ => true
  | _ => false

@[simp]
theorem isClosing_mk (st : Stage) (cs : List ChannelId) :
    Thread.isClosing ⟨st.program, cs⟩ = st.isClosing := by
  cases st <;> rfl

/-- A call that waits at a stage and for no close to begin. -/
def Stage.thread (st : Stage) : Thread :=
  ⟨st.program, []⟩

/-- What a call does in one go, from the stage that it has waited at, if it has, and the channels
that it is given. -/
inductive Turn (p : Pool) :
    Option Stage → List ChannelId → Act (Option ChannelId) × Pool → Prop
  | stay {st q} (other : ∀ t ∈ st, t.isClosing = false)
    (quiet : Quiet p ((p.closing + 1) * p.size) q) : Turn p st [] (q, p)
  | lend {c} (free : p.free? = some c) : Turn p none [] (.done (some c), p.lend c)
  | grow {c} : Turn p (some (.growing p.generation)) [c] (.done (some c), (p.add c).lend c)
  | fill {c rounds q} (quiet : Quiet (p.add c) rounds q) :
    Turn p (some (.filling p.generation rounds)) [c] (q, p.add c)
  | late {st c operation} (other : st.isClosing = false) :
    Turn p (some st) [c] ((Stage.discarding operation c).program, p)
  | closeNone (empty : p.channels = []) :
    Turn p none [] (.done none, p.beginClose.endClose.forget)
  | close (nonempty : p.channels ≠ []) :
    Turn p none [] ((Stage.closing p.channels).program, p.beginClose)
  | closed {cs} : Turn p (some (.closing cs)) [] (.done none, p.endClose.forget)

namespace Quiet

variable {p : Pool} {rounds : Nat} {q : Act (Option ChannelId)}

theorem lends_eq (h : Quiet p rounds q) : lends q = [] := by
  cases h with
  | done | fail => rfl
  | grow => exact lends_program _
  | fill small => exact lends_program _

theorem claims_eq (h : Quiet p rounds q) : claims q = [] := by
  cases h with
  | done | fail => rfl
  | grow => exact claims_program (.growing p.generation)
  | @fill rounds small => exact claims_program (.filling p.generation rounds)

theorem countP_eq (h : Quiet p rounds q) : (waits q).countP Thread.isClosing = 0 := by
  cases h with
  | done | fail => rfl
  | grow => simp [waits_program, Stage.isClosing]
  | fill small => simp [waits_program, Stage.isClosing]

end Quiet

theorem Filling.quiet {p : Pool} {rounds : Nat} {q : Act (Option ChannelId)}
    (h : Filling p rounds q) : Quiet p rounds q := by
  cases h with
  | done finished => exact .done finished
  | more small => exact .fill small

/-- A call begins with a turn; a release is apart. -/
theorem turn_begin {call : Call} (h : ∀ c, call ≠ .release c) (p : Pool) :
    Turn p none [] (call.program.advance pass p) := by
  generalize begun : call.program.advance pass p = r
  cases (begun ▸ begun_advance call p : Begun p call r) with
  | lent free => exact .lend free
  | growing => exact .stay nofun .grow
  | filling left => exact .stay nofun left.quiet
  | closed empty => exact .closeNone empty
  | closing nonempty => exact .close nonempty
  | released => exact absurd rfl (h _)

/-- A call that is replied to goes on with a turn. -/
theorem turn_reply {st : Stage} {reply : Reply} {p : Pool} {r : Act (Option ChannelId) × Pool}
    (h : reply.turn p st.program = some r) : Turn p (some st) reply.channels r := by
  cases answered_of_turn h with
  | lent => exact .grow
  | filled left => exact .fill left.quiet
  | late opens => exact .late (by cases opens <;> rfl)
  | unopened opens => exact .stay (by cases opens <;> simp [Stage.isClosing]) (.fail _)
  | discarded | undiscarded => exact .stay (by simp [Stage.isClosing]) (.fail _)
  | closed => exact .closed

namespace Scene

variable {s : Scene} {known : Stage → Prop}

/-- Every waiting call waits at some stage, of which something is known. -/
def Staged (s : Scene) (known : Stage → Prop) : Prop :=
  ∀ t ∈ s.waiting, ∃ st : Stage, known st ∧ t.program = st.program

/-- What a move does, if something is known of the stages at which calls wait. -/
inductive Change (s : Scene) (known : Stage → Prop) : Scene → Prop
  | same : Change s known s
  | turn {st cs r rest} (waiting : s.waiting.Perm ((st.map Stage.thread).toList ++ rest))
    (kind : ∀ x ∈ st, known x) (fresh : ∀ c ∈ cs, c ∉ s.opened) (turn : Turn s.pool st cs r) :
    Change s known ((s.noteOpened cs).proceed rest r)
  | release {c} (lent : c ∈ s.loans) :
    Change s known ((s.endLoan c).proceed s.waiting (.done none, s.pool.takeBack c))
  | beginClose {program c cs rest waiting'}
    (waiting : s.waiting.Perm (⟨program, c :: cs⟩ :: rest))
    (kept : waiting'.Perm (⟨program, cs⟩ :: rest)) :
    Change s known { s with waiting := waiting', closed := s.closed ++ [c] }

/-- A list is one of its entries and the rest. -/
theorem perm_of_getElem? {α : Type} {l : List α} {i : Nat} {a : α} (h : l[i]? = some a) :
    l.Perm (a :: l.eraseIdx i) := by
  obtain ⟨inside, rfl⟩ := List.getElem?_eq_some_iff.mp h
  exact (List.getElem_cons_eraseIdx_perm inside).symm

/-- Every move is one of the changes. -/
theorem step_change (staged : s.Staged known) (m : Move) : s.Change known (s.step m) := by
  cases m with
  | begin call =>
    by_cases release : ∃ c, call = .release c
    · obtain ⟨c, rfl⟩ := release
      rw [step, advance_release]
      split
      · exact .release ‹_›
      · exact .same
    · have other (c : ChannelId) : call ≠ .release c := fun h => release ⟨c, h⟩
      have begun : s.step (.begin call) =
          (s.noteOpened []).proceed s.waiting (call.program.advance pass s.pool) := by
        cases call with
        | release c => exact absurd rfl (other c)
        | acquire | fill | close => simp [step, noteOpened]
      rw [begun]
      exact .turn (.refl _) (by simp) (by simp) (turn_begin other s.pool)
  | reply i reply =>
    rw [step, Scene.reply]
    split
    · rename_i program h
      obtain ⟨st, kind, rfl⟩ : ∃ st : Stage, known st ∧ program = st.program :=
        staged _ (List.mem_of_getElem? h)
      split
      · rename_i fresh
        split
        · rename_i r turn
          have parted : s.waiting.Perm (((some st).map Stage.thread).toList ++
            s.waiting.eraseIdx i) := perm_of_getElem? h
          exact .turn parted (fun _ hx => Option.some.inj hx ▸ kind) fresh (turn_reply turn)
        · exact .same
      · exact .same
    · exact .same
  | beginClose i =>
    rw [step, Scene.beginClose]
    split
    · rename_i program c cs h
      have inside := (List.getElem?_eq_some_iff.mp h).1
      exact .beginClose (perm_of_getElem? h) (List.set_perm_cons_eraseIdx inside _)
    · exact .same

/-- A call that waits after a turn waits at a stage. -/
theorem staged_of_turn {p : Pool} {st : Option Stage} {cs : List ChannelId}
    {r : Act (Option ChannelId) × Pool} (h : Turn p st cs r) :
    ∀ t ∈ waits r.1, ∃ st : Stage, t.program = st.program := by
  have stage (st : Stage) : ∀ t ∈ waits st.program, ∃ st : Stage, t.program = st.program := by
    intro t ht
    rw [waits_program, List.mem_singleton] at ht
    exact ⟨st, ht ▸ rfl⟩
  have quiet {p : Pool} {rounds : Nat} {q : Act (Option ChannelId)} (h : Quiet p rounds q) :
      ∀ t ∈ waits q, ∃ st : Stage, t.program = st.program := by
    cases h with
    | done | fail => simp [waits]
    | grow => exact stage _
    | fill small => exact stage _
  cases h with
  | stay other h => exact quiet h
  | fill h => exact quiet h
  | lend | grow | closeNone | closed => simp [waits]
  | late other => exact stage (.discarding _ _)
  | close nonempty => exact stage (.closing _)

/-- Calls that wait after a turn have waited before it, or the turn leaves them waiting. -/
theorem Staged.proceed {known' : Stage → Prop} {st : Option Stage} {cs : List ChannelId}
    {r : Act (Option ChannelId) × Pool} {rest : List Thread} (h : s.Staged known)
    (waiting : s.waiting.Perm ((st.map Stage.thread).toList ++ rest))
    (kept : ∀ x, known x → known' x)
    (new : ∀ t ∈ waits r.1, ∃ st : Stage, known' st ∧ t.program = st.program) :
    ((s.noteOpened cs).proceed rest r).Staged known' := by
  intro t ht
  rcases List.mem_append.mp ht with ht | ht
  · obtain ⟨x, kind, eq⟩ := h t (waiting.mem_iff.mpr (List.mem_append_right _ ht))
    exact ⟨x, kept x kind, eq⟩
  · exact new t ht

/-- A close that begins leaves its call at the same stage. -/
theorem Staged.beginClose {program : Act (Option ChannelId)} {c : ChannelId}
    {cs closed : List ChannelId} {rest waiting' : List Thread} (h : s.Staged known)
    (waiting : s.waiting.Perm (⟨program, c :: cs⟩ :: rest))
    (kept : waiting'.Perm (⟨program, cs⟩ :: rest)) :
    Staged { s with waiting := waiting', closed := closed } known := by
  intro t ht
  rcases List.mem_cons.mp (kept.mem_iff.mp ht) with rfl | ht
  · exact h ⟨program, c :: cs⟩ (waiting.mem_iff.mpr List.mem_cons_self)
  · exact h t (waiting.mem_iff.mpr (List.mem_cons_of_mem _ ht))

theorem Change.staged {s' : Scene} (h : s.Change known s') (staged : s.Staged fun _ => True) :
    s'.Staged fun _ => True := by
  cases h with
  | same => exact staged
  | turn waiting kind fresh turn =>
    refine staged.proceed waiting (fun _ h => h) fun t ht => ?_
    obtain ⟨x, eq⟩ := staged_of_turn turn t ht
    exact ⟨x, trivial, eq⟩
  | release lent => simpa [Staged, proceed, endLoan, waits] using staged
  | beginClose waiting kept => exact staged.beginClose waiting kept

/-- A pool counts the calls that wait for closes. -/
def CountsClosing (s : Scene) : Prop :=
  s.pool.closing = s.waiting.countP Thread.isClosing

theorem Change.countsClosing {s' : Scene} (h : s.Change known s') (counts : s.CountsClosing) :
    s'.CountsClosing := by
  cases h with
  | same => exact counts
  | @turn st cs r rest waiting kind fresh turn =>
    rw [CountsClosing, waiting.countP_eq, List.countP_append] at counts
    change r.2.closing = (rest ++ waits r.1).countP Thread.isClosing
    rw [List.countP_append]
    cases turn with
    | @stay st q other quiet =>
      have before : (st.map Stage.thread).toList.countP Thread.isClosing = 0 := by
        cases st with
        | none => rfl
        | some st => simp [Stage.thread, other st rfl]
      have after := quiet.countP_eq
      dsimp only
      omega
    | lend free => simpa [waits, Pool.lend] using counts
    | grow => simpa [waits, Pool.lend, Pool.add, Stage.thread, Stage.isClosing] using counts
    | fill quiet =>
      simpa [quiet.countP_eq, Pool.add, Stage.thread, Stage.isClosing] using counts
    | @late st c operation other =>
      have after : Stage.isClosing (.discarding operation c) = false := rfl
      simpa [waits_program, Stage.thread, other, after] using counts
    | closeNone empty =>
      simpa [waits, Pool.beginClose, endClose, Pool.forget] using counts
    | close nonempty =>
      simpa [waits_program, Stage.isClosing, Pool.beginClose] using counts
    | closed =>
      simp only [Option.map_some, Option.toList_some, Stage.thread, List.countP_singleton,
        isClosing_mk, Stage.isClosing, if_true] at counts
      simp only [waits, List.countP_nil, endClose, Pool.forget]
      omega
  | release lent =>
    change s.pool.closing = (s.waiting ++ []).countP Thread.isClosing
    rw [List.append_nil]
    exact counts
  | beginClose waiting kept =>
    rw [CountsClosing, waiting.countP_eq] at counts
    rw [CountsClosing, kept.countP_eq]
    exact counts

/-- What is kept by every change, together with what is known of the stages at which calls wait,
holds after all moves. -/
theorem staged_induction {K : Scene → Stage → Prop} {P : Scene → Prop}
    (start : ∀ size, P (start size))
    (change : ∀ s s' : Scene, s.Staged (K s) → P s → s.Change (K s) s' →
      s'.Staged (K s') ∧ P s')
    (size : Nat) (moves : List Move) :
    (after size moves).Staged (K (after size moves)) ∧ P (after size moves) := by
  have run (moves : List Move) (s : Scene) (staged : s.Staged (K s)) (h : P s) :
      (moves.foldl step s).Staged (K (moves.foldl step s)) ∧ P (moves.foldl step s) := by
    induction moves generalizing s with
    | nil => exact ⟨staged, h⟩
    | cons m moves ih =>
      obtain ⟨staged', h'⟩ := change s _ staged h (step_change staged m)
      exact ih _ staged' h'
  exact run moves _ (fun _ h => absurd h List.not_mem_nil) (start size)

/-- What holds of an empty pool and is kept by every change holds after all moves. -/
theorem after_induction {P : Scene → Prop} (start : ∀ size, P (start size))
    (change : ∀ s s' : Scene, P s → (s.Change fun _ => True) s' → P s') (size : Nat)
    (moves : List Move) : P (after size moves) :=
  (staged_induction start
    (fun s s' staged h made => ⟨made.staged staged, change s s' h made⟩) size moves).2

end Scene

end BrokerClient.Channel.Pool
