import BrokerClient.Proofs.Pool.Scene

/-!
# No filling is cut short

A filling opens channels until the pool has its size, in a number of rounds that is fixed when it
begins. Closes that are waiting at that moment may empty the pool under it, each of them once; a
close that begins later ends the filling instead. The rounds last for all this: a filling that ends
well has left a pool of its size, whatever calls overlap with it.

## Main definitions

* `Stage.Ample` — a filling has rounds left for all that may happen to it.

## Main results

* `Scene.ample_after` — this is so of every waiting filling in every reachable scene.
* `Scene.full_of_filled` — a filling ends well with a pool of its size only.
-/

namespace BrokerClient.Channel.Pool

open Broker (ChannelId)

/-- A filling that the pool has not outlived has rounds left to fill the pool after every close that
is waiting. -/
def Stage.Ample (p : Pool) : Stage → Prop
  | .filling g rounds => g ≤ p.generation ∧ (g = p.generation →
    (p.closing + 1) * p.size ≤ rounds + 1 + min p.channels.length p.size)
  | _ => True

variable {p : Pool} {st : Option Stage} {cs : List ChannelId}
  {r : Act (Option ChannelId) × Pool}

/-- Rounds stay ample while other calls take their turns. -/
theorem Stage.Ample.turn {x : Stage} (h : x.Ample p) (turn : Turn p st cs r)
    (busy : ∀ cs, st = some (.closing cs) → 0 < p.closing) : x.Ample r.2 := by
  cases x with
  | growing | discarding | closing => trivial
  | filling g rounds =>
    obtain ⟨le, ample⟩ := h
    cases turn with
    | stay | lend | late => exact ⟨le, ample⟩
    | grow | fill =>
      refine ⟨le, fun now => ?_⟩
      have := ample now
      simp only [Pool.lend, Pool.add, List.length_append, List.length_singleton]
      omega
    | closeNone | close =>
      refine ⟨Nat.le_succ_of_le le, fun now => ?_⟩
      have later : g = p.generation + 1 := now
      omega
    | @closed cs =>
      refine ⟨le, fun now => ?_⟩
      have before := ample now
      -- the close that ends has paid for one more filling
      obtain ⟨closes, eq⟩ := Nat.exists_eq_succ_of_ne_zero (Nat.ne_of_gt (busy cs rfl))
      rw [eq, Nat.succ_mul] at before
      simp only [Pool.forget, endClose, eq, List.length_nil]
      change (closes + 1) * p.size ≤ _
      omega

/-- What a filling leaves waiting has ample rounds. -/
theorem Quiet.ample {rounds : Nat} {q : Act (Option ChannelId)} (h : Quiet p rounds q)
    (enough : p.channels.length < p.size →
      (p.closing + 1) * p.size ≤ rounds + min p.channels.length p.size) :
    ∀ t ∈ waits q, ∃ x : Stage, x.Ample p ∧ t.program = x.program := by
  cases h with
  | done | fail => simp [waits]
  | grow =>
    intro t ht
    rw [waits_program, List.mem_singleton] at ht
    exact ⟨.growing p.generation, trivial, ht ▸ rfl⟩
  | @fill rounds small =>
    intro t ht
    rw [waits_program, List.mem_singleton] at ht
    exact ⟨.filling p.generation rounds, ⟨Nat.le_refl _, fun _ => enough small⟩, ht ▸ rfl⟩

/-- A filling is over when the rounds are, or when the pool has its size. -/
theorem Quiet.finished {rounds : Nat} (h : Quiet p rounds (.done none)) :
    rounds = 0 ∨ p.size ≤ p.channels.length := by
  cases h with
  | done finished => exact finished

/-- What a turn leaves waiting has ample rounds. -/
theorem ample_waits (turn : Turn p st cs r) (ample : ∀ x ∈ st, x.Ample p) :
    ∀ t ∈ waits r.1, ∃ x : Stage, x.Ample r.2 ∧ t.program = x.program := by
  cases turn with
  | stay other quiet => exact quiet.ample fun _ => Nat.le_add_right _ _
  | lend | grow | closeNone | closed => simp [waits]
  | @fill c rounds q quiet =>
    refine quiet.ample fun small => ?_
    have before := (ample _ rfl).2 rfl
    simp only [Pool.add, List.length_append, List.length_singleton] at small ⊢
    omega
  | @late x c operation other =>
    intro t ht
    rw [waits_program, List.mem_singleton] at ht
    exact ⟨.discarding operation c, trivial, ht ▸ rfl⟩
  | close nonempty =>
    intro t ht
    rw [waits_program, List.mem_singleton] at ht
    exact ⟨.closing p.channels, trivial, ht ▸ rfl⟩

namespace Scene

variable {s : Scene}

theorem Change.ample {s' : Scene} (h : s.Change (Stage.Ample s.pool) s')
    (ample : s.Staged (Stage.Ample s.pool)) (counts : s.CountsClosing) :
    s'.Staged (Stage.Ample s'.pool) := by
  cases h with
  | same => exact ample
  | @turn st cs r rest waiting kind fresh turn =>
    have busy (cs : List ChannelId) (closing : st = some (.closing cs)) : 0 < s.pool.closing := by
      rw [counts, waiting.countP_eq, closing]
      simp [Stage.thread, Stage.isClosing]
    exact ample.proceed waiting (fun x h => h.turn turn busy) (ample_waits turn kind)
  | release lent => exact fun t ht => ample t (by simpa [proceed, endLoan, waits] using ht)
  | beginClose waiting kept => exact ample.beginClose waiting kept

/-- Every filling that waits has ample rounds in every reachable scene. -/
theorem ample_after (size : Nat) (moves : List Move) :
    (after size moves).Staged (Stage.Ample (after size moves).pool) :=
  (staged_induction (K := fun s => Stage.Ample s.pool) (fun _ => rfl)
    (fun _ _ ample counts h => ⟨h.ample ample counts, h.countsClosing counts⟩) size moves).1

/-- A filling that ends well, at once or after a channel has been opened, leaves a pool of its
size. -/
theorem full_of_filled (size : Nat) (moves : List Move) :
    let s := after size moves
    (∀ p, Call.fill.program.advance pass s.pool = (.done none, p) → p.size ≤ p.channels.length) ∧
      ∀ t ∈ s.waiting, ∀ c p, (Reply.opened c).turn s.pool t.program = some (.done none, p) →
        p.size ≤ p.channels.length := by
  intro s
  constructor
  · intro p ended
    obtain ⟨q, left, eq⟩ := filling_fillFrom ((s.pool.closing + 1) * s.pool.size) s.pool
    rw [advance_fill, eq, Prod.mk.injEq] at ended
    obtain ⟨rfl, rfl⟩ := ended
    rcases left.quiet.finished with none | full
    · have : s.pool.size = 0 := (Nat.mul_eq_zero.mp none).resolve_left (Nat.succ_ne_zero _)
      omega
    · exact full
  · intro t ht c p ended
    obtain ⟨x, ample, eq⟩ : ∃ x : Stage, x.Ample s.pool ∧ t.program = x.program :=
      ample_after size moves t ht
    rw [eq] at ended
    have turn : Turn s.pool (some x) [c] (.done none, p) := turn_reply ended
    cases turn with
    | fill quiet =>
      rcases quiet.finished with rfl | full
      · have enough := ample.2 rfl
        have once : s.pool.size ≤ (s.pool.closing + 1) * s.pool.size :=
          Nat.le_mul_of_pos_left _ (Nat.succ_pos _)
        simp only [Pool.add, List.length_append, List.length_singleton]
        omega
      · exact full

end Scene

end BrokerClient.Channel.Pool
