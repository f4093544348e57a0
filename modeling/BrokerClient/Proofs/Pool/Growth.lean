import BrokerClient.Proofs.Pool.Lending
import Mathlib.Data.List.Perm.Subperm

/-!
# How large a pool grows

Between two closes, and while nothing fills it, a pool gets a new channel only for a borrower that
has found all channels lent. A borrower waits for its channel while others may give theirs back, so
the pool may come to have free channels; but it never has more channels than it had at first or than
were wanted at one moment, lent ones and those that borrowers wait for.

If each call is over before the next one begins, nobody gives a channel back while a borrower waits.
Then the pool has just as many channels as it had at first or as were lent at one moment.

## Main definitions

* `Move.Borrows` — the moves of borrowers.
* `Scene.peak` — the most of something that there has been along moves.
* `Scene.Serial` — moves in which calls do not overlap and every channel is opened.
* `Scene.Borrowed` — all that moves of borrowers do.
* `IsFirstFree` — the channel that is lent where some are free.

## Main results

* `Scene.Borrowed.supply_le`, `Scene.Borrowed.length_eq` — one move makes the pool as large as there
  is need of.
* `Scene.grows_on_demand` — so do any moves, and a borrower is given the first free channel or a
  new one.
-/

namespace BrokerClient.Channel.Pool

open Broker (ChannelId)

/-- A move of borrowers: neither a filling nor a close begins. -/
def Move.Borrows : Move → Prop
  | .begin .fill | .begin .close => False
  | _ => True

/-- A channel is not lent, and all before it are. -/
def IsFirstFree (p : Pool) (c : ChannelId) : Prop :=
  ∃ before after, p.channels = before ++ c :: after ∧ before ⊆ p.inUse ∧ c ∉ p.inUse

theorem free?_eq_some_iff {p : Pool} {c : ChannelId} : p.free? = some c ↔ p.IsFirstFree c := by
  simp only [free?, List.find?_eq_some_iff_append, IsFirstFree, Bool.not_eq_true',
    List.contains_eq_mem, decide_eq_false_iff_not, Bool.not_not, decide_eq_true_eq,
    List.subset_def]
  tauto

namespace Scene

/-- The most that there is of something along moves. -/
def peak (s : Scene) (count : Scene → Nat) : List Move → Nat
  | [] => count s
  | m :: moves => max (count s) ((s.step m).peak count moves)

theorem le_peak (count : Scene → Nat) (s : Scene) (moves : List Move) :
    count s ≤ s.peak count moves := by
  cases moves with
  | nil => exact Nat.le_refl _
  | cons m moves => exact Nat.le_max_left _ _

/-- The channels that are wanted: those in use and one for each call that waits. -/
def demand (s : Scene) : Nat :=
  s.pool.inUse.length + s.waiting.length

/-- How many channels are in use. -/
def lent (s : Scene) : Nat :=
  s.pool.inUse.length

/-- A call begins only when no call waits, and every channel that is waited for is opened. -/
def Serial : Scene → List Move → Prop
  | _, [] => True
  | s, m :: moves =>
    (∀ call, m = .begin call → s.waiting = []) ∧ (∀ i e, m ≠ .reply i (.failed e)) ∧
      Serial (s.step m) moves

/-- All calls that wait are borrowers, for channels of this lifetime of the pool. -/
def Borrowing (s : Scene) : Prop :=
  ∀ t ∈ s.waiting, t = (Stage.growing s.pool.generation).thread

/-- What a move of borrowers does. -/
inductive Borrowed (s : Scene) : Move → Scene → Prop
  | same {m} : Borrowed s m s
  | found {c} (free : s.pool.free? = some c) :
    Borrowed s (.begin .acquire) (s.proceed s.waiting (.done (some c), s.pool.lend c))
  | awaited (lent : s.pool.free? = none) : Borrowed s (.begin .acquire)
    (s.proceed s.waiting ((Stage.growing s.pool.generation).program, s.pool))
  | released {c} : Borrowed s (.begin (.release c))
    ((s.endLoan c).proceed s.waiting (.done none, s.pool.takeBack c))
  | opened {i c} (waits : i < s.waiting.length) (fresh : c ∉ s.opened) :
    Borrowed s (.reply i (.opened c)) ((s.noteOpened [c]).proceed (s.waiting.eraseIdx i)
      (.done (some c), (s.pool.add c).lend c))
  | unopened {i e} (waits : i < s.waiting.length) :
    Borrowed s (.reply i (.failed e)) ((s.noteOpened []).proceed (s.waiting.eraseIdx i)
      (.fail (openFailure e), s.pool))

variable {s s' : Scene} {m : Move}

theorem borrowed_step (borrowing : s.Borrowing) (borrows : m.Borrows) :
    s.Borrowed m (s.step m) := by
  cases m with
  | begin call =>
    cases call with
    | acquire =>
      rw [step]
      cases free : s.pool.free? with
      | some c =>
        rw [advance_acquire_of_free free]
        exact .found free
      | none =>
        rw [advance_acquire_of_none free]
        exact .awaited free
      rintro c ⟨⟩
    | release c =>
      rw [step, advance_release]
      split
      · exact .released
      · exact .same
    | fill | close => exact borrows.elim
  | beginClose i =>
    rw [step, beginClose]
    split
    · rename_i c cs h
      cases borrowing _ (List.mem_of_getElem? h)
    · exact .same
  | reply i reply =>
    rw [step, Scene.reply]
    split
    · rename_i program h
      have waits := (List.getElem?_eq_some_iff.mp h).1
      have stage : program = (Stage.growing s.pool.generation).program :=
        congrArg Thread.program (borrowing _ (List.mem_of_getElem? h))
      rw [stage]
      split
      · rename_i fresh
        split
        · rename_i r turn
          cases answered_of_turn turn with
          | lent => exact .opened waits (by simpa [Reply.channels] using fresh)
          | late opens later =>
            cases opens
            exact absurd rfl later
          | unopened opens => exact .unopened waits
        · exact .same
      · exact .same
    · exact .same

namespace Borrowed

variable (made : s.Borrowed m s') (lending : Lending s.pool s.opened s.loans)

include made

theorem borrowing (borrowing : s.Borrowing) : s'.Borrowing := by
  intro t member
  cases made with
  | same => exact borrowing t member
  | found free => exact borrowing t (by simpa [proceed, waits] using member)
  | awaited lent =>
    simp only [proceed, waits_program, List.mem_append, List.mem_singleton] at member
    exact member.elim (borrowing t) id
  | released => exact borrowing t (by simpa [proceed, waits, endLoan] using member)
  | opened inside fresh =>
    simp only [proceed, waits, List.append_nil] at member
    exact borrowing t (List.mem_of_mem_eraseIdx member)
  | unopened inside =>
    simp only [proceed, waits, List.append_nil] at member
    exact borrowing t (List.mem_of_mem_eraseIdx member)

include lending

/-- The channels and those that are waited for become more only by need. -/
theorem supply_le : s'.pool.channels.length + s'.waiting.length ≤
    max (s.pool.channels.length + s.waiting.length) s'.demand := by
  have kept (h : s'.pool.channels.length + s'.waiting.length ≤
      s.pool.channels.length + s.waiting.length) := Nat.le_trans h (Nat.le_max_left _ s'.demand)
  cases made with
  | same => exact kept (Nat.le_refl _)
  | found free => exact kept (by simp [proceed, waits, Pool.lend])
  | awaited lent =>
    have all := (lending.channels_nodup.subperm (free?_eq_none_iff.mp lent)).length_le
    refine Nat.le_trans ?_ (Nat.le_max_right _ _)
    simpa [proceed, demand] using all
  | released => exact kept (by simp [proceed, waits, endLoan, takeBack])
  | opened inside fresh =>
    refine kept ?_
    simp only [proceed, noteOpened, waits, Pool.add, Pool.lend, List.length_append,
      List.length_eraseIdx, inside, if_true, List.length_singleton, List.length_nil]
    omega
  | unopened inside =>
    refine kept ?_
    simp only [proceed, noteOpened, waits, List.length_append, List.length_eraseIdx, inside,
      if_true, List.length_nil]
    omega

end Borrowed

/-- No call waits, or only one, and this for want of a free channel. -/
def Single (s : Scene) : Prop :=
  s.waiting = [] ∨ s.waiting.length = 1 ∧ s.pool.free? = none

/-- Where no call waits, only the beginning of one makes a difference. -/
theorem Borrowed.eq_of_idle (made : s.Borrowed m s') (idle : s.waiting = [])
    (later : ∀ call, m ≠ .begin call) : s' = s := by
  cases made with
  | same => rfl
  | found | awaited | released => exact absurd rfl (later _)
  | opened inside | unopened inside => simp [idle] at inside

/-- Channels in use are channels of the pool. -/
theorem lent_le (lending : Lending s.pool s.opened s.loans) :
    s.lent ≤ s.pool.channels.length :=
  (lending.inUse_nodup.subperm fun _ h => ((lending.mem_inUse _).mp h).1).length_le

/-- While calls do not overlap, a pool has a channel more only if so many are in use. -/
theorem Borrowed.length_eq (made : s.Borrowed m s') (lending : Lending s.pool s.opened s.loans)
    (lending' : Lending s'.pool s'.opened s'.loans) (single : s.Single)
    (idle : ∀ call, m = .begin call → s.waiting = []) (opens : ∀ i e, m ≠ .reply i (.failed e)) :
    s'.Single ∧ s'.pool.channels.length = max s.pool.channels.length s'.lent := by
  have kept (same : s'.pool.channels.length = s.pool.channels.length) :
      s'.pool.channels.length = max s.pool.channels.length s'.lent :=
    same.trans (Nat.max_eq_left (same ▸ lent_le lending')).symm
  cases made with
  | same => exact ⟨single, kept rfl⟩
  | found free => exact ⟨.inl (by simp [proceed, waits, idle _ rfl]), kept rfl⟩
  | awaited lent =>
    exact ⟨.inr ⟨by simp [proceed, waits_program, idle _ rfl], lent⟩, kept rfl⟩
  | released => exact ⟨.inl (by simp [proceed, waits, endLoan, idle _ rfl]), kept rfl⟩
  | @opened i c inside fresh =>
    obtain ⟨one, none⟩ : s.waiting.length = 1 ∧ s.pool.free? = none :=
      single.resolve_left fun h => by simp [h] at inside
    have all := (lending.channels_nodup.subperm (free?_eq_none_iff.mp none)).length_le
    have most : s.pool.inUse.length ≤ s.pool.channels.length := lent_le lending
    have new : c ∉ s.pool.inUse :=
      fun h => fresh (lending.channels_opened ((lending.mem_inUse c).mp h).1)
    refine ⟨.inl (List.eq_nil_of_length_eq_zero ?_), ?_⟩
    · simp only [proceed, noteOpened, waits, List.append_nil, List.length_eraseIdx, inside, if_true]
      omega
    · simp only [proceed, noteOpened, Pool.add, Pool.lend, lent, List.length_append,
        List.insert_of_not_mem new, List.length_cons, List.length_nil]
      omega
  | unopened => exact absurd rfl (opens _ _)

/-! ### Along moves -/

theorem after_concat (size : Nat) (before : List Move) (m : Move) :
    after size (before ++ [m]) = (after size before).step m := by
  simp [after]

theorem after_append_cons (size : Nat) (before moves : List Move) (m : Move) :
    after size (before ++ m :: moves) = after size (before ++ [m] ++ moves) := by
  simp

variable {size : Nat} {before moves : List Move}

/-- While only borrowers move, the channels and those that are waited for stay within what there
were and what was wanted at one moment. -/
theorem supply_le_peak (borrowing : (after size before).Borrowing)
    (borrows : ∀ m ∈ moves, m.Borrows) :
    let s := after size before
    let s' := after size (before ++ moves)
    s'.Borrowing ∧ s'.pool.channels.length + s'.waiting.length ≤
      max (s.pool.channels.length + s.waiting.length) (s.peak demand moves) := by
  induction moves generalizing before with
  | nil =>
    rw [List.append_nil]
    exact ⟨borrowing, Nat.le_max_left _ _⟩
  | cons m moves ih =>
    obtain ⟨first, others⟩ := List.forall_mem_cons.mp borrows
    have made := borrowed_step borrowing first
    obtain ⟨kept, bound⟩ := @ih (before ++ [m])
      ((after_concat size before m).symm ▸ made.borrowing borrowing) others
    rw [after_append_cons]
    refine ⟨kept, Nat.le_trans bound ?_⟩
    rw [after_concat]
    have one := made.supply_le (lending_after size before)
    have top : ((after size before).step m).demand ≤
        ((after size before).step m).peak demand moves := le_peak ..
    simp only [peak]
    omega

theorem Serial.split {s : Scene} {later : List Move} (serial : s.Serial (moves ++ later)) :
    s.Serial moves ∧ (moves.foldl step s).Serial later := by
  induction moves generalizing s with
  | nil => exact ⟨trivial, serial⟩
  | cons m moves ih =>
    obtain ⟨idle, opens, rest⟩ := serial
    exact ⟨⟨idle, opens, (ih rest).1⟩, (ih rest).2⟩

/-- While borrowers move one after the other, the pool has the channels that it had, or as many as
were lent at one moment. -/
theorem length_eq_peak (borrowing : (after size before).Borrowing)
    (single : (after size before).Single) (borrows : ∀ m ∈ moves, m.Borrows)
    (serial : (after size before).Serial moves) :
    let s := after size before
    let s' := after size (before ++ moves)
    s'.Single ∧ s'.pool.channels.length = max s.pool.channels.length (s.peak lent moves) := by
  induction moves generalizing before with
  | nil =>
    rw [List.append_nil]
    exact ⟨single, (Nat.max_eq_left (lent_le (lending_after size before))).symm⟩
  | cons m moves ih =>
    obtain ⟨first, others⟩ := List.forall_mem_cons.mp borrows
    obtain ⟨idle, opens, rest⟩ := serial
    have made := borrowed_step borrowing first
    have step_eq := after_concat size before m
    have lending' := lending_after size (before ++ [m])
    rw [step_eq] at lending'
    obtain ⟨single', one⟩ := made.length_eq (lending_after size before) lending' single idle opens
    obtain ⟨kept, all⟩ := @ih (before ++ [m]) (step_eq ▸ made.borrowing borrowing)
      (step_eq ▸ single') others (step_eq ▸ rest)
    rw [after_append_cons]
    refine ⟨kept, all.trans ?_⟩
    rw [step_eq]
    have low := lent_le (lending_after size before)
    have top : ((after size before).step m).lent ≤
        ((after size before).step m).peak lent moves := le_peak ..
    simp only [peak]
    omega

/-- Where no call waits and none begins, nothing happens. -/
theorem eq_of_idle {s : Scene} (idle : s.waiting = []) (borrows : ∀ m ∈ moves, m.Borrows)
    (later : ∀ m ∈ moves, ∀ call, m ≠ .begin call) : moves.foldl step s = s := by
  induction moves with
  | nil => rfl
  | cons m moves ih =>
    have borrowing : s.Borrowing := by simp [Borrowing, idle]
    have same := (borrowed_step borrowing (borrows m List.mem_cons_self)).eq_of_idle idle
      (later m List.mem_cons_self)
    rw [List.foldl_cons, same]
    exact ih (fun m h => borrows m (List.mem_cons_of_mem _ h))
      fun m h => later m (List.mem_cons_of_mem _ h)

/-- A borrower that waits alone is given the channel that is opened for it. -/
theorem opened_of_single {s : Scene} (borrowing : s.Borrowing) (one : s.waiting.length = 1)
    (borrows : ∀ m ∈ moves, m.Borrows) (later : ∀ m ∈ moves, ∀ call, m ≠ .begin call)
    (serial : s.Serial moves) (idle : (moves.foldl step s).waiting = []) :
    ∃ c, c ∉ s.opened ∧ (moves.foldl step s).loans = s.loans ++ [c] ∧
      (moves.foldl step s).pool.channels = s.pool.channels ++ [c] := by
  induction moves with
  | nil => simp [show s.waiting = [] from idle] at one
  | cons m moves ih =>
    obtain ⟨first, others⟩ := List.forall_mem_cons.mp borrows
    obtain ⟨noBegin, noneLater⟩ := List.forall_mem_cons.mp later
    obtain ⟨-, opens, rest⟩ := serial
    have made := borrowed_step borrowing first
    rw [List.foldl_cons] at idle ⊢
    generalize s.step m = s' at made idle rest ⊢
    cases made with
    | same => exact ih others noneLater rest idle
    | found | awaited | released => exact absurd rfl (noBegin _)
    | unopened => exact absurd rfl (opens _ _)
    | @opened i c inside fresh =>
      have settled : ((s.noteOpened [c]).proceed (s.waiting.eraseIdx i)
          (.done (some c), (s.pool.add c).lend c)).waiting = [] := by
        refine List.eq_nil_of_length_eq_zero ?_
        simp only [proceed, noteOpened, waits, List.append_nil, List.length_eraseIdx, inside,
          if_true]
        omega
      rw [eq_of_idle settled others noneLater]
      exact ⟨c, fresh, rfl, rfl⟩

/-- An acquire that begins where no call waits, and ends before another call begins, gives the first
free channel, or a new one where none is free. -/
theorem lent_in_order {s : Scene} (idle : s.waiting = []) (borrows : ∀ m ∈ moves, m.Borrows)
    (later : ∀ m ∈ moves, ∀ call, m ≠ .begin call)
    (serial : (s.step (.begin .acquire)).Serial moves)
    (settled : (moves.foldl step (s.step (.begin .acquire))).waiting = []) :
    let s' := moves.foldl step (s.step (.begin .acquire))
    ∃ c, s'.loans = s.loans ++ [c] ∧
      (s.pool.IsFirstFree c ∧ s'.pool.channels = s.pool.channels ∨
        s.pool.channels ⊆ s.pool.inUse ∧ c ∉ s.opened ∧
          s'.pool.channels = s.pool.channels ++ [c]) := by
  intro s'
  have borrowing : s.Borrowing := by simp [Borrowing, idle]
  cases free : s.pool.free? with
  | some c =>
    have lent : s.step (.begin .acquire) =
        s.proceed s.waiting (.done (some c), s.pool.lend c) := by
      simp only [step, advance_acquire_of_free free]
    have still : s' = s.step (.begin .acquire) :=
      eq_of_idle (by simp [lent, proceed, waits, idle]) borrows later
    rw [still, lent]
    exact ⟨c, rfl, .inl ⟨free?_eq_some_iff.mp free, rfl⟩⟩
  | none =>
    have waiting : s.step (.begin .acquire) =
        s.proceed s.waiting ((Stage.growing s.pool.generation).program, s.pool) := by
      simp only [step, advance_acquire_of_none free]
    obtain ⟨c, fresh, loans, channels⟩ := opened_of_single
      ((borrowed_step (m := .begin .acquire) borrowing trivial).borrowing borrowing)
      (by simp [waiting, proceed, waits_program, idle]) borrows later serial settled
    refine ⟨c, loans.trans ?_, .inr ⟨free?_eq_none_iff.mp free, ?_, channels.trans ?_⟩⟩
    · simp [waiting, proceed]
    · simpa [waiting, proceed] using fresh
    · simp [waiting, proceed]

/-- From a pool where no call waits, whatever borrowers do afterwards, and in any order: only
borrowers wait, and the pool has no more channels than it had or than were wanted at one moment. If
the borrowers come one after the other and every channel is opened, it has just as many as it had or
as were in use at one moment; and each of them is given the first free channel, or a new one at the
end where all are lent. -/
theorem grows_on_demand (size : Nat) (before moves : List Move)
    (rest : (after size before).waiting = []) (borrows : ∀ m ∈ moves, m.Borrows) :
    let s := after size before
    let s' := after size (before ++ moves)
    s'.Borrowing ∧
      s'.pool.channels.length ≤ max s.pool.channels.length (s.peak demand moves) ∧
      (s.Serial moves →
        s'.pool.channels.length = max s.pool.channels.length (s.peak lent moves) ∧
        ∀ earlier later, moves = earlier ++ .begin .acquire :: later →
          (∀ m ∈ later, ∀ call, m ≠ .begin call) → s'.waiting = [] →
          let t := after size (before ++ earlier)
          ∃ c, s'.loans = t.loans ++ [c] ∧
            (t.pool.IsFirstFree c ∧ s'.pool.channels = t.pool.channels ∨
              t.pool.channels ⊆ t.pool.inUse ∧ c ∉ t.opened ∧
                s'.pool.channels = t.pool.channels ++ [c])) := by
  intro s s'
  have borrowing : s.Borrowing := by simp [Borrowing, s, rest]
  obtain ⟨kept, bound⟩ := supply_le_peak borrowing borrows
  refine ⟨kept, ?_, fun serial => ?_⟩
  · rw [rest, List.length_nil, Nat.add_zero] at bound
    exact Nat.le_trans (Nat.le_add_right _ _) bound
  · obtain ⟨-, exact⟩ := length_eq_peak borrowing (.inl rest) borrows serial
    refine ⟨exact, ?_⟩
    rintro earlier later rfl noneLater settled t
    obtain ⟨-, idle, -, serialLater⟩ := serial.split
    have here : earlier.foldl step s = t := by simp [s, t, after]
    rw [here] at idle serialLater
    have there : s' = later.foldl step (t.step (.begin .acquire)) := by simp [s', t, after]
    rw [there] at settled ⊢
    exact lent_in_order (idle _ rfl) (fun m h => borrows m (by simp [h])) noneLater serialLater
      settled

/-- A second borrower of one channel makes the pool grow by one. -/
theorem grows_for_second :
    let before : List Move := [.begin .fill, .reply 0 (.opened ⟨1⟩)]
    let moves : List Move := [.begin .acquire, .begin .acquire, .reply 0 (.opened ⟨2⟩)]
    (after 1 before).waiting = [] ∧ (∀ m ∈ moves, m.Borrows) ∧ (after 1 before).Serial moves ∧
      (after 1 before).peak lent moves = 2 ∧
      (after 1 (before ++ moves)).pool.channels.length =
        max (after 1 before).pool.channels.length ((after 1 before).peak lent moves) := by
  intro before moves
  have rest : (after 1 before).waiting = [] := rfl
  have borrows : ∀ m ∈ moves, m.Borrows := by simp [moves, Move.Borrows]
  have serial : (after 1 before).Serial moves :=
    ⟨fun _ _ => rfl, nofun, fun _ _ => rfl, nofun, nofun, nofun, trivial⟩
  exact ⟨rest, borrows, serial, by decide,
    ((grows_on_demand 1 before moves rest borrows).2.2 serial).1⟩

end Scene

end BrokerClient.Channel.Pool
