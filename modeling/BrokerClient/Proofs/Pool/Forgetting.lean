import BrokerClient.Proofs.Pool.Scene

/-!
# Which channels a pool forgets without closing them

A close takes down the channels that it is going to close, waits until this is done, and then
empties the pool. A channel that joins the pool while the close waits was not taken down: if no
other close begins before the first is over, the channel leaves the pool and nothing ever closes it.
This is the only way in which a pool loses a channel.

## Main definitions

* `Scene.Forgotten` — the channel joined while a close was waiting and left before the next began.
* `Custody` — the invariant: every channel is in the pool, is or will be closed, or is forgotten.

## Main results

* `Scene.held_or_closed_iff` — at rest, every channel that is not in the pool is closed or
  forgotten, and not both.
-/

namespace BrokerClient.Channel.Pool

open Broker (ChannelId)

namespace Scene

/-- The channel joined the pool while a close was waiting, and left it before another close
began. -/
def Forgotten (s : Scene) (c : ChannelId) : Prop :=
  ∃ j ∈ s.joined, j.channel = c ∧ 0 < j.closing ∧ (c, j.generation) ∈ s.left

instance (s : Scene) (c : ChannelId) : Decidable (s.Forgotten c) :=
  inferInstanceAs (Decidable (∃ j ∈ s.joined, _))

/-- The channel is closed, or a call that waits is going to close it. -/
def Claimed (s : Scene) (c : ChannelId) : Prop :=
  c ∈ s.closed ∨ ∃ t ∈ s.waiting, c ∈ t.unclosed

end Scene

/-- Every opened channel has been claimed for closing, is in the pool since no close has begun, or
is forgotten. -/
structure Custody (p : Pool) (opened : List ChannelId) (joined : List Join)
    (left : List (ChannelId × Nat)) (claimed : ChannelId → Prop) : Prop where
  channels_opened : p.channels ⊆ opened
  joined_before : ∀ j ∈ joined, j.channel ∈ opened ∧ j.generation ≤ p.generation
  left_for_good : ∀ x ∈ left, x.1 ∈ opened ∧ x.1 ∉ p.channels
  claimed_in_time : ∀ c, claimed c → c ∈ opened ∧ ∀ j ∈ joined, j.channel = c →
    j.generation < p.generation ∧ (c, j.generation) ∉ left
  fate : ∀ c ∈ opened, claimed c ∨ ∃ j ∈ joined, j.channel = c ∧
    (c ∈ p.channels ∧ j.generation = p.generation ∨ 0 < j.closing ∧ (c, j.generation) ∈ left)
  closing_le : ∀ j ∈ joined, j.generation = p.generation → p.closing ≤ j.closing

namespace Custody

variable {p : Pool} {opened : List ChannelId} {joined : List Join}
  {left : List (ChannelId × Nat)} {claimed : ChannelId → Prop} {c : ChannelId}

theorem start (size : Nat) : Custody { size } [] [] [] fun _ => False := by
  constructor <;> simp

/-- Loans are of no concern to custody. -/
theorem lend (h : Custody p opened joined left claimed) (inUse : List ChannelId) :
    Custody { p with inUse } opened joined left claimed :=
  ⟨h.channels_opened, h.joined_before, h.left_for_good, h.claimed_in_time, h.fate, h.closing_le⟩

/-- A channel that is opened in time joins the pool. -/
theorem add (h : Custody p opened joined left claimed) (fresh : c ∉ opened) :
    Custody (p.add c) (opened ++ [c]) (joined ++ [⟨c, p.generation, p.closing⟩]) left claimed where
  channels_opened := List.append_subset.mpr
    ⟨List.subset_append_of_subset_left _ h.channels_opened, List.subset_append_right _ _⟩
  joined_before j hj := by
    rcases List.mem_append.mp hj with hj | hj
    · obtain ⟨mem, le⟩ := h.joined_before j hj
      exact ⟨List.mem_append_left _ mem, le⟩
    · obtain rfl := List.mem_singleton.mp hj
      exact ⟨List.mem_append_right _ (List.mem_singleton_self c), Nat.le_refl _⟩
  left_for_good x hx := by
    obtain ⟨mem, out⟩ := h.left_for_good x hx
    refine ⟨List.mem_append_left _ mem, fun inside => ?_⟩
    rcases List.mem_append.mp inside with inside | inside
    · exact out inside
    · exact fresh (List.mem_singleton.mp inside ▸ mem)
  claimed_in_time d hd := by
    obtain ⟨mem, early⟩ := h.claimed_in_time d hd
    refine ⟨List.mem_append_left _ mem, fun j hj eq => ?_⟩
    rcases List.mem_append.mp hj with hj | hj
    · exact early j hj eq
    · obtain rfl := List.mem_singleton.mp hj
      obtain rfl : c = d := eq
      exact absurd mem fresh
  fate d hd := by
    rcases List.mem_append.mp hd with hd | hd
    · rcases h.fate d hd with claimed | ⟨j, hj, eq, ⟨inside, now⟩ | forgotten⟩
      · exact .inl claimed
      · exact .inr ⟨j, List.mem_append_left _ hj, eq, .inl ⟨List.mem_append_left _ inside, now⟩⟩
      · exact .inr ⟨j, List.mem_append_left _ hj, eq, .inr forgotten⟩
    · obtain rfl := List.mem_singleton.mp hd
      exact .inr ⟨_, List.mem_append_right _ (List.mem_singleton_self _), rfl,
        .inl ⟨List.mem_append_right _ (List.mem_singleton_self _), rfl⟩⟩
  closing_le j hj now := by
    rcases List.mem_append.mp hj with hj | hj
    · exact h.closing_le j hj now
    · obtain rfl := List.mem_singleton.mp hj
      exact Nat.le_refl _

/-- A channel that is opened too late is claimed at once. -/
theorem discard (h : Custody p opened joined left claimed) (fresh : c ∉ opened) :
    Custody p (opened ++ [c]) joined left fun d => claimed d ∨ d = c where
  channels_opened := List.subset_append_of_subset_left _ h.channels_opened
  joined_before j hj := by
    obtain ⟨mem, le⟩ := h.joined_before j hj
    exact ⟨List.mem_append_left _ mem, le⟩
  left_for_good x hx := by
    obtain ⟨mem, out⟩ := h.left_for_good x hx
    exact ⟨List.mem_append_left _ mem, out⟩
  claimed_in_time d hd := by
    rcases hd with hd | rfl
    · obtain ⟨mem, early⟩ := h.claimed_in_time d hd
      exact ⟨List.mem_append_left _ mem, early⟩
    · refine ⟨List.mem_append_right _ (List.mem_singleton_self d), fun j hj eq => ?_⟩
      exact absurd (eq ▸ (h.joined_before j hj).1) fresh
  fate d hd := by
    rcases List.mem_append.mp hd with hd | hd
    · exact (h.fate d hd).imp_left .inl
    · exact .inl (.inr (List.mem_singleton.mp hd))
  closing_le := h.closing_le

/-- A close claims all channels of the pool. -/
theorem beginClose (h : Custody p opened joined left claimed) (closing : Nat) :
    Custody { p with generation := p.generation + 1, closing } opened joined left
      fun d => claimed d ∨ d ∈ p.channels where
  channels_opened := h.channels_opened
  joined_before j hj := by
    obtain ⟨mem, le⟩ := h.joined_before j hj
    exact ⟨mem, Nat.le_succ_of_le le⟩
  left_for_good := h.left_for_good
  claimed_in_time d hd := by
    rcases hd with hd | hd
    · obtain ⟨mem, early⟩ := h.claimed_in_time d hd
      refine ⟨mem, fun j hj eq => ?_⟩
      obtain ⟨lt, unleft⟩ := early j hj eq
      exact ⟨Nat.lt_succ_of_lt lt, unleft⟩
    · refine ⟨h.channels_opened hd, fun j hj eq => ?_⟩
      exact ⟨Nat.lt_succ_of_le (h.joined_before j hj).2,
        fun out => (h.left_for_good _ out).2 hd⟩
  fate d hd := by
    rcases h.fate d hd with claimed | ⟨j, hj, eq, ⟨inside, -⟩ | forgotten⟩
    · exact .inl (.inl claimed)
    · exact .inl (.inr inside)
    · exact .inr ⟨j, hj, eq, .inr forgotten⟩
  closing_le j hj now := by
    have := (h.joined_before j hj).2
    simp only at now
    omega

/-- The end of a close forgets the channels that have joined since. -/
theorem forget (h : Custody p opened joined left claimed) (busy : 0 < p.closing) :
    Custody p.endClose.forget opened joined
      (left ++ p.channels.map fun c => (c, p.generation)) claimed where
  channels_opened := List.nil_subset _
  joined_before := h.joined_before
  left_for_good x hx := by
    rcases List.mem_append.mp hx with hx | hx
    · exact ⟨(h.left_for_good x hx).1, List.not_mem_nil⟩
    · obtain ⟨d, hd, rfl⟩ := List.mem_map.mp hx
      exact ⟨h.channels_opened hd, List.not_mem_nil⟩
  claimed_in_time d hd := by
    obtain ⟨mem, early⟩ := h.claimed_in_time d hd
    refine ⟨mem, fun j hj eq => ?_⟩
    obtain ⟨lt, unleft⟩ := early j hj eq
    refine ⟨lt, fun out => ?_⟩
    rcases List.mem_append.mp out with out | out
    · exact unleft out
    · obtain ⟨e, -, pair⟩ := List.mem_map.mp out
      have now : p.generation = j.generation := congrArg Prod.snd pair
      omega
  fate d hd := by
    rcases h.fate d hd with claimed | ⟨j, hj, eq, ⟨inside, now⟩ | ⟨while_closing, out⟩⟩
    · exact .inl claimed
    · have le := h.closing_le j hj now
      refine .inr ⟨j, hj, eq, .inr ⟨by omega, List.mem_append_right _ ?_⟩⟩
      exact List.mem_map.mpr ⟨d, inside, by rw [now]⟩
    · exact .inr ⟨j, hj, eq, .inr ⟨while_closing, List.mem_append_left _ out⟩⟩
  closing_le j hj now := by
    have := h.closing_le j hj now
    simp only [endClose, Pool.forget]
    omega

end Custody

/-! ### What a turn does to the records -/

theorem newIn_self (cs : List ChannelId) : newIn cs cs = [] := by
  simp [newIn]

theorem newIn_append_singleton {cs : List ChannelId} {c : ChannelId} (h : c ∉ cs) :
    newIn (cs ++ [c]) cs = [c] ∧ newIn cs (cs ++ [c]) = [] := by
  have none : newIn cs (cs ++ [c]) = [] := by
    simp only [newIn, List.filter_eq_nil_iff]
    intro d hd
    simp [hd]
  refine ⟨?_, none⟩
  rw [newIn, List.filter_append, ← newIn, newIn_self]
  simp [h]

theorem newIn_nil (cs : List ChannelId) : newIn [] cs = [] ∧ newIn cs [] = cs := by
  simp [newIn]

namespace Scene

variable {s : Scene} {known : Stage → Prop} {st : Option Stage} {cs : List ChannelId}
  {r : Act (Option ChannelId) × Pool} {rest : List Thread}

/-- What a scene records is in good custody. -/
def InCustody (s : Scene) : Prop :=
  Custody s.pool s.opened s.joined s.left s.Claimed

/-- The claims after a turn are the claims before it and those that the turn makes. -/
theorem claimed_proceed (waiting : s.waiting.Perm ((st.map Stage.thread).toList ++ rest)) :
    ((s.noteOpened cs).proceed rest r).Claimed = fun c => s.Claimed c ∨ c ∈ claims r.1 := by
  funext c
  have before : (∃ t ∈ s.waiting, c ∈ t.unclosed) ↔ ∃ t ∈ rest, c ∈ t.unclosed := by
    simp only [waiting.mem_iff, List.mem_append, or_and_right, exists_or]
    cases st <;> simp [Stage.thread]
  simp only [Claimed, proceed, noteOpened, before, claims, List.mem_append, List.mem_flatMap,
    or_and_right, exists_or]
  exact propext or_or_or_comm

theorem InCustody.turn (h : s.InCustody) (counts : s.CountsClosing)
    (waiting : s.waiting.Perm ((st.map Stage.thread).toList ++ rest))
    (fresh : ∀ c ∈ cs, c ∉ s.opened) (turn : Turn s.pool st cs r) :
    ((s.noteOpened cs).proceed rest r).InCustody := by
  rw [InCustody, claimed_proceed waiting]
  simp only [proceed, noteOpened]
  cases turn with
  | stay other quiet =>
    simp only [quiet.claims_eq, newIn_self, List.map_nil, List.append_nil, List.not_mem_nil,
      or_false]
    exact h
  | @lend c free =>
    have none : claims (.done (some c)) = [] := rfl
    simp only [none, Pool.lend, newIn_self, List.map_nil, List.append_nil, List.not_mem_nil,
      or_false]
    exact h.lend _
  | @grow c =>
    have new : c ∉ s.opened := fresh c (List.mem_singleton_self c)
    have out : c ∉ s.pool.channels := fun inside => new (h.channels_opened inside)
    have none : claims (.done (some c)) = [] := rfl
    simp only [none, Pool.lend, Pool.add, newIn_append_singleton out, List.map_nil, List.map_cons,
      List.append_nil, List.not_mem_nil, or_false]
    exact (h.add new).lend _
  | @fill c rounds q quiet =>
    have new : c ∉ s.opened := fresh c (List.mem_singleton_self c)
    have out : c ∉ s.pool.channels := fun inside => new (h.channels_opened inside)
    simp only [quiet.claims_eq, Pool.add, newIn_append_singleton out, List.map_nil, List.map_cons,
      List.append_nil, List.not_mem_nil, or_false]
    exact h.add new
  | @late st c operation other =>
    simp only [claims_program, Stage.claims, newIn_self, List.map_nil, List.append_nil,
      List.mem_singleton]
    exact h.discard (fresh c (List.mem_singleton_self c))
  | closeNone empty =>
    have claimed : (fun c => s.Claimed c ∨ c ∈ s.pool.channels) = s.Claimed := by
      simp [empty]
    have finished := (h.beginClose (s.pool.closing + 1)).forget (Nat.succ_pos _)
    rw [claimed, empty, List.map_nil, List.append_nil] at finished
    have none : claims (.done none) = [] := rfl
    simp only [none, Pool.forget, newIn_nil, empty, List.map_nil, List.append_nil,
      List.not_mem_nil, or_false]
    exact finished
  | close nonempty =>
    simp only [claims_program, Stage.claims, Pool.beginClose, newIn_self, List.map_nil,
      List.append_nil]
    exact h.beginClose _
  | closed =>
    have busy : 0 < s.pool.closing := by
      rw [counts, waiting.countP_eq]
      simp [Stage.thread, Stage.isClosing]
    have none : claims (.done none) = [] := rfl
    simp only [none, Pool.forget, endClose, newIn_nil, List.map_nil, List.append_nil,
      List.not_mem_nil, or_false]
    exact h.forget busy

theorem Change.inCustody {s' : Scene} (change : s.Change known s') (h : s.InCustody)
    (counts : s.CountsClosing) : s'.InCustody := by
  cases change with
  | same => exact h
  | turn waiting kind fresh turn => exact h.turn counts waiting fresh turn
  | @release c lent =>
    have claimed : ((s.endLoan c).proceed s.waiting (.done none, s.pool.takeBack c)).Claimed =
        s.Claimed := by
      funext d
      simp [Claimed, proceed, endLoan, waits, closesNow]
    rw [InCustody, claimed]
    simp only [proceed, endLoan, takeBack, newIn_self, List.map_nil, List.append_nil]
    exact h.lend _
  | @beginClose program c cs rest waiting' waiting kept =>
    have claimed : Claimed { s with waiting := waiting', closed := s.closed ++ [c] } =
        s.Claimed := by
      funext d
      simp only [Claimed, waiting.mem_iff, kept.mem_iff, List.mem_append, List.mem_cons,
        exists_eq_or_imp, List.not_mem_nil, or_false, or_assoc]
    rw [InCustody, claimed]
    exact h

theorem custody_after (size : Nat) (moves : List Move) :
    (after size moves).CountsClosing ∧ (after size moves).InCustody := by
  refine after_induction (P := fun s => s.CountsClosing ∧ s.InCustody) (fun size => ?_)
    (fun s s' h change => ?_) size moves
  · have none : (start size).Claimed = fun _ => False := by
      funext c
      simp [Claimed, start]
    exact ⟨rfl, by rw [InCustody, none]; exact .start size⟩
  · exact ⟨change.countsClosing h.1, change.inCustody h.2 h.1⟩

/-- While no call is waiting, an opened channel is in the pool or has been closed exactly if it is
not one that joined the pool while a close was waiting and left it before another close began. -/
theorem held_or_closed_iff (size : Nat) (moves : List Move)
    (rest : (after size moves).waiting = []) (c : ChannelId) (hc : c ∈ (after size moves).opened) :
    c ∈ (after size moves).pool.channels ∨ c ∈ (after size moves).closed ↔
      ¬ (after size moves).Forgotten c := by
  obtain ⟨-, h⟩ := custody_after size moves
  have claimed : (after size moves).Claimed c ↔ c ∈ (after size moves).closed := by
    simp [Claimed, rest]
  constructor
  · rintro (inside | closed) ⟨j, hj, eq, -, out⟩
    · exact (h.left_for_good _ out).2 inside
    · exact ((h.claimed_in_time c (claimed.mpr closed)).2 j hj eq).2 out
  · intro kept
    rcases h.fate c hc with closed | ⟨j, hj, eq, ⟨inside, -⟩ | forgotten⟩
    · exact .inr (claimed.mp closed)
    · exact .inl inside
    · exact absurd ⟨j, hj, eq, forgotten⟩ kept

/-- A pool with its one channel lent is closed, and a second channel is borrowed while the close
waits. -/
def borrowedWhileClosing : List Move :=
  [.begin .fill, .reply 0 (.opened ⟨1⟩), .begin .acquire, .begin .close, .begin .acquire,
    .reply 1 (.opened ⟨2⟩), .beginClose 0, .reply 0 .closed]

theorem held_or_closed_first_channel :
    (after 1 borrowedWhileClosing).waiting = [] ∧
      (⟨1⟩ : ChannelId) ∈ (after 1 borrowedWhileClosing).opened ∧
        ((⟨1⟩ : ChannelId) ∈ (after 1 borrowedWhileClosing).pool.channels ∨
          (⟨1⟩ : ChannelId) ∈ (after 1 borrowedWhileClosing).closed) := by
  have rest : (after 1 borrowedWhileClosing).waiting = [] := rfl
  have opened : (⟨1⟩ : ChannelId) ∈ (after 1 borrowedWhileClosing).opened := by decide
  have kept : ¬ (after 1 borrowedWhileClosing).Forgotten ⟨1⟩ := by decide
  exact ⟨rest, opened, (held_or_closed_iff 1 borrowedWhileClosing rest ⟨1⟩ opened).mpr kept⟩

/-- It is not true that a pool at rest has closed every channel that it does not hold. -/
theorem second_channel_neither_held_nor_closed :
    ¬ ∀ (size : Nat) (moves : List Move), (after size moves).waiting = [] →
      ∀ c ∈ (after size moves).opened,
        c ∈ (after size moves).pool.channels ∨ c ∈ (after size moves).closed := by
  intro holds
  have opened : (⟨2⟩ : ChannelId) ∈ (after 1 borrowedWhileClosing).opened := by decide
  have lost := holds 1 borrowedWhileClosing rfl ⟨2⟩ opened
  revert lost
  decide

end Scene

end BrokerClient.Channel.Pool
