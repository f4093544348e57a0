import BrokerClient.Proofs.Pool.Scene
import Mathlib.Data.List.Nodup

/-!
# No channel is lent twice

Whatever calls overlap and however often the pool is closed and filled again, the channels in use
are just the channels of the pool that are lent, and each channel is lent once at most. So the count
of available channels is the number of free ones, and giving a channel back touches no other loan,
least of all when the channel was borrowed before a close and its place is somebody else's by now.

## Main definitions

* `Lending` — the invariant.

## Main results

* `Scene.lending_after` — the invariant holds in every reachable scene.
* `Scene.lending_safe` — what it says about channels, counts and loans.
-/

namespace BrokerClient.Channel.Pool

open Broker (ChannelId)

private theorem nodup_append_singleton {l : List ChannelId} {c : ChannelId} (h : l.Nodup)
    (hc : c ∉ l) : (l ++ [c]).Nodup := by
  rw [List.nodup_append_comm]
  exact List.nodup_cons.mpr ⟨hc, h⟩

/-- The channels in use are the channels of the pool that are lent, and each is lent once. -/
structure Lending (p : Pool) (opened loans : List ChannelId) : Prop where
  channels_nodup : p.channels.Nodup
  inUse_nodup : p.inUse.Nodup
  loans_nodup : loans.Nodup
  channels_opened : p.channels ⊆ opened
  loans_opened : loans ⊆ opened
  mem_inUse : ∀ c, c ∈ p.inUse ↔ c ∈ p.channels ∧ c ∈ loans

namespace Lending

variable {p : Pool} {opened loans : List ChannelId} {c : ChannelId}

theorem start (size : Nat) : Lending { size } [] [] := by
  constructor <;> simp

/-- A free channel is one of the pool that nobody has borrowed. -/
theorem unlent_of_free (h : Lending p opened loans) (free : p.free? = some c) :
    c ∈ p.channels ∧ c ∉ loans := by
  have mem := List.mem_of_find?_eq_some free
  have unused := not_lent_of_free free
  exact ⟨mem, fun lent => unused ((h.mem_inUse c).mpr ⟨mem, lent⟩)⟩

theorem lend (h : Lending p opened loans) (mem : c ∈ p.channels) (unlent : c ∉ loans) :
    Lending (p.lend c) opened (loans ++ [c]) where
  channels_nodup := h.channels_nodup
  inUse_nodup := List.Nodup.insert h.inUse_nodup
  loans_nodup := nodup_append_singleton h.loans_nodup unlent
  channels_opened := h.channels_opened
  loans_opened := List.append_subset.mpr
    ⟨h.loans_opened, List.cons_subset.mpr ⟨h.channels_opened mem, List.nil_subset _⟩⟩
  mem_inUse d := by
    simp only [Pool.lend, List.mem_insert_iff, h.mem_inUse, List.mem_append, List.mem_singleton]
    constructor
    · rintro (rfl | ⟨hd, lent⟩)
      · exact ⟨mem, .inr rfl⟩
      · exact ⟨hd, .inl lent⟩
    · rintro ⟨hd, lent | rfl⟩
      · exact .inr ⟨hd, lent⟩
      · exact .inl rfl

theorem takeBack (h : Lending p opened loans) (c : ChannelId) :
    Lending (p.takeBack c) opened (loans.erase c) where
  channels_nodup := h.channels_nodup
  inUse_nodup := h.inUse_nodup.erase c
  loans_nodup := h.loans_nodup.erase c
  channels_opened := h.channels_opened
  loans_opened := fun _ hc => h.loans_opened (List.mem_of_mem_erase hc)
  mem_inUse d := by
    simp only [Pool.takeBack, h.inUse_nodup.mem_erase_iff, h.loans_nodup.mem_erase_iff,
      h.mem_inUse]
    exact and_left_comm

/-- A channel that is opened joins the pool or not. -/
theorem noteOpened (h : Lending p opened loans) (c : ChannelId) : Lending p (opened ++ [c]) loans :=
  { h with
    channels_opened := List.subset_append_of_subset_left _ h.channels_opened
    loans_opened := List.subset_append_of_subset_left _ h.loans_opened }

theorem add (h : Lending p opened loans) (fresh : c ∉ opened) :
    Lending (p.add c) (opened ++ [c]) loans where
  channels_nodup := nodup_append_singleton h.channels_nodup fun hc => fresh (h.channels_opened hc)
  inUse_nodup := h.inUse_nodup
  loans_nodup := h.loans_nodup
  channels_opened := List.append_subset.mpr
    ⟨List.subset_append_of_subset_left _ h.channels_opened, List.subset_append_right _ _⟩
  loans_opened := List.subset_append_of_subset_left _ h.loans_opened
  mem_inUse d := by
    simp only [Pool.add, h.mem_inUse, List.mem_append, List.mem_singleton]
    constructor
    · rintro ⟨hd, lent⟩
      exact ⟨.inl hd, lent⟩
    · rintro ⟨hd | rfl, lent⟩
      · exact ⟨hd, lent⟩
      · exact absurd (h.loans_opened lent) fresh

/-- The counts of closes are of no concern to loans. -/
theorem count (h : Lending p opened loans) (generation closing : Nat) :
    Lending { p with generation, closing } opened loans :=
  ⟨h.channels_nodup, h.inUse_nodup, h.loans_nodup, h.channels_opened, h.loans_opened,
    h.mem_inUse⟩

/-- Loans outlast the pool's memory of the channels. -/
theorem forget (h : Lending p opened loans) : Lending p.forget opened loans where
  channels_nodup := List.nodup_nil
  inUse_nodup := List.nodup_nil
  loans_nodup := h.loans_nodup
  channels_opened := List.nil_subset _
  loans_opened := h.loans_opened
  mem_inUse d := by simp [Pool.forget]

theorem turn {st : Option Stage} {cs : List ChannelId} {r : Act (Option ChannelId) × Pool}
    (h : Lending p opened loans) (fresh : ∀ c ∈ cs, c ∉ opened) (turn : Turn p st cs r) :
    Lending r.2 (opened ++ cs) (loans ++ lends r.1) := by
  cases turn with
  | stay other quiet =>
    rw [quiet.lends_eq, List.append_nil, List.append_nil]
    exact h
  | lend free =>
    rw [List.append_nil]
    obtain ⟨mem, unlent⟩ := h.unlent_of_free free
    exact h.lend mem unlent
  | @grow c =>
    have new : c ∉ opened := fresh c (List.mem_singleton_self c)
    have unlent : c ∉ loans := fun lent => new (h.loans_opened lent)
    exact (h.add new).lend (List.mem_append_right _ (List.mem_singleton_self c)) unlent
  | @fill c rounds q quiet =>
    rw [quiet.lends_eq, List.append_nil]
    exact h.add (fresh c (List.mem_singleton_self c))
  | @late st c operation other =>
    rw [lends_program, List.append_nil]
    exact h.noteOpened c
  | closeNone empty =>
    rw [List.append_nil, lends_none, List.append_nil]
    exact (h.count _ _).forget
  | close nonempty =>
    rw [List.append_nil, lends_program, List.append_nil]
    exact h.count _ _
  | closed =>
    rw [List.append_nil, lends_none, List.append_nil]
    exact (h.count _ _).forget

/-- Available channels are free channels. -/
theorem available_eq (h : Lending p opened loans) :
    p.stats.available = ((p.channels.filter fun c => !p.inUse.contains c).length : Int) := by
  have used : (p.channels.filter fun c => p.inUse.contains c).length = p.inUse.length := by
    refine ((List.perm_ext_iff_of_nodup (h.channels_nodup.filter _) h.inUse_nodup).mpr
      fun c => ?_).length_eq
    simp only [List.mem_filter, List.contains_iff_mem, h.mem_inUse]
    exact ⟨fun ⟨_, hc⟩ => hc, fun hc => ⟨hc.1, hc⟩⟩
  have parts := List.length_eq_length_filter_add (l := p.channels) fun c => p.inUse.contains c
  simp only [PoolStats.available, stats]
  omega

end Lending

namespace Scene

/-- The channels in use are the lent channels of the pool in every reachable scene. -/
theorem lending_after (size : Nat) (moves : List Move) :
    Lending (after size moves).pool (after size moves).opened (after size moves).loans := by
  refine after_induction (P := fun s => Lending s.pool s.opened s.loans) (fun size => .start size)
    (fun s s' h change => ?_) size moves
  cases change with
  | same => exact h
  | turn waiting kind fresh turn => exact h.turn fresh turn
  | release lent =>
    change Lending _ s.opened (s.loans.erase _ ++ [])
    rw [List.append_nil]
    exact h.takeBack _
  | beginClose waiting kept => exact h

/-- In every reachable scene the pool has no channel twice, every channel in use is one of its
channels, the available ones are counted right, and each channel is lent once at most. Giving a
channel back leaves every other loan as it is, and the whole pool if the channel has left it. -/
theorem lending_safe (size : Nat) (moves : List Move) :
    let s := after size moves
    s.pool.channels.Nodup ∧ s.pool.inUse ⊆ s.pool.channels ∧ 0 ≤ s.pool.stats.available ∧
      s.pool.stats.available =
        ((s.pool.channels.filter fun c => !s.pool.inUse.contains c).length : Int) ∧
      s.loans.Nodup ∧ (∀ c, c ∈ s.pool.inUse ↔ c ∈ s.pool.channels ∧ c ∈ s.loans) ∧
      ∀ c ∈ s.loans,
        let s' := s.step (.begin (.release c))
        (∀ d ∈ s'.loans, d ≠ c ∧ (d ∈ s'.pool.inUse ↔ d ∈ s.pool.inUse)) ∧
          (c ∉ s.pool.channels → s'.pool = s.pool) := by
  intro s
  have h : Lending s.pool s.opened s.loans := lending_after size moves
  refine ⟨h.channels_nodup, fun c hc => ((h.mem_inUse c).mp hc).1, ?_, h.available_eq,
    h.loans_nodup, h.mem_inUse, ?_⟩
  · rw [h.available_eq]
    omega
  · intro c lent s'
    have released : s' = (s.endLoan c).proceed s.waiting (.done none, s.pool.takeBack c) := by
      simp only [s', step, if_pos lent, advance_release]
    rw [released]
    constructor
    · intro d hd
      have left : d ∈ s.loans.erase c := by simpa [proceed, endLoan] using hd
      have other : d ≠ c := (h.loans_nodup.mem_erase_iff.mp left).1
      exact ⟨other, List.mem_erase_of_ne other⟩
    · intro gone
      exact takeBack_of_not_mem fun used => gone ((h.mem_inUse c).mp used).1

/-- A channel from before a close comes back after another has been lent. -/
example : (after 1 [.begin .fill, .reply 0 (.opened ⟨1⟩), .begin .acquire, .begin .close,
    .beginClose 0, .reply 0 .closed, .begin .acquire, .reply 0 (.opened ⟨2⟩),
    .begin (.release ⟨1⟩)]).pool.inUse = [⟨2⟩] := by
  decide

end Scene

end BrokerClient.Channel.Pool
