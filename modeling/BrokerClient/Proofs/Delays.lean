import BrokerClient.Proofs.Number.Powers
import BrokerClient.Retry.Schedule

/-!
# Delays and their cap

The delay after an attempt is `baseDelay · exponentialBase ^ attempt`, and no more than the cap if
there is one. A delay that is computed stays between zero and the cap unless a NaN comes into it:
the checks of a draft compare, and a NaN compares with nothing, so a draft with a NaN is accepted,
as is one that multiplies zero by infinity. And not every delay is computed: the cap applies after
the power, and so does not keep the power from overflowing.

## Main definitions

* `Schedule.Accepted` — what the checks of a draft leave of its schedules.

## Main results

* `Draft.backoff_capped_iff` — when the delay of an accepted draft lies between zero and its cap;
  with a base of two or more there is none from attempt 1024 on.
-/

namespace BrokerClient.Retry

open Number

/-- What the checks of a draft leave of its schedules. A NaN passes them all. -/
structure Schedule.Accepted (s : Schedule) : Prop where
  baseDelay : ¬s.baseDelay < 0
  exponentialBase : ¬s.exponentialBase < 1
  maxDelay : ∀ cap, s.maxDelay = some cap → ¬cap < s.baseDelay

theorem Draft.accepted {d : Draft} {s : Schedule} (h : d.schedule = .ok s) : s.Accepted := by
  unfold Draft.schedule at h
  dsimp only at h
  split at h
  · cases h
  rename_i retries
  split at h
  · cases h
  rename_i delay
  split at h
  · cases h
  rename_i base
  split at h
  · rename_i cap given
    split at h
    · cases h
    · rename_i above
      cases h
      refine ⟨delay, base, fun c hc => ?_⟩
      obtain rfl : cap = c := Option.some.inj (given.symm.trans hc)
      exact above
  · rename_i none
    cases h
    exact ⟨delay, base, fun c hc => absurd (none.symm.trans hc) (by simp)⟩

namespace Schedule

variable {s : Schedule} {cap delay : Float} {n : ℤ}

/-- A capped delay lies between zero and the cap if and only if both are at least zero. -/
theorem capped_within_iff :
    0 ≤ capped delay (some cap) ∧ capped delay (some cap) ≤ cap ↔ 0 ≤ delay ∧ 0 ≤ cap := by
  unfold capped
  dsimp only
  split
  · rename_i less
    constructor
    · rintro ⟨above, -⟩
      exact ⟨zero_le_of_lt above less, above⟩
    · rintro ⟨-, above⟩
      exact ⟨above, le_self_of_not_isNaN (not_isNaN_of_le above).2⟩
  · rename_i less
    constructor
    · rintro ⟨above, le⟩
      exact ⟨above, zero_le_of_le above le⟩
    · rintro ⟨above, top⟩
      exact ⟨above, le_of_not_lt_of_not_isNaN less (not_isNaN_of_le above).2
        (not_isNaN_of_le top).2⟩

/-- A delay is computed and lies between zero and the cap if and only if nothing overflows and the
delay without a cap and the cap are at least zero. -/
theorem backoff_within_iff (h : s.maxDelay = some cap) :
    (∃ delay, s.backoff n = .ok delay ∧ 0 ≤ delay ∧ delay ≤ cap) ↔
      exceedsDouble n = false ∧ powerOverflows s.exponentialBase n = false ∧
        0 ≤ s.baseDelay * power s.exponentialBase n ∧ 0 ≤ cap := by
  rw [← capped_within_iff, ← h]
  unfold backoff
  cases large : exceedsDouble n with
  | true => simp
  | false =>
    cases powerOverflows s.exponentialBase n with
    | true => simp
    | false => simp

variable {k : ℕ}

theorem Accepted.one_le (a : s.Accepted) (h : ¬s.exponentialBase.isNaN) : 1 ≤ s.exponentialBase :=
  le_of_not_lt_of_not_isNaN a.exponentialBase (by decide) h

theorem Accepted.zero_le (a : s.Accepted) (h : ¬s.baseDelay.isNaN) : 0 ≤ s.baseDelay :=
  le_of_not_lt_of_not_isNaN a.baseDelay (by decide) h

theorem Accepted.zero_le_cap_iff (a : s.Accepted) (h : s.maxDelay = some cap)
    (delay : ¬s.baseDelay.isNaN) : 0 ≤ cap ↔ ¬cap.isNaN :=
  ⟨fun above => (not_isNaN_of_le above).2, fun top =>
    zero_le_of_le (a.zero_le delay) (le_of_not_lt_of_not_isNaN (a.maxDelay cap h) delay top)⟩

/-- The delay without a cap is at least zero unless a NaN comes into it. -/
theorem Accepted.zero_le_mul_iff (a : s.Accepted)
    (fits : powerOverflows s.exponentialBase k = false) :
    0 ≤ s.baseDelay * power s.exponentialBase k ↔ ¬s.baseDelay.isNaN ∧
      (k = 0 ∨ isFinite s.exponentialBase ∨ ¬s.exponentialBase.isNaN ∧ 0 < s.baseDelay) := by
  by_cases delay : s.baseDelay.isNaN
  · exact iff_of_false (fun h => (not_isNaN_of_le h).2 (isNaN_mul_left delay)) fun h => h.1 delay
  have start := a.zero_le delay
  obtain rfl | hk := Nat.eq_zero_or_pos k
  · rw [Nat.cast_zero, power_zero, Number.zero_le_mul_iff start zero_lt_unit]
    exact iff_of_true (.inr rfl) ⟨delay, .inl rfl⟩
  have later := hk.ne'
  by_cases base : s.exponentialBase.isNaN
  · have infinite := not_isFinite_of_isNaN base
    rw [power_of_isNaN base hk]
    refine iff_of_false (fun h => (not_isNaN_of_le h).2 (isNaN_mul_right base)) ?_
    tauto
  · have one := a.one_le base
    rw [Number.zero_le_mul_iff start (zero_lt_power one k), isFinite_power_iff one fits hk]
    tauto

end Schedule

open Schedule

/-- The delay of an accepted draft lies between zero and its cap if and only if the attempt number
and the power are in the range of doubles, no part of the schedule that is used is a NaN, and zero
is not multiplied by infinity. In particular there is none from attempt 1024 on if the base is two
or more. -/
theorem Draft.backoff_capped_iff {d : Draft} {s : Schedule} {cap : Float} {n : ℤ}
    (accepted : d.schedule = .ok s) (capped : s.maxDelay = some cap) (nonneg : 0 ≤ n) :
    ((∃ delay, s.backoff n = .ok delay ∧ 0 ≤ delay ∧ delay ≤ cap) ↔
      exceedsDouble n = false ∧ powerOverflows s.exponentialBase n = false ∧
        ¬cap.isNaN ∧ ¬s.baseDelay.isNaN ∧
        (n = 0 ∨ isFinite s.exponentialBase ∨ ¬s.exponentialBase.isNaN ∧ 0 < s.baseDelay)) ∧
      (isFinite s.exponentialBase → 2 ≤ s.exponentialBase → 1024 ≤ n →
        ∃ error, s.backoff n = .error error) := by
  have a := Draft.accepted accepted
  lift n to ℕ using nonneg
  constructor
  · rw [backoff_within_iff capped]
    refine and_congr_right fun _ => and_congr_right fun fits => ?_
    rw [a.zero_le_mul_iff fits, and_right_comm]
    constructor
    · rintro ⟨⟨delay, top⟩, growth⟩
      exact ⟨(a.zero_le_cap_iff capped delay).mp top, delay, by exact_mod_cast growth⟩
    · rintro ⟨top, delay, growth⟩
      exact ⟨⟨delay, (a.zero_le_cap_iff capped delay).mpr top⟩, by exact_mod_cast growth⟩
  · intro finite two many
    have overflows := powerOverflows_of_two_le two finite (by exact_mod_cast many)
    unfold backoff
    rw [overflows]
    split
    · exact ⟨_, rfl⟩
    · exact ⟨_, rfl⟩

/-- With a cap of a minute the delay before the fourth retry is computed and within the cap. -/
theorem backoff_capped_fourth :
    ({ maxDelay := some 60 } : Draft).schedule = .ok { maxDelay := some 60 } ∧
      ∃ delay, ({ maxDelay := some 60 } : Schedule).backoff 3 = .ok delay ∧
        0 ≤ delay ∧ delay ≤ 60 := by
  have accepted : ({ maxDelay := some 60 } : Draft).schedule = .ok { maxDelay := some 60 } := rfl
  have number : exceedsDouble 3 = false := by
    unfold exceedsDouble
    decide +kernel
  refine ⟨accepted, (Draft.backoff_capped_iff accepted rfl (by decide)).1.mpr ?_⟩
  exact ⟨number, rfl, by decide, by decide, .inr (.inl rfl)⟩

/-- The cap does not keep the power from overflowing. -/
theorem backoff_overflows_at_1024 :
    ({ maxDelay := some 60 } : Draft).schedule = .ok { maxDelay := some 60 } ∧
      ({ maxDelay := some 60 } : Schedule).backoff 1024 = .error (.overflow .power) := by
  refine ⟨rfl, ?_⟩
  have number : exceedsDouble 1024 = false := by
    unfold exceedsDouble
    decide +kernel
  have power : powerOverflows 2 1024 = true := rfl
  rw [backoff, number, power]
  rfl

end BrokerClient.Retry
