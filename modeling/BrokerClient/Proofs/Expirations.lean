import BrokerClient.Proofs.Number.Arithmetic
import BrokerClient.Proofs.Publishing
import BrokerClient.Proofs.WireFormat

/-!
# Times to live on the wire

A time to live in milliseconds becomes a number of seconds, a double, and the wire has the whole
milliseconds of this. Two roundings stand between them. Let the milliseconds be moved up to
sixty-two bits. Then a thousand times the seconds is off by up to five hundred, and if the
milliseconds are large for their number of bits this is more than half of the 512 that are the last
place of the product. So the product may be one place short, and with it the wire text one
millisecond, for the fraction is dropped.

## Main definitions

* `PublishOptions.Preserved` — the times to live that come out as they are.
* `PublishOptions.Returns` — what comes of a number that is divided by a thousand and multiplied
  again.
* `PublishOptions.Arrives` — how many milliseconds are left on the wire.

## Main results

* `PublishOptions.truncate?_arrives` — what comes of any number of milliseconds.
* `Publication.expiration_preserved_iff` — which times to live a message carries as they were given.
-/

namespace BrokerClient

open Broker Connection Event Number Validation

namespace Validation

/-- A model that is read has its fields from the members of an object. -/
theorem Form.read_of_check {α : Type} {f : Form α} {model : String} {policy : Extras}
    {origin : Origin} {v : Json} {a : α} (h : f.check model policy origin v = .ok a) :
    ∃ members, f.read members = .ok a := by
  cases v with
  | obj members =>
    refine ⟨members, ?_⟩
    simp only [check] at h
    split at h
    · obtain ⟨_, _, -, refused, -⟩ := Checked.apply_eq_ok_iff.mp h
      cases refused
    · exact h
  | null | bool | int | float | str | arr => cases h

theorem eq_ok_of_optional {α : Type} {read : Json → Reading α} {v : Json} {a : α}
    (h : optional read v = .ok (some a)) : read v = .ok a := by
  have mapped : Except.map some (read v) = .ok (some a) := by
    cases v with
    | null => cases h
    | bool | int | float | str | arr | obj => exact h
  cases result : read v with
  | error r =>
    rw [result] at mapped
    cases mapped
  | ok b =>
    rw [result] at mapped
    cases mapped
    rfl

end Validation

namespace PublishOptions

/-- A number of milliseconds moved up to sixty-two bits. -/
def scaled (ms : ℕ) : ℕ :=
  ms * 2 ^ (61 - ms.log2)

/-- By how much a thousand times the number nearest to the thousandth exceeds a number. -/
def drift (w : ℕ) : ℤ :=
  1000 * ((w + 500) / 1000 : ℕ) - w

/-- The times to live that come out as they are. They are a number of places of the product, and
where a thousand times the seconds has no finer places than the milliseconds its error is no more
than half a place. At just half a place the number of places has to be even. From `2 ^ 52`
milliseconds on a place is no part of a millisecond, so that an error upwards shows as well. -/
structure Preserved (ms : ℕ) : Prop where
  fits : 512 ∣ scaled ms
  near : 1000 * 2 ^ 52 ≤ scaled ms → -256 ≤ drift (scaled ms) ∧
    (2 ^ 52 ≤ ms → drift (scaled ms) ≤ 256) ∧
    ((drift (scaled ms)).natAbs = 256 → 1024 ∣ scaled ms)

instance (ms : ℕ) : Decidable (Preserved ms) :=
  decidable_of_iff (512 ∣ scaled ms ∧ (1000 * 2 ^ 52 ≤ scaled ms → -256 ≤ drift (scaled ms) ∧
    (2 ^ 52 ≤ ms → drift (scaled ms) ≤ 256) ∧
    ((drift (scaled ms)).natAbs = 256 → 1024 ∣ scaled ms)))
    ⟨fun h => ⟨h.1, h.2⟩, fun h => ⟨h.fits, h.near⟩⟩

/-! ### Dividing by a thousand and multiplying again -/

/-- What comes of a number that is divided by a thousand and multiplied again. The last place of the
product is 512, or twice that if the product is longer by one bit. -/
inductive Returns (w : ℕ) : ℕ → Prop
  | short {n p : ℕ} (seconds : Nearest n (w / (1000 : ℕ))) (lt : 1000 * n < 2 ^ 62)
    (product : Nearest p ((1000 * n : ℕ) / (512 : ℕ))) : Returns w (512 * p)
  | long {n p : ℕ} (seconds : Nearest n (w / (1000 : ℕ))) (le : 2 ^ 62 ≤ 1000 * n)
    (product : Nearest p ((1000 * n : ℕ) / (1024 : ℕ))) : Returns w (1024 * p)

variable {w y : ℕ}

namespace Returns

theorem dvd (h : Returns w y) : 512 ∣ y := by
  cases h with
  | short => exact Nat.dvd_mul_right _ _
  | long => exact Dvd.dvd.mul_right (by decide) _

/-- The product of a long number is never the shorter one: just below `2 ^ 62` no multiple of a
thousand is near enough. -/
theorem dvd_of_le (h : Returns w y) (le : 2 ^ 62 ≤ w) : 1024 ∣ y := by
  cases h with
  | short seconds lt _ =>
    rw [nearest_ratio_iff (by decide)] at seconds
    omega
  | long => exact Nat.dvd_mul_right _ _

/-- An error of at most five hundred is less than half a place of 1024. -/
theorem eq_of_small (h : Returns (2 * w) y) (fits : 512 ∣ w) (large : 2 ^ 62 ≤ 2 * w) :
    y = 2 * w := by
  obtain ⟨a, rfl⟩ := fits
  cases h with
  | short seconds lt _ =>
    rw [nearest_ratio_iff (by decide)] at seconds
    omega
  | long seconds _ product =>
    rw [nearest_ratio_iff (by decide)] at seconds product
    omega

end Returns

/-- Where a number lands that is some places of 512: on itself, or on the next place below or above
if its thousandth is too far off. -/
inductive Lands (w : ℕ) : ℕ → Prop
  | same (low : -256 ≤ drift w) (high : drift w ≤ 256)
    (tie : (drift w).natAbs = 256 → 1024 ∣ w) : Lands w w
  | below {y : ℕ} (next : y + 512 = w) (far : drift w < -256 ∨ drift w = -256 ∧ ¬1024 ∣ w) :
    Lands w y
  | above (far : 256 < drift w ∨ drift w = 256 ∧ ¬1024 ∣ w) : Lands w (w + 512)

/-- A number that is some places of 512 comes back as itself, or as the next such number. -/
theorem Returns.lands (h : Returns w y) (fits : 512 ∣ w) (large : 1000 * 2 ^ 52 ≤ w)
    (lt : w < 2 ^ 62) : Lands w y := by
  obtain ⟨a, rfl⟩ := fits
  have even : 1024 ∣ 512 * a ↔ a % 2 = 0 := by omega
  cases h with
  | @short n p seconds _ product =>
    rw [nearest_ratio_iff (by decide)] at seconds product
    obtain ⟨low, high, -⟩ := seconds
    have exceeds : drift (512 * a) = 1000 * n - 512 * a := by
      have : (512 * a + 500) / 1000 = n := by omega
      rw [drift, this]
      push_cast
      ring
    obtain ⟨low, high, inside⟩ := product
    have under : 512 * (p : ℤ) ≤ 512 * a + drift (512 * a) + 256 := by omega
    have beyond : 512 * (a : ℤ) + drift (512 * a) ≤ 512 * p + 256 := by omega
    have inside : p % 2 = 1 → 512 * (p : ℤ) < 512 * a + drift (512 * a) + 256 ∧
        512 * (a : ℤ) + drift (512 * a) < 512 * p + 256 := by omega
    have small : -500 ≤ drift (512 * a) ∧ drift (512 * a) ≤ 500 := by omega
    clear exceeds
    obtain rfl | down | rfl : p = a ∨ p + 1 = a ∨ p = a + 1 := by omega
    · exact .same (by omega) (by omega) (by omega)
    · exact .below (by omega) (by omega)
    · rw [Nat.mul_succ]
      exact .above (by omega)
  | long seconds le _ =>
    rw [nearest_ratio_iff (by decide)] at seconds
    omega

/-- A thousand times a double, without the fraction. -/
theorem truncate?_mul_thousand {x : Float} {n k j : ℕ}
    (stands : Stands (parts x) (n * 2 ^ (-k : ℤ))) (small : k ≤ 62)
    (low : 2 ^ (52 + j) ≤ 1000 * n) (high : 1000 * n < 2 ^ (53 + j))
    (few : j ≤ 10) : ∃ p, Nearest p ((1000 * n : ℕ) / (2 ^ j : ℕ)) ∧
      truncate? (x * 1000) = some ((2 ^ j * p / 2 ^ k : ℕ) : ℤ) := by
  have value : (n * 2 ^ (-k : ℤ) * 1000 : ℚ) = (1000 * n : ℕ) * 2 ^ (-k : ℤ) := by
    push_cast
    ring
  have shift : (2 : ℚ) ^ (j - k : ℤ) = (2 ^ j : ℕ) * 2 ^ (-k : ℤ) := by
    rw [sub_eq_add_neg, zpow_add₀ two_ne_zero, zpow_natCast]
    push_cast
    rfl
  have place : LastPlace (n * 2 ^ (-k : ℤ) * 1000) (j - k) := by
    rw [pow_add] at low high
    refine ⟨?_, ?_, by omega, by omega⟩
    · rw [value, shift, ← mul_assoc]
      gcongr
      exact_mod_cast low
    · rw [value, shift, ← mul_assoc]
      gcongr
      exact_mod_cast high
  obtain ⟨p, nearest, product⟩ := stands_mul stands stands_thousand place
  refine ⟨p, ?_, ?_⟩
  · rwa [value, shift, mul_div_mul_right _ _ (by positivity)] at nearest
  · have whole : (p * 2 ^ (j - k : ℤ) : ℚ) = (2 ^ j * p : ℕ) / (2 ^ k : ℕ) := by
      rw [shift, zpow_neg, zpow_natCast]
      push_cast
      field_simp
    rw [truncate?_of_stands product, whole, Rat.floor_natCast_div_natCast, Int.natCast_div]

/-- What comes of a number that is divided by a thousand and multiplied again as a double, without
the fraction. -/
theorem truncate?_returns {n k : ℕ} (pos : 0 < n) (small : k ≤ 62)
    (low : 1000 * 2 ^ 52 ≤ n * 2 ^ k) (high : n * 2 ^ k < 1000 * 2 ^ 53) :
    ∃ y, Returns (n * 2 ^ k) y ∧
      truncate? (Float.ofScientific n true 3 * 1000) = some ((y / 2 ^ k : ℕ) : ℤ) := by
  have value : (n / 1000 / 2 ^ (-k : ℤ) : ℚ) = (n * 2 ^ k : ℕ) / (1000 : ℕ) := by
    rw [zpow_neg, zpow_natCast]
    push_cast
    field_simp
  have place : LastPlace (n / 1000) (-k) := by
    have scale : (0 : ℚ) < 2 ^ (-k : ℤ) := by positivity
    refine ⟨?_, ?_, by omega, by omega⟩
    · rw [← le_div_iff₀ scale, value, le_div_iff₀ (by norm_num), mul_comm ((2 : ℚ) ^ 52)]
      exact_mod_cast low
    · rw [← div_lt_iff₀ scale, value, div_lt_iff₀ (by norm_num), mul_comm ((2 : ℚ) ^ 53)]
      exact_mod_cast high
  obtain ⟨q, seconds, stands⟩ := stands_thousandths pos place
  rw [value] at seconds
  have bounds := (nearest_ratio_iff (by decide)).mp seconds
  by_cases lt : 1000 * q < 2 ^ 62
  · obtain ⟨p, product, truncated⟩ :=
      truncate?_mul_thousand (j := 9) stands small (by omega) lt (by decide)
    exact ⟨_, .short seconds lt product, truncated⟩
  · obtain ⟨p, product, truncated⟩ :=
      truncate?_mul_thousand (j := 10) stands small (by omega) (by omega) le_rfl
    exact ⟨_, .long seconds (by omega) product, truncated⟩

/-! ### How many milliseconds are left -/

variable {ms : ℕ}

theorem scaled_bounds (pos : 0 < ms) (small : ms < 2 ^ 57) :
    2 ^ 61 ≤ scaled ms ∧ scaled ms < 2 ^ 62 := by
  have log : ms.log2 < 57 := (Nat.log2_lt pos.ne').mpr small
  obtain ⟨low, high⟩ := (Nat.log2_eq_iff pos.ne').mp rfl
  have whole : 2 ^ ms.log2 * 2 ^ (61 - ms.log2) = 2 ^ 61 := by
    rw [← pow_add]
    congr 1
    omega
  constructor
  · calc 2 ^ 61 = 2 ^ ms.log2 * 2 ^ (61 - ms.log2) := whole.symm
      _ ≤ scaled ms := Nat.mul_le_mul_right _ low
  · calc scaled ms < 2 ^ (ms.log2 + 1) * 2 ^ (61 - ms.log2) :=
          Nat.mul_lt_mul_of_pos_right high (by positivity)
      _ = 2 * (2 ^ ms.log2 * 2 ^ (61 - ms.log2)) := by ring
      _ = 2 ^ 62 := by rw [whole]; rfl

/-- Below `2 ^ 52` milliseconds a millisecond is more than one place of the product. -/
theorem dvd_place (pos : 0 < ms) (small : ms < 2 ^ 52) : 1024 ∣ 2 ^ (61 - ms.log2) := by
  have log : ms.log2 < 52 := (Nat.log2_lt pos.ne').mpr small
  exact (Nat.pow_dvd_pow 2 (by omega) : 2 ^ 10 ∣ 2 ^ (61 - ms.log2))

/-- From there on it is one place at most. -/
theorem place_le (large : 2 ^ 52 ≤ ms) : 2 ^ (61 - ms.log2) ≤ 512 := by
  have log : 52 ≤ ms.log2 := (Nat.le_log2 (by omega)).mpr large
  exact (Nat.pow_le_pow_right two_pos (by omega) : 2 ^ (61 - ms.log2) ≤ 2 ^ 9)

/-- Milliseconds that are no places of the product are parts of one. -/
theorem place_dvd (unfit : ¬512 ∣ scaled ms) : 2 ^ (61 - ms.log2) ∣ 512 := by
  have few : 61 - ms.log2 ≤ 9 := by
    by_contra many
    have places : 2 ^ 9 ∣ 2 ^ (61 - ms.log2) := Nat.pow_dvd_pow 2 (by omega)
    exact unfit (places.mul_left ms)
  exact (Nat.pow_dvd_pow 2 few : 2 ^ (61 - ms.log2) ∣ 2 ^ 9)

/-- Whole seconds are preserved. -/
theorem preserved_of_thousand_dvd (whole : 1000 ∣ ms) (small : ms < 2 ^ 53) : Preserved ms := by
  have none : drift (scaled ms) = 0 := by
    obtain ⟨seconds, eq⟩ : 1000 ∣ scaled ms := whole.mul_right _
    rw [drift, eq]
    omega
  have log : ms.log2 < 53 := by
    obtain rfl | pos := Nat.eq_zero_or_pos ms
    · decide
    · exact (Nat.log2_lt pos.ne').mpr small
  have places : 2 ^ 9 ∣ 2 ^ (61 - ms.log2) := Nat.pow_dvd_pow 2 (by omega)
  exact ⟨places.mul_left ms, by simp [none]⟩

/-- How many milliseconds of a time to live are left on the wire. -/
structure Arrives (ms n : ℕ) : Prop where
  kept : n = ms ↔ Preserved ms
  close : ms < 2 ^ 52 → n = ms ∨ n + 1 = ms

/-- Milliseconds that are no places of the product do not come out as they are. -/
theorem arrives_of_unfit {y u : ℕ} (pos : 0 < ms) (unfit : ¬512 ∣ scaled ms) (whole : u ∣ y)
    (ne : y ≠ ms * u) : Arrives ms (y / u) := by
  refine ⟨iff_of_false (fun same => ne ?_) fun preserved => unfit preserved.fits, fun small => ?_⟩
  · rw [← same, Nat.div_mul_cancel whole]
  · have places : 512 ∣ 2 ^ (61 - ms.log2) := (by decide : 512 ∣ 1024).trans (dvd_place pos small)
    exact absurd (places.mul_left ms) unfit

theorem preserved_iff_of_large (fits : 512 ∣ scaled ms) (large : 1000 * 2 ^ 52 ≤ scaled ms) :
    Preserved ms ↔ -256 ≤ drift (scaled ms) ∧ (2 ^ 52 ≤ ms → drift (scaled ms) ≤ 256) ∧
      ((drift (scaled ms)).natAbs = 256 → 1024 ∣ scaled ms) :=
  ⟨fun preserved => preserved.near large, fun near => ⟨fits, fun _ => near⟩⟩

/-- One place short of the milliseconds is less than one millisecond short if a place is a part of
one. -/
theorem arrives_of_below {y : ℕ} (pos : 0 < ms) (fits : 512 ∣ scaled ms)
    (large : 1000 * 2 ^ 52 ≤ scaled ms) (next : y + 512 = scaled ms)
    (far : drift (scaled ms) < -256 ∨ drift (scaled ms) = -256 ∧ ¬1024 ∣ scaled ms) :
    Arrives ms (y / 2 ^ (61 - ms.log2)) := by
  have preserved := preserved_iff_of_large fits large
  have finer := @dvd_place ms pos
  have value : scaled ms = ms * 2 ^ (61 - ms.log2) := rfl
  have unit : 0 < 2 ^ (61 - ms.log2) := by positivity
  generalize 2 ^ (61 - ms.log2) = u at *
  have less : y / u < ms := by
    rw [Nat.div_lt_iff_lt_mul unit]
    omega
  refine ⟨iff_of_false less.ne fun same => ?_, fun small => .inr ?_⟩
  · obtain ⟨low, -, tie⟩ := preserved.mp same
    omega
  · have wide := Nat.le_of_dvd unit (finer small)
    have near : ms - 1 ≤ y / u := by
      rw [Nat.le_div_iff_mul_le unit, Nat.sub_mul]
      omega
    omega

/-- One place more than the milliseconds is a fraction of one more if a place is a part of one. -/
theorem arrives_of_above (pos : 0 < ms) (fits : 512 ∣ scaled ms)
    (large : 1000 * 2 ^ 52 ≤ scaled ms)
    (far : 256 < drift (scaled ms) ∨ drift (scaled ms) = 256 ∧ ¬1024 ∣ scaled ms) :
    Arrives ms ((scaled ms + 512) / 2 ^ (61 - ms.log2)) := by
  have preserved := preserved_iff_of_large fits large
  have finer := @dvd_place ms pos
  have coarser := @place_le ms
  have value : scaled ms = ms * 2 ^ (61 - ms.log2) := rfl
  have unit : 0 < 2 ^ (61 - ms.log2) := by positivity
  generalize 2 ^ (61 - ms.log2) = u at *
  by_cases small : ms < 2 ^ 52
  · have wide := Nat.le_of_dvd unit (finer small)
    have same : (scaled ms + 512) / u = ms := by
      rw [value, Nat.mul_comm, Nat.mul_add_div unit, Nat.div_eq_of_lt (by omega), Nat.add_zero]
    have even : 1024 ∣ scaled ms := value ▸ (finer small).mul_left ms
    have near := preserved.mpr ⟨by omega, fun many => absurd small (not_lt.mpr many), fun _ => even⟩
    exact ⟨iff_of_true same near, fun _ => .inl same⟩
  · have narrow := coarser (not_lt.mp small)
    have more : ms + 1 ≤ (scaled ms + 512) / u := by
      rw [Nat.le_div_iff_mul_le unit, Nat.add_mul]
      omega
    refine ⟨iff_of_false (by omega) fun same => ?_, fun few => absurd few small⟩
    obtain ⟨-, high, tie⟩ := preserved.mp same
    have := high (not_lt.mp small)
    omega

/-- The seconds have no more places than the milliseconds, so that their error may reach the next
place of the product. -/
theorem arrives_of_large {y : ℕ} (pos : 0 < ms) (small : ms < 2 ^ 57)
    (large : 1000 * 2 ^ 52 ≤ scaled ms) (h : Returns (scaled ms) y) :
    Arrives ms (y / 2 ^ (61 - ms.log2)) := by
  by_cases fits : 512 ∣ scaled ms
  · cases h.lands fits large (scaled_bounds pos small).2 with
    | same low high tie =>
      have same : scaled ms / 2 ^ (61 - ms.log2) = ms := Nat.mul_div_cancel _ (by positivity)
      have preserved := (preserved_iff_of_large fits large).mpr ⟨low, fun _ => high, tie⟩
      exact ⟨iff_of_true same preserved, fun _ => .inl same⟩
    | below next far => exact arrives_of_below pos fits large next far
    | above far => exact arrives_of_above pos fits large far
  · refine arrives_of_unfit pos fits ((place_dvd fits).trans h.dvd) fun same => fits ?_
    rw [scaled, ← same]
    exact h.dvd

/-- The seconds have a place more than the milliseconds, so that their error is lost in the product.
-/
theorem arrives_of_small {y : ℕ} (pos : 0 < ms) (small : ms < 2 ^ 57)
    (lt : scaled ms < 1000 * 2 ^ 52) (h : Returns (2 * scaled ms) y) :
    Arrives ms (y / (2 * 2 ^ (61 - ms.log2))) := by
  have low := (scaled_bounds pos small).1
  have double : 2 * scaled ms = ms * (2 * 2 ^ (61 - ms.log2)) := Nat.mul_left_comm _ _ _
  by_cases fits : 512 ∣ scaled ms
  · have same : y / (2 * 2 ^ (61 - ms.log2)) = ms := by
      rw [h.eq_of_small fits (by omega), double, Nat.mul_div_cancel _ (by positivity)]
    exact ⟨iff_of_true same ⟨fits, fun large => absurd large (by omega)⟩, fun _ => .inl same⟩
  · have even := h.dvd_of_le (by omega)
    have places : 2 * 2 ^ (61 - ms.log2) ∣ 1024 := Nat.mul_dvd_mul_left 2 (place_dvd fits)
    refine arrives_of_unfit pos fits (places.trans even) fun same => fits ?_
    omega

/-- A time to live of zero comes out as it is. -/
theorem arrives_zero : Arrives 0 0 where
  kept := iff_of_true rfl ⟨by decide, by decide⟩
  close _ := .inl rfl

/-- What comes of any number of milliseconds as seconds and back. -/
theorem truncate?_arrives (small : ms < 2 ^ 57) : ∃ n, Arrives ms n ∧
    truncate? (Float.ofScientific ms true 3 * 1000) = some (n : ℤ) := by
  obtain rfl | pos := Nat.eq_zero_or_pos ms
  · exact ⟨0, arrives_zero, by decide +kernel⟩
  obtain ⟨low, high⟩ := scaled_bounds pos small
  by_cases large : 1000 * 2 ^ 52 ≤ scaled ms
  · obtain ⟨y, returns, truncated⟩ :=
      truncate?_returns (k := 61 - ms.log2) pos (by omega) large (high.trans (by decide))
    exact ⟨_, arrives_of_large pos small large returns, truncated⟩
  · have double : 2 * scaled ms = ms * 2 ^ (61 - ms.log2 + 1) := by
      rw [scaled, pow_succ]
      ring
    obtain ⟨y, returns, truncated⟩ :=
      truncate?_returns (k := 61 - ms.log2 + 1) pos (by omega) (by omega) (by omega)
    rw [← double] at returns
    rw [pow_succ'] at truncated
    exact ⟨_, arrives_of_small pos small (not_le.mp large) returns, truncated⟩

/-- The wire text of a time to live that is a duration. -/
theorem expirationText_of_le (fits : (ms : ℤ) / dayLength ≤ longestDuration) : ∃ n,
    Arrives ms n ∧ expirationText ms = .ok (toString (n : ℤ)) := by
  have small : ms < 2 ^ 57 := by
    have : (ms : ℤ) / 86400000 ≤ 999999999 := fits
    omega
  obtain ⟨n, arrives, truncated⟩ := truncate?_arrives small
  refine ⟨n, arrives, ?_⟩
  simp only [expirationText, if_neg (not_lt.mpr fits), Int.toNat_natCast, truncated]

example : Preserved 1000 ∧ ¬Preserved 1001 := by decide +kernel

/-- Only times to live of zero or more are accepted. -/
theorem zero_le_of_create {fields : Json} {o : PublishOptions} {ms : ℤ}
    (accepted : create fields = .ok o) (given : o.expiration = some ms) : 0 ≤ ms := by
  obtain ⟨members, read⟩ := Form.read_of_check (Checked.mapError_eq_ok_iff.mp accepted)
  simp only [form, Form.read_map, Form.read_seq, Checked.apply_eq_ok_iff,
    Checked.map_eq_ok_iff] at read
  obtain ⟨_, retries, ⟨_, persistent, ⟨_, expiration, ⟨priority, -, rfl⟩, read, rfl⟩, -, rfl⟩, -,
    rfl⟩ := read
  obtain rfl : expiration = some ms := given
  rcases Form.field_eq_ok read with ⟨_, v, -, read⟩ | default
  · exact le_of_intFrom (eq_ok_of_optional (Checked.ofReading_eq_ok_iff.mp read))
  · cases default

end PublishOptions

/-! ### Messages on the wire -/

namespace Publication

/-- The options that a publication is published with. -/
def options : Publication → PublishOptions
  | .event _ o => o
  | .bytes _ _ _ _ _ o => o

/-- The message of a publication has the wire text of its time to live. -/
theorem wireExpiration_of_sending {p : Publisher} {x : Publication} {y : Publisher.Sending}
    (made : x.sending p = .ok y) : x.options.wireExpiration = .ok y.message.expiration := by
  have taken {o : PublishOptions} {make : Option String → Message}
      {send : Message → Publisher.Sending} (keeps : ∀ t, (send (make t)).message.expiration = t)
      (made : ((o.wireExpiration >>= fun t => pure (make t)) >>= fun m => pure (send m)) = .ok y) :
      o.wireExpiration = .ok y.message.expiration := by
    cases text : o.wireExpiration with
    | ok t =>
      rw [text] at made
      cases made
      rw [keeps]
    | error e =>
      rw [text] at made
      cases made
  cases x with
  | event e o => exact taken (fun _ => rfl) made
  | bytes exchange routingKey body contentType headers o => exact taken (fun _ => rfl) made

/-- Whatever comes of its requests, a publication with an accepted time to live publishes just its
message, and this carries the milliseconds as they were given exactly if they are preserved. Below
`2 ^ 52` milliseconds any other time to live comes out one millisecond short. -/
theorem expiration_preserved_iff (env : Client.Surroundings) (p : Publisher) (x : Publication)
    (w : Client.Course) {fields : Json} {ms : ℤ} {y : Publisher.Sending}
    (accepted : PublishOptions.create fields = .ok x.options)
    (given : x.options.expiration = some ms) (made : x.sending p = .ok y) :
    (y.message.expiration = some (toString ms) ↔ PublishOptions.Preserved ms.toNat) ∧
      (ms < 2 ^ 52 → y.message.expiration = some (toString ms) ∨
        y.message.expiration = some (toString (ms - 1))) ∧
      ∃ asked, ((x.program p).run env.host Course.statePart w).2.exchanges = w.exchanges ++ asked ∧
        ∀ a ∈ asked, ∀ m ∈ a.request.published?, m = y.message := by
  obtain ⟨n, rfl⟩ := Int.eq_ofNat_of_zero_le (PublishOptions.zero_le_of_create accepted given)
  have text := wireExpiration_of_sending made
  rw [PublishOptions.wireExpiration, given] at text
  have fits : (n : ℤ) / PublishOptions.dayLength ≤ PublishOptions.longestDuration := by
    by_contra long
    simp [PublishOptions.expirationText, not_le.mp long, Except.map] at text
  obtain ⟨left, arrives, wire⟩ := PublishOptions.expirationText_of_le fits
  simp only [wire, Except.map, Except.ok.injEq] at text
  have same {k : ℤ} : y.message.expiration = some (toString k) ↔ (left : ℤ) = k := by
    rw [← text, Option.some_inj]
    exact Int.repr_inj
  refine ⟨?_, fun small => ?_, published_of_run env made w⟩
  · rw [same, Int.toNat_natCast, ← arrives.kept, Int.natCast_inj]
  · rw [same, same]
    have := arrives.close (by omega)
    omega

/-- The options of an event that is published with a time to live. -/
def expiring (ms : ℤ) : PublishOptions where
  expiration := some ms

/-- The members that give these options. -/
def expiringFields (ms : ℤ) : Json :=
  .obj [("expiration", .int ms), ("persistent", .bool true)]

theorem create_expiring {ms : ℤ} (nonneg : 0 ≤ ms) :
    PublishOptions.create (expiringFields ms) = .ok (expiring ms) := by
  have read : intFrom 0 (.int ms) = .ok ms := if_neg (not_lt.mpr nonneg)
  let members : List (String × Json) := [("expiration", .int ms), ("persistent", .bool true)]
  have expiration : (Form.withDefault (.single "expiration") none
      (Validation.optional (intFrom 0))).read members = .ok (some ms) := by
    change ((Checked.ofReading ((intFrom 0 (.int ms)).map some)).mapError _) = _
    rw [read]
    rfl
  have fields : PublishOptions.form.read members = .ok (expiring ms) := by
    simp only [PublishOptions.form, Form.read_map, Form.read_seq, expiration]
    rfl
  change (PublishOptions.form.read members).mapError _ = _
  rw [fields]
  rfl

/-- A connected client with a free channel. -/
def connected : Client.Course where
  state := { lentOut.state with
    manager := { lentOut.state.manager with pool := { size := 1, channels := [⟨1⟩] } } }

/-- An order that nobody needs after so many milliseconds. -/
def perishable (ms : ℤ) : Publication :=
  .event ⟨"e1", "order.placed", default, none, [], []⟩ (expiring ms)

theorem exists_sending_perishable {ms : ℕ}
    (fits : (ms : ℤ) / PublishOptions.dayLength ≤ PublishOptions.longestDuration) :
    ∃ y, (perishable ms).sending orderPublisher = .ok y := by
  obtain ⟨n, -, text⟩ := PublishOptions.expirationText_of_le fits
  have wire : (expiring ms).wireExpiration = .ok (some (toString (n : ℤ))) := by
    rw [PublishOptions.wireExpiration, expiring]
    simp only [text]
    rfl
  rw [perishable, sending, Message.ofEnvelope, wire]
  exact ⟨_, rfl⟩

/-- The wire texts of the times to live of the messages that an order publishes. -/
def wireTexts (ms : ℤ) : List (Option String) :=
  (((perishable ms).program orderPublisher).run Client.granting.host Course.statePart
    connected).2.exchanges.filterMap fun a => a.request.published?.map (·.expiration)

/-- An order that is needed for five seconds carries them as they were given. -/
theorem expiration_preserved_five_seconds : ∃ y,
    PublishOptions.create (expiringFields 5000) = .ok (perishable 5000).options ∧
    (perishable 5000).options.expiration = some 5000 ∧
    (perishable 5000).sending orderPublisher = .ok y ∧ wireTexts 5000 = [some "5000"] ∧
    (y.message.expiration = some (toString (5000 : ℤ)) ↔
      PublishOptions.Preserved (5000 : ℤ).toNat) ∧
    ((5000 : ℤ) < 2 ^ 52 → y.message.expiration = some (toString (5000 : ℤ)) ∨
      y.message.expiration = some (toString (5000 - 1 : ℤ))) ∧
    ∃ asked,
      (((perishable 5000).program orderPublisher).run Client.granting.host Course.statePart
        connected).2.exchanges = connected.exchanges ++ asked ∧
      ∀ a ∈ asked, ∀ m ∈ a.request.published?, m = y.message := by
  obtain ⟨y, made⟩ := @exists_sending_perishable 5000 (by decide)
  have accepted := @create_expiring 5000 (by decide)
  exact ⟨y, accepted, rfl, made, by decide +kernel,
    expiration_preserved_iff Client.granting orderPublisher (perishable 5000) connected accepted rfl made⟩

/-- An order that is needed for a millisecond more than a second carries one second only, as one
does that is needed for just that. -/
theorem expirations_confused :
    PublishOptions.create (expiringFields 1001) = .ok (perishable 1001).options ∧
    PublishOptions.create (expiringFields 1000) = .ok (perishable 1000).options ∧
    wireTexts 1001 = [some "1000"] ∧ wireTexts 1000 = [some "1000"] :=
  ⟨create_expiring (by decide), create_expiring (by decide), by decide +kernel, by decide +kernel⟩

end Publication

end BrokerClient
