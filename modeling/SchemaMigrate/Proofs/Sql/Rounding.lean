import Mathlib.Algebra.Order.Floor.Semifield
import Mathlib.Data.Rat.Floor
import Mathlib.Data.Sign.Basic
import Mathlib.Tactic.Linarith
import Mathlib.Tactic.Positivity
import SchemaMigrate.Proofs.Catalog.Values

/-!
Numbers with a limited number of places behind the point: which numbers rounding leaves alone, how far it takes the
others, and the greatest of them below a power of ten.
-/

namespace SchemaMigrate.Sql

/-- A number with some places behind the point; a half is rounded away from zero. -/
def roundAway (places : ℕ) (value : ℚ) : ℚ :=
  (SignType.sign value : ℚ) * ⌊|value| * 10 ^ places + 1 / 2⌋ / 10 ^ places

/-- A whole number of the units that a number of places behind the point makes. -/
def HasPlaces (places : ℕ) (value : ℚ) : Prop := ∃ units : ℤ, value = units * (10 : ℚ) ^ (-(places : ℤ))

/-- The greatest number below a power of ten with some places behind the point. -/
def greatestBelow (digits places : ℕ) : ℚ := 10 ^ digits - 10 ^ (-(places : ℤ))

variable {digits places : ℕ} {value other : ℚ}

/-- One of the units. -/
theorem unit_pos (places : ℕ) : (0 : ℚ) < 10 ^ (-(places : ℤ)) := zpow_pos (by norm_num) _

/-- A unit with more places is less than half of one with fewer. -/
theorem unit_le_half {fewer : ℕ} (h : fewer < places) : (10 : ℚ) ^ (-(places : ℤ)) ≤ 10 ^ (-(fewer : ℤ)) / 2 := by
  have hstep : (10 : ℚ) ^ (-(places : ℤ)) ≤ 10 ^ (-(fewer : ℤ) - 1) := by
    apply zpow_le_zpow_right₀
    · norm_num
    · omega
  rw [zpow_sub_one₀ (by norm_num)] at hstep
  have hpos := unit_pos fewer
  linarith

/-- What has some places has more. -/
theorem HasPlaces.mono {more : ℕ} (h : HasPlaces places value) (hle : places ≤ more) : HasPlaces more value := by
  obtain ⟨units, rfl⟩ := h
  obtain ⟨units', hunits⟩ := exists_units (Int.ofNat_le.2 hle) units
  exact ⟨units', hunits⟩

theorem HasPlaces.neg (h : HasPlaces places value) : HasPlaces places (-value) := by
  obtain ⟨units, rfl⟩ := h
  exact ⟨-units, by push_cast; ring⟩

theorem HasPlaces.sub (h : HasPlaces places value) (hother : HasPlaces places other) :
    HasPlaces places (value - other) := by
  obtain ⟨units, rfl⟩ := h
  obtain ⟨units', rfl⟩ := hother
  exact ⟨units - units', by push_cast; ring⟩

theorem hasPlaces_zero (places : ℕ) : HasPlaces places 0 := ⟨0, by simp⟩

/-- A power of ten is a whole number of units that are no greater. -/
theorem hasPlaces_zpow {exponent : ℤ} (h : -(places : ℤ) ≤ exponent) : HasPlaces places (10 ^ exponent) := by
  obtain ⟨shift, hshift⟩ := Int.le.dest h
  refine ⟨10 ^ shift, ?_⟩
  rw [← hshift, zpow_add₀ (by norm_num), zpow_natCast]
  push_cast
  ring

theorem hasPlaces_pow (digits places : ℕ) : HasPlaces places (10 ^ digits) := by
  rw [← zpow_natCast]
  apply hasPlaces_zpow
  omega

theorem hasPlaces_greatestBelow (digits places : ℕ) : HasPlaces places (greatestBelow digits places) :=
  (hasPlaces_pow digits places).sub (hasPlaces_zpow le_rfl)

/-- A number is kept, turned around or made nothing by a sign. -/
theorem HasPlaces.sign_mul (h : HasPlaces places value) (sign : SignType) : HasPlaces places (sign * value) := by
  cases sign with
  | zero => simpa using hasPlaces_zero places
  | neg => simpa using h.neg
  | pos => simpa using h

theorem greatestBelow_nonneg (digits places : ℕ) : 0 ≤ greatestBelow digits places := by
  have hunit : (10 : ℚ) ^ (-(places : ℤ)) ≤ 1 := zpow_le_one_of_nonpos₀ (by norm_num) (by omega)
  have hone : (1 : ℚ) ≤ 10 ^ digits := one_le_pow₀ (by norm_num)
  exact sub_nonneg.2 (hunit.trans hone)

/-- Below the power of ten is up to the greatest number below it. -/
theorem HasPlaces.abs_lt_iff (h : HasPlaces places value) :
    |value| < 10 ^ digits ↔ |value| ≤ greatestBelow digits places := by
  have habs : HasPlaces places |value| := by
    rcases abs_choice value with habs | habs
    · rwa [habs]
    · rw [habs]
      exact h.neg
  obtain ⟨units, hunits⟩ := (hasPlaces_pow digits places).sub habs
  constructor
  · intro hlt
    -- the difference is a positive number of units
    have hpos : (0 : ℚ) < units * 10 ^ (-(places : ℤ)) := hunits ▸ sub_pos.2 hlt
    have hone : 1 ≤ units := by
      have : (0 : ℚ) < units := (mul_pos_iff_of_pos_right (unit_pos places)).1 hpos
      exact_mod_cast this
    have hle : (1 : ℚ) * 10 ^ (-(places : ℤ)) ≤ units * 10 ^ (-(places : ℤ)) :=
      mul_le_mul_of_nonneg_right (by exact_mod_cast hone) (unit_pos places).le
    unfold greatestBelow
    linarith
  · intro hle
    exact lt_of_le_of_lt hle (sub_lt_self _ (unit_pos places))

section Rounded

theorem hasPlaces_roundAway (places : ℕ) (value : ℚ) : HasPlaces places (roundAway places value) := by
  have hfloor : HasPlaces places (⌊|value| * 10 ^ places + 1 / 2⌋ / 10 ^ places) :=
    ⟨_, by rw [zpow_neg, zpow_natCast, div_eq_mul_inv]⟩
  rw [roundAway, mul_div_assoc]
  exact hfloor.sign_mul _

/-- Rounding leaves a number alone if it has no more places. -/
theorem roundAway_eq_self_iff : roundAway places value = value ↔ HasPlaces places value := by
  refine ⟨fun h => h ▸ hasPlaces_roundAway places value, fun h => ?_⟩
  have hpow : (10 : ℚ) ^ places ≠ 0 := pow_ne_zero _ (by norm_num)
  obtain ⟨units, hunits⟩ := h
  have hscaled : |value| * 10 ^ places = (|units| : ℤ) := by
    rw [hunits, zpow_neg, zpow_natCast, abs_mul, abs_inv, abs_of_pos (by positivity : (0 : ℚ) < 10 ^ places),
      inv_mul_cancel_right₀ hpow, Int.cast_abs]
  have hfloor : ⌊|value| * 10 ^ places + 1 / 2⌋ = |units| := by
    rw [hscaled, Int.floor_intCast_add]
    norm_num
  rw [roundAway, hfloor, ← hscaled, mul_div_assoc, mul_div_cancel_right₀ _ hpow, sign_mul_abs]

/-- A magnitude with a sign has that sign, or is zero. -/
theorem sign_mul_of_nonneg (sign : SignType) {size : ℚ} (h : 0 ≤ size) :
    (sign : ℚ) * size = 0 ∨ SignType.sign ((sign : ℚ) * size) = sign := by
  rcases h.eq_or_lt with hzero | hpos
  · exact .inl (by rw [← hzero, mul_zero])
  · right
    rw [sign_mul, sign_pos hpos, mul_one]
    cases sign <;> simp

/-- Rounding keeps the sign, or rounds to zero. -/
theorem sign_roundAway (places : ℕ) (value : ℚ) :
    roundAway places value = 0 ∨ SignType.sign (roundAway places value) = SignType.sign value := by
  have hnonneg : (0 : ℚ) ≤ ⌊|value| * 10 ^ places + 1 / 2⌋ / 10 ^ places := by positivity
  rw [roundAway, mul_div_assoc]
  exact sign_mul_of_nonneg _ hnonneg

/-- The magnitude is rounded by itself. -/
theorem abs_roundAway (places : ℕ) (value : ℚ) :
    |roundAway places value| = ⌊|value| * 10 ^ places + 1 / 2⌋ / 10 ^ places := by
  have hnonneg : (0 : ℚ) ≤ ⌊|value| * 10 ^ places + 1 / 2⌋ / 10 ^ places := by positivity
  rw [roundAway, mul_div_assoc, abs_mul, abs_of_nonneg hnonneg]
  rcases lt_trichotomy value 0 with hneg | rfl | hpos
  · simp [sign_neg hneg]
  · norm_num
  · simp [sign_pos hpos]

/-- A magnitude that falls short of a number by half a unit at most is rounded up to it. -/
theorem le_abs_roundAway {size : ℚ} (hsize : HasPlaces places size)
    (hle : size - 10 ^ (-(places : ℤ)) / 2 ≤ |value|) : size ≤ |roundAway places value| := by
  have hpow : (0 : ℚ) < 10 ^ places := by positivity
  obtain ⟨units, rfl⟩ := hsize
  rw [zpow_neg, zpow_natCast, ← div_eq_mul_inv] at hle ⊢
  rw [abs_roundAway]
  apply div_le_div_of_nonneg_right _ hpow.le
  have hunits : units ≤ ⌊|value| * 10 ^ places + 1 / 2⌋ := by
    apply Int.le_floor.2
    have hscaled := mul_le_mul_of_nonneg_right hle hpow.le
    rw [sub_mul, div_mul_cancel₀ _ hpow.ne', div_mul_eq_mul_div, inv_mul_cancel₀ hpow.ne'] at hscaled
    linarith
  exact_mod_cast hunits

/-- A magnitude below half a unit is rounded to zero. -/
theorem roundAway_eq_zero (h : |value| * 10 ^ places < 1 / 2) : roundAway places value = 0 := by
  have hfloor : ⌊|value| * 10 ^ places + 1 / 2⌋ = 0 := by
    rw [Int.floor_eq_zero_iff]
    constructor
    · positivity
    · linarith
  rw [roundAway, hfloor]
  simp

/-- A half goes away from zero on either side of it. -/
example : [25 / 100, -25 / 100, 24 / 100].map (roundAway 1) = [3 / 10, -3 / 10, 2 / 10] := by decide +kernel

end Rounded

end SchemaMigrate.Sql
