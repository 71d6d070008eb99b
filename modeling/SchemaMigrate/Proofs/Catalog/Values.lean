import Mathlib.Algebra.Order.Field.Power
import Mathlib.Data.Rat.Lemmas
import Mathlib.Tactic.Linarith
import Mathlib.Tactic.NormNum
import Mathlib.Tactic.Positivity
import Mathlib.Tactic.Ring
import SchemaMigrate.Catalog.Basic

/-!
The values that columns hold. What a live column can hold is read off the row that the catalog has about
it, by the spelling of its type; what a column type can hold, off the family of the type. A missing length
or precision is no bound.
-/

namespace SchemaMigrate

/-- A value of a column, as far as its size matters. -/
inductive Datum where
  | text (characters : List Char)
  | number (value : ℚ)

/-- A number of `precision` decimal digits, `scale` of them behind the point. -/
def FitsDigits (precision scale : Int) (value : ℚ) : Prop :=
  (∃ units : ℤ, value = units * (10 : ℚ) ^ (-scale)) ∧ |value| < (10 : ℚ) ^ (precision - scale)

/-- What a column type can hold. -/
def ColumnType.Holds (type : ColumnType) : Datum → Prop
  | .text characters =>
      typeFamily? type.name ≠ some .decimal ∧
        (typeFamily? type.name = some .string →
          ∀ limit, type.precision = some limit → limit ≠ maxLength → (characters.length : Int) ≤ limit)
  | .number value =>
      typeFamily? type.name ≠ some .string ∧
        (typeFamily? type.name = some .decimal →
          ∀ precision, type.precision = some precision → precision ≠ maxLength →
            FitsDigits precision (type.scale.getD 0) value)

namespace Catalog

/-- What kind of values a live column holds. -/
inductive ValueKind where
  | characters
  | digits
  | money
  | other
deriving Repr, DecidableEq

/-- The types whose values are texts. -/
def characterTypes : List String := ["character varying", "varchar", "text", "character", "char", "bpchar"]

/-- The types whose values are decimal numbers. -/
def digitTypes : List String := ["numeric", "decimal"]

/-- The kind of a type as the catalog spells it. -/
def kindOf (type : String) : ValueKind :=
  let key := nameKey (Text.trimmed type)
  if characterTypes.contains key then .characters
  else if digitTypes.contains key then .digits
  else if key = "money" then .money
  else .other

/-- What the column of a row can hold. Money is counted in units of which `10 ^ places` make one, in 64
bits; how many places there are is a matter of the locale. -/
def ColumnRow.Holds (places : ℕ) (row : ColumnRow) : Datum → Prop
  | .text characters =>
      match kindOf row.type with
      | .characters => ∀ limit, row.charLength = some limit → (characters.length : Int) ≤ limit
      | .other => True
      | .digits | .money => False
  | .number value =>
      match kindOf row.type with
      | .digits =>
          ∀ precision, row.numericPrecision = some precision →
            FitsDigits precision (row.numericScale.getD 0) value
      | .money => ∃ units : ℤ, -2 ^ 63 ≤ units ∧ units < 2 ^ 63 ∧ value = units / (10 : ℚ) ^ places
      | .other => True
      | .characters => False

/-- A row as the catalog reports it: only texts have a length and only numbers a precision. -/
def ColumnRow.Reported (row : ColumnRow) : Prop :=
  match kindOf row.type with
  | .characters => row.numericPrecision = none
  | .digits => row.charLength = none
  | .money | .other => True

/-- Whether the row of a column that is to become wider tells enough: the length of texts, the precision of
numbers, and of money that the places and the whole range of it fit. -/
def ColumnRow.Tells (places : ℕ) (row : ColumnRow) (type : ColumnType) : Prop :=
  match kindOf row.type with
  | .characters => row.charLength.isSome = true
  | .digits => row.numericPrecision.isSome = true
  | .money =>
      ∃ precision, type.precision = some precision ∧ (places : Int) ≤ type.scale.getD 0
        ∧ (2 ^ 63 : ℚ) < (10 : ℚ) ^ (precision - type.scale.getD 0 + places)
  | .other => True

section Kinds

variable {row : ColumnRow} {places : ℕ} {value : Datum}

theorem ColumnRow.holds_characters_iff (h : kindOf row.type = .characters) :
    row.Holds places value ↔ ∃ characters, value = .text characters
      ∧ ∀ limit, row.charLength = some limit → (characters.length : Int) ≤ limit := by
  unfold ColumnRow.Holds
  rw [h]
  cases value with
  | text characters => simp
  | number value => simp

theorem ColumnRow.holds_digits_iff (h : kindOf row.type = .digits) :
    row.Holds places value ↔ ∃ number, value = .number number
      ∧ ∀ precision, row.numericPrecision = some precision →
          FitsDigits precision (row.numericScale.getD 0) number := by
  unfold ColumnRow.Holds
  rw [h]
  cases value with
  | text characters => simp
  | number value => simp

theorem ColumnRow.holds_money_iff (h : kindOf row.type = .money) :
    row.Holds places value ↔ ∃ units : ℤ, -2 ^ 63 ≤ units ∧ units < 2 ^ 63
      ∧ value = .number (units / (10 : ℚ) ^ places) := by
  unfold ColumnRow.Holds
  rw [h]
  cases value with
  | text characters => simp
  | number value => simp

end Kinds

end Catalog

section Digits

/-- A unit of one scale in units of another. -/
theorem unit_eq (first second : Int) :
    (10 : ℚ) ^ (-first) = 10 ^ (second - first) * 10 ^ (-second) := by
  rw [← zpow_add₀ (by norm_num)]
  congr 1
  omega

/-- What is counted in the units of a scale can be counted in those of a finer one. -/
theorem exists_units {first second : Int} (h : first ≤ second) (units : ℤ) :
    ∃ units' : ℤ, (units : ℚ) * 10 ^ (-first) = units' * 10 ^ (-second) := by
  obtain ⟨extra, hextra⟩ := Int.eq_ofNat_of_zero_le (sub_nonneg.2 h)
  refine ⟨units * 10 ^ extra, ?_⟩
  rw [unit_eq first second, hextra, zpow_natCast]
  push_cast
  ring

theorem FitsDigits.widen {precision scale precision' scale' : Int} {value : ℚ}
    (h : FitsDigits precision scale value) (hscale : scale ≤ scale')
    (hwhole : precision - scale ≤ precision' - scale') : FitsDigits precision' scale' value := by
  obtain ⟨⟨units, hunits⟩, hbound⟩ := h
  obtain ⟨units', hunits'⟩ := exists_units hscale units
  exact ⟨⟨units', hunits.trans hunits'⟩,
    lt_of_lt_of_le hbound (zpow_le_zpow_right₀ (by norm_num) hwhole)⟩

/-- Every size leaves some number out. -/
theorem exists_not_fitsDigits (precision scale : Int) : ∃ value, ¬ FitsDigits precision scale value := by
  refine ⟨(10 : ℚ) ^ (precision - scale), fun h => ?_⟩
  have hbound := h.2
  rw [abs_of_pos (zpow_pos (by norm_num) _)] at hbound
  exact lt_irrefl _ hbound

/-- Moves a power of ten to the other side of a bound. -/
theorem mul_zpow_neg_lt_iff {value : ℚ} {first second : Int} :
    value * (10 : ℚ) ^ (-first) < (10 : ℚ) ^ second ↔ value < (10 : ℚ) ^ (second + first) := by
  rw [zpow_neg, ← div_eq_mul_inv, div_lt_iff₀ (zpow_pos (by norm_num) _), ← zpow_add₀ (by norm_num)]

/-- An amount is a whole number of the units of a scale only if the scale has all the places. -/
theorem le_of_unit_eq {places : ℕ} {scale units : ℤ}
    (h : (10 : ℚ) ^ (-(places : ℤ)) = units * (10 : ℚ) ^ (-scale)) : (places : ℤ) ≤ scale := by
  have hunits : (units : ℚ) = (10 : ℚ) ^ (scale - places) := by
    rw [unit_eq places scale] at h
    exact (mul_right_cancel₀ (zpow_ne_zero _ (by norm_num)) h).symm
  by_contra hlt
  -- a power of ten with a negative exponent lies between zero and one
  have hpos : (0 : ℚ) < units := hunits ▸ zpow_pos (by norm_num) _
  have hone : (units : ℚ) < 1 := hunits ▸ zpow_lt_one_of_neg₀ (by norm_num) (by omega)
  have : 0 < units := by exact_mod_cast hpos
  have : units < 1 := by exact_mod_cast hone
  omega

/-- All money fits if the places do and the least amount does. -/
theorem fitsDigits_money_iff {precision scale : Int} {places : ℕ} :
    (∀ units : ℤ, -2 ^ 63 ≤ units → units < 2 ^ 63 →
        FitsDigits precision scale (units / (10 : ℚ) ^ places)) ↔
      (places : Int) ≤ scale ∧ (2 ^ 63 : ℚ) < (10 : ℚ) ^ (precision - scale + places) := by
  have hamount (units : ℤ) :
      (units : ℚ) / (10 : ℚ) ^ places = units * (10 : ℚ) ^ (-(places : ℤ)) := by
    rw [zpow_neg, zpow_natCast, div_eq_mul_inv]
  have hpositive : (0 : ℚ) < 10 ^ (-(places : ℤ)) := zpow_pos (by norm_num) _
  constructor
  · intro h
    constructor
    · obtain ⟨⟨units, hunits⟩, -⟩ := h 1 (by norm_num) (by norm_num)
      rw [hamount, Int.cast_one, one_mul] at hunits
      exact le_of_unit_eq hunits
    · have hleast := (h (-2 ^ 63) le_rfl (by norm_num)).2
      have hsize : |((-2 ^ 63 : ℤ) : ℚ)| = 2 ^ 63 := by norm_num
      rwa [hamount, abs_mul, abs_of_pos hpositive, mul_zpow_neg_lt_iff, hsize] at hleast
  · rintro ⟨hplaces, hrange⟩ units hlow hhigh
    rw [hamount]
    refine ⟨exists_units hplaces units, ?_⟩
    have hsize : |(units : ℚ)| ≤ 2 ^ 63 := by
      rw [abs_le]
      constructor
      · exact_mod_cast hlow
      · exact_mod_cast hhigh.le
    rw [abs_mul, abs_of_pos hpositive, mul_zpow_neg_lt_iff]
    exact lt_of_le_of_lt hsize hrange

end Digits

end SchemaMigrate
