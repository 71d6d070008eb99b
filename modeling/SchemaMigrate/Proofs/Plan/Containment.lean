import Mathlib.Data.Set.Lattice
import Mathlib.Order.CompletePartialOrder
import SchemaMigrate.Plan.Size
import SchemaMigrate.Proofs.Catalog.Reading
import SchemaMigrate.Proofs.Sql.Value

/-!
Size differences as containment. Main statement: a column keeps its size, is made wider or is made narrower exactly
if its new type admits the same values, more of them, or does not admit all the old ones.

One size covers another if it is at least as large in every respect: an unbounded length covers every length, and
digits cover digits if there are as many of them on either side of the point. Sizes that do not cover each other
are compared as a narrowing.
-/

namespace SchemaMigrate

/-- Whether a length takes in every text of another length. -/
def LengthCovers (length other : Int) : Prop := length = maxLength ∨ other ≠ maxLength ∧ other ≤ length

/-- Whether digits take in every number of other digits. -/
def DigitsCover (precision scale precision' scale' : Int) : Prop :=
  scale' ≤ scale ∧ precision' - scale' ≤ precision - scale

section Comparisons

variable {length other precision precision' : Int}

theorem compareLength_iff :
    (compareLength (some length) (some other) = none ↔ LengthCovers length other ∧ LengthCovers other length)
      ∧ (compareLength (some length) (some other) = some .widen ↔
          LengthCovers length other ∧ ¬LengthCovers other length)
      ∧ (compareLength (some length) (some other) = some .narrow ↔ ¬LengthCovers length other) := by
  unfold compareLength LengthCovers
  dsimp only
  split
  · simp; omega
  · split
    · simp; omega
    · split
      · simp; omega
      · split
        · simp; omega
        · simp; omega

theorem compareDecimal_iff {target actual : ColumnType} (htarget : target.precision = some precision)
    (hactual : actual.precision = some precision') :
    (compareDecimal target actual = none ↔
        DigitsCover precision (target.scale.getD 0) precision' (actual.scale.getD 0)
          ∧ DigitsCover precision' (actual.scale.getD 0) precision (target.scale.getD 0))
      ∧ (compareDecimal target actual = some .widen ↔
          DigitsCover precision (target.scale.getD 0) precision' (actual.scale.getD 0)
            ∧ ¬DigitsCover precision' (actual.scale.getD 0) precision (target.scale.getD 0))
      ∧ (compareDecimal target actual = some .narrow ↔
          ¬DigitsCover precision (target.scale.getD 0) precision' (actual.scale.getD 0)) := by
  unfold compareDecimal DigitsCover
  rw [htarget, hactual]
  dsimp only
  split
  · simp; omega
  · split
    · simp; omega
    · simp; omega

end Comparisons

section Values

variable {precision scale precision' scale' length other : Int}

theorem lengthCovers_iff (hother : other = maxLength ∨ 0 ≤ other) :
    (∀ count : ℕ, WithinLimit (some other) count → WithinLimit (some length) count) ↔ LengthCovers length other := by
  unfold WithinLimit LengthCovers
  simp only [Option.some.injEq, forall_eq']
  constructor
  · intro h
    by_contra hcovers
    rw [not_or] at hcovers
    -- a text one longer than the limit, or as long as the other limit admits
    by_cases hmax : other = maxLength
    · have hlong := h (length.toNat + 1) (fun hne => absurd hmax hne) hcovers.1
      omega
    · have hlong := h other.toNat (fun _ => by omega) hcovers.1
      omega
  · rintro (rfl | ⟨hmax, hle⟩) count hcount hbounded
    · exact absurd rfl hbounded
    · exact (hcount hmax).trans hle

/-- Digits of which there is at least one cover as many numbers as they are covered by. -/
theorem digitsCover_iff (hprecision : 1 ≤ precision') (hscale : 0 ≤ scale') :
    (∀ value, FitsDigits precision' scale' value → FitsDigits precision scale value) ↔
      DigitsCover precision scale precision' scale' := by
  constructor
  · intro h
    obtain ⟨places, rfl⟩ := Int.eq_ofNat_of_zero_le hscale
    have hunit : (0 : ℚ) < 10 ^ (-(places : ℤ)) := zpow_pos (by norm_num) _
    constructor
    · -- the smallest unit behind the point
      have hfits : FitsDigits precision' places ((10 : ℚ) ^ (-(places : ℤ))) := by
        refine ⟨⟨1, by simp⟩, ?_⟩
        rw [abs_of_pos hunit]
        exact zpow_lt_zpow_right₀ (by norm_num) (by omega)
      obtain ⟨⟨units, hunits⟩, -⟩ := h _ hfits
      exact le_of_unit_eq hunits
    · -- the greatest number
      by_contra hlt
      obtain ⟨digits, rfl⟩ := Int.eq_ofNat_of_zero_le (by omega : 0 ≤ precision')
      have hone : (1 : ℚ) ≤ 10 ^ digits := one_le_pow₀ (by norm_num)
      have hsplit : (10 : ℚ) ^ ((digits : ℤ) - places) = 10 ^ digits * 10 ^ (-(places : ℤ)) := by
        rw [sub_eq_add_neg, zpow_add₀ (by norm_num), zpow_natCast]
      have hgreatest : (0 : ℚ) ≤ (10 ^ digits - 1) * 10 ^ (-(places : ℤ)) :=
        mul_nonneg (sub_nonneg.2 hone) hunit.le
      have hfits : FitsDigits digits places ((10 ^ digits - 1) * (10 : ℚ) ^ (-(places : ℤ))) := by
        refine ⟨⟨10 ^ digits - 1, by push_cast; rfl⟩, ?_⟩
        rw [abs_of_nonneg hgreatest, hsplit]
        exact mul_lt_mul_of_pos_right (by linarith) hunit
      have hbound := (h _ hfits).2
      rw [abs_of_nonneg hgreatest] at hbound
      have hless : (10 : ℚ) ^ (precision - scale) ≤ 10 ^ ((digits : ℤ) - 1) * 10 ^ (-(places : ℤ)) := by
        rw [← zpow_add₀ (by norm_num)]
        exact zpow_le_zpow_right₀ (by norm_num) (by omega)
      have hsmall : (10 : ℚ) ^ digits - 1 < 10 ^ ((digits : ℤ) - 1) :=
        lt_of_mul_lt_mul_right (lt_of_lt_of_le hbound hless) hunit.le
      have hten : (10 : ℚ) ^ digits = 10 * 10 ^ ((digits : ℤ) - 1) := by
        rw [← zpow_natCast, ← zpow_one_add₀ (by norm_num)]
        congr 1
        omega
      have hfirst : (1 : ℚ) ≤ 10 ^ ((digits : ℤ) - 1) := one_le_zpow₀ (by norm_num) (by omega)
      linarith
  · rintro ⟨hscale, hwhole⟩ value hvalue
    exact hvalue.widen hscale hwhole

end Values

-- keys are compared as a whole from here on, never computed
attribute [local irreducible] nameKey

section Fields

variable {field target actual : Field}

theorem mem_values_of_string (h : field.family? = some .string) {value : Sql.Value} :
    value ∈ field.values ↔
      ∃ characters, value = .text characters ∧ WithinLimit field.type.precision characters.length := by
  cases value <;> simp [Field.values, Field.Admits, h]

theorem mem_values_of_binary (h : field.family? = some .binary) {value : Sql.Value} :
    value ∈ field.values ↔ ∃ octets, value = .bytes octets ∧ WithinLimit field.type.precision octets.length := by
  cases value <;> simp [Field.values, Field.Admits, h]

theorem mem_values_of_decimal (h : field.family? = some .decimal) {precision : Int}
    (hprecision : field.type.precision = some precision) {value : Sql.Value} :
    value ∈ field.values ↔
      ∃ number, value = .number number ∧ FitsDigits precision (field.type.scale.getD 0) number := by
  cases value <;> simp [Field.values, Field.Admits, h, hprecision]

theorem compareSize_of_length (hsame : sameName target.type.name actual.type.name = true)
    (h : target.family? = some .string ∨ target.family? = some .binary) :
    compareSize target actual = compareLength target.type.precision actual.type.precision := by
  rw [compareSize, if_pos hsame]
  rcases h with h | h <;> rw [h]

theorem compareSize_of_digits (hsame : sameName target.type.name actual.type.name = true)
    (h : target.family? = some .decimal) : compareSize target actual = compareDecimal target.type actual.type := by
  rw [compareSize, if_pos hsame, h]

theorem Field.Sized.cases (h : field.Sized) :
    (∃ length, (field.family? = some .string ∨ field.family? = some .binary)
        ∧ field.type.precision = some length ∧ (length = maxLength ∨ 0 ≤ length))
      ∨ ∃ precision, field.family? = some .decimal ∧ field.type.precision = some precision ∧ 1 ≤ precision
          ∧ 0 ≤ field.type.scale.getD 0 := by
  unfold Field.Sized at h
  split at h
  · rename_i hfamily
    obtain ⟨length, hlength, hknown⟩ := h
    exact .inl ⟨length, .inl hfamily, hlength, hknown⟩
  · rename_i hfamily
    obtain ⟨length, hlength, hknown⟩ := h
    exact .inl ⟨length, .inr hfamily, hlength, hknown⟩
  · rename_i hfamily
    obtain ⟨⟨precision, hprecision, hone⟩, hscale⟩ := h
    exact .inr ⟨precision, hfamily, hprecision, hone, hscale⟩
  · cases h

variable {length other : Int}

/-- Texts and byte strings of one limit are among those of another if the other covers it. -/
theorem values_subset_iff_of_length (hfamily : target.family? = actual.family?)
    (hkind : actual.family? = some .string ∨ actual.family? = some .binary)
    (htarget : target.type.precision = some length) (hactual : actual.type.precision = some other)
    (hother : other = maxLength ∨ 0 ≤ other) : actual.values ⊆ target.values ↔ LengthCovers length other := by
  rw [← lengthCovers_iff hother, ← htarget, ← hactual]
  rcases hkind with hkind | hkind
  · constructor
    · intro h count hcount
      have hmem : Sql.Value.text (List.replicate count 'x') ∈ actual.values :=
        (mem_values_of_string hkind).2 ⟨_, rfl, by rwa [List.length_replicate]⟩
      obtain ⟨characters, heq, hwithin⟩ := (mem_values_of_string (hfamily.trans hkind)).1 (h hmem)
      cases heq
      rwa [List.length_replicate] at hwithin
    · intro h value hmem
      obtain ⟨characters, rfl, hwithin⟩ := (mem_values_of_string hkind).1 hmem
      exact (mem_values_of_string (hfamily.trans hkind)).2 ⟨characters, rfl, h _ hwithin⟩
  · constructor
    · intro h count hcount
      have hmem : Sql.Value.bytes (List.replicate count 0) ∈ actual.values :=
        (mem_values_of_binary hkind).2 ⟨_, rfl, by rwa [List.length_replicate]⟩
      obtain ⟨octets, heq, hwithin⟩ := (mem_values_of_binary (hfamily.trans hkind)).1 (h hmem)
      cases heq
      rwa [List.length_replicate] at hwithin
    · intro h value hmem
      obtain ⟨octets, rfl, hwithin⟩ := (mem_values_of_binary hkind).1 hmem
      exact (mem_values_of_binary (hfamily.trans hkind)).2 ⟨octets, rfl, h _ hwithin⟩

variable {precision precision' : Int}

/-- Numbers of some digits are among those of others if the others cover them. -/
theorem values_subset_iff_of_digits (hfamily : target.family? = actual.family?) (hkind : actual.family? = some .decimal)
    (htarget : target.type.precision = some precision) (hactual : actual.type.precision = some precision')
    (hone : 1 ≤ precision') (hscale : 0 ≤ actual.type.scale.getD 0) :
    actual.values ⊆ target.values ↔
      DigitsCover precision (target.type.scale.getD 0) precision' (actual.type.scale.getD 0) := by
  rw [← digitsCover_iff hone hscale]
  constructor
  · intro h number hnumber
    have hmem : Sql.Value.number number ∈ actual.values := (mem_values_of_decimal hkind hactual).2 ⟨_, rfl, hnumber⟩
    obtain ⟨other, heq, hfits⟩ := (mem_values_of_decimal (hfamily.trans hkind) htarget).1 (h hmem)
    cases heq
    exact hfits
  · intro h value hmem
    obtain ⟨number, rfl, hfits⟩ := (mem_values_of_decimal hkind hactual).1 hmem
    exact (mem_values_of_decimal (hfamily.trans hkind) htarget).2 ⟨number, rfl, h number hfits⟩

/-- A comparison that goes by whether sizes cover each other goes by containment, if covering is containment. -/
theorem containment_of_covering {change : Option SizeChange} {covers covered : Prop}
    (hchange : (change = none ↔ covers ∧ covered) ∧ (change = some .widen ↔ covers ∧ ¬covered)
      ∧ (change = some .narrow ↔ ¬covers))
    (hcovers : actual.values ⊆ target.values ↔ covers) (hcovered : target.values ⊆ actual.values ↔ covered) :
    (change = none ↔ target.values = actual.values) ∧ (change = some .widen ↔ actual.values ⊂ target.values)
      ∧ (change = some .narrow ↔ ¬actual.values ⊆ target.values) := by
  obtain ⟨hnone, hwiden, hnarrow⟩ := hchange
  rw [hnone, hwiden, hnarrow, ← hcovers, ← hcovered, Set.ssubset_def]
  refine ⟨?_, Iff.rfl, Iff.rfl⟩
  rw [and_comm, ← Set.Subset.antisymm_iff]

end Fields

/-- Size comparison is containment. Of two columns of one type with known sizes, the comparison sees no difference
exactly if they admit the same values, a widening exactly if the target admits more, and a narrowing exactly if
the target does not admit all that the actual column does. -/
theorem compareSize_iff {target actual : Field} (hsame : sameName target.type.name actual.type.name = true)
    (htarget : target.Sized) (hactual : actual.Sized) :
    (compareSize target actual = none ↔ target.values = actual.values)
      ∧ (compareSize target actual = some .widen ↔ actual.values ⊂ target.values)
      ∧ (compareSize target actual = some .narrow ↔ ¬actual.values ⊆ target.values) := by
  have hfamily : target.family? = actual.family? := typeFamily?_congr hsame
  rcases hactual.cases with ⟨other, hkind, hother, hknown⟩ | ⟨precision', hkind, hprecision', hone', hscale'⟩
  · rcases htarget.cases with ⟨length, htkind, hlength, htknown⟩ | ⟨_, hdecimal, _⟩
    · rw [compareSize_of_length hsame htkind, hlength, hother]
      exact containment_of_covering compareLength_iff
        (values_subset_iff_of_length hfamily hkind hlength hother hknown)
        (values_subset_iff_of_length hfamily.symm htkind hother hlength htknown)
    · rw [← hfamily, hdecimal] at hkind
      simp at hkind
  · have htkind : target.family? = some .decimal := hfamily.trans hkind
    rcases htarget.cases with ⟨_, hlength, _⟩ | ⟨precision, -, hprecision, hone, hscale⟩
    · rw [htkind] at hlength
      simp at hlength
    · rw [compareSize_of_digits hsame htkind]
      exact containment_of_covering (compareDecimal_iff hprecision hprecision')
        (values_subset_iff_of_digits hfamily hkind hprecision hprecision' hone' hscale')
        (values_subset_iff_of_digits hfamily.symm htkind hprecision' hprecision hone hscale)

/-- Prices in cents, and rates of exchange that are all less than a hundredth. -/
def priceField : Field := { name := "Amount", type := { name := "numeric", precision := some 10, scale := some 2 } }

def rateField : Field := { name := "Amount", type := { name := "NUMERIC", precision := some 2, scale := some 4 } }

theorem priceField_sized : priceField.Sized := by
  have hfamily : priceField.family? = some .decimal := by decide +kernel
  unfold Field.Sized
  rw [hfamily]
  exact ⟨⟨10, rfl, by decide⟩, by decide⟩

theorem rateField_sized : rateField.Sized := by
  have hfamily : rateField.family? = some .decimal := by decide +kernel
  unfold Field.Sized
  rw [hfamily]
  exact ⟨⟨2, rfl, by decide⟩, by decide⟩

/-- Neither of two sizes covers the other, and one of them has fewer digits than places. -/
theorem compareSize_iff_rate :
    sameName priceField.type.name rateField.type.name = true ∧ priceField.Sized ∧ rateField.Sized
      ∧ (compareSize priceField rateField = none ↔ priceField.values = rateField.values)
      ∧ (compareSize priceField rateField = some .widen ↔ rateField.values ⊂ priceField.values)
      ∧ (compareSize priceField rateField = some .narrow ↔ ¬rateField.values ⊆ priceField.values) := by
  have hsame : sameName priceField.type.name rateField.type.name = true := by decide +kernel
  exact ⟨hsame, priceField_sized, rateField_sized, compareSize_iff hsame priceField_sized rateField_sized⟩

end SchemaMigrate
