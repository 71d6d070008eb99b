import SchemaMigrate.Proofs.Catalog.Reading
import SchemaMigrate.Proofs.Run.Trace
import SchemaMigrate.Proofs.Sql.Column

/-!
The check before a narrowing, when the database answers it. Main statement: the check is exact for every length, and
for digits exactly if there are not more of them behind the point than there are at all. The least magnitude that has
too many digits before the point is written as a one with zeros, which is never less than one; with more places than
digits it would have to be.
-/

namespace SchemaMigrate

open Sql

/-- A field whose type has a bound: a length, or digits and places, none of them negative. -/
def Field.Bounded (field : Field) : Prop :=
  match field.family? with
  | some .string | some .binary => ∃ length, field.type.precision = some length ∧ 0 ≤ length
  | some .decimal =>
      (∃ precision, field.type.precision = some precision ∧ 0 ≤ precision) ∧ 0 ≤ field.type.scale.getD 0
  | _ => False

/-- A client that answers the query of a field as the database does. -/
def AnswersAs {σ : Type} (client : Client σ) (state : σ) (store : Store) (table : String) (field : Field) : Prop :=
  ∀ query, measureQuery? table field = some query → (client.scalar query state).1 = answer query store

/-- A row that has one column only. -/
def onlyColumn (column : String) (value : Value) : Row := Function.update (fun _ => none) column (some value)

/-- A database that has one table only. -/
def onlyTable (table : String) (rows : List Row) : Store := Function.update (fun _ => none) table (some rows)

-- keys are compared as a whole from here on, never computed
attribute [local irreducible] nameKey

section Bounds

variable {field : Field}

theorem Field.Bounded.cases (h : field.Bounded) :
    (∃ length : ℕ, field.family? = some .string ∧ field.type.precision = some (length : ℤ)
        ∧ boundOf field = .characters length)
      ∨ (∃ length : ℕ, field.family? = some .binary ∧ field.type.precision = some (length : ℤ)
        ∧ boundOf field = .bytes length)
      ∨ ∃ digits places : ℕ, field.family? = some .decimal ∧ field.type.precision = some (digits : ℤ)
        ∧ field.type.scale.getD 0 = places ∧ boundOf field = .digits digits places := by
  have hmax (length : ℕ) : (length : ℤ) ≠ maxLength := by
    rw [maxLength]
    omega
  unfold Field.Bounded at h
  unfold boundOf
  split at h
  · rename_i hfamily
    obtain ⟨length, hlength, hnonneg⟩ := h
    obtain ⟨length, rfl⟩ := Int.eq_ofNat_of_zero_le hnonneg
    refine .inl ⟨length, hfamily, hlength, ?_⟩
    simp only [hfamily, hlength, if_neg (hmax length)]
  · rename_i hfamily
    obtain ⟨length, hlength, hnonneg⟩ := h
    obtain ⟨length, rfl⟩ := Int.eq_ofNat_of_zero_le hnonneg
    refine .inr (.inl ⟨length, hfamily, hlength, ?_⟩)
    simp only [hfamily, hlength, if_neg (hmax length)]
  · rename_i hfamily
    obtain ⟨⟨precision, hprecision, hnonneg⟩, hscale⟩ := h
    obtain ⟨digits, rfl⟩ := Int.eq_ofNat_of_zero_le hnonneg
    obtain ⟨places, hplaces⟩ := Int.eq_ofNat_of_zero_le hscale
    refine .inr (.inr ⟨digits, places, hfamily, hprecision, hplaces, ?_⟩)
    simp only [hfamily, hprecision, hplaces]
  · cases h

theorem Field.Bounded.proper (h : field.Bounded) : (boundOf field).Proper := by
  rcases h.cases with ⟨length, -, -, hbound⟩ | ⟨length, -, -, hbound⟩ | ⟨digits, places, -, -, -, hbound⟩
  all_goals rw [hbound]
  · exact Int.natCast_nonneg length
  · exact Int.natCast_nonneg length
  · exact ⟨Int.natCast_nonneg digits, Int.natCast_nonneg places⟩

theorem Field.Bounded.family_eq (h : field.Bounded) : field.family? = (boundOf field).family? := by
  rcases h.cases with ⟨length, hfamily, -, hbound⟩ | ⟨length, hfamily, -, hbound⟩
    | ⟨digits, places, hfamily, -, -, hbound⟩
  all_goals
    rw [hfamily, hbound]
    rfl

/-- A column with a bound is measured by a query that the database can read. -/
theorem Field.Bounded.exists_query (h : field.Bounded) (table : String) :
    ∃ text query, measureQuery? table field = some text ∧ queryOf text = .ok query
      ∧ (boundOf field).query? table field.name = some query := by
  have hread := queryOf_measureQuery table h.proper
  have hmeasured : ∃ query, (boundOf field).query? table field.name = some query := by
    rcases h.cases with ⟨length, -, -, hbound⟩ | ⟨length, -, -, hbound⟩ | ⟨digits, places, -, -, -, hbound⟩
    all_goals
      rw [hbound]
      exact ⟨_, rfl⟩
  obtain ⟨query, hquery⟩ := hmeasured
  rw [hquery] at hread
  obtain ⟨text, htext, hok⟩ := Option.map_eq_some_iff.1 hread
  exact ⟨text, query, htext, hok, hquery⟩

end Bounds

section Checks

variable {σ : Type} (client : Client σ) {state : σ} {table : String} {field : Field} {store : Store} {rows : List Row}

variable {client} in
theorem measure_eq_ok {query : String} {cell : Cell} {observed : Int}
    (hanswer : (client.scalar query state).1 = .ok cell) (hcount : cell.count = .ok observed) :
    (measure client query state).1 = .ok observed := by
  unfold measure
  split
  · rename_i message next hscalar
    rw [hscalar] at hanswer
    cases hanswer
  · rename_i other next hscalar
    rw [hscalar] at hanswer
    cases hanswer
    exact congrArg (Except.mapError StepError.count) hcount

theorem safe_verdict (table : String) (field : Field) (observed : Int) :
    (verdict table field observed).safe = (boundOf field).accepts observed := by
  unfold verdict
  cases boundOf field <;> rfl

/-- A check finds a column safe exactly if none of its values violates the bound. -/
theorem checkNarrowing_eq_ok (hbounded : field.Bounded) (htable : store table = some rows)
    (hrows : HoldsKind field.family? field.name rows) (hclient : AnswersAs client state store table field) :
    ∃ check, (checkNarrowing client table field state).1 = .ok check
      ∧ (check.safe = true ↔ ∀ row ∈ rows, (boundOf field).violatedBy (held field.name row) = false) := by
  obtain ⟨text, query, htext, hread, hquery⟩ := hbounded.exists_query table
  rw [hbounded.family_eq] at hrows
  obtain ⟨cell, observed, hanswer, hcount, haccepts⟩ := answer_query hbounded.proper hquery htable hrows
  have hscalar : (client.scalar text state).1 = .ok cell := by
    rw [hclient text htext, answer_of_queryOf hread, hanswer]
    rfl
  refine ⟨verdict table field observed, ?_, ?_⟩
  · rw [checkNarrowing_measured client state htext, measure_eq_ok hscalar hcount]
    rfl
  · rw [safe_verdict, haccepts]

end Checks

section Exactness

variable {table : String} {field : Field} {value : Value}

/-- Whether the check of a field is exact: whatever values its column holds, the check calls them safe exactly if the
field admits each that is not null. -/
def ChecksExactly (table : String) (field : Field) : Prop :=
  ∀ (σ : Type) (client : Client σ) (state : σ) (store : Store) (rows : List Row),
    store table = some rows → HoldsKind field.family? field.name rows → AnswersAs client state store table field →
      ∃ check, (checkNarrowing client table field state).1 = .ok check
        ∧ (check.safe = true ↔
            ∀ row ∈ rows, ∀ value, row field.name = some value → value ≠ .null → field.Admits value)

theorem withinLimit_iff (limit count : ℕ) : WithinLimit (some (limit : ℤ)) count ↔ count ≤ limit := by
  have hmax : (limit : ℤ) ≠ maxLength := by
    rw [maxLength]
    omega
  simp [WithinLimit, hmax]

/-- With no more places than digits, the power of ten that bounds a number is the one that is written. -/
theorem fitsDigits_iff {digits places : ℕ} (h : places ≤ digits) {number : ℚ} :
    FitsDigits digits places number ↔ HasPlaces places number ∧ |number| < 10 ^ ((digits : ℤ) - places).toNat := by
  have hpower : (10 : ℚ) ^ ((digits : ℤ) - places) = 10 ^ ((digits : ℤ) - places).toNat := by
    rw [← zpow_natCast]
    congr 1
    omega
  rw [FitsDigits, hpower]
  rfl

/-- A value that is not null violates the bound of a field exactly if the field does not admit it. -/
theorem not_violatedBy_iff_admits (hbounded : field.Bounded)
    (hordered : field.family? = some .decimal → field.type.scale.getD 0 ≤ field.type.precision.getD 0)
    (hkind : value.family? = field.family?) (hvalue : value ≠ .null) :
    (boundOf field).violatedBy value = false ↔ field.Admits value := by
  rcases hbounded.cases with ⟨length, hfamily, hlength, hbound⟩ | ⟨length, hfamily, hlength, hbound⟩
    | ⟨digits, places, hfamily, hdigits, hplaces, hbound⟩
  · rw [hfamily] at hkind
    cases value with
    | text characters => simp [hbound, Bound.violatedBy, Field.Admits, hfamily, hlength, withinLimit_iff]
    | null => exact absurd rfl hvalue
    | bytes _ | number _ => cases hkind
  · rw [hfamily] at hkind
    cases value with
    | bytes octets => simp [hbound, Bound.violatedBy, Field.Admits, hfamily, hlength, withinLimit_iff]
    | null => exact absurd rfl hvalue
    | text _ | number _ => cases hkind
  · rw [hfamily] at hkind
    cases value with
    | number number =>
        have hle : places ≤ digits := by simpa [hdigits, hplaces] using hordered hfamily
        rw [hbound, not_violatedBy_digits_iff, Int.toNat_natCast, ← fitsDigits_iff hle]
        simp [Field.Admits, hfamily, hdigits, hplaces]
    | null => exact absurd rfl hvalue
    | text _ | bytes _ => cases hkind

/-- A row violates nothing exactly if the field admits its value, or there is none. -/
theorem not_violatedBy_iff_row {row : Row} (hbounded : field.Bounded)
    (hordered : field.family? = some .decimal → field.type.scale.getD 0 ≤ field.type.precision.getD 0)
    (hrow : row field.name = some value) (hkind : value = .null ∨ value.family? = field.family?) :
    (boundOf field).violatedBy value = false ↔
      ∀ other, row field.name = some other → other ≠ .null → field.Admits other := by
  simp only [hrow, Option.some.injEq, forall_eq']
  by_cases hnull : value = .null
  · have hpasses : (boundOf field).violatedBy value = false := by
      rw [hnull]
      cases boundOf field <;> rfl
    exact iff_of_true hpasses fun hnot => absurd hnull hnot
  · rw [not_violatedBy_iff_admits hbounded hordered (hkind.resolve_left hnull) hnull]
    exact ⟨fun hadmits _ => hadmits, fun hadmits => hadmits hnull⟩

/-- A row by itself is safe exactly if its value does not violate the bound. -/
theorem checkNarrowing_single {row : Row} (hbounded : field.Bounded) (types : LiveTypes) (table : String)
    (hrow : row field.name = some value) (hkind : value = .null ∨ value.family? = field.family?) :
    ∃ check, (checkNarrowing (server types) table field (onlyTable table [row])).1 = .ok check
      ∧ (check.safe = true ↔ (boundOf field).violatedBy value = false) := by
  have hrows : HoldsKind field.family? field.name [row] := List.forall_mem_singleton.2 ⟨value, hrow, hkind⟩
  obtain ⟨check, hcheck, hsafe⟩ := checkNarrowing_eq_ok (server types) hbounded
    (Function.update_self table (some [row]) fun _ => none) hrows fun _ _ => rfl
  refine ⟨check, hcheck, hsafe.trans ?_⟩
  rw [List.forall_mem_singleton, held_of_eq hrow]

/-- An exact check calls a row by itself safe exactly if the field admits its value. -/
theorem ChecksExactly.admits_iff (h : ChecksExactly table field) (hbounded : field.Bounded) (value : Value)
    (hkind : value.family? = field.family?) (hvalue : value ≠ .null) :
    (boundOf field).violatedBy value = false ↔ field.Admits value := by
  -- measuring does not ask for the types
  let types : LiveTypes := fun _ _ => none
  have hrow : onlyColumn field.name value field.name = some value := Function.update_self ..
  obtain ⟨check, hcheck, hpasses⟩ := checkNarrowing_single hbounded types table hrow (.inr hkind)
  obtain ⟨check', hcheck', hsafe⟩ := h Store (server types) (onlyTable table [onlyColumn field.name value]) _ _
    (Function.update_self ..) (List.forall_mem_singleton.2 ⟨value, hrow, .inr hkind⟩) fun _ _ => rfl
  obtain rfl : check' = check := Except.ok.inj (hcheck'.symm.trans hcheck)
  rw [← hpasses, hsafe, List.forall_mem_singleton, hrow]
  constructor
  · intro hadmits
    exact hadmits value rfl hvalue
  · intro hadmits other hother _
    cases hother
    exact hadmits

/-- Digits that are all used up behind the point leave out a number that is counted as fitting. -/
theorem not_violatedBy_of_lt {digits places : ℕ} (h : digits < places) :
    (Bound.digits digits places).violatedBy (.number (10 ^ ((digits : ℤ) - places))) = false
      ∧ ¬FitsDigits digits places (10 ^ ((digits : ℤ) - places)) := by
  have hpos : (0 : ℚ) < 10 ^ ((digits : ℤ) - places) := zpow_pos (by norm_num) _
  constructor
  · rw [not_violatedBy_digits_iff, Int.toNat_natCast, Int.toNat_of_nonpos (by omega), pow_zero, abs_of_pos hpos]
    refine ⟨⟨10 ^ digits, ?_⟩, zpow_lt_one_of_neg₀ (by norm_num) (by omega)⟩
    rw [sub_eq_add_neg, zpow_add₀ (by norm_num), zpow_natCast]
    push_cast
    rfl
  · intro hfits
    have hlt := hfits.2
    rw [abs_of_pos hpos] at hlt
    exact lt_irrefl _ hlt

/-- An exact check of digits needs a digit for every place. -/
theorem ChecksExactly.le_of_decimal (h : ChecksExactly table field) (hbounded : field.Bounded)
    (hdecimal : field.family? = some .decimal) : field.type.scale.getD 0 ≤ field.type.precision.getD 0 := by
  rcases hbounded.cases with ⟨_, hfamily, -⟩ | ⟨_, hfamily, -⟩ | ⟨digits, places, -, hdigits, hplaces, hbound⟩
  · rw [hfamily] at hdecimal
    cases hdecimal
  · rw [hfamily] at hdecimal
    cases hdecimal
  · rw [hdigits, hplaces, Option.getD_some]
    by_contra hlt
    have hless : digits < places := by omega
    obtain ⟨hpasses, hleft⟩ := not_violatedBy_of_lt hless
    have hnumber := h.admits_iff hbounded (.number (10 ^ ((digits : ℤ) - places))) (by rw [hdecimal]; rfl) (by simp)
    rw [hbound] at hnumber
    have hfits := (hnumber.1 hpasses).2 digits hdigits
    rw [hplaces] at hfits
    exact hleft hfits

end Exactness

/-- The check before a narrowing is exact for every field with a length, and for a field with digits exactly if it has
no more places than digits. -/
theorem checksExactly_iff {table : String} {field : Field} (hbounded : field.Bounded) :
    ChecksExactly table field ↔
      (field.family? = some .decimal → field.type.scale.getD 0 ≤ field.type.precision.getD 0) := by
  refine ⟨fun h => h.le_of_decimal hbounded, fun hordered σ client state store rows htable hrows hclient => ?_⟩
  obtain ⟨check, hcheck, hsafe⟩ := checkNarrowing_eq_ok client hbounded htable hrows hclient
  refine ⟨check, hcheck, hsafe.trans (forall₂_congr fun row hrow => ?_)⟩
  obtain ⟨value, hvalue, hkind⟩ := hrows row hrow
  rw [held_of_eq hvalue]
  exact not_violatedBy_iff_row hbounded hordered hvalue hkind

/-- Discounts of less than a hundredth. -/
def discountField : Field := { name := "Discount", type := { name := "numeric", precision := some 2, scale := some 4 } }

theorem discountField_family : discountField.family? = some .decimal := by decide +kernel

theorem discountField_bounded : discountField.Bounded := by
  unfold Field.Bounded
  rw [discountField_family]
  exact ⟨⟨2, rfl, by decide⟩, by decide⟩

theorem checksExactly_iff_discount :
    discountField.Bounded ∧ (ChecksExactly "Sale" discountField ↔
      (discountField.family? = some .decimal →
        discountField.type.scale.getD 0 ≤ discountField.type.precision.getD 0)) :=
  ⟨discountField_bounded, checksExactly_iff discountField_bounded⟩

/-- The types of a database in which discounts have three digits, two of them behind the point. -/
def saleTypes : LiveTypes := fun _ _ => some (.sized 3 2)

/-- A discount of a half is called safe, and cannot be stored with two digits of which four are behind the point. -/
theorem discount_of_half_passes :
    (∃ check, (checkNarrowing (server saleTypes) "Sale" discountField
        (onlyTable "Sale" [onlyColumn discountField.name (.number (1 / 2))])).1 = .ok check ∧ check.safe = true)
      ∧ ¬discountField.Admits (.number (1 / 2)) := by
  constructor
  · have hrow : onlyColumn discountField.name (.number (1 / 2)) discountField.name = some (.number (1 / 2)) :=
      Function.update_self ..
    obtain ⟨check, hcheck, hsafe⟩ :=
      checkNarrowing_single discountField_bounded saleTypes "Sale" hrow (.inr discountField_family.symm)
    refine ⟨check, hcheck, hsafe.2 ?_⟩
    have hbound : boundOf discountField = .digits 2 4 := by
      unfold boundOf
      rw [discountField_family]
      rfl
    have hwhole : ((2 : ℤ) - 4).toNat = 0 := by decide
    rw [hbound, not_violatedBy_digits_iff, hwhole]
    exact ⟨⟨5000, by norm_num⟩, by norm_num [abs_of_pos]⟩
  · rintro ⟨-, hfits⟩
    have hlt := (hfits 2 rfl).2
    norm_num [discountField, abs_of_pos] at hlt

end SchemaMigrate
