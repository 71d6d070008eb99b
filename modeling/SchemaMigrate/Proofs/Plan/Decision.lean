import SchemaMigrate.Plan.Basic

/-!
What is decided about a field of a table that both sides have. A field without a column is to get one. A
column is kept if it differs in no size; it is widened if it is smaller, and if it is larger it is narrowed or
held, depending on what the field allows.
-/

namespace SchemaMigrate

variable {live other : Table} {field old : Field}

/-- Columns of one type differ in no size. -/
theorem compareSize_eq_none {target actual : Field} (h : target.type = actual.type) :
    compareSize target actual = none := by
  unfold compareSize
  rw [h]
  split
  · split
    · cases actual.type.precision <;> simp [compareLength]
    · cases actual.type.precision <;> simp [compareLength]
    · unfold compareDecimal
      cases actual.type.precision <;> simp
    · rfl
  · rfl

/-- Columns are compared by size if their types have one name. -/
theorem sameName_of_compareSize {change : SizeChange} (h : compareSize field old = some change) :
    sameName field.type.name old.type.name = true := by
  unfold compareSize at h
  split at h
  · rename_i hsame
    exact hsame
  · cases h

/-- A decision about a field, with what led to it. -/
inductive Decided (live : Table) (field : Field) : ColumnDecision → Prop
  | add (hmissing : live.field? field.name = none) : Decided live field .add
  | keep {old : Field} (hfound : live.field? field.name = some old) (hsize : compareSize field old = none) :
      Decided live field .keep
  | widen {old : Field} (hfound : live.field? field.name = some old) (hsize : compareSize field old = some .widen) :
      Decided live field .widen
  | narrow {old : Field} (hfound : live.field? field.name = some old) (hsize : compareSize field old = some .narrow)
      (hmarked : field.hasAttribute reduceSize = true) : Decided live field .narrow
  | hold {old : Field} (hfound : live.field? field.name = some old) (hsize : compareSize field old = some .narrow)
      (hmarked : field.hasAttribute reduceSize = false) : Decided live field .hold

theorem decided (live : Table) (field : Field) : Decided live field (decideColumn live field) := by
  unfold decideColumn
  cases hfound : live.field? field.name with
  | none => exact .add hfound
  | some old =>
      dsimp only
      cases hsize : compareSize field old with
      | none => exact .keep hfound hsize
      | some change =>
          cases change with
          | widen => exact .widen hfound hsize
          | narrow =>
              dsimp only
              split
              · exact .narrow hfound hsize ‹_›
              · exact .hold hfound hsize (Bool.eq_false_iff.2 ‹_›)

theorem decideColumn_eq_iff {decision : ColumnDecision} :
    decideColumn live field = decision ↔ Decided live field decision := by
  constructor
  · rintro rfl
    exact decided live field
  · intro h
    cases h with
    | add hmissing => simp [decideColumn, hmissing]
    | keep hfound hsize => simp [decideColumn, hfound, hsize]
    | widen hfound hsize => simp [decideColumn, hfound, hsize]
    | narrow hfound hsize hmarked => simp [decideColumn, hfound, hsize, hmarked]
    | hold hfound hsize hmarked => simp [decideColumn, hfound, hsize, hmarked]

/-- A column of the field's type is kept. -/
theorem decideColumn_of_same (hfound : live.field? field.name = some old) (htype : field.type = old.type) :
    decideColumn live field = .keep :=
  decideColumn_eq_iff.2 (.keep hfound (compareSize_eq_none htype))

/-- What becomes of a field depends on the type of its column alone. -/
theorem decideColumn_of_type
    (h : (live.field? field.name).map Field.type = (other.field? field.name).map Field.type) :
    decideColumn live field = decideColumn other field := by
  unfold decideColumn
  cases hleft : live.field? field.name with
  | none =>
      rw [hleft, Option.map_none] at h
      rw [Option.map_eq_none_iff.1 h.symm]
  | some old =>
      rw [hleft, Option.map_some] at h
      obtain ⟨past, hpast, hsame⟩ := Option.map_eq_some_iff.1 h.symm
      have hsize : compareSize field old = compareSize field past := by
        rw [compareSize, compareSize, hsame]
      rw [hpast]
      simp only [hsize]

end SchemaMigrate
