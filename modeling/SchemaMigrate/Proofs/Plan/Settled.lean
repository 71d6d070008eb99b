import SchemaMigrate.Proofs.Plan.Decision
import SchemaMigrate.Proofs.Plan.Effect

/-!
What the change steps of a plan make of one live table, given the model's version of it: every field of
the model is there in a size that calls for no further step, and foreign keys and indexes are there as
far as the plan adds them. What the model does not know stays as it was.
-/

namespace SchemaMigrate

/-- The names of the fields are distinct. -/
def Table.DistinctFields (table : Table) : Prop := (table.fields.map keyOf).Nodup

instance (table : Table) : Decidable table.DistinctFields :=
  inferInstanceAs (Decidable (table.fields.map keyOf).Nodup)

theorem Table.field?_self {table : Table} (hdistinct : table.DistinctFields) {field : Field}
    (hmem : field ∈ table.fields) : table.field? field.name = some field :=
  findNamed?_self hdistinct hmem

theorem Table.hasField_of_mem {table : Table} {field : Field} (hmem : field ∈ table.fields) :
    table.hasField field.name = true := by
  rw [Table.hasField, Table.field?, findNamed?, List.find?_isSome]
  exact ⟨field, hmem, sameName_refl _⟩

theorem Table.hasField_congr {table : Table} {left right : String}
    (h : sameName left right = true) : table.hasField left = table.hasField right := by
  rw [Table.hasField, Table.hasField, Table.field?, Table.field?, findNamed?_congr h]

section Resizing

variable {sized field : Field} {fields : List Field} {name : String}

theorem findNamed?_resizeFirst_self :
    findNamed? (resizeFirst sized fields) sized.name =
      (findNamed? fields sized.name).map fun field => { field with type := sized.type } := by
  induction fields with
  | nil => rfl
  | cons field fields ih =>
      by_cases h : sameName field.name sized.name = true
      · simp [resizeFirst, findNamed?, Named.name, h]
      · simpa [resizeFirst, findNamed?, Named.name, h] using ih

theorem findNamed?_resizeFirst_other (hother : sameName sized.name name = false) :
    findNamed? (resizeFirst sized fields) name = findNamed? fields name := by
  induction fields with
  | nil => rfl
  | cons field fields ih =>
      by_cases h : sameName field.name sized.name = true
      · have hname : sameName field.name name = false := by
          rw [sameName_congr_left h]
          exact hother
        simp [resizeFirst, findNamed?, Named.name, h, hname]
      · by_cases hname : sameName field.name name = true
        · simp [resizeFirst, findNamed?, Named.name, h, hname]
        · simpa [resizeFirst, findNamed?, Named.name, h, hname] using ih

/-- A report that passes over the resized field does not see the change. -/
theorem filterMap_resizeFirst {α : Type} {report : Field → Option α}
    (hsilent : ∀ field, sameName field.name sized.name = true → report field = none) :
    (resizeFirst sized fields).filterMap report = fields.filterMap report := by
  induction fields with
  | nil => rfl
  | cons field fields ih =>
      by_cases h : sameName field.name sized.name = true
      · have hnew : report { field with type := sized.type } = none := hsilent _ h
        simp [resizeFirst, h, hnew, hsilent field h]
      · simp [resizeFirst, h, List.filterMap_cons, ih]

end Resizing

/-- What the decision about one field makes of the fields of the live table. -/
def settleField (live : Table) (fields : List Field) (field : Field) : List Field :=
  match decideColumn live field with
  | .keep | .hold => fields
  | .add => fields ++ [field]
  | .widen | .narrow => resizeFirst field fields

section Settling

variable {live : Table} {fields wanted : List Field} {field : Field} {name : String}

theorem findNamed?_settleField_other (hother : sameName field.name name = false) :
    findNamed? (settleField live fields field) name = findNamed? fields name := by
  unfold settleField
  split
  · rfl
  · rfl
  · rw [findNamed?_append]
    have hnone : findNamed? [field] name = none := by simp [findNamed?, Named.name, hother]
    rw [hnone, Option.or_none]
  · exact findNamed?_resizeFirst_other hother
  · exact findNamed?_resizeFirst_other hother

theorem findNamed?_settle_others (hothers : ∀ field ∈ wanted, sameName field.name name = false) :
    findNamed? (wanted.foldl (settleField live) fields) name = findNamed? fields name := by
  induction wanted generalizing fields with
  | nil => rfl
  | cons field wanted ih =>
      have hfield : sameName field.name name = false := hothers field (by simp)
      have hwanted : ∀ other ∈ wanted, sameName other.name name = false := by
        intro other hmem
        exact hothers other (List.mem_cons_of_mem _ hmem)
      rw [List.foldl_cons, ih hwanted, findNamed?_settleField_other hfield]

/-- Once it is settled, a field is found where it was, resized or new. -/
theorem findNamed?_settle_self (hdistinct : (wanted.map keyOf).Nodup) (hmem : field ∈ wanted)
    (hstart : findNamed? fields field.name = live.field? field.name) :
    findNamed? (wanted.foldl (settleField live) fields) field.name =
      findNamed? (settleField live fields field) field.name := by
  induction wanted generalizing fields with
  | nil => cases hmem
  | cons first wanted ih =>
      rw [List.map_cons, List.nodup_cons] at hdistinct
      rw [List.foldl_cons]
      have hapart : ∀ other ∈ wanted, sameName other.name first.name = false := by
        intro other hother
        rw [Bool.eq_false_iff]
        intro hsame
        exact hdistinct.1 (List.mem_map.2 ⟨other, hother, sameName_iff.1 hsame⟩)
      rcases List.mem_cons.1 hmem with rfl | hrest
      · exact findNamed?_settle_others hapart
      · have hfirst : sameName first.name field.name = false := by
          rw [sameName_comm]
          exact hapart field hrest
        have hkept : findNamed? (settleField live fields first) field.name =
            findNamed? fields field.name := findNamed?_settleField_other hfirst
        rw [ih hdistinct.2 hrest (hkept.trans hstart)]
        -- The decision goes by the live table, so only what is found under the name matters.
        unfold settleField at hkept ⊢
        cases hdecision : decideColumn live field <;> simp only
        · exact hkept
        · rw [findNamed?_append, findNamed?_append, hkept]
        · rw [findNamed?_resizeFirst_self, findNamed?_resizeFirst_self, hkept]
        · rw [findNamed?_resizeFirst_self, findNamed?_resizeFirst_self, hkept]
        · exact hkept

/-- A settled field calls for no further step. -/
theorem decideColumn_settle {settled : Table} (hdistinct : (wanted.map keyOf).Nodup)
    (hmem : field ∈ wanted) (hfields : settled.fields = wanted.foldl (settleField live) live.fields) :
    decideColumn settled field = .keep ∨ decideColumn settled field = .hold := by
  have hfound : settled.field? field.name =
      findNamed? (settleField live live.fields field) field.name := by
    rw [Table.field?, hfields]
    exact findNamed?_settle_self hdistinct hmem rfl
  have hresized {old : Field} (hold : live.field? field.name = some old)
      (hsettle : settleField live live.fields field = resizeFirst field live.fields) :
      decideColumn settled field = .keep := by
    have hnew : settled.field? field.name = some { old with type := field.type } := by
      rw [Table.field?] at hold
      rw [hfound, hsettle, findNamed?_resizeFirst_self, hold]
      rfl
    exact decideColumn_of_same hnew rfl
  have hkept (hsettle : settleField live live.fields field = live.fields) :
      decideColumn settled field = decideColumn live field := by
    have hsame : settled.field? field.name = live.field? field.name := by rw [hfound, hsettle, Table.field?]
    exact decideColumn_of_type (congrArg (Option.map Field.type) hsame)
  cases hdecision : decideColumn live field with
  | keep => exact .inl ((hkept (by rw [settleField, hdecision])).trans hdecision)
  | hold => exact .inr ((hkept (by rw [settleField, hdecision])).trans hdecision)
  | widen =>
      cases decideColumn_eq_iff.1 hdecision with
      | widen hold => exact .inl (hresized hold (by rw [settleField, hdecision]))
  | narrow =>
      cases decideColumn_eq_iff.1 hdecision with
      | narrow hold => exact .inl (hresized hold (by rw [settleField, hdecision]))
  | add =>
      cases decideColumn_eq_iff.1 hdecision with
      | add hmissing =>
          have hnew : settled.field? field.name = some field := by
            rw [Table.field?] at hmissing
            rw [hfound, settleField, hdecision, findNamed?_append, hmissing, Option.none_or]
            simp [findNamed?, Named.name]
          exact .inl (decideColumn_of_same hnew rfl)

/-- A report on the fields that the model does not know is not changed by settling those it knows. -/
theorem filterMap_settle {α : Type} {report : Field → Option α}
    (hsilent : ∀ field ∈ wanted, ∀ other : Field, sameName other.name field.name = true →
      report other = none) :
    (wanted.foldl (settleField live) fields).filterMap report = fields.filterMap report := by
  induction wanted generalizing fields with
  | nil => rfl
  | cons field wanted ih =>
      have hfield := hsilent field (by simp)
      have hwanted : ∀ field ∈ wanted, ∀ other : Field, sameName other.name field.name = true →
          report other = none := by
        intro field hmem
        exact hsilent field (List.mem_cons_of_mem _ hmem)
      rw [List.foldl_cons, ih hwanted]
      unfold settleField
      split
      · rfl
      · rfl
      · simp [List.filterMap_append, hfield field (sameName_refl _)]
      · exact filterMap_resizeFirst hfield
      · exact filterMap_resizeFirst hfield

end Settling

namespace Plan

variable (target : Database) (table live : Table)

/-- The foreign keys of the model that the live table is still to get. -/
def newKeys : List ForeignKey :=
  table.foreignKeys.filter fun key => decideKey target live.foreignKeys key == .add

/-- The indexes of the model that the live table is still to get. -/
def newIndexes : List Index :=
  table.indexes.filter fun index => !live.indexes.any (sameIndex index)

/-- The live table after its change steps. -/
def settled : Table :=
  { live with
    fields := table.fields.foldl (settleField live) live.fields
    foreignKeys := live.foreignKeys ++ newKeys target table live
    indexes := live.indexes ++ (newKeys target table live).map supportIndex
      ++ newIndexes table live }

/-- The steps that change one live table, given the model's version of it. -/
def changesOf : List Step :=
  table.fields.filterMap (fun field => (decideColumn live field).step? table.name field)
    ++ table.foreignKeys.filterMap (fun key =>
      (decideKey target live.foreignKeys key).step? table.name key)
    ++ table.indexes.filterMap fun index =>
      if live.indexes.any (sameIndex index) then none else some (.addIndex table.name index)

@[simp] theorem name_settled : (settled target table live).name = live.name := rfl

theorem after_columnSteps (fields : List Field) (start : Table) :
    (fields.filterMap fun field => (decideColumn live field).step? table.name field).foldl
        Table.after start =
      { start with fields := fields.foldl (settleField live) start.fields } := by
  induction fields generalizing start with
  | nil => rfl
  | cons field fields ih =>
      rw [List.filterMap_cons, List.foldl_cons, settleField]
      cases hdecision : decideColumn live field with
      | keep => exact ih start
      | hold => exact ih start
      | add => exact ih (start.after (.addColumn table.name field))
      | widen => exact ih (start.after (.alterColumn table.name field true))
      | narrow => exact ih (start.after (.alterColumn table.name field false))

theorem after_foreignKeySteps (keys : List ForeignKey) (start : Table) :
    (keys.filterMap fun key =>
        (decideKey target live.foreignKeys key).step? table.name key).foldl Table.after start =
      { start with
        foreignKeys := start.foreignKeys
          ++ keys.filter fun key => decideKey target live.foreignKeys key == .add
        indexes := start.indexes
          ++ (keys.filter fun key => decideKey target live.foreignKeys key == .add).map
            supportIndex } := by
  induction keys generalizing start with
  | nil => simp
  | cons key keys ih =>
      rw [List.filterMap_cons, List.filter_cons]
      cases hdecision : decideKey target live.foreignKeys key with
      | present => exact ih start
      | dangling => exact ih start
      | add =>
          have hrest := ih (start.after (.addForeignKey table.name key))
          rw [Table.after_addForeignKey, List.append_assoc, List.append_assoc] at hrest
          exact hrest

theorem after_indexSteps (indexes : List Index) (start : Table) :
    (indexes.filterMap fun index =>
        if live.indexes.any (sameIndex index) then none
        else some (Step.addIndex table.name index)).foldl Table.after start =
      { start with
        indexes := start.indexes ++ indexes.filter fun index => !live.indexes.any (sameIndex index) } := by
  induction indexes generalizing start with
  | nil => simp
  | cons index indexes ih =>
      rw [List.filterMap_cons, List.filter_cons]
      cases hpresent : live.indexes.any (sameIndex index) with
      | true => exact ih start
      | false =>
          have hrest := ih (start.after (.addIndex table.name index))
          rw [Table.after_addIndex, List.append_assoc] at hrest
          exact hrest

/-- The change steps of a table, carried out on it, leave it settled. -/
theorem after_changesOf :
    (changesOf target table live).foldl Table.after live = settled target table live := by
  rw [changesOf, List.foldl_append, List.foldl_append, after_columnSteps, after_foreignKeySteps,
    after_indexSteps]
  simp [settled, newKeys, newIndexes]

theorem sameForeignKey_refl (key : ForeignKey) : sameForeignKey key key = true := by
  simp [sameForeignKey]

theorem sameIndex_refl (index : Index) : sameIndex index index = true := by
  simp [sameIndex, sameNames_iff]

theorem decideKey_eq_add_iff {target : Database} {keys : List ForeignKey} {key : ForeignKey} :
    decideKey target keys key = .add ↔
      keys.any (sameForeignKey key) = false ∧ target.hasTable key.target = true := by
  unfold decideKey
  cases keys.any (sameForeignKey key) <;> cases target.hasTable key.target <;> simp

/-- Foreign keys are there once the table is settled, as far as they can be. -/
theorem decideKey_settled {key : ForeignKey} (hmem : key ∈ table.foreignKeys) :
    decideKey target (settled target table live).foreignKeys key ≠ .add := by
  intro hadd
  obtain ⟨hmissing, htarget⟩ := decideKey_eq_add_iff.1 hadd
  have hold : live.foreignKeys.any (sameForeignKey key) = false := by
    rw [settled, List.any_append, Bool.or_eq_false_iff] at hmissing
    exact hmissing.1
  have hnew : key ∈ newKeys target table live := by
    rw [newKeys, List.mem_filter, decideKey_eq_add_iff.2 ⟨hold, htarget⟩]
    exact ⟨hmem, rfl⟩
  have hpresent : (settled target table live).foreignKeys.any (sameForeignKey key) = true := by
    rw [List.any_eq_true]
    exact ⟨key, List.mem_append_right _ hnew, sameForeignKey_refl key⟩
  rw [hpresent] at hmissing
  contradiction

theorem hasIndex_settled {index : Index} (hmem : index ∈ table.indexes) :
    (settled target table live).indexes.any (sameIndex index) = true := by
  by_cases hpresent : live.indexes.any (sameIndex index) = true
  · simp [settled, List.any_append, hpresent]
  · have hnew : index ∈ newIndexes table live := by
      simp only [newIndexes, List.mem_filter, hmem, true_and]
      simpa using hpresent
    rw [List.any_eq_true]
    exact ⟨index, List.mem_append_right _ hnew, sameIndex_refl index⟩

/-- A settled table has no change steps left. -/
theorem changesOf_settled (hdistinct : table.DistinctFields) :
    changesOf target table (settled target table live) = [] := by
  have hcolumns : table.fields.filterMap (fun field =>
      (decideColumn (settled target table live) field).step? table.name field) = [] := by
    rw [List.filterMap_eq_nil_iff]
    intro field hmem
    have hdecision : decideColumn (settled target table live) field = .keep
        ∨ decideColumn (settled target table live) field = .hold :=
      decideColumn_settle hdistinct hmem rfl
    rcases hdecision with hkeep | hhold
    · simp [hkeep, ColumnDecision.step?]
    · simp [hhold, ColumnDecision.step?]
  have hkeys : table.foreignKeys.filterMap (fun key =>
      (decideKey target (settled target table live).foreignKeys key).step? table.name key) = [] := by
    rw [List.filterMap_eq_nil_iff]
    intro key hmem
    have hnoadd := decideKey_settled target table live hmem
    cases hdecision : decideKey target (settled target table live).foreignKeys key with
    | add => contradiction
    | present => rfl
    | dangling => rfl
  have hindexes : table.indexes.filterMap (fun index =>
      if (settled target table live).indexes.any (sameIndex index) then none
      else some (Step.addIndex table.name index)) = [] := by
    rw [List.filterMap_eq_nil_iff]
    intro index hmem
    rw [hasIndex_settled target table live hmem]
    rfl
  rw [changesOf, hcolumns, hkeys, hindexes]
  rfl

/-- The fields of a live table that the model's version of it has not. -/
def strangeFields : List ExtraColumn :=
  live.fields.filterMap fun field =>
    if table.hasField field.name then none
    else some { table := live.name, column := field.name, type := field.type.name }

/-- The indexes of a live table that the model's version of it does not account for. -/
def strangeIndexes : List ExtraIndex :=
  live.indexes.filterMap fun index =>
    if (expectedIndexes table).any (sameIndex index) then none
    else some { table := live.name, fields := index.fields, unique := index.unique
                name := index.name }

theorem strangeFields_settled :
    strangeFields table (settled target table live) = strangeFields table live := by
  apply filterMap_settle
  intro field hmem other hsame
  rw [name_settled, Table.hasField_congr hsame, Table.hasField_of_mem hmem]
  rfl

/-- The indexes that settling adds are all accounted for, those of foreign keys included. -/
theorem strangeIndexes_settled :
    strangeIndexes table (settled target table live) = strangeIndexes table live := by
  have hexpected : ∀ index ∈ (newKeys target table live).map supportIndex ++ newIndexes table live,
      (expectedIndexes table).any (sameIndex index) = true := by
    intro index hmem
    rw [List.any_eq_true]
    refine ⟨index, ?_, sameIndex_refl index⟩
    rcases List.mem_append.1 hmem with hsupport | hdeclared
    · obtain ⟨key, hkey, rfl⟩ := List.mem_map.1 hsupport
      exact List.mem_append_right _ (List.mem_map_of_mem (List.mem_of_mem_filter hkey))
    · exact List.mem_append_left _ (List.mem_of_mem_filter hdeclared)
  have hsilent : ((newKeys target table live).map supportIndex ++ newIndexes table live).filterMap
      (fun index => if (expectedIndexes table).any (sameIndex index) then none
        else some ({ table := live.name, fields := index.fields, unique := index.unique
                     name := index.name } : ExtraIndex)) = [] := by
    rw [List.filterMap_eq_nil_iff]
    intro index hmem
    rw [hexpected index hmem]
    rfl
  show (live.indexes ++ (newKeys target table live).map supportIndex
    ++ newIndexes table live).filterMap _ = _
  rw [List.append_assoc, List.filterMap_append, name_settled, hsilent, List.append_nil]
  rfl

end Plan

end SchemaMigrate
