import SchemaMigrate.Proofs.Catalog.Reading
import SchemaMigrate.Proofs.Plan.Convergence

/-!
Respelling. Two schemas are spelled differently at most if they are equal once every name in them is replaced by
its key. Main statement: the plans for such schemas have the same steps in the same order but for the spelling of
names, a plan keeps to the spelling of the model whatever that of the live schema, and the extras are the same
but for their spelling.

Each occurrence of a name may be spelled in its own way, so nothing can be said about the names that a table and
an index or a foreign key of it share; all comparisons have to go through the keys.
-/

namespace SchemaMigrate

section Keys

def ColumnType.keyed (type : ColumnType) : ColumnType := { type with name := nameKey type.name }

def Field.keyed (field : Field) : Field := { field with name := nameKey field.name, type := field.type.keyed }

def ForeignKey.keyed (key : ForeignKey) : ForeignKey :=
  { key with column := nameKey key.column, target := nameKey key.target, targetColumn := nameKey key.targetColumn }

/-- The own name of a live index stays. -/
def Index.keyed (index : Index) : Index := { index with fields := index.fields.map nameKey }

def Table.keyed (table : Table) : Table :=
  { table with
    name := nameKey table.name
    fields := table.fields.map Field.keyed
    foreignKeys := table.foreignKeys.map ForeignKey.keyed
    indexes := table.indexes.map Index.keyed }

/-- Schemas with the same tables but for the spelling of names. Plans do not look at mixins. -/
def Database.Respelled (db other : Database) : Prop := db.tables.items.map Table.keyed = other.tables.items.map Table.keyed

instance (db other : Database) : Decidable (db.Respelled other) := inferInstanceAs (Decidable (_ = _))

def Step.keyed (step : Step) : Step :=
  { step with
    table := nameKey step.table
    fields := step.fields.map Field.keyed
    foreignKey := step.foreignKey.map ForeignKey.keyed
    index := step.index.map Index.keyed }

def ExtraColumn.keyed (column : ExtraColumn) : ExtraColumn where
  table := nameKey column.table
  column := nameKey column.column
  type := nameKey column.type

def ExtraIndex.keyed (index : ExtraIndex) : ExtraIndex :=
  { index with table := nameKey index.table, fields := index.fields.map nameKey }

def Extras.keyed (extras : Extras) : Extras where
  tables := extras.tables.map nameKey
  columns := extras.columns.map ExtraColumn.keyed
  indexes := extras.indexes.map ExtraIndex.keyed

end Keys

section Lists

variable {α β γ δ : Type} {key : α → β} {out : γ → δ} {left right : List α}

theorem forall₂_of_map_eq (h : left.map key = right.map key) : List.Forall₂ (fun x y => key x = key y) left right := by
  rwa [← List.forall₂_eq_eq_eq, List.forall₂_map_left_iff, List.forall₂_map_right_iff] at h

/-- A test that goes by keys finds something in both lists or in neither. -/
theorem any_of_keys (h : left.map key = right.map key) {test other : α → Bool}
    (htest : ∀ x y, key x = key y → test x = other y) : left.any test = right.any other := by
  have hkeys := forall₂_of_map_eq h
  clear h
  induction hkeys with
  | nil => rfl
  | cons hxy _ ih => rw [List.any_cons, List.any_cons, htest _ _ hxy, ih]

/-- A search that goes by keys finds the same in both lists, by its key. -/
theorem find?_of_keys (h : left.map key = right.map key) {test other : α → Bool}
    (htest : ∀ x y, key x = key y → test x = other y) :
    (left.find? test).map key = (right.find? other).map key := by
  have hkeys := forall₂_of_map_eq h
  clear h
  induction hkeys with
  | nil => rfl
  | @cons x y _ _ hxy _ ih =>
      have hsame := htest x y hxy
      cases hx : test x with
      | true =>
          rw [List.find?_cons_of_pos hx, List.find?_cons_of_pos (hsame ▸ hx), Option.map_some, Option.map_some, hxy]
      | false =>
          rw [hx] at hsame
          rw [List.find?_cons_of_neg (by simp [hx]), List.find?_cons_of_neg (by simp [← hsame]), ih]

theorem filterMap_of_keys (h : left.map key = right.map key) {choose other : α → Option γ}
    (hchoose : ∀ x y, key x = key y → (choose x).map out = (other y).map out) :
    (left.filterMap choose).map out = (right.filterMap other).map out := by
  rw [List.map_filterMap, List.map_filterMap]
  have hkeys := forall₂_of_map_eq h
  clear h
  induction hkeys with
  | nil => rfl
  | cons hxy _ ih => rw [List.filterMap_cons, List.filterMap_cons, hchoose _ _ hxy, ih]

theorem flatMap_of_keys (h : left.map key = right.map key) {write other : α → List γ}
    (hwrite : ∀ x y, key x = key y → (write x).map out = (other y).map out) :
    (left.flatMap write).map out = (right.flatMap other).map out := by
  have hkeys := forall₂_of_map_eq h
  clear h
  induction hkeys with
  | nil => rfl
  | cons hxy _ ih => rw [List.flatMap_cons, List.flatMap_cons, List.map_append, List.map_append, hwrite _ _ hxy, ih]

end Lists

namespace Plan

-- keys are compared as a whole from here on, never computed
attribute [local irreducible] nameKey

section Names

theorem sameName_of_keys {first second first' second' : String} (h : nameKey first = nameKey first')
    (h' : nameKey second = nameKey second') : sameName first second = sameName first' second' := by
  rw [sameName, sameName, h, h']

theorem sameNames_of_keys {first second first' second' : List String} (h : first.map nameKey = first'.map nameKey)
    (h' : second.map nameKey = second'.map nameKey) : sameNames first second = sameNames first' second' := by
  rw [Bool.eq_iff_iff, sameNames_iff, sameNames_iff, h, h']

end Names

section Decisions

variable {table view live sight : Table} {field other : Field} {key twin : ForeignKey} {index copy : Index}

/-- A size difference goes by the keys of the types. -/
theorem compareSize_keyed {old past : Field} (h : field.keyed = other.keyed) (hold : old.keyed = past.keyed) :
    compareSize field old = compareSize other past := by
  have htype : nameKey field.type.name = nameKey other.type.name := congrArg (·.type.name) h
  have hprecision : field.type.precision = other.type.precision := congrArg (·.type.precision) h
  have hscale : field.type.scale = other.type.scale := congrArg (·.type.scale) h
  have holdType : nameKey old.type.name = nameKey past.type.name := congrArg (·.type.name) hold
  have holdPrecision : old.type.precision = past.type.precision := congrArg (·.type.precision) hold
  have holdScale : old.type.scale = past.type.scale := congrArg (·.type.scale) hold
  have hfamily : field.family? = other.family? := typeFamily?_congr (sameName_iff.2 htype)
  have hdecimal : compareDecimal field.type old.type = compareDecimal other.type past.type := by
    rw [compareDecimal, compareDecimal, hprecision, hscale, holdPrecision, holdScale]
  rw [compareSize, compareSize, sameName_of_keys htype holdType, hfamily, hprecision, holdPrecision, hdecimal]

theorem decideColumn_keyed (hlive : live.keyed = sight.keyed) (h : field.keyed = other.keyed) :
    decideColumn live field = decideColumn sight other := by
  have hname : nameKey field.name = nameKey other.name := congrArg Field.name h
  have hfields : live.fields.map Field.keyed = sight.fields.map Field.keyed := congrArg Table.fields hlive
  have hfound : (live.field? field.name).map Field.keyed = (sight.field? other.name).map Field.keyed :=
    find?_of_keys hfields fun old past hold => sameName_of_keys (congrArg Field.name hold) hname
  have hmarked : field.hasAttribute reduceSize = other.hasAttribute reduceSize :=
    (congrArg (·.hasAttribute reduceSize) h : field.keyed.hasAttribute _ = other.keyed.hasAttribute _)
  unfold decideColumn
  cases hold : live.field? field.name with
  | none =>
      rw [hold, Option.map_none] at hfound
      rw [Option.map_eq_none_iff.1 hfound.symm]
  | some old =>
      rw [hold, Option.map_some] at hfound
      obtain ⟨past, hpast, hkeyed⟩ := Option.map_eq_some_iff.1 hfound.symm
      rw [hpast]
      simp only [compareSize_keyed h hkeyed.symm, hmarked]

theorem hasField_keyed (h : table.keyed = view.keyed) {name synonym : String} (hname : nameKey name = nameKey synonym) :
    table.hasField name = view.hasField synonym := by
  have hfields : table.fields.map Field.keyed = view.fields.map Field.keyed := congrArg Table.fields h
  have hfound : (table.field? name).map Field.keyed = (view.field? synonym).map Field.keyed :=
    find?_of_keys hfields fun old past hold => sameName_of_keys (congrArg Field.name hold) hname
  rw [Table.hasField, Table.hasField, ← Option.isSome_map, hfound, Option.isSome_map]

theorem sameForeignKey_keyed {old past : ForeignKey} (h : key.keyed = twin.keyed) (hold : old.keyed = past.keyed) :
    sameForeignKey key old = sameForeignKey twin past := by
  rw [sameForeignKey, sameForeignKey,
    sameName_of_keys (congrArg ForeignKey.column h) (congrArg ForeignKey.column hold),
    sameName_of_keys (congrArg ForeignKey.target h) (congrArg ForeignKey.target hold),
    sameName_of_keys (congrArg ForeignKey.targetColumn h) (congrArg ForeignKey.targetColumn hold)]

theorem sameIndex_keyed {old past : Index} (h : index.keyed = copy.keyed) (hold : old.keyed = past.keyed) :
    sameIndex index old = sameIndex copy past := by
  have hunique : index.unique = copy.unique := (congrArg Index.unique h : index.keyed.unique = copy.keyed.unique)
  have holdUnique : old.unique = past.unique := (congrArg Index.unique hold : old.keyed.unique = past.keyed.unique)
  rw [sameIndex, sameIndex, hunique, holdUnique,
    sameNames_of_keys (congrArg Index.fields h) (congrArg Index.fields hold)]

theorem expectedIndexes_keyed (h : table.keyed = view.keyed) :
    (expectedIndexes table).map Index.keyed = (expectedIndexes view).map Index.keyed := by
  have hindexes : table.indexes.map Index.keyed = view.indexes.map Index.keyed := congrArg Table.indexes h
  have hkeys : table.foreignKeys.map ForeignKey.keyed = view.foreignKeys.map ForeignKey.keyed :=
    congrArg Table.foreignKeys h
  -- the support index of a key is read off its keyed form
  have hsupport (keys : List ForeignKey) :
      (keys.map supportIndex).map Index.keyed = (keys.map ForeignKey.keyed).map supportIndex := by
    rw [List.map_map, List.map_map]
    rfl
  rw [expectedIndexes, expectedIndexes, List.map_append, List.map_append, hindexes, hsupport, hsupport, hkeys]

end Decisions

section Lookup

variable {db other : Database} {name synonym : String}

/-- What looks a table up and goes by keys sees the same in both schemas. -/
theorem lookup_keyed {α : Type} (h : db.Respelled other) (hname : nameKey name = nameKey synonym)
    (seen view : Option Table → α) (hnone : seen none = view none)
    (hsome : ∀ live sight : Table, live.keyed = sight.keyed → seen (some live) = view (some sight)) :
    seen (db.table? name) = view (other.table? synonym) := by
  have hfound : (db.table? name).map Table.keyed = (other.table? synonym).map Table.keyed :=
    find?_of_keys h fun live sight hlive => sameName_of_keys (congrArg Table.name hlive) hname
  cases hlive : db.table? name with
  | none =>
      rw [hlive, Option.map_none] at hfound
      rw [Option.map_eq_none_iff.1 hfound.symm, hnone]
  | some live =>
      rw [hlive, Option.map_some] at hfound
      obtain ⟨sight, hsight, hkeyed⟩ := Option.map_eq_some_iff.1 hfound.symm
      rw [hsight, hsome live sight hkeyed.symm]

theorem hasTable_keyed (h : db.Respelled other) (hname : nameKey name = nameKey synonym) :
    db.hasTable name = other.hasTable synonym :=
  lookup_keyed h hname Option.isSome Option.isSome rfl fun _ _ _ => rfl

end Lookup

section Steps

variable {target other actual view : Database} {table sight : Table}

theorem decideKey_keyed (htarget : target.Respelled other) (hactual : actual.Respelled view)
    (h : table.keyed = sight.keyed) {key twin : ForeignKey} (hkey : key.keyed = twin.keyed) :
    decideKey target (liveKeys actual table) key = decideKey other (liveKeys view sight) twin := by
  have hpresent : (liveKeys actual table).any (sameForeignKey key) = (liveKeys view sight).any (sameForeignKey twin) :=
    lookup_keyed hactual (congrArg Table.name h) (fun live => (live.elim [] (·.foreignKeys)).any (sameForeignKey key))
      (fun live => (live.elim [] (·.foreignKeys)).any (sameForeignKey twin)) rfl fun live sight hlive =>
        any_of_keys (congrArg Table.foreignKeys hlive) fun _ _ hold => sameForeignKey_keyed hkey hold
  rw [decideKey, decideKey, hpresent, hasTable_keyed htarget (congrArg ForeignKey.target hkey)]

theorem hasIndex_keyed (hactual : actual.Respelled view) (h : table.keyed = sight.keyed) {index copy : Index}
    (hindex : index.keyed = copy.keyed) :
    (liveIndexes actual table).any (sameIndex index) = (liveIndexes view sight).any (sameIndex copy) :=
  lookup_keyed hactual (congrArg Table.name h) (fun live => (live.elim [] (·.indexes)).any (sameIndex index))
    (fun live => (live.elim [] (·.indexes)).any (sameIndex copy)) rfl fun _ _ hlive =>
      any_of_keys (congrArg Table.indexes hlive) fun _ _ hold => sameIndex_keyed hindex hold

theorem step?_column_keyed {field twin : Field} (h : table.keyed = sight.keyed) (hfield : field.keyed = twin.keyed)
    (decision : ColumnDecision) :
    (decision.step? table.name field).map Step.keyed = (decision.step? sight.name twin).map Step.keyed := by
  have hname : nameKey table.name = nameKey sight.name := congrArg Table.name h
  cases decision <;> simp [ColumnDecision.step?, Step.keyed, Step.addColumn, Step.alterColumn, hname, hfield]

theorem tableSteps_respelled (htarget : target.Respelled other) (hactual : actual.Respelled view) :
    (tableSteps target actual).map Step.keyed = (tableSteps other view).map Step.keyed := by
  refine filterMap_of_keys htarget fun table sight h => ?_
  have hname : nameKey table.name = nameKey sight.name := congrArg Table.name h
  have hfields : table.fields.map Field.keyed = sight.fields.map Field.keyed := congrArg Table.fields h
  rw [hasTable_keyed hactual hname]
  cases view.hasTable sight.name with
  | true => rfl
  | false => simp [Step.keyed, Step.createTable, hname, hfields]

theorem columnSteps_respelled (htarget : target.Respelled other) (hactual : actual.Respelled view) :
    (columnSteps target actual).map Step.keyed = (columnSteps other view).map Step.keyed := by
  rw [columnSteps_eq, columnSteps_eq]
  refine flatMap_of_keys htarget fun table sight h => ?_
  let steps (table : Table) (live : Option Table) : List Step :=
    live.elim [] fun live => table.fields.filterMap fun field => (decideColumn live field).step? table.name field
  refine lookup_keyed hactual (congrArg Table.name h) (fun live => (steps table live).map Step.keyed)
    (fun live => (steps sight live).map Step.keyed) rfl fun live past hlive => ?_
  refine filterMap_of_keys (congrArg Table.fields h) fun field twin hfield => ?_
  rw [decideColumn_keyed hlive hfield]
  exact step?_column_keyed h hfield _

theorem foreignKeySteps_respelled (htarget : target.Respelled other) (hactual : actual.Respelled view) :
    (foreignKeySteps target actual).map Step.keyed = (foreignKeySteps other view).map Step.keyed := by
  refine flatMap_of_keys htarget fun table sight h => ?_
  refine filterMap_of_keys (congrArg Table.foreignKeys h) fun key twin hkey => ?_
  have hname : nameKey table.name = nameKey sight.name := congrArg Table.name h
  rw [decideKey_keyed htarget hactual h hkey]
  cases decideKey other (liveKeys view sight) twin <;>
    simp [KeyDecision.step?, Step.keyed, Step.addForeignKey, hname, hkey]

theorem indexSteps_respelled (htarget : target.Respelled other) (hactual : actual.Respelled view) :
    (indexSteps target actual).map Step.keyed = (indexSteps other view).map Step.keyed := by
  refine flatMap_of_keys htarget fun table sight h => ?_
  refine filterMap_of_keys (congrArg Table.indexes h) fun index copy hindex => ?_
  have hname : nameKey table.name = nameKey sight.name := congrArg Table.name h
  rw [hasIndex_keyed hactual h hindex]
  cases (liveIndexes view sight).any (sameIndex copy) with
  | true => rfl
  | false => simp [Step.keyed, Step.addIndex, hname, hindex]

variable (target) in
/-- The steps do not depend on how the live schema is spelled. -/
theorem steps_of_respelled (hactual : actual.Respelled view) :
    (between target actual).steps = (between target view).steps := by
  have htables : tableSteps target actual = tableSteps target view :=
    List.filterMap_congr fun table _ => by rw [hasTable_keyed hactual rfl]
  have hcolumns : columnSteps target actual = columnSteps target view := by
    rw [columnSteps_eq, columnSteps_eq]
    refine List.flatMap_congr fun table _ => ?_
    let steps (live : Option Table) : List Step :=
      live.elim [] fun live => table.fields.filterMap fun field => (decideColumn live field).step? table.name field
    refine lookup_keyed hactual rfl steps steps rfl fun live sight hlive => ?_
    exact List.filterMap_congr fun field _ => by rw [decideColumn_keyed hlive rfl]
  have hkeys : foreignKeySteps target actual = foreignKeySteps target view :=
    List.flatMap_congr fun table _ => List.filterMap_congr fun key _ => by
      rw [decideKey_keyed (rfl : target.Respelled target) hactual rfl rfl]
  have hindexes : indexSteps target actual = indexSteps target view :=
    List.flatMap_congr fun table _ => List.filterMap_congr fun index _ => by
      rw [hasIndex_keyed hactual rfl rfl]
  rw [between, between, htables, hcolumns, hkeys, hindexes]

end Steps

section Reports

variable {target other actual view : Database}

theorem extraTables_respelled (htarget : target.Respelled other) (hactual : actual.Respelled view) :
    (extraTables target actual).map nameKey = (extraTables other view).map nameKey := by
  refine filterMap_of_keys hactual fun live sight h => ?_
  have hname : nameKey live.name = nameKey sight.name := congrArg Table.name h
  rw [hasTable_keyed htarget hname]
  cases other.hasTable sight.name with
  | true => rfl
  | false => exact congrArg some hname

/-- What is reported of a live table, if the model has the table. -/
theorem reported_keyed {α β : Type} {out : α → β} (report : Table → Table → List α)
    (hreport : ∀ {table twin live sight : Table}, table.keyed = twin.keyed → live.keyed = sight.keyed →
      (report table live).map out = (report twin sight).map out)
    (htarget : target.Respelled other) (hactual : actual.Respelled view) :
    (actual.tables.items.flatMap fun live => (target.table? live.name).elim [] (report · live)).map out =
      (view.tables.items.flatMap fun live => (other.table? live.name).elim [] (report · live)).map out := by
  refine flatMap_of_keys hactual fun live sight h => ?_
  exact lookup_keyed htarget (congrArg Table.name h) (fun table => (table.elim [] (report · live)).map out)
    (fun table => (table.elim [] (report · sight)).map out) rfl fun table twin htable => hreport htable h

theorem strangeFields_keyed {table twin live sight : Table} (h : table.keyed = twin.keyed)
    (hlive : live.keyed = sight.keyed) :
    (strangeFields table live).map ExtraColumn.keyed = (strangeFields twin sight).map ExtraColumn.keyed := by
  refine filterMap_of_keys (congrArg Table.fields hlive) fun field other hfield => ?_
  have hname : nameKey field.name = nameKey other.name := congrArg Field.name hfield
  have htype : nameKey field.type.name = nameKey other.type.name := congrArg (·.type.name) hfield
  have htable : nameKey live.name = nameKey sight.name := congrArg Table.name hlive
  rw [hasField_keyed h hname]
  cases twin.hasField other.name with
  | true => rfl
  | false => simp [ExtraColumn.keyed, hname, htype, htable]

theorem strangeIndexes_keyed {table twin live sight : Table} (h : table.keyed = twin.keyed)
    (hlive : live.keyed = sight.keyed) :
    (strangeIndexes table live).map ExtraIndex.keyed = (strangeIndexes twin sight).map ExtraIndex.keyed := by
  refine filterMap_of_keys (congrArg Table.indexes hlive) fun index copy hindex => ?_
  have htable : nameKey live.name = nameKey sight.name := congrArg Table.name hlive
  have hfields : index.fields.map nameKey = copy.fields.map nameKey := congrArg Index.fields hindex
  have hunique : index.unique = copy.unique := (congrArg Index.unique hindex : index.keyed.unique = copy.keyed.unique)
  have hname : index.name = copy.name := (congrArg Index.name hindex : index.keyed.name = copy.keyed.name)
  have hexpected : (expectedIndexes table).any (sameIndex index) = (expectedIndexes twin).any (sameIndex copy) :=
    any_of_keys (expectedIndexes_keyed h) fun _ _ hold => sameIndex_keyed hindex hold
  rw [hexpected]
  cases (expectedIndexes twin).any (sameIndex copy) with
  | true => rfl
  | false => simp [ExtraIndex.keyed, htable, hfields, hunique, hname]

end Reports

/-- Plans ignore the case of names. For schemas that are spelled differently the plans have the same steps in the
same order, but for the spelling of names; if the model is spelled the same, the steps are the very same; and the
extras are the same but for their spelling. -/
theorem between_respelled {target other actual view : Database} (htarget : target.Respelled other)
    (hactual : actual.Respelled view) :
    (between target actual).steps.map Step.keyed = (between other view).steps.map Step.keyed
      ∧ (between target actual).steps = (between target view).steps
      ∧ (between target actual).extras.keyed = (between other view).extras.keyed := by
  refine ⟨?_, steps_of_respelled target hactual, ?_⟩
  · simp only [between, List.map_append, tableSteps_respelled htarget hactual, columnSteps_respelled htarget hactual,
      foreignKeySteps_respelled htarget hactual, indexSteps_respelled htarget hactual]
  · have hcolumns : (extraColumns target actual).map ExtraColumn.keyed = (extraColumns other view).map ExtraColumn.keyed := by
      rw [extraColumns_eq, extraColumns_eq]
      exact reported_keyed strangeFields strangeFields_keyed htarget hactual
    have hindexes : (extraIndexes target actual).map ExtraIndex.keyed = (extraIndexes other view).map ExtraIndex.keyed := by
      rw [extraIndexes_eq, extraIndexes_eq]
      exact reported_keyed strangeIndexes strangeIndexes_keyed htarget hactual
    simp only [between, Extras.keyed, extraTables_respelled htarget hactual, hcolumns, hindexes]

/-- A model of streets and the houses in them. -/
def streetModel : Database where
  tables :=
    { items :=
        [{ name := "Straße"
           fields := [{ name := "Name", type := { name := "varchar", precision := some 80 } }] },
         { name := "House"
           fields :=
             [{ name := "Number", type := { name := "numeric", precision := some 4, scale := some 0 } },
              { name := "StraßeID", type := { name := "integer" } }]
           foreignKeys := [{ column := "StraßeID", target := "Straße", targetColumn := "StraßeID" }]
           indexes := [{ fields := ["StraßeID", "Number"], unique := true }] }]
      distinct := by decide +kernel }

/-- The same model in other letters, each occurrence of a name in its own. -/
def shoutedModel : Database where
  tables :=
    { items :=
        [{ name := "STRASSE"
           fields := [{ name := "NAME", type := { name := "VARCHAR", precision := some 80 } }] },
         { name := "house"
           fields :=
             [{ name := "number", type := { name := "Numeric", precision := some 4, scale := some 0 } },
              { name := "strasseid", type := { name := "INTEGER" } }]
           foreignKeys := [{ column := "STRASSEID", target := "straſſe", targetColumn := "Strasseid" }]
           indexes := [{ fields := ["StrasseID", "NUMBER"], unique := true }] }]
      distinct := by decide +kernel }

/-- A database with shorter names of streets, and with lamps. -/
def streetLive : Database where
  tables :=
    { items :=
        [{ name := "strasse"
           fields :=
             [{ name := "name", type := { name := "varchar", precision := some 40 } },
              { name := "lamps", type := { name := "integer" } }] }]
      distinct := by decide +kernel }

/-- The same database in other letters. -/
def shoutedLive : Database where
  tables :=
    { items :=
        [{ name := "STRAßE"
           fields :=
             [{ name := "nAME", type := { name := "VarChar", precision := some 40 } },
              { name := "Lamps", type := { name := "Integer" } }] }]
      distinct := by decide +kernel }

/-- Letters that fold to two, and types in capitals. -/
theorem between_respelled_street :
    streetModel.Respelled shoutedModel ∧ streetLive.Respelled shoutedLive
      ∧ (between streetModel streetLive).steps.map Step.keyed
        = (between shoutedModel shoutedLive).steps.map Step.keyed
      ∧ (between streetModel streetLive).steps = (between streetModel shoutedLive).steps
      ∧ (between streetModel streetLive).extras.keyed = (between shoutedModel shoutedLive).extras.keyed := by
  have hmodel : streetModel.Respelled shoutedModel := by decide +kernel
  have hlive : streetLive.Respelled shoutedLive := by decide +kernel
  exact ⟨hmodel, hlive, between_respelled hmodel hlive⟩

end Plan

end SchemaMigrate
