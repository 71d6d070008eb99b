import SchemaMigrate.Proofs.Plan.Convergence
import SchemaMigrate.Proofs.Schema

/-!
What a plan sees of a live schema: in the tables that it looks up, the names and types of the fields, and
which foreign keys and indexes there are. Main statement: two live schemas that look alike are planned for
with the same steps, and if one has nothing beyond the model then neither has the other.
-/

namespace SchemaMigrate

def Field.outline (field : Field) : String × ColumnType := (nameKey field.name, field.type)

def ForeignKey.outline (key : ForeignKey) : String × String × String :=
  (nameKey key.column, nameKey key.target, nameKey key.targetColumn)

def Index.outline (index : Index) : List String × Bool := (index.fields.map nameKey, index.unique)

/-- Tables that a plan does not tell apart. The order of foreign keys and indexes does not matter. -/
structure Table.Alike (left right : Table) : Prop where
  name : nameKey left.name = nameKey right.name
  fields : left.fields.map Field.outline = right.fields.map Field.outline
  foreignKeys : ∀ outline, outline ∈ left.foreignKeys.map ForeignKey.outline ↔
    outline ∈ right.foreignKeys.map ForeignKey.outline
  indexes : ∀ outline, outline ∈ left.indexes.map Index.outline ↔ outline ∈ right.indexes.map Index.outline

/-- Schemas in which every name finds tables that are alike, or none. -/
def Database.Alike (left right : Database) : Prop :=
  ∀ name, Option.Rel Table.Alike (left.table? name) (right.table? name)

namespace Plan

attribute [local irreducible] nameKey

section Outlines

theorem sameForeignKey_iff {left right : ForeignKey} :
    sameForeignKey left right = true ↔ left.outline = right.outline := by
  simp [sameForeignKey, ForeignKey.outline, sameName_iff, and_assoc]

theorem sameIndex_iff {left right : Index} : sameIndex left right = true ↔ left.outline = right.outline := by
  simp [sameIndex, Index.outline, sameNames_iff, and_comm]

theorem any_sameForeignKey_iff {keys : List ForeignKey} {key : ForeignKey} :
    keys.any (sameForeignKey key) = true ↔ key.outline ∈ keys.map ForeignKey.outline := by
  rw [List.any_eq_true, List.mem_map]
  exact exists_congr fun other => and_congr_right fun _ => sameForeignKey_iff.trans eq_comm

theorem any_sameIndex_iff {indexes : List Index} {index : Index} :
    indexes.any (sameIndex index) = true ↔ index.outline ∈ indexes.map Index.outline := by
  rw [List.any_eq_true, List.mem_map]
  exact exists_congr fun other => and_congr_right fun _ => sameIndex_iff.trans eq_comm

/-- The type that is found under a name. -/
theorem type_field? (table : Table) (name : String) :
    (table.field? name).map Field.type =
      ((table.fields.map Field.outline).find? fun outline => outline.1 == nameKey name).map Prod.snd := by
  rw [List.find?_map, Option.map_map]
  rfl

end Outlines

section Decisions

variable {left right : Table}

theorem decideColumn_congr (h : left.Alike right) (field : Field) :
    decideColumn left field = decideColumn right field := by
  apply decideColumn_of_type
  rw [type_field?, type_field?, h.fields]

theorem any_sameForeignKey_congr (h : left.Alike right) (key : ForeignKey) :
    left.foreignKeys.any (sameForeignKey key) = right.foreignKeys.any (sameForeignKey key) := by
  rw [Bool.eq_iff_iff, any_sameForeignKey_iff, any_sameForeignKey_iff, h.foreignKeys]

theorem any_sameIndex_congr (h : left.Alike right) (index : Index) :
    left.indexes.any (sameIndex index) = right.indexes.any (sameIndex index) := by
  rw [Bool.eq_iff_iff, any_sameIndex_iff, any_sameIndex_iff, h.indexes]

end Decisions

section Plans

variable {target left right : Database}

/-- What looks a table up, and does not tell alike tables apart, finds the same in alike schemas. -/
theorem lookup_congr {α : Type} (h : left.Alike right) (name : String) (seen : Option Table → α)
    (hseen : ∀ {live other : Table}, live.Alike other → seen (some live) = seen (some other)) :
    seen (left.table? name) = seen (right.table? name) := by
  have hlook := h name
  generalize left.table? name = live, right.table? name = other at hlook
  cases hlook with
  | some halike => exact hseen halike
  | none => rfl

theorem hasTable_congr (h : left.Alike right) (name : String) : left.hasTable name = right.hasTable name := by
  rw [Database.hasTable_eq_isSome, Database.hasTable_eq_isSome]
  exact lookup_congr h name Option.isSome fun _ => rfl

theorem columnStepsOf_congr (h : left.Alike right) (table : Table) :
    columnStepsOf left table = columnStepsOf right table := by
  let steps (live : Table) : List Step :=
    table.fields.filterMap fun field => (decideColumn live field).step? table.name field
  refine lookup_congr h table.name (·.elim [] steps) fun halike => ?_
  refine List.filterMap_congr fun field _ => ?_
  rw [decideColumn_congr halike]

theorem decideKey_congr (h : left.Alike right) (table : Table) (key : ForeignKey) :
    decideKey target (liveKeys left table) key = decideKey target (liveKeys right table) key := by
  have hpresent : (liveKeys left table).any (sameForeignKey key) = (liveKeys right table).any (sameForeignKey key) :=
    lookup_congr h table.name (fun live => (live.elim [] (·.foreignKeys)).any (sameForeignKey key))
      fun halike => any_sameForeignKey_congr halike key
  rw [decideKey, decideKey, hpresent]

theorem hasIndex_congr (h : left.Alike right) (table : Table) (index : Index) :
    (liveIndexes left table).any (sameIndex index) = (liveIndexes right table).any (sameIndex index) :=
  lookup_congr h table.name (fun live => (live.elim [] (·.indexes)).any (sameIndex index))
    fun halike => any_sameIndex_congr halike index

/-- Schemas that look alike are planned for with the same steps. -/
theorem steps_congr (h : left.Alike right) : (between target left).steps = (between target right).steps := by
  have htables : tableSteps target left = tableSteps target right := by
    rw [tableSteps, tableSteps]
    refine List.filterMap_congr fun table _ => ?_
    rw [hasTable_congr h]
  have hcolumns : columnSteps target left = columnSteps target right := by
    rw [columnSteps_eq, columnSteps_eq]
    exact List.flatMap_congr fun table _ => columnStepsOf_congr h table
  have hkeys : foreignKeySteps target left = foreignKeySteps target right := by
    rw [foreignKeySteps, foreignKeySteps]
    refine List.flatMap_congr fun table _ => List.filterMap_congr fun key _ => ?_
    rw [decideKey_congr h]
  have hindexes : indexSteps target left = indexSteps target right := by
    rw [indexSteps, indexSteps]
    refine List.flatMap_congr fun table _ => List.filterMap_congr fun index _ => ?_
    rw [hasIndex_congr h]
  rw [between, between, htables, hcolumns, hkeys, hindexes]

/-- Whether the model accounts for all that a live table has. -/
def Accounts (target : Database) (live : Table) : Prop :=
  ∃ table, target.table? live.name = some table
    ∧ (∀ field ∈ live.fields, table.hasField field.name = true)
    ∧ ∀ index ∈ live.indexes, (expectedIndexes table).any (sameIndex index) = true

theorem strangeFields_eq_nil_iff {table live : Table} :
    strangeFields table live = [] ↔ ∀ field ∈ live.fields, table.hasField field.name = true := by
  rw [strangeFields, List.filterMap_eq_nil_iff]
  refine forall₂_congr fun field _ => ?_
  cases table.hasField field.name <;> simp

theorem strangeIndexes_eq_nil_iff {table live : Table} :
    strangeIndexes table live = []
      ↔ ∀ index ∈ live.indexes, (expectedIndexes table).any (sameIndex index) = true := by
  rw [strangeIndexes, List.filterMap_eq_nil_iff]
  refine forall₂_congr fun index _ => ?_
  cases (expectedIndexes table).any (sameIndex index) <;> simp

/-- Nothing is extra if the model accounts for every live table. -/
theorem extras_eq_empty_iff {db : Database} :
    (between target db).extras = {} ↔ ∀ live ∈ db.tables.items, Accounts target live := by
  have htables : extraTables target db = [] ↔ ∀ live ∈ db.tables.items, target.hasTable live.name = true := by
    rw [extraTables, List.filterMap_eq_nil_iff]
    refine forall₂_congr fun live _ => ?_
    cases target.hasTable live.name <;> simp
  simp only [between, Extras.mk.injEq, htables, extraColumns_eq, extraIndexes_eq, List.flatMap_eq_nil_iff]
  constructor
  · rintro ⟨hknown, hcolumns, hindexes⟩ live hlive
    obtain ⟨table, htable⟩ := Option.isSome_iff_exists.1 (hknown live hlive)
    have hfields := hcolumns live hlive
    have hindexes := hindexes live hlive
    have htable : target.table? live.name = some table := htable
    rw [htable] at hfields hindexes
    exact ⟨table, htable, strangeFields_eq_nil_iff.1 hfields, strangeIndexes_eq_nil_iff.1 hindexes⟩
  · intro h
    refine ⟨fun live hlive => ?_, fun live hlive => ?_, fun live hlive => ?_⟩
    · obtain ⟨table, htable, -⟩ := h live hlive
      exact Option.isSome_of_eq_some htable
    · obtain ⟨table, htable, hfields, -⟩ := h live hlive
      rw [htable]
      exact strangeFields_eq_nil_iff.2 hfields
    · obtain ⟨table, htable, -, hindexes⟩ := h live hlive
      rw [htable]
      exact strangeIndexes_eq_nil_iff.2 hindexes

/-- What the model accounts for in a table it accounts for in every one that looks alike. -/
theorem Accounts.of_alike {live other : Table} (h : Accounts target other) (halike : live.Alike other) :
    Accounts target live := by
  obtain ⟨table, htable, hfields, hindexes⟩ := h
  refine ⟨table, ?_, fun field hfield => ?_, fun index hindex => ?_⟩
  · rw [← htable]
    exact NameMap.get?_congr (sameName_iff.2 halike.name)
  · have hmem : nameKey field.name ∈ (other.fields.map Field.outline).map Prod.fst := by
      rw [← halike.fields, List.map_map]
      exact List.mem_map_of_mem hfield
    obtain ⟨outline, houtline, hname⟩ := List.mem_map.1 hmem
    obtain ⟨same, hsame, rfl⟩ := List.mem_map.1 houtline
    rw [← Table.hasField_congr (sameName_iff.2 hname)]
    exact hfields same hsame
  · obtain ⟨same, hsame, houtline⟩ := List.mem_map.1 ((halike.indexes _).1 (List.mem_map_of_mem hindex))
    have haccounted := hindexes same hsame
    rw [any_sameIndex_iff] at haccounted ⊢
    rwa [← houtline]

/-- A schema that looks like one without extras has none. -/
theorem extras_congr (h : left.Alike right) (hright : (between target right).extras = {}) :
    (between target left).extras = {} := by
  rw [extras_eq_empty_iff] at hright ⊢
  intro live hlive
  have hlook := h live.name
  rw [show left.table? live.name = some live from NameMap.get?_self hlive] at hlook
  generalize hother : right.table? live.name = found at hlook
  cases hlook with
  | some halike => exact (hright _ (Database.mem_tables_of_table? hother)).of_alike halike

end Plans

end Plan

end SchemaMigrate
