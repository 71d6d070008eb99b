import SchemaMigrate.Proofs.Model.Batch
import SchemaMigrate.Proofs.Model.Links

/-!
What an extension leaves of its base. Main statement: it adds fields, foreign keys, indexes and attributes behind
those of the base and touches nothing else of the schema, but it resolves all indexes of the table once
more. The old indexes come out of that as they were exactly if no column of them bears the name of a table
to which the extended table refers.

An index that is resolved already has columns and no tokens. A column of a foreign key is never taken for
its target, since it is longer, but it may bear the name of another target.
-/

namespace SchemaMigrate.Model

/-- Whether a token of an index names a table to which one of the foreign keys refers. -/
def NamesTarget (foreignKeys : List ForeignKey) (token : String) : Prop :=
  ∃ foreignKey ∈ foreignKeys, sameName foreignKey.target token = true

/-- A table and what an extension makes of it. Its fields are settled as the extended table asks, its indexes
are resolved in it, and what is added stands behind. -/
structure Extends (base grown : Table) : Prop where
  name : grown.name = base.name
  fields : base.fields.map (settle grown) <+: grown.fields
  foreignKeys : base.foreignKeys <+: grown.foreignKeys
  indexes : base.indexes.map grown.resolveIndex <+: grown.indexes
  mixins : grown.mixins = base.mixins
  attributes : base.attributes <+: grown.attributes

/-- Every attribute that a table has is set. -/
def FlagsSet (db : Database) : Prop := ∀ table ∈ db.tables.items, ∀ flag ∈ table.attributes, flag.2 = true

section Indexes

variable {table : Table} {token : String} {index : Index}

theorem nameKey_id : nameKey "ID" = "id" := by decide +kernel

/-- The column of a relationship does not bear the name of its target. -/
theorem column_ne_of_target {line : RelationshipLine} (h : sameName line.target token = true) :
    line.foreignKey.column ≠ token := by
  intro hcolumn
  have hkey : nameKey line.target = nameKey (line.role.getD "" ++ line.target ++ "ID") := by
    rw [sameName_iff.1 h, ← hcolumn]
    rfl
  rw [nameKey_append, nameKey_append, nameKey_id] at hkey
  have hlength := congrArg String.length hkey
  have hid : "id".length = 2 := by decide
  rw [String.length_append, String.length_append, hid] at hlength
  omega

theorem indexColumn_eq_self_iff (h : Declared table.foreignKeys) :
    table.indexColumn token = token ↔ ¬ NamesTarget table.foreignKeys token := by
  rcases indexColumn_cases table token with ⟨hsame, hnone⟩ | ⟨foreignKey, hmem, hnamed, hcolumn⟩
  · refine iff_of_true hsame ?_
    rintro ⟨foreignKey, hmem, hnamed⟩
    rw [hnone foreignKey hmem] at hnamed
    cases hnamed
  · refine iff_of_false ?_ fun hnone => hnone ⟨foreignKey, hmem, hnamed⟩
    obtain ⟨line, rfl⟩ := h foreignKey hmem
    rw [hcolumn]
    exact column_ne_of_target hnamed

theorem map_eq_self_iff {α : Type} {f : α → α} {items : List α} :
    items.map f = items ↔ ∀ item ∈ items, f item = item := by
  conv_lhs => rhs; rw [← List.map_id items]
  exact List.map_inj_left

/-- An index is resolved as it stands if none of its columns names a target. -/
theorem resolveIndex_eq_self_iff (h : Declared table.foreignKeys) :
    table.resolveIndex index = index ↔ ∀ column ∈ index.fields, ¬ NamesTarget table.foreignKeys column := by
  have hfields : table.resolveIndex index = index ↔ index.fields.map table.indexColumn = index.fields := by
    obtain ⟨fields, unique, alternateKey, kind, name⟩ := index
    simp [Table.resolveIndex]
  rw [hfields, map_eq_self_iff]
  exact forall₂_congr fun _ _ => indexColumn_eq_self_iff h

/-- The old indexes lead the new ones as they were if each of them is resolved as it stands. -/
theorem Extends.indexes_prefix_iff {base grown : Table} (h : Extends base grown) (hkeys : Declared grown.foreignKeys) :
    base.indexes <+: grown.indexes ↔
      ∀ index ∈ base.indexes, ∀ column ∈ index.fields, ¬ NamesTarget grown.foreignKeys column := by
  have hmap : base.indexes <+: grown.indexes ↔ base.indexes.map grown.resolveIndex = base.indexes := by
    constructor
    · intro hprefix
      have hlength : (base.indexes.map grown.resolveIndex).length = base.indexes.length := List.length_map _
      exact (List.prefix_of_prefix_length_le h.indexes hprefix hlength.le).eq_of_length hlength
    · intro hsame
      have hprefix := h.indexes
      rwa [hsame] at hprefix
  rw [hmap, map_eq_self_iff]
  exact forall₂_congr fun _ _ => resolveIndex_eq_self_iff hkeys

end Indexes

section Attributes

variable {db : Database} {block : Block} {table : Table}

/-- To set a flag where all flags are set is to add it, or nothing. -/
theorem prefix_set {attributes : Attributes} (h : ∀ flag ∈ attributes, flag.2 = true) (name : String) :
    attributes <+: attributes.set name true ∧ ∀ flag ∈ attributes.set name true, flag.2 = true := by
  unfold Attributes.set
  split
  · have hsame : (attributes.map fun flag => if flag.1 == name then (name, true) else flag) = attributes := by
      refine map_eq_self_iff.2 fun flag hmem => ?_
      split
      · rename_i hname
        exact Prod.ext (beq_iff_eq.1 hname).symm (h flag hmem).symm
      · rfl
    rw [hsame]
    exact ⟨List.prefix_rfl, h⟩
  · refine ⟨List.prefix_append _ _, fun flag hmem => ?_⟩
    rcases List.mem_append.1 hmem with hmem | hmem
    · exact h flag hmem
    · rw [List.mem_singleton.1 hmem]

theorem prefix_setAll {attributes : Attributes} (h : ∀ flag ∈ attributes, flag.2 = true) (names : List String) :
    attributes <+: names.foldl (fun flags name => Attributes.set flags name true) attributes
      ∧ ∀ flag ∈ names.foldl (fun flags name => Attributes.set flags name true) attributes, flag.2 = true := by
  induction names generalizing attributes with
  | nil => exact ⟨List.prefix_rfl, h⟩
  | cons name names ih =>
      obtain ⟨hfirst, hset⟩ := prefix_set h name
      obtain ⟨hrest, hall⟩ := ih hset
      exact ⟨hfirst.trans hrest, hall⟩

theorem flagsSet_compileModel (h : compileModel db block = .ok table) : ∀ flag ∈ table.attributes, flag.2 = true := by
  obtain ⟨header, key, added, whole, -, -, -, -, hmixed, rfl⟩ := mixed_of_compileModel h
  clear h
  -- neither mixins nor the end of the table bear on attributes
  change ∀ flag ∈ whole.attributes, flag.2 = true
  induction hmixed with
  | bare => exact (prefix_setAll (List.forall_mem_nil _) added.attributes).2
  | take _ _ _ _ ih => exact ih

theorem flagsSet_empty : FlagsSet {} := List.forall_mem_nil _

theorem FlagsSet.commit (hdb : FlagsSet db) {definition : Definition} (h : compileBlock db block = .ok definition) :
    FlagsSet (commit db definition) := by
  refine forall_tables_commit hdb (fun _ _ => flagsSet_compileModel) (fun table htable => ?_) h
  obtain ⟨name, base, added, -, hbase, -, -, rfl⟩ := compileExtension_eq_ok_iff.1 htable
  exact (prefix_setAll (hdb base (Database.mem_tables_of_table? hbase)) added.attributes).2

end Attributes

section Blocks

variable {db : Database} {base : Table}

theorem extends_extended (hset : ∀ flag ∈ base.attributes, flag.2 = true) (added : Additions) :
    Extends base (extended base added) where
  name := rfl
  fields := by
    rw [extended, fields_finishTable, withAdditions, List.map_append]
    exact List.prefix_append _ _
  foreignKeys := List.prefix_append _ _
  indexes := by
    have hindexes : (extended base added).indexes =
        (base.indexes ++ added.indexes).map (extended base added).resolveIndex := rfl
    rw [hindexes, List.map_append]
    exact List.prefix_append _ _
  mixins := rfl
  attributes := (prefix_setAll hset added.attributes).1

/-- A table of a known name is stored in the place of the one that bears it. -/
theorem items_putTable_known {grown : Table} (hbase : base ∈ db.tables.items) (hname : grown.name = base.name) :
    (db.putTable grown).tables.items =
      db.tables.items.map fun table => if sameName table.name base.name then grown else table :=
  NameMap.items_put_change (fun _ => grown) (NameMap.get?_self hbase) hname

end Blocks

/-- An extension of a schema that was compiled block by block. It has a base; mixins and all other tables stay as
and where they are; and the base gets the fields, foreign keys, indexes and attributes of the block behind
its own. Its old indexes stay as they were exactly if none of their columns bears the name of a table to
which an old or new foreign key refers. -/
theorem extension_adds_iff {blocks : List Block} {db : Database} {block : Block} {definition : Definition}
    (hdb : Reaches {} blocks db) (hkind : block.kind = .extension) (h : compileBlock db block = .ok definition) :
    ∃ name base grown, readName? block.header = some name ∧ db.table? name = some base
      ∧ (commit db definition).mixins = db.mixins
      ∧ (commit db definition).tables.items =
          db.tables.items.map (fun table => if sameName table.name base.name then grown else table)
      ∧ Extends base grown
      ∧ (base.indexes <+: grown.indexes ↔
          ∀ index ∈ base.indexes, ∀ column ∈ index.fields, ¬ NamesTarget grown.foreignKeys column) := by
  have hkeys := hdb.invariant (fun _ hkeys hblock => KeysDeclared.commit hkeys hblock) keysDeclared_empty
  have hflags := hdb.invariant (fun _ hflags hblock => FlagsSet.commit hflags hblock) flagsSet_empty
  obtain ⟨grown, hgrown, rfl⟩ := (compileBlock_extension_iff hkind).1 h
  have hdeclared := declared_compileExtension hkeys hgrown
  obtain ⟨name, base, added, hname, hbase, -, -, rfl⟩ := compileExtension_eq_ok_iff.1 hgrown
  have hmem := Database.mem_tables_of_table? hbase
  have hextends := extends_extended (hflags base hmem) added
  exact ⟨name, base, _, hname, hbase, rfl, items_putTable_known hmem rfl, hextends,
    hextends.indexes_prefix_iff hdeclared⟩

/-- A table with an index over a foreign key. -/
def orderText : List Source :=
  [{ name := "order.dmd", text := "model Order \x7b\n  model Client\n  index (Client)\n\x7d\n" }]

/-- An extension with a field and an index. -/
def rankBlock : Block where
  kind := .extension
  header := "order".toList
  source := "rank.dmd"
  lineNumber := 1
  body := [{ number := 2, text := "int? Rank".toList }, { number := 3, text := "index (Rank)".toList }]

/-- The table with both. -/
def rankedOrder : Table where
  name := "Order"
  fields :=
    [{ name := "OrderID", type := { name := "integer" }, primaryKey := true, identity := true },
     { name := "ClientID", type := { name := "integer" } },
     { name := "Rank", type := { name := "integer" }, nullable := true }]
  foreignKeys := [{ column := "ClientID", target := "Client", targetColumn := "ClientID", relationship := .oneToOne }]
  indexes := [{ fields := ["ClientID"] }, { fields := ["Rank"] }]

theorem extension_adds_iff_rank :
    let db := (compile {} orderText).schema
    (∃ blocks, Reaches {} blocks db) ∧ compileBlock db rankBlock = .ok (.extended rankedOrder)
    ∧ ∃ name base grown, readName? rankBlock.header = some name ∧ db.table? name = some base
      ∧ (commit db (.extended rankedOrder)).mixins = db.mixins
      ∧ (commit db (.extended rankedOrder)).tables.items =
          db.tables.items.map (fun table => if sameName table.name base.name then grown else table)
      ∧ Extends base grown
      ∧ (base.indexes <+: grown.indexes ↔
          ∀ index ∈ base.indexes, ∀ column ∈ index.fields, ¬ NamesTarget grown.foreignKeys column) := by
  intro db
  have hreached : ∃ blocks, Reaches {} blocks db := (Compiled.batch .empty orderText).exists_reaches
  have hblock : compileBlock db rankBlock = .ok (.extended rankedOrder) := by decide +kernel
  obtain ⟨blocks, hblocks⟩ := hreached
  exact ⟨⟨blocks, hblocks⟩, hblock, extension_adds_iff hblocks rfl hblock⟩

/-- A table that also refers to one whose name is that of the column in its index. -/
def twinText : List Source :=
  [{ name := "order.dmd"
     text := "model Order \x7b\n  model Client\n  model ClientID\n  index (Client)\n\x7d\n" }]

/-- An extension that adds nothing turns the index to the other foreign key. -/
theorem resolved_again :
    let first := compile {} twinText
    let second := compile first.schema [{ name := "more.dmd", text := "extends Order \x7b\n\x7d\n" }]
    first.error = none ∧ second.error = none
    ∧ (first.schema.table? "Order").map (·.indexes.map (·.fields)) = some [["ClientID"]]
    ∧ (second.schema.table? "Order").map (·.indexes.map (·.fields)) = some [["ClientIDID"]] := by
  decide +kernel

end SchemaMigrate.Model
