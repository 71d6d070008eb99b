import SchemaMigrate.Proofs.Model.Batch

/-!
Where the types of a schema come from. Blocks take no field away and change no type. So a schema has the types
that its blocks bring, those of their lines and those of the keys of models, and no others.
-/

namespace SchemaMigrate.Model

/-- The types of some fields. -/
def typesOf (fields : List Field) : List ColumnType := fields.map (·.type)

/-- Every field has a type that can be declared. -/
def AllDeclarable (fields : List Field) : Prop := ∀ field ∈ fields, Declarable field.type

/-- Every field of every table and mixin has a type that can be declared. -/
structure Typed (db : Database) : Prop where
  tables : ∀ table ∈ db.tables.items, AllDeclarable table.fields
  mixins : ∀ mixin ∈ db.mixins.items, AllDeclarable mixin.fields

/-- A table or a mixin of the schema has a field of this type. -/
def HasType (db : Database) (type : ColumnType) : Prop :=
  (∃ table ∈ db.tables.items, type ∈ typesOf table.fields) ∨ ∃ mixin ∈ db.mixins.items, type ∈ typesOf mixin.fields

/-- A block brings a type with the key of its table or with one of its lines. -/
inductive Brings (block : Block) (type : ColumnType) : Prop
  | key {header : ModelHeader} {key : Field} (hkind : block.kind = .model)
      (hheader : ModelHeader.of? block.header = some header) (hkey : header.keyField block.failure = .ok key)
      (htype : key.type = type)
  | line {line : Line} {added : Additions} (hline : line ∈ block.body) (hadded : line.additions? = some added)
      (htype : type ∈ typesOf added.fields)

/-- The lines of a block are in order, and so is the key of its table. -/
structure InOrder (block : Block) : Prop where
  lines : ∃ added, additionsOf? block.body = some added
  key : block.kind = .model → ∃ header key, ModelHeader.of? block.header = some header ∧
    header.keyField block.failure = .ok key

section Fields

variable {table : Table} {type : ColumnType} {first second : List Field}

theorem mem_typesOf_append_iff : type ∈ typesOf (first ++ second) ↔ type ∈ typesOf first ∨ type ∈ typesOf second := by
  rw [typesOf, List.map_append, List.mem_append]
  exact Iff.rfl

/-- To finish a table is to change no type. -/
theorem typesOf_finishTable (table : Table) : typesOf (finishTable table).fields = typesOf table.fields := by
  rw [fields_finishTable, typesOf, List.map_map]
  rfl

/-- The types of a body are those of its lines. -/
theorem mem_typesOf_lines {lines : List Line} {added : Additions} (h : additionsOf? lines = some added) :
    type ∈ typesOf added.fields ↔ ∃ line ∈ lines, ∃ own, line.additions? = some own ∧ type ∈ typesOf own.fields := by
  induction lines generalizing added with
  | nil =>
      cases h
      simp [typesOf]
  | cons line lines ih =>
      obtain ⟨own, hown, others, hothers, rfl⟩ := additionsOf?_cons_iff.1 h
      rw [Additions.append, mem_typesOf_append_iff, ih hothers]
      simp [hown]

end Fields

section Blocks

variable {db reached : Database} {block : Block} {blocks : List Block} {type : ColumnType}

/-- Other blocks than models bring what their lines bring. -/
theorem brings_iff_of_lines {added : Additions} (hkind : block.kind ≠ .model)
    (h : additionsOf? block.body = some added) : Brings block type ↔ type ∈ typesOf added.fields := by
  rw [mem_typesOf_lines h]
  constructor
  · intro hbrings
    cases hbrings with
    | key hmodel => exact absurd hmodel hkind
    | line hline hadded htype => exact ⟨_, hline, _, hadded, htype⟩
  · rintro ⟨line, hline, own, hown, htype⟩
    exact .line hline hown htype

/-- A model brings the type of its key and what its lines bring. -/
theorem brings_iff_of_model {header : ModelHeader} {key : Field} {added : Additions} (hkind : block.kind = .model)
    (hheader : ModelHeader.of? block.header = some header) (hkey : header.keyField block.failure = .ok key)
    (h : additionsOf? block.body = some added) :
    Brings block type ↔ type ∈ typesOf ([key] ++ added.fields) := by
  rw [mem_typesOf_append_iff, mem_typesOf_lines h, typesOf, List.map_singleton, List.mem_singleton]
  constructor
  · intro hbrings
    cases hbrings with
    | key _ hheader' hkey' htype =>
        rw [hheader] at hheader'
        cases hheader'
        rw [hkey] at hkey'
        cases hkey'
        exact .inl htype.symm
    | line hline hadded htype => exact .inr ⟨_, hline, _, hadded, htype⟩
  · rintro (rfl | ⟨line, hline, own, hown, htype⟩)
    · exact .key hkind hheader hkey rfl
    · exact .line hline hown htype

/-- A table that is stored brings its types, if it has those of the table whose place it takes. -/
theorem hasType_putTable {table : Table} (h : ∀ old ∈ db.tables.items, sameName old.name table.name = true →
    typesOf old.fields ⊆ typesOf table.fields) :
    HasType (db.putTable table) type ↔ HasType db type ∨ type ∈ typesOf table.fields := by
  unfold HasType
  constructor
  · rintro (⟨other, hother, htype⟩ | hmixin)
    · rcases Database.mem_tables_putTable_iff.1 hother with rfl | ⟨hold, -⟩
      · exact .inr htype
      · exact .inl (.inl ⟨other, hold, htype⟩)
    · exact .inl (.inr hmixin)
  · rintro ((⟨old, hold, htype⟩ | hmixin) | htype)
    · cases hsame : sameName old.name table.name with
      | true => exact .inl ⟨table, Database.mem_tables_putTable_iff.2 (.inl rfl), h old hold hsame htype⟩
      | false => exact .inl ⟨old, Database.mem_tables_putTable_iff.2 (.inr ⟨hold, hsame⟩), htype⟩
    · exact .inr hmixin
    · exact .inl ⟨table, Database.mem_tables_putTable_iff.2 (.inl rfl), htype⟩

/-- A mixin of a new name brings its types. -/
theorem hasType_putMixin {mixin : Mixin} (hnew : db.mixin? mixin.name = none) :
    HasType (db.putMixin mixin) type ↔ HasType db type ∨ type ∈ typesOf mixin.fields := by
  unfold HasType
  constructor
  · rintro (htable | ⟨other, hother, htype⟩)
    · exact .inl (.inl htable)
    · rcases Database.mem_mixins_putMixin_iff.1 hother with rfl | ⟨hold, -⟩
      · exact .inr htype
      · exact .inl (.inr ⟨other, hold, htype⟩)
  · rintro ((htable | ⟨old, hold, htype⟩) | htype)
    · exact .inl htable
    · refine .inr ⟨old, Database.mem_mixins_putMixin_iff.2 (.inr ⟨hold, ?_⟩), htype⟩
      rw [Bool.eq_false_iff]
      intro hsame
      rw [(Database.mixin?_eq_some_iff_of_mem hold).2 (sameName_iff.1 hsame).symm] at hnew
      cases hnew
    · exact .inr ⟨mixin, Database.mem_mixins_putMixin_iff.2 (.inl rfl), htype⟩

theorem hasType_compileMixin {mixin : Mixin} (hkind : block.kind = .mixin) (h : compileMixin db block = .ok mixin) :
    HasType (db.putMixin mixin) type ↔ HasType db type ∨ Brings block type := by
  rw [hasType_putMixin (mixin?_of_compileMixin h)]
  obtain ⟨name, added, -, -, hadded, -, -, rfl⟩ := compileMixin_eq_ok_iff.1 h
  have hother : block.kind ≠ .model := by
    rw [hkind]
    decide
  rw [brings_iff_of_lines hother hadded]
  exact Iff.rfl

theorem hasType_compileModel {table : Table} (hkind : block.kind = .model) (h : compileModel db block = .ok table) :
    HasType (db.putTable table) type ↔ HasType db type ∨ Brings block type := by
  have hnew : ∀ old ∈ db.tables.items, sameName old.name table.name = true →
      typesOf old.fields ⊆ typesOf table.fields := by
    intro old hold hsame
    have hfree := Database.hasTable_eq_false_iff.1 (hasTable_of_compileModel h)
    rw [(Database.table?_eq_some_iff_of_mem hold).2 (sameName_iff.1 hsame).symm] at hfree
    cases hfree
  rw [hasType_putTable hnew]
  obtain ⟨header, key, added, whole, hheader, hkey, hadded, -, hmixed, rfl⟩ := mixed_of_compileModel h
  -- beyond the key and the lines there are only the fields of mixins, whose types the schema has
  obtain ⟨hown, hall⟩ : typesOf ([key] ++ added.fields) ⊆ typesOf whole.fields ∧
      ∀ type ∈ typesOf whole.fields, type ∈ typesOf ([key] ++ added.fields) ∨ HasType db type := by
    clear h hnew
    induction hmixed with
    | bare => exact ⟨List.Subset.refl _, fun _ htype => .inl htype⟩
    | @take draft mixin _ hmem _ _ ih =>
        refine ⟨fun type htype => mem_typesOf_append_iff.2 (.inl (ih.1 htype)), fun type htype => ?_⟩
        rcases mem_typesOf_append_iff.1 htype with htype | htype
        · exact ih.2 type htype
        · exact .inr (.inr ⟨mixin, hmem, htype⟩)
  rw [typesOf_finishTable, brings_iff_of_model hkind hheader hkey hadded]
  constructor
  · rintro (hdb | htype)
    · exact .inl hdb
    · exact (hall type htype).symm
  · exact Or.imp_right fun htype => hown htype

theorem hasType_compileExtension {table : Table} (hkind : block.kind = .extension)
    (h : compileExtension db block = .ok table) :
    HasType (db.putTable table) type ↔ HasType db type ∨ Brings block type := by
  obtain ⟨name, base, added, -, hbase, hadded, -, rfl⟩ := compileExtension_eq_ok_iff.1 h
  have hmem := Database.mem_tables_of_table? hbase
  have htypes (type : ColumnType) : type ∈ typesOf (extended base added).fields ↔
      type ∈ typesOf base.fields ∨ type ∈ typesOf added.fields := by
    rw [extended, typesOf_finishTable, withAdditions, mem_typesOf_append_iff]
  have hother : block.kind ≠ .model := by
    rw [hkind]
    decide
  rw [hasType_putTable, htypes, brings_iff_of_lines hother hadded]
  · constructor
    · rintro (hdb | htype | htype)
      · exact .inl hdb
      · exact .inl (.inl ⟨base, hmem, htype⟩)
      · exact .inr htype
    · exact Or.imp_right .inr
  · -- the table of its name is the base itself
    intro old hold hsame
    have hfound : db.table? base.name = some old :=
      (Database.table?_eq_some_iff_of_mem hold).2 (sameName_iff.1 hsame).symm
    rw [(Database.table?_eq_some_iff_of_mem hmem).2 rfl, Option.some.injEq] at hfound
    rw [← hfound]
    exact fun type htype => (htypes type).2 (.inl htype)

/-- A block that compiles brings its types, and the schema keeps those it has. -/
theorem hasType_commit {definition : Definition} (h : compileBlock db block = .ok definition) :
    HasType (commit db definition) type ↔ HasType db type ∨ Brings block type := by
  cases hkind : block.kind with
  | mixin =>
      obtain ⟨mixin, hmixin, rfl⟩ := (compileBlock_mixin_iff hkind).1 h
      exact hasType_compileMixin hkind hmixin
  | model =>
      obtain ⟨table, htable, rfl⟩ := (compileBlock_model_iff hkind).1 h
      exact hasType_compileModel hkind htable
  | extension =>
      obtain ⟨table, htable, rfl⟩ := (compileBlock_extension_iff hkind).1 h
      exact hasType_compileExtension hkind htable

theorem hasType_reaches (h : Reaches db blocks reached) :
    HasType reached type ↔ HasType db type ∨ ∃ block ∈ blocks, Brings block type := by
  induction blocks generalizing db with
  | nil =>
      rw [reaches_nil_iff.1 h]
      simp
  | cons block blocks ih =>
      obtain ⟨definition, hblock, hrest⟩ := reaches_cons_iff.1 h
      rw [ih hrest, hasType_commit hblock, List.exists_mem_cons_iff, or_assoc]

theorem not_hasType_empty : ¬HasType {} type := by
  rintro (⟨table, hmem, -⟩ | ⟨mixin, hmem, -⟩)
  · cases hmem
  · cases hmem

/-- A schema that was compiled block by block has the types that its blocks bring, and no others. -/
theorem hasType_iff_brings (h : Reaches {} blocks db) : HasType db type ↔ ∃ block ∈ blocks, Brings block type := by
  rw [hasType_reaches h]
  exact or_iff_right not_hasType_empty

/-- A type that a block brings can be declared, since the block declares it. -/
theorem declarable_of_brings (h : Brings block type) : Declarable type := by
  cases h with
  | key _ hheader hkey htype => exact htype ▸ declarable_key (isWordy_of_modelHeader hheader) hkey
  | line _ hadded htype =>
      obtain ⟨field, hfield, rfl⟩ := List.mem_map.1 htype
      cases adds_of_additions? hadded with
      | index => cases hfield
      | flag => cases hfield
      | relationship =>
          obtain rfl := List.mem_singleton.1 hfield
          exact declarable_integer
      | field hmember hdeclared =>
          obtain rfl := List.mem_singleton.1 hfield
          have hcode := isWordy_of_readField? (readField?_of_member hmember)
          exact declarable_fieldLine hcode hdeclared

/-- Every field of a compiled schema has a type that some declaration asks for. -/
theorem Compiled.typed (h : Compiled db) : Typed db := by
  obtain ⟨blocks, hreaches⟩ := h.exists_reaches
  have hdeclarable {type : ColumnType} (htype : HasType db type) : Declarable type := by
    obtain ⟨block, -, hbrings⟩ := (hasType_iff_brings hreaches).1 htype
    exact declarable_of_brings hbrings
  constructor
  · intro table hmem field hfield
    exact hdeclarable (.inl ⟨table, hmem, List.mem_map_of_mem hfield⟩)
  · intro mixin hmem field hfield
    exact hdeclarable (.inr ⟨mixin, hmem, List.mem_map_of_mem hfield⟩)

/-- A block that compiles is in order. -/
theorem inOrder_of_compileBlock {definition : Definition} (h : compileBlock db block = .ok definition) :
    InOrder block := by
  cases hkind : block.kind with
  | mixin =>
      obtain ⟨mixin, hmixin, -⟩ := (compileBlock_mixin_iff hkind).1 h
      obtain ⟨name, added, -, -, hadded, -⟩ := compileMixin_eq_ok_iff.1 hmixin
      exact ⟨⟨added, hadded⟩, fun hmodel => absurd (hkind.symm.trans hmodel) (by decide)⟩
  | model =>
      obtain ⟨table, htable, -⟩ := (compileBlock_model_iff hkind).1 h
      obtain ⟨header, mixins, key, added, whole, hheader, -, -, hkey, hadded, -⟩ := compileModel_eq_ok_iff.1 htable
      exact ⟨⟨added, hadded⟩, fun _ => ⟨header, key, hheader, hkey⟩⟩
  | extension =>
      obtain ⟨table, htable, -⟩ := (compileBlock_extension_iff hkind).1 h
      obtain ⟨name, base, added, -, -, hadded, -⟩ := compileExtension_eq_ok_iff.1 htable
      exact ⟨⟨added, hadded⟩, fun hmodel => absurd (hkind.symm.trans hmodel) (by decide)⟩

theorem Reaches.inOrder (h : Reaches db blocks reached) : ∀ block ∈ blocks, InOrder block := by
  induction blocks generalizing db with
  | nil => exact List.forall_mem_nil _
  | cons block blocks ih =>
      obtain ⟨definition, hblock, hrest⟩ := reaches_cons_iff.1 h
      exact List.forall_mem_cons.2 ⟨inOrder_of_compileBlock hblock, ih hrest⟩

end Blocks

end SchemaMigrate.Model
