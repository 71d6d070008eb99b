import SchemaMigrate.Proofs.Model.Declarations
import SchemaMigrate.Proofs.Model.WellBuilt

/-!
What the names in a schema are made of. The grammar takes words for names, but for the tokens of an index it takes
whatever stands between the commas. Main statement: in a schema that was compiled from some sources, the names of
tables, fields and foreign keys are words, and a column of an index that is none is a token of an index line of the
sources.
-/

namespace SchemaMigrate.Model

/-- A token of an index line of the sources. -/
def TokenOf (sources : List Source) (token : String) : Prop :=
  ∃ block, BlockOf sources block ∧ ∃ line ∈ block.body, ∃ tokens marks,
    Member.of? line.text = some (.index tokens marks) ∧ token ∈ tokens

/-- The index lines of a block have none but these tokens. -/
def Block.Admits (block : Block) (token : String → Prop) : Prop :=
  ∀ line ∈ block.body, ∀ tokens marks, Member.of? line.text = some (.index tokens marks) → ∀ text ∈ tokens, token text

/-- Names are words, and columns of indexes are words or tokens. -/
structure Worded (token : String → Prop) (fields : List Field) (foreignKeys : List ForeignKey) (indexes : List Index) :
    Prop where
  fields : ∀ field ∈ fields, IsWordy field.name
  foreignKeys : ∀ key ∈ foreignKeys, IsWordy key.column ∧ IsWordy key.target ∧ IsWordy key.targetColumn
  indexes : ∀ index ∈ indexes, ∀ column ∈ index.fields, IsWordy column ∨ token column

/-- A schema whose names are words. -/
structure WordedSchema (token : String → Prop) (db : Database) : Prop where
  names : ∀ table ∈ db.tables.items, IsWordy table.name
  tables : ∀ table ∈ db.tables.items, Worded token table.fields table.foreignKeys table.indexes
  mixins : ∀ mixin ∈ db.mixins.items, Worded token mixin.fields mixin.foreignKeys []

section Reading

variable {first second : String} {text : List Char}

theorem isWordy_append (hfirst : IsWordy first) (hsecond : IsWordy second) : IsWordy (first ++ second) := by
  intro c hc
  rw [String.toList_append, List.mem_append] at hc
  exact hc.elim (hfirst c) (hsecond c)

theorem isWordy_id : IsWordy "ID" := List.all_eq_true.1 rfl

theorem isWordy_of_readRole? {role : Option String × Bool} (h : readRole? text = some role) :
    IsWordy (role.1.getD "") := by
  have hempty : IsWordy "" := fun _ hc => by cases hc
  unfold readRole? at h
  split at h
  · cases h
    exact hempty
  · simp only [bind, Option.bind_eq_some_iff] at h
    obtain ⟨_, -, _, -, _, -, name, hname, h⟩ := h
    split at h
    · cases h
      exact isWordy_of_spanName? hname
    · cases h

/-- A relationship refers to a word, and so does its column. -/
theorem isWordy_of_readRelationship? {line : RelationshipLine}
    (h : readRelationship? text = some (.relationship line)) : IsWordy line.target ∧ IsWordy (line.role.getD "") := by
  simp only [readRelationship?] at h
  split at h
  · simp only [bind, Option.bind_eq_some_iff] at h
    obtain ⟨many, -, after, -, target, htarget, role, hrole, hmember⟩ := h
    cases hmember
    exact ⟨isWordy_of_spanName? htarget, isWordy_of_readRole? hrole⟩
  · split at h
    · simp only [bind, Option.bind_eq_some_iff] at h
      obtain ⟨many, -, after, -, target, htarget, role, hrole, hmember⟩ := h
      cases hmember
      exact ⟨isWordy_of_spanName? htarget, isWordy_of_readRole? hrole⟩
    · cases h

theorem isWordy_name_of_readField? {line : FieldLine} (h : readField? text = some (.field line)) :
    IsWordy line.name := by
  simp only [readField?, bind, Option.bind_eq_some_iff] at h
  obtain ⟨code, -, after, -, name, hname, marks, -, hmember⟩ := h
  cases hmember
  exact isWordy_of_spanName? hname

theorem isWordy_name_of_modelHeader {header : ModelHeader} (h : ModelHeader.of? text = some header) :
    IsWordy header.name := by
  simp only [ModelHeader.of?, bind, Option.bind_eq_some_iff] at h
  obtain ⟨name, hname, mixins, -, hheader⟩ := h
  cases hheader
  exact isWordy_of_spanName? hname

end Reading

section Names

variable {token : String → Prop} {fields more : List Field} {foreignKeys others : List ForeignKey}
  {indexes further : List Index} {line : Line} {lines : List Line} {added : Additions} {table : Table}

theorem worded_nil : Worded token [] [] [] := ⟨List.forall_mem_nil _, List.forall_mem_nil _, List.forall_mem_nil _⟩

theorem Worded.append (h : Worded token fields foreignKeys indexes) (hmore : Worded token more others further) :
    Worded token (fields ++ more) (foreignKeys ++ others) (indexes ++ further) where
  fields := List.forall_mem_append.2 ⟨h.fields, hmore.fields⟩
  foreignKeys := List.forall_mem_append.2 ⟨h.foreignKeys, hmore.foreignKeys⟩
  indexes := List.forall_mem_append.2 ⟨h.indexes, hmore.indexes⟩

theorem worded_field {field : Field} (h : IsWordy field.name) : Worded token [field] [] [] :=
  ⟨List.forall_mem_singleton.2 h, List.forall_mem_nil _, List.forall_mem_nil _⟩

theorem worded_relationship {relationship : RelationshipLine} (htarget : IsWordy relationship.target)
    (hrole : IsWordy (relationship.role.getD "")) :
    Worded token [relationship.field] [relationship.foreignKey] [] := by
  have hcolumn : IsWordy relationship.column := isWordy_append (isWordy_append hrole htarget) isWordy_id
  exact ⟨List.forall_mem_singleton.2 hcolumn,
    List.forall_mem_singleton.2 ⟨hcolumn, htarget, isWordy_append htarget isWordy_id⟩, List.forall_mem_nil _⟩

/-- The columns of an index are at first the tokens of its line. -/
theorem fields_of_indexOf {tokens marks : List String} {index : Index} (h : indexOf tokens marks = .ok index) :
    index.fields = tokens := by
  unfold indexOf at h
  split at h
  · cases h
  · dsimp only at h
    split at h
    · cases h
    · cases h
      rfl

theorem worded_of_line (h : line.additions? = some added) (htokens : ∀ tokens marks,
    Member.of? line.text = some (.index tokens marks) → ∀ text ∈ tokens, token text) :
    Worded token added.fields added.foreignKeys added.indexes := by
  cases adds_of_additions? h with
  | @index tokens marks index hmember hindex =>
      refine ⟨List.forall_mem_nil _, List.forall_mem_nil _, List.forall_mem_singleton.2 fun column hcolumn => .inr ?_⟩
      rw [fields_of_indexOf hindex] at hcolumn
      exact htokens tokens marks hmember column hcolumn
  | flag => exact worded_nil
  | relationship hmember =>
      obtain ⟨htarget, hrole⟩ := isWordy_of_readRelationship? (reader_of_member hmember)
      exact worded_relationship htarget hrole
  | field hmember hfield =>
      obtain ⟨type, -, hresult⟩ := bind_eq_ok hfield
      cases hresult
      exact worded_field (isWordy_name_of_readField? (reader_of_member hmember))

theorem worded_of_lines (h : additionsOf? lines = some added) (htokens : ∀ line ∈ lines, ∀ tokens marks,
    Member.of? line.text = some (.index tokens marks) → ∀ text ∈ tokens, token text) :
    Worded token added.fields added.foreignKeys added.indexes := by
  refine additionsOf?_invariant (P := fun added => Worded token added.fields added.foreignKeys added.indexes)
    worded_nil Worded.append (fun line hline own hown => ?_) h
  exact worded_of_line hown (htokens line hline)

/-- To finish a table is to put columns of foreign keys in place of tokens. -/
theorem Worded.finishTable (h : Worded token table.fields table.foreignKeys table.indexes) :
    Worded token (finishTable table).fields (finishTable table).foreignKeys (finishTable table).indexes where
  fields := by
    rw [fields_finishTable]
    exact List.forall_mem_map.2 h.fields
  foreignKeys := h.foreignKeys
  indexes := by
    refine List.forall_mem_map.2 fun index hindex => List.forall_mem_map.2 fun column hcolumn => ?_
    rcases indexColumn_cases _ column with ⟨hkept, -⟩ | ⟨key, hkey, -, hresolved⟩
    · rw [hkept]
      exact h.indexes index hindex column hcolumn
    · rw [hresolved]
      exact .inl (h.foreignKeys key hkey).1

end Names

section Blocks

variable {token : String → Prop} {db reached : Database} {block : Block} {blocks : List Block} {table : Table}
  {mixin : Mixin} {sources : List Source}

theorem worded_compileMixin (hblock : block.Admits token) (h : compileMixin db block = .ok mixin) :
    Worded token mixin.fields mixin.foreignKeys [] := by
  obtain ⟨name, added, -, -, hadded, -, -, rfl⟩ := compileMixin_eq_ok_iff.1 h
  have hlines := worded_of_lines hadded hblock
  exact ⟨hlines.fields, hlines.foreignKeys, List.forall_mem_nil _⟩

theorem worded_compileModel (hdb : WordedSchema token db) (hblock : block.Admits token)
    (h : compileModel db block = .ok table) :
    IsWordy table.name ∧ Worded token table.fields table.foreignKeys table.indexes := by
  obtain ⟨header, key, added, whole, hheader, hkey, hadded, -, hmixed, rfl⟩ := mixed_of_compileModel h
  clear h
  have hname := isWordy_name_of_modelHeader hheader
  have hstart : Worded token [key] [] [] := by
    obtain ⟨type, -, hresult⟩ := bind_eq_ok hkey
    cases hresult
    exact worded_field (isWordy_append hname isWordy_id)
  have hworded : Worded token whole.fields whole.foreignKeys whole.indexes := by
    induction hmixed with
    | bare => exact hstart.append (worded_of_lines hadded hblock)
    | @take draft mixin _ hmem _ _ ih => simpa [mixinApplied] using ih.append (hdb.mixins mixin hmem)
  refine ⟨?_, hworded.finishTable⟩
  have hwhole : whole.name = header.name := hmixed.name
  exact hwhole ▸ hname

theorem worded_compileExtension (hdb : WordedSchema token db) (hblock : block.Admits token)
    (h : compileExtension db block = .ok table) :
    IsWordy table.name ∧ Worded token table.fields table.foreignKeys table.indexes := by
  obtain ⟨name, base, added, -, hbase, hadded, -, rfl⟩ := compileExtension_eq_ok_iff.1 h
  have hmem := Database.mem_tables_of_table? hbase
  have hall : Worded token (withAdditions base added).fields (withAdditions base added).foreignKeys
      (withAdditions base added).indexes := (hdb.tables base hmem).append (worded_of_lines hadded hblock)
  exact ⟨hdb.names base hmem, hall.finishTable⟩

/-- What a block with such tokens defines keeps the names of the schema to words. -/
theorem WordedSchema.commit (hdb : WordedSchema token db) (hblock : block.Admits token) {definition : Definition}
    (h : compileBlock db block = .ok definition) : WordedSchema token (commit db definition) where
  names := forall_tables_commit hdb.names (fun _ _ htable => (worded_compileModel hdb hblock htable).1)
    (fun _ htable => (worded_compileExtension hdb hblock htable).1) h
  tables := forall_tables_commit hdb.tables (fun _ _ htable => (worded_compileModel hdb hblock htable).2)
    (fun _ htable => (worded_compileExtension hdb hblock htable).2) h
  mixins := forall_mixins_commit hdb.mixins (fun _ => worded_compileMixin hblock) h

theorem wordedSchema_empty : WordedSchema token {} :=
  ⟨List.forall_mem_nil _, List.forall_mem_nil _, List.forall_mem_nil _⟩

/-- The names in a compiled schema are words, but for columns of indexes that are tokens of its sources. -/
theorem CompiledFrom.worded (h : CompiledFrom sources db) : WordedSchema (TokenOf sources) db := by
  refine h.invariant wordedSchema_empty fun {_ block _} hblock hdb hdefinition => hdb.commit ?_ hdefinition
  intro line hline tokens marks hmember text htext
  exact ⟨block, hblock, line, hline, tokens, marks, hmember, htext⟩

end Blocks

end SchemaMigrate.Model
