import SchemaMigrate.Proofs.Model.WellBuilt

/-!
Where the foreign keys of a compiled schema point. A foreign key names the column it points at after its
target, and the key of a table is named after the table. Main statement: if the target is in the schema,
in any spelling of its name, then it has that column.
-/

namespace SchemaMigrate.Model

/-- Every foreign key is that of a relationship line. -/
def Declared (foreignKeys : List ForeignKey) : Prop :=
  ∀ foreignKey ∈ foreignKeys, ∃ line : RelationshipLine, foreignKey = line.foreignKey

/-- A schema whose foreign keys all come from relationship lines. -/
structure KeysDeclared (db : Database) : Prop where
  tables : ∀ table ∈ db.tables.items, Declared table.foreignKeys
  mixins : ∀ mixin ∈ db.mixins.items, Declared mixin.foreignKeys

/-- Every foreign key points at the column that is named after its target. -/
def Pointed (foreignKeys : List ForeignKey) : Prop :=
  ∀ foreignKey ∈ foreignKeys, foreignKey.targetColumn = foreignKey.target ++ "ID"

/-- A well-built schema whose foreign keys all point at columns named after their targets. -/
structure Linked (db : Database) : Prop extends WellBuilt db where
  tableKeys : ∀ table ∈ db.tables.items, Pointed table.foreignKeys
  mixinKeys : ∀ mixin ∈ db.mixins.items, Pointed mixin.foreignKeys

section Keys

variable {first second : List ForeignKey}

theorem declared_nil : Declared [] := List.forall_mem_nil _

theorem Declared.append (hfirst : Declared first) (hsecond : Declared second) : Declared (first ++ second) :=
  List.forall_mem_append.2 ⟨hfirst, hsecond⟩

theorem Declared.pointed (h : Declared first) : Pointed first := by
  intro foreignKey hmem
  obtain ⟨line, rfl⟩ := h foreignKey hmem
  rfl

theorem declared_of_line {line : Line} {added : Additions} (h : line.additions? = some added) :
    Declared added.foreignKeys := by
  cases adds_of_additions? h with
  | index => exact declared_nil
  | flag => exact declared_nil
  | relationship =>
      intro foreignKey hmem
      exact ⟨_, List.mem_singleton.1 hmem⟩
  | field => exact declared_nil

theorem declared_of_lines {lines : List Line} {added : Additions} (h : additionsOf? lines = some added) :
    Declared added.foreignKeys :=
  additionsOf?_invariant (P := fun added => Declared added.foreignKeys) declared_nil Declared.append
    (fun _ _ _ => declared_of_line) h

end Keys

section Blocks

variable {db : Database} {block : Block} {table : Table} {mixin : Mixin}

theorem declared_compileMixin (h : compileMixin db block = .ok mixin) : Declared mixin.foreignKeys := by
  obtain ⟨name, added, -, -, hadded, -, -, rfl⟩ := compileMixin_eq_ok_iff.1 h
  exact declared_nil.append (declared_of_lines hadded)

theorem declared_compileModel (hdb : KeysDeclared db) (h : compileModel db block = .ok table) :
    Declared table.foreignKeys := by
  obtain ⟨header, key, added, whole, -, -, hadded, -, hmixed, rfl⟩ := mixed_of_compileModel h
  clear h
  -- finishing a table leaves its foreign keys as they are
  change Declared whole.foreignKeys
  induction hmixed with
  | bare => exact declared_nil.append (declared_of_lines hadded)
  | @take draft mixin _ hmem _ _ ih => exact ih.append (hdb.mixins mixin hmem)

theorem declared_compileExtension (hdb : KeysDeclared db) (h : compileExtension db block = .ok table) :
    Declared table.foreignKeys := by
  obtain ⟨name, base, added, -, hbase, hadded, -, rfl⟩ := compileExtension_eq_ok_iff.1 h
  exact (hdb.tables base (Database.mem_tables_of_table? hbase)).append (declared_of_lines hadded)

theorem KeysDeclared.commit (hdb : KeysDeclared db) {definition : Definition}
    (h : compileBlock db block = .ok definition) : KeysDeclared (commit db definition) where
  tables := forall_tables_commit hdb.tables (fun _ _ => declared_compileModel hdb)
    (fun _ => declared_compileExtension hdb) h
  mixins := forall_mixins_commit hdb.mixins (fun _ => declared_compileMixin) h

theorem keysDeclared_empty : KeysDeclared {} := ⟨List.forall_mem_nil _, List.forall_mem_nil _⟩

theorem Compiled.linked (h : Compiled db) : Linked db := by
  have hbuilt : WellBuilt db :=
    h.invariant (wellBuilt_of (List.forall_mem_nil _) (List.forall_mem_nil _)) fun hdb hblock => hdb.commit hblock
  have hkeys : KeysDeclared db := h.invariant keysDeclared_empty fun hdb hblock => hdb.commit hblock
  exact ⟨hbuilt, fun table hmem => (hkeys.tables table hmem).pointed,
    fun mixin hmem => (hkeys.mixins mixin hmem).pointed⟩

end Blocks

section Links

variable {db : Database} {table target : Table} {foreignKey : ForeignKey}

/-- A foreign key stands on a column of its table. -/
theorem Linked.column_mem (hdb : Linked db) (htable : table ∈ db.tables.items)
    (hmem : foreignKey ∈ table.foreignKeys) : nameKey foreignKey.column ∈ table.fields.map keyOf :=
  ((hdb.tables table htable).fitting.columns foreignKey hmem).key_mem

/-- A foreign key points at the key of its target, if that is in the schema. -/
theorem Linked.targetColumn_mem (hdb : Linked db) (htable : table ∈ db.tables.items)
    (hmem : foreignKey ∈ table.foreignKeys) (htarget : db.table? foreignKey.target = some target) :
    nameKey foreignKey.targetColumn ∈ target.fields.map keyOf := by
  obtain ⟨key, others, hkey⟩ := (hdb.tables target (Database.mem_tables_of_table? htarget)).key
  have hname : nameKey target.name = nameKey foreignKey.target :=
    sameName_iff.1 (Database.sameName_of_table? htarget)
  have hcolumn : nameKey foreignKey.targetColumn = keyOf key := by
    rw [hdb.tableKeys table htable foreignKey hmem, nameKey_append, ← hname, ← nameKey_append, ← hkey.name]
    rfl
  rw [hcolumn, hkey.fields]
  exact List.mem_cons_self

end Links

end SchemaMigrate.Model
