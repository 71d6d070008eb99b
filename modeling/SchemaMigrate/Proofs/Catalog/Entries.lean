import SchemaMigrate.Proofs.Catalog.Description

/-!
A database as the entries of its catalog: tables, columns with their defaults, keys, foreign keys and indexes.
Main statement: such a catalog is read if the names of its tables differ, and then a table is found in what was
read exactly if the catalog has it and the system does not own it.
-/

namespace SchemaMigrate.Catalog

/-- Something that a catalog has. All but tables belong to the table that they name first. -/
inductive Entry where
  | table (name : String)
  | column (table : String) (row : ColumnRow)
  | primaryKey (table column : String)
  | foreignKey (table constraint : String) (row : ForeignKeyRow)
  | index (table : String) (row : IndexRow)
deriving Repr, DecidableEq

namespace Entry

/-- The table that an entry belongs to. -/
def owner : Entry → String
  | .table name => name
  | .column owner _ | .primaryKey owner _ | .foreignKey owner _ _ | .index owner _ => owner

def tableName? : Entry → Option String
  | .table name => some name
  | .column .. | .primaryKey .. | .foreignKey .. | .index .. => none

def columnOf? (table : String) : Entry → Option ColumnRow
  | .column owner row => if owner = table then some row else none
  | .table .. | .primaryKey .. | .foreignKey .. | .index .. => none

def keyColumnOf? (table : String) : Entry → Option String
  | .primaryKey owner name => if owner = table then some name else none
  | .table .. | .column .. | .foreignKey .. | .index .. => none

def foreignKeyOf? (table : String) : Entry → Option ForeignKeyRow
  | .foreignKey owner _ row => if owner = table then some row else none
  | .table .. | .column .. | .primaryKey .. | .index .. => none

def indexOf? (table : String) : Entry → Option IndexRow
  | .index owner row => if owner = table then some row else none
  | .table .. | .column .. | .primaryKey .. | .foreignKey .. => none

end Entry

/-- Everything belongs to a table that is there. -/
def Rooted (entries : List Entry) : Prop := ∀ entry ∈ entries, .table entry.owner ∈ entries

/-- Two catalogs have the same entries. -/
def SameEntries (left right : List Entry) : Prop := ∀ entry, entry ∈ left ↔ entry ∈ right

/-- What the catalog answers about a table. -/
def rowsOf (entries : List Entry) (table : String) : TableRows where
  columns := entries.filterMap (Entry.columnOf? table)
  primaryKey := entries.filterMap (Entry.keyColumnOf? table)
  foreignKeys := entries.filterMap (Entry.foreignKeyOf? table)
  indexes := entries.filterMap (Entry.indexOf? table)

/-- A catalog that answers with its entries. -/
def sourceOf (entries : List Entry) : Source where
  tables _ := .ok (entries.filterMap Entry.tableName?)
  columns _ table := .ok (rowsOf entries table).columns
  primaryKey _ table := .ok (rowsOf entries table).primaryKey
  foreignKeys _ table := .ok (rowsOf entries table).foreignKeys
  indexes _ table := .ok (rowsOf entries table).indexes

/-- What introspection makes of a catalog. -/
def readEntries (entries : List Entry) : Except IntrospectError Database :=
  ((introspect (sourceOf entries) defaultSchema).run.run []).1

/-- The tables that introspection does not leave out. -/
def visibleTables (entries : List Entry) : List String :=
  (entries.filterMap Entry.tableName?).filter fun name => !systemTables.contains name

/-- A table as it is read. -/
def tableOf (entries : List Entry) (name : String) : Table := (rowsOf entries name).table name

section Rows

variable {entries : List Entry} {entry : Entry} {table name : String}

theorem tableName?_eq_some : entry.tableName? = some name ↔ entry = .table name := by
  cases entry <;> simp [Entry.tableName?]

theorem columnOf?_eq_some {row : ColumnRow} : entry.columnOf? table = some row ↔ entry = .column table row := by
  cases entry <;> simp [Entry.columnOf?]

theorem foreignKeyOf?_eq_some {row : ForeignKeyRow} :
    entry.foreignKeyOf? table = some row ↔ ∃ constraint, entry = .foreignKey table constraint row := by
  cases entry <;> simp [Entry.foreignKeyOf?]

theorem indexOf?_eq_some {row : IndexRow} : entry.indexOf? table = some row ↔ entry = .index table row := by
  cases entry <;> simp [Entry.indexOf?]

theorem mem_visibleTables_iff :
    name ∈ visibleTables entries ↔ .table name ∈ entries ∧ systemTables.contains name = false := by
  simp [visibleTables, tableName?_eq_some]

theorem mem_columns_iff {row : ColumnRow} : row ∈ (rowsOf entries table).columns ↔ .column table row ∈ entries := by
  simp [rowsOf, columnOf?_eq_some]

theorem mem_foreignKeys_iff {row : ForeignKeyRow} :
    row ∈ (rowsOf entries table).foreignKeys ↔ ∃ constraint, .foreignKey table constraint row ∈ entries := by
  simp only [rowsOf, List.mem_filterMap, foreignKeyOf?_eq_some]
  constructor
  · rintro ⟨_, hmem, constraint, rfl⟩
    exact ⟨constraint, hmem⟩
  · rintro ⟨constraint, hmem⟩
    exact ⟨_, hmem, constraint, rfl⟩

theorem mem_indexes_iff {row : IndexRow} : row ∈ (rowsOf entries table).indexes ↔ .index table row ∈ entries := by
  simp [rowsOf, indexOf?_eq_some]

end Rows

section Reading

variable {entries : List Entry} {live : Database} {name : String}

theorem answers_sourceOf (entries : List Entry) (schema table : String) :
    (sourceOf entries).Answers schema table (rowsOf entries table) :=
  ⟨rfl, rfl, rfl, rfl⟩

/-- Tables that were read one after the other are those that were asked for. -/
theorem items_readTables {names : List String} {db result : Database} {log : List Query}
    (h : ((readTables (sourceOf entries) defaultSchema db names).run.run log).1 = .ok result) :
    result.tables.items = db.tables.items ++ names.map (tableOf entries) := by
  induction names generalizing db log with
  | nil =>
      cases h
      exact (List.append_nil _).symm
  | cons name names ih =>
      rw [readTables, run_bind (run_readTable (answers_sourceOf entries _ name) log)] at h
      cases hadd : db.addTable ((rowsOf entries name).table name) with
      | error error =>
          rw [hadd] at h
          cases h
      | ok next =>
          rw [hadd] at h
          rw [ih h, items_addTable hadd, List.append_assoc]
          rfl

theorem run_tableNames (entries : List Entry) :
    ((tableNames (sourceOf entries) defaultSchema).run.run []).1 = .ok (visibleTables entries) := rfl

/-- What was read are the tables that are not left out, in order. -/
theorem items_of_readEntries (h : readEntries entries = .ok live) :
    live.tables.items = (visibleTables entries).map (tableOf entries) := by
  rw [readEntries, introspect, run_bind (run_tableNames entries)] at h
  rw [items_readTables h]
  rfl

/-- A catalog is read if the names of its tables differ. -/
theorem readEntries_succeeds (h : ((visibleTables entries).map nameKey).Nodup) :
    ∃ live, readEntries entries = .ok live := by
  have hread : ∀ name ∈ visibleTables entries, ∀ log,
      ((readTable (sourceOf entries) defaultSchema name).run.run log).1 = .ok (tableOf entries name) :=
    fun name _ log => run_readTable (answers_sourceOf entries _ name) log
  have hdistinct : ((({} : Database).tables.items.map keyOf) ++ (visibleTables entries).map nameKey).Nodup := h
  obtain ⟨live, hlive, -⟩ := run_readTables (fun _ _ => rfl) hread hdistinct [.tables defaultSchema]
  rw [readEntries, introspect, run_bind (run_tableNames entries)]
  exact ⟨live, hlive⟩

theorem nodup_visibleTables (h : readEntries entries = .ok live) : ((visibleTables entries).map nameKey).Nodup := by
  have hdistinct := live.tables.distinct
  rw [items_of_readEntries h, List.map_map] at hdistinct
  exact hdistinct

/-- A table is found exactly if the catalog has it and the system does not own it. -/
theorem table?_readEntries_iff (h : readEntries entries = .ok live) {found : Table} :
    live.table? name = some found ↔
      ∃ table ∈ visibleTables entries, sameName table name = true ∧ found = tableOf entries table := by
  rw [Database.table?, NameMap.get?_eq_some_iff, items_of_readEntries h, List.mem_map]
  constructor
  · rintro ⟨⟨table, hmem, rfl⟩, hsame⟩
    exact ⟨table, hmem, hsame, rfl⟩
  · rintro ⟨table, hmem, hsame, rfl⟩
    exact ⟨⟨table, hmem, rfl⟩, hsame⟩

end Reading

end SchemaMigrate.Catalog
