import SchemaMigrate.Proofs.Catalog.Reading
import SchemaMigrate.Proofs.Plan.Likeness

/-!
Catalogs that describe a schema: they answer its tables, and for each of them its columns in order, and its
foreign keys and indexes in any order. Main statement: what is read from such a catalog looks like the
schema, if its columns have types that can be declared through the codes of the model language.
-/

namespace SchemaMigrate

/-- A type that is declared through a code of the model language. -/
def Registered (type : ColumnType) : Prop :=
  ∃ declared : ColumnType, (modelType? declared.name).isSome = true ∧ ColumnType.ofDeclared declared = .ok type

namespace Catalog

/-- What the catalog calls a storage type. -/
def reportedName (storage : String) : String :=
  if storage = "varchar" then "character varying"
  else if storage = "char" then "character"
  else if storage = "timestamp" then "timestamp without time zone"
  else storage

/-- A row reports a column of a type. Texts have their length, or none if it is unbounded, and decimals their
precision and scale; what is reported as the size of another type does not matter. -/
structure ColumnRow.Reports (row : ColumnRow) (type : ColumnType) : Prop where
  typeName : row.type = reportedName type.name
  characters : type.name = "varchar" ∨ type.name = "char" →
    row.charLength = (if type.isMax then none else type.precision) ∧ row.numericPrecision = none
  digits : type.name = "numeric" →
    row.charLength = none ∧ row.numericPrecision = type.precision ∧ row.numericScale = type.scale

def ForeignKeyRow.outline (row : ForeignKeyRow) : String × String × String :=
  (nameKey row.column, nameKey row.target, nameKey row.targetColumn)

def IndexRow.outline (row : IndexRow) : List String × Bool := (row.columns.map nameKey, row.unique)

/-- Rows that describe a table. Names of indexes do not matter, nor what is said of nulls and defaults. -/
structure TableRows.Describes (rows : TableRows) (table : Table) : Prop where
  columns : List.Forall₂ (fun row field => row.name = field.name ∧ row.Reports field.type) rows.columns table.fields
  foreignKeys : (rows.foreignKeys.map ForeignKeyRow.outline).Perm (table.foreignKeys.map ForeignKey.outline)
  indexes : (rows.indexes.map IndexRow.outline).Perm (table.indexes.map Index.outline)

instance (row : ColumnRow) (type : ColumnType) : Decidable (row.Reports type) :=
  decidable_of_iff
    (row.type = reportedName type.name
      ∧ (type.name = "varchar" ∨ type.name = "char" →
        row.charLength = (if type.isMax then none else type.precision) ∧ row.numericPrecision = none)
      ∧ (type.name = "numeric" →
        row.charLength = none ∧ row.numericPrecision = type.precision ∧ row.numericScale = type.scale))
    ⟨fun ⟨h₁, h₂, h₃⟩ => ⟨h₁, h₂, h₃⟩, fun ⟨h₁, h₂, h₃⟩ => ⟨h₁, h₂, h₃⟩⟩

instance (rows : TableRows) (table : Table) : Decidable (rows.Describes table) :=
  decidable_of_iff
    (List.Forall₂ (fun row field => row.name = field.name ∧ row.Reports field.type) rows.columns table.fields
      ∧ (rows.foreignKeys.map ForeignKeyRow.outline).Perm (table.foreignKeys.map ForeignKey.outline)
      ∧ (rows.indexes.map IndexRow.outline).Perm (table.indexes.map Index.outline))
    ⟨fun ⟨h₁, h₂, h₃⟩ => ⟨h₁, h₂, h₃⟩, fun ⟨h₁, h₂, h₃⟩ => ⟨h₁, h₂, h₃⟩⟩

/-- A catalog answers the queries about a table with some rows. -/
structure Source.Answers (source : Source) (schema table : String) (rows : TableRows) : Prop where
  columns : source.columns schema table = .ok rows.columns
  primaryKey : source.primaryKey schema table = .ok rows.primaryKey
  foreignKeys : source.foreignKeys schema table = .ok rows.foreignKeys
  indexes : source.indexes schema table = .ok rows.indexes

/-- A catalog that describes a schema, table by table. -/
structure Source.Describes (source : Source) (schema : String) (db : Database) : Prop where
  tables : ∃ names, source.tables schema = .ok names ∧ names.Perm (db.tables.items.map (·.name))
  rows : ∀ table ∈ db.tables.items, ∃ rows, source.Answers schema table.name rows ∧ rows.Describes table

section Types

variable {storage : StorageType} {type : ColumnType} {row : ColumnRow}

/-- A type of some storage with a size as its policy asks for. -/
structure Sized (storage : StorageType) (type : ColumnType) : Prop where
  name : type.name = storage.code
  precision : type.precision.isSome = true ↔ storage.policy ≠ .none
  scale : type.scale.isSome = true ↔ storage.policy = .precisionAndScale
  unbounded : storage.policy = .precision → type.isMax = true → storage.supportsMax = true

/-- Every code of the model language declares a storage type of its own policy, with defaults that fit. -/
theorem storage_of_modelType : ∀ known ∈ modelTypes, ∃ storage ∈ storageTypes,
    storage.code = known.storage ∧ storage.convertsTo = none ∧ storage.policy = known.policy
      ∧ storage.supportsMax = supportsMax known.storage
      ∧ (storage.supportsMax = true → storage.policy = .precision)
      ∧ (known.defaultPrecision.isSome = true ↔ known.policy ≠ .none)
      ∧ (known.defaultScale.isSome = true ↔ known.policy = .precisionAndScale)
      ∧ (known.policy = .precision → known.defaultPrecision = some maxLength → storage.supportsMax = true) := by
  decide +kernel

/-- What a known code stores: its defaults, or no size, or the unbounded size where there is one, or the
declared size with defaults for what is left out. -/
theorem store_eq_ok {known : ModelType} {declared : ColumnType} (h : known.store declared = .ok type) :
    type = { name := known.storage, precision := known.defaultPrecision, scale := known.defaultScale }
      ∨ (known.policy = .none ∧ type = { name := known.storage })
      ∨ (known.policy ≠ .none ∧ supportsMax known.storage = true
        ∧ type = { name := known.storage, precision := some maxLength })
      ∨ (known.policy ≠ .none ∧ declared.isMax = false
        ∧ type = { name := known.storage
                   precision := declared.precision <|> known.defaultPrecision
                   scale := if known.policy = .precision then none else declared.scale <|> known.defaultScale }) := by
  unfold ModelType.store at h
  split at h
  · cases h
    exact .inl rfl
  split at h
  · cases h
    exact .inr (.inl ⟨‹_›, rfl⟩)
  split at h
  · split at h
    · cases h
      exact .inr (.inr (.inl ⟨‹_›, ‹_›, rfl⟩))
    · cases h
  · rename_i hbounded
    cases h
    exact .inr (.inr (.inr ⟨‹_›, by simpa using hbounded, rfl⟩))

/-- What is declared through a known code is stored with a size that fits. -/
theorem sized_of_registered (h : Registered type) :
    ∃ storage ∈ storageTypes, storage.convertsTo = none ∧ Sized storage type := by
  obtain ⟨declared, hknown, hstore⟩ := h
  obtain ⟨known, hfound⟩ := Option.isSome_iff_exists.1 hknown
  rw [ColumnType.ofDeclared, hfound] at hstore
  obtain ⟨storage, hstorage, hcode, hconverts, hpolicy, hmax, hunbounded, hprecision, hscale, hdefault⟩ :=
    storage_of_modelType known (List.mem_of_find?_eq_some hfound)
  refine ⟨storage, hstorage, hconverts, ?_⟩
  rcases store_eq_ok hstore with rfl | ⟨hnone, rfl⟩ | ⟨hsized, hlong, rfl⟩ | ⟨hsized, hbounded, rfl⟩
  · refine ⟨hcode.symm, hpolicy ▸ hprecision, hpolicy ▸ hscale, fun hlength hlongest => ?_⟩
    exact hdefault (hpolicy ▸ hlength) (by simpa [ColumnType.isMax] using hlongest)
  · rw [← hpolicy] at hnone
    exact ⟨hcode.symm, by simp [hnone], by simp [hnone], by simp [hnone]⟩
  · rw [← hpolicy] at hsized
    have hlong : storage.supportsMax = true := hmax.trans hlong
    exact ⟨hcode.symm, by simp [hsized], by simp [hunbounded hlong], fun _ _ => hlong⟩
  · refine ⟨hcode.symm, ?_, ?_, fun hlength hlongest => ?_⟩
    · simp [hpolicy, hsized, hprecision.2 hsized]
    · rw [hpolicy]
      cases hboth : known.policy with
      | none => exact absurd hboth hsized
      | precision => simp
      | precisionAndScale => simp [hscale.2 hboth]
    · -- the declared length is bounded, so it is the default that is unbounded
      refine hdefault (hpolicy ▸ hlength) ?_
      cases hdeclared : declared.precision with
      | none => simpa [ColumnType.isMax, hdeclared] using hlongest
      | some length => simp_all [ColumnType.isMax]

/-- The catalog's name of a storage type finds it again. -/
theorem storageType?_reportedName : ∀ storage ∈ storageTypes, storage.convertsTo = none →
    storageType? (reportedName storage.code) = some storage := by
  decide +kernel

theorem sized_names : ∀ storage ∈ storageTypes, storage.convertsTo = none →
    (storage.policy = .precision → storage.code = "varchar" ∨ storage.code = "char")
      ∧ (storage.policy = .precisionAndScale → storage.code = "numeric") := by
  decide +kernel

/-- A column of a declared type is read back with its type. -/
theorem columnType_of_reports (hregistered : Registered type) (h : row.Reports type) : row.columnType = type := by
  obtain ⟨storage, hmem, hconverts, hsized⟩ := sized_of_registered hregistered
  obtain ⟨hcharacters, hdigits⟩ := sized_names storage hmem hconverts
  have hfound := storageType?_reportedName storage hmem hconverts
  rw [← hsized.name, ← h.typeName] at hfound
  rw [ColumnRow.columnType, ColumnType.ofCatalog]
  obtain ⟨name, precision, scale⟩ := type
  simp only [hfound, hconverts]
  cases hpolicy : storage.policy with
  | none =>
      have hprecision : precision = none := by simpa [hpolicy] using hsized.precision
      have hscale : scale = none := by simpa [hpolicy] using hsized.scale
      rw [hprecision, hscale, ← hsized.name]
  | precision =>
      have hscale : scale = none := by simpa [hpolicy] using hsized.scale
      have hsome : precision.isSome = true := hsized.precision.2 (by simp [hpolicy])
      obtain ⟨length, rfl⟩ := Option.isSome_iff_exists.1 hsome
      obtain ⟨hlength, hnumeric⟩ := h.characters (hsized.name ▸ hcharacters hpolicy)
      subst hscale
      cases hmax : ColumnType.isMax { name, precision := some length } with
      | true =>
          have hlongest : length = maxLength := by simpa [ColumnType.isMax] using hmax
          rw [hmax, if_pos rfl] at hlength
          rw [hlength, hnumeric, hsized.unbounded hpolicy hmax, ← hsized.name, hlongest]
          rfl
      | false =>
          rw [hmax, if_neg (by decide)] at hlength
          rw [hlength, hnumeric, ← hsized.name]
          rfl
  | precisionAndScale =>
      have hsomePrecision : precision.isSome = true := hsized.precision.2 (by simp [hpolicy])
      have hsomeScale : scale.isSome = true := hsized.scale.2 hpolicy
      obtain ⟨digits, rfl⟩ := Option.isSome_iff_exists.1 hsomePrecision
      obtain ⟨places, rfl⟩ := Option.isSome_iff_exists.1 hsomeScale
      obtain ⟨hlength, hprecision, hscale⟩ := h.digits (hsized.name ▸ hdigits hpolicy)
      rw [hlength, hprecision, hscale, ← hsized.name]
      rfl

end Types

-- keys are compared as a whole from here on, never computed
attribute [local irreducible] nameKey

section Tables

variable {rows : TableRows} {table : Table}

/-- Columns are read back with their names and types. -/
theorem outlines_of_reports {rows : List ColumnRow} {fields : List Field} (primaryKey : List String)
    (h : List.Forall₂ (fun row field => row.name = field.name ∧ row.Reports field.type) rows fields)
    (hregistered : ∀ field ∈ fields, Registered field.type) :
    (rows.map (·.field primaryKey)).map Field.outline = fields.map Field.outline := by
  induction h with
  | nil => rfl
  | @cons row field rows fields hrow _ ih =>
      obtain ⟨hfield, hfields⟩ := List.forall_mem_cons.1 hregistered
      have hname : (row.field primaryKey).name = field.name := hrow.1
      have htype : (row.field primaryKey).type = field.type := columnType_of_reports hfield hrow.2
      rw [List.map_cons, List.map_cons, List.map_cons, ih hfields, Field.outline, hname, htype, Field.outline]

/-- A table that is read looks like the one that its rows describe. -/
theorem alike_of_describes (h : rows.Describes table) (hregistered : ∀ field ∈ table.fields, Registered field.type) :
    (rows.table table.name).Alike table where
  name := rfl
  fields := outlines_of_reports rows.primaryKey h.columns hregistered
  foreignKeys outline := by
    rw [← h.foreignKeys.mem_iff]
    simp [TableRows.table, ForeignKeyRow.foreignKey, ForeignKey.outline, ForeignKeyRow.outline]
  indexes outline := by
    rw [← h.indexes.mem_iff]
    simp [TableRows.table, IndexRow.index, Index.outline, IndexRow.outline]

end Tables

section Inquiries

variable {α β : Type} {source : Source} {schema : String}

/-- An inquiry goes on from an answer. -/
theorem run_bind {first : Inquiry α} {value : α} {log : List Query} (h : (first.run.run log).1 = .ok value)
    (rest : α → Inquiry β) :
    (first >>= rest).run.run log = (rest value).run.run (first.run.run log).2 := by
  rw [ExceptT.run_bind, StateT.run_bind]
  simp only [bind, h]

theorem run_ask {query : Query} {answer : Except String α} {rows : α} (h : answer = .ok rows) (log : List Query) :
    ((ask query answer).run.run log).1 = .ok rows := by
  rw [h]
  rfl

/-- A table is read if the catalog answers all that is asked about it. -/
theorem run_readTable {name : String} {rows : TableRows} (h : source.Answers schema name rows) (log : List Query) :
    ((readTable source schema name).run.run log).1 = .ok (rows.table name) := by
  rw [readTable, run_bind (run_ask h.columns _), run_bind (run_ask h.primaryKey _), run_bind (run_ask h.foreignKeys _),
    run_bind (run_ask h.indexes _)]
  rfl

theorem addTable_new {db : Database} {table : Table} (hnew : nameKey table.name ∉ db.tables.items.map keyOf) :
    ∃ next, db.addTable table = .ok next ∧ next.tables.items = db.tables.items ++ [table] := by
  have hmissing : db.tables.contains (Named.name table) = false := NameMap.contains_eq_false_iff.2 hnew
  refine ⟨{ db with tables := db.tables.add table hmissing }, ?_, rfl⟩
  rw [Database.addTable, NameMap.add?, dif_pos hmissing]

/-- Tables of distinct names are read one after the other. -/
theorem run_readTables {names : List String} {tableOf : String → Table} (hname : ∀ name ∈ names, (tableOf name).name = name)
    (hread : ∀ name ∈ names, ∀ log, ((readTable source schema name).run.run log).1 = .ok (tableOf name))
    {db : Database} (hdistinct : (db.tables.items.map keyOf ++ names.map nameKey).Nodup) (log : List Query) :
    ∃ result, ((readTables source schema db names).run.run log).1 = .ok result
      ∧ result.tables.items = db.tables.items ++ names.map tableOf := by
  induction names generalizing db log with
  | nil => exact ⟨db, rfl, (List.append_nil _).symm⟩
  | cons name names ih =>
      obtain ⟨hfirst, hnames⟩ := List.forall_mem_cons.1 hname
      obtain ⟨hreadFirst, hreadNames⟩ := List.forall_mem_cons.1 hread
      rw [List.map_cons, ← hfirst] at hdistinct
      have hnew : nameKey (tableOf name).name ∉ db.tables.items.map keyOf := fun hmem =>
        (List.nodup_append'.1 hdistinct).2.2 hmem List.mem_cons_self
      obtain ⟨next, hadd, hitems⟩ := addTable_new hnew
      have hnext : (next.tables.items.map keyOf ++ names.map nameKey).Nodup := by
        rw [hitems, List.map_append, List.append_assoc]
        exact hdistinct
      rw [readTables, run_bind (hreadFirst log)]
      simp only [hadd]
      obtain ⟨result, hresult, htables⟩ := ih hnames hreadNames hnext _
      refine ⟨result, hresult, ?_⟩
      rw [htables, hitems, List.append_assoc]
      rfl

/-- Schemas look alike if the tables of one are those of the other, each in a version that looks like it. -/
theorem alike_of_items {live db : Database} {names : List String} {tableOf : String → Table}
    (hitems : live.tables.items = names.map tableOf) (hname : ∀ name ∈ names, (tableOf name).name = name)
    (hperm : names.Perm (db.tables.items.map (·.name)))
    (halike : ∀ table ∈ db.tables.items, (tableOf table.name).Alike table) : live.Alike db := by
  intro name
  cases hfound : db.table? name with
  | none =>
      have hnone : live.table? name = none := by
        rw [Database.table?, NameMap.get?_eq_none_iff, hitems]
        intro table hmem
        obtain ⟨other, hother, rfl⟩ := List.mem_map.1 hmem
        obtain ⟨original, horiginal, rfl⟩ := List.mem_map.1 (hperm.mem_iff.1 hother)
        have hdifferent : sameName original.name name = false := NameMap.get?_eq_none_iff.1 hfound original horiginal
        have hsame : (tableOf original.name).name = original.name := hname _ hother
        change sameName (tableOf original.name).name name = false
        rw [hsame, hdifferent]
      rw [hnone]
      exact .none
  | some table =>
      have htable := Database.mem_tables_of_table? hfound
      have hmem : table.name ∈ names := hperm.mem_iff.2 (List.mem_map_of_mem htable)
      have hlive : live.table? name = some (tableOf table.name) := by
        refine NameMap.get?_eq_some_iff.2 ⟨?_, ?_⟩
        · rw [hitems]
          exact List.mem_map_of_mem hmem
        · have hsame : sameName (tableOf table.name).name name = true := by
            rw [hname _ hmem]
            exact Database.sameName_of_table? hfound
          exact hsame
      rw [hlive]
      exact .some (halike table htable)

/-- What is read from a catalog that describes a schema looks like the schema. -/
theorem introspect_described {db : Database} (h : source.Describes schema db)
    (hregistered : ∀ table ∈ db.tables.items, ∀ field ∈ table.fields, Registered field.type)
    (hsystem : ∀ table ∈ db.tables.items, table.name ∉ systemTables) (log : List Query) :
    ∃ live, ((introspect source schema).run.run log).1 = .ok live ∧ live.Alike db := by
  obtain ⟨names, hnames, hperm⟩ := h.tables
  have hkept : names.filter (fun name => !systemTables.contains name) = names := by
    rw [List.filter_eq_self]
    intro name hmem
    obtain ⟨table, htable, rfl⟩ := List.mem_map.1 (hperm.mem_iff.1 hmem)
    simpa using hsystem table htable
  have hlisted : ((tableNames source schema).run.run log).1 = .ok names := by
    rw [tableNames, run_bind (run_ask hnames _), hkept]
    rfl
  have hrows : ∀ name ∈ names, ∃ rows, source.Answers schema name rows
      ∧ ∀ table ∈ db.tables.items, table.name = name → rows.Describes table := by
    intro name hmem
    obtain ⟨table, htable, rfl⟩ := List.mem_map.1 (hperm.mem_iff.1 hmem)
    obtain ⟨rows, hanswers, hdescribes⟩ := h.rows table htable
    refine ⟨rows, hanswers, fun other hother hsame => ?_⟩
    have heq : other = table := NameMap.eq_of_sameName hother htable (sameName_iff.2 (congrArg nameKey hsame))
    rwa [heq]
  have : Nonempty TableRows := ⟨{}⟩
  choose! rowsOf hanswers hdescribes using hrows
  have hname : ∀ name ∈ names, ((rowsOf name).table name).name = name := fun _ _ => rfl
  have hdistinct : ((({} : Database).tables.items).map keyOf ++ names.map nameKey).Nodup := by
    have hkeys : (names.map nameKey).Perm (db.tables.items.map keyOf) := by
      have hmapped := hperm.map nameKey
      rwa [List.map_map] at hmapped
    exact hkeys.nodup_iff.2 db.tables.distinct
  obtain ⟨live, hlive, hitems⟩ := run_readTables hname (fun name hmem => run_readTable (hanswers name hmem))
    hdistinct ((tableNames source schema).run.run log).2
  refine ⟨live, ?_, alike_of_items hitems hname hperm fun table htable => ?_⟩
  · rw [introspect, run_bind hlisted]
    exact hlive
  · have hmem : table.name ∈ names := hperm.mem_iff.2 (List.mem_map_of_mem htable)
    exact alike_of_describes (hdescribes _ hmem table htable rfl) (hregistered table htable)

end Inquiries

end Catalog

end SchemaMigrate
