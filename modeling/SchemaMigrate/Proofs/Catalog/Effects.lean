import Mathlib.Data.List.Induction
import SchemaMigrate.Proofs.Catalog.Entries
import SchemaMigrate.Proofs.Sql.Statement

/-!
What statements do to a catalog. A statement adds entries or changes columns; nothing is removed. Main statement:
what a course of statements leaves does not depend on their order, nor on how often each of them was carried
out, as long as the statements speak of the same columns and give their indexes different names.

A default that a column is filled through is dropped by a statement of its own. Where both statements are carried
out, the column might as well have been added without the default, so courses are compared after such pairs are
put into one.
-/

namespace SchemaMigrate

/-- The columns that a statement makes or alters, each with its table. -/
def Sql.Statement.columns : Sql.Statement → List (String × Field)
  | .createTable table fields _ => fields.map (table, ·)
  | .addColumn table field _ | .alterType table field => [(table, field)]
  | .dropDefault .. | .addForeignKey .. | .createIndex _ => []

namespace Catalog

/-- What the catalog reports about a type. -/
structure ReportedType where
  type : String
  charLength : Option Int := none
  numericPrecision : Option Int := none
  numericScale : Option Int := none
deriving Repr, DecidableEq

/-- How the catalog reports the types and defaults that statements write. -/
structure Reporter where
  type : String → ReportedType
  default : String → String

def ColumnRow.retyped (row : ColumnRow) (reported : ReportedType) : ColumnRow :=
  { row with
    type := reported.type
    charLength := reported.charLength
    numericPrecision := reported.numericPrecision
    numericScale := reported.numericScale }

/-- The row about a column that a statement made. -/
def Reporter.column (reporter : Reporter) (field : Field) (default : Option String) : ColumnRow where
  name := field.name
  type := (reporter.type field.type.sql).type
  charLength := (reporter.type field.type.sql).charLength
  numericPrecision := (reporter.type field.type.sql).numericPrecision
  numericScale := (reporter.type field.type.sql).numericScale
  nullable := if field.nullable then "YES" else "NO"
  identity := if field.identity then "YES" else "NO"
  default := default.map reporter.default

def Entry.indexName? : Entry → Option String
  | .index _ row => some row.name
  | .table .. | .column .. | .primaryKey .. | .foreignKey .. => none

def Entry.constraintOf? (table : String) : Entry → Option String
  | .foreignKey owner name _ => if owner = table then some name else none
  | .table .. | .column .. | .primaryKey .. | .index .. => none

def HasColumn (entries : List Entry) (table name : String) : Prop :=
  name ∈ (rowsOf entries table).columns.map (·.name)

def HasIndex (entries : List Entry) (name : String) : Prop := name ∈ entries.filterMap Entry.indexName?

def HasConstraint (entries : List Entry) (table name : String) : Prop :=
  name ∈ entries.filterMap (Entry.constraintOf? table)

instance (entries : List Entry) (table name : String) : Decidable (HasColumn entries table name) :=
  inferInstanceAs (Decidable (_ ∈ _))

instance (entries : List Entry) (name : String) : Decidable (HasIndex entries name) :=
  inferInstanceAs (Decidable (_ ∈ _))

instance (entries : List Entry) (table name : String) : Decidable (HasConstraint entries table name) :=
  inferInstanceAs (Decidable (_ ∈ _))

/-- An index that supports a foreign key is not created if its name is taken. -/
def Idle (entries : List Entry) : Sql.Statement → Prop
  | .createIndex index => index.supports = true ∧ HasIndex entries index.name
  | .createTable .. | .addColumn .. | .dropDefault .. | .alterType .. | .addForeignKey .. => False

/-- What a statement creates is not there yet. -/
def Free (entries : List Entry) : Sql.Statement → Prop
  | .createTable table _ _ => .table table ∉ entries
  | .addColumn table field _ => ¬HasColumn entries table field.name
  | .addForeignKey table _ constraint => ¬HasConstraint entries table constraint
  | .createIndex index => ¬HasIndex entries index.name
  | .dropDefault .. | .alterType .. => True

/-- What a statement refers to is there. -/
def Founded (entries : List Entry) : Sql.Statement → Prop
  | .createTable .. => True
  | .addColumn table _ _ => .table table ∈ entries
  | .dropDefault table column => HasColumn entries table column
  | .alterType table field => HasColumn entries table field.name
  | .addForeignKey table key _ => HasColumn entries table key.column ∧ HasColumn entries key.target key.targetColumn
  | .createIndex index => ∀ column ∈ index.columns, HasColumn entries index.table column

/-- The conditions under which a statement is carried out. -/
def Accepts (entries : List Entry) (statement : Sql.Statement) : Prop :=
  Idle entries statement ∨ Free entries statement ∧ Founded entries statement

instance (entries : List Entry) : (statement : Sql.Statement) → Decidable (Idle entries statement)
  | .createIndex _ => inferInstanceAs (Decidable (_ ∧ _))
  | .createTable .. | .addColumn .. | .dropDefault .. | .alterType .. | .addForeignKey .. =>
      inferInstanceAs (Decidable False)

instance (entries : List Entry) : (statement : Sql.Statement) → Decidable (Free entries statement)
  | .createTable .. | .addColumn .. | .addForeignKey .. | .createIndex _ => inferInstanceAs (Decidable (¬_))
  | .dropDefault .. | .alterType .. => inferInstanceAs (Decidable True)

instance (entries : List Entry) : (statement : Sql.Statement) → Decidable (Founded entries statement)
  | .createTable .. => inferInstanceAs (Decidable True)
  | .addColumn .. => inferInstanceAs (Decidable (_ ∈ _))
  | .dropDefault table column => inferInstanceAs (Decidable (HasColumn entries table column))
  | .alterType table field => inferInstanceAs (Decidable (HasColumn entries table field.name))
  | .addForeignKey .. => inferInstanceAs (Decidable (_ ∧ _))
  | .createIndex _ => inferInstanceAs (Decidable (∀ _ ∈ _, _))

instance (entries : List Entry) (statement : Sql.Statement) : Decidable (Accepts entries statement) :=
  inferInstanceAs (Decidable (_ ∨ _))

namespace Reporter

variable (reporter : Reporter)

/-- What a statement makes of the row about a column. -/
def changedRow (table : String) (row : ColumnRow) : Sql.Statement → ColumnRow
  | .dropDefault owner column => if owner = table ∧ column = row.name then { row with default := none } else row
  | .alterType owner field =>
      if owner = table ∧ field.name = row.name then row.retyped (reporter.type field.type.sql) else row
  | .createTable .. | .addColumn .. | .addForeignKey .. | .createIndex _ => row

/-- What a statement makes of an entry. -/
def changed (statement : Sql.Statement) : Entry → Entry
  | .column table row => .column table (reporter.changedRow table row statement)
  | entry => entry

/-- The entries that a statement adds. -/
def added : Sql.Statement → List Entry
  | .createTable table fields _ =>
      .table table :: fields.map (fun field => .column table (reporter.column field none))
        ++ (fields.filter (·.primaryKey)).map fun field => .primaryKey table field.name
  | .addColumn table field default => [.column table (reporter.column field default)]
  | .addForeignKey table key constraint =>
      [.foreignKey table constraint
        { column := key.column, target := key.target, targetColumn := key.targetColumn }]
  | .createIndex index =>
      [.index index.table { name := index.name, columns := index.columns, unique := index.unique }]
  | .dropDefault .. | .alterType .. => []

/-- A catalog after a statement was carried out. -/
def after (entries : List Entry) (statement : Sql.Statement) : List Entry :=
  if Idle entries statement then entries else entries.map (reporter.changed statement) ++ reporter.added statement

/-- A catalog after statements were carried out in order. -/
def afterAll (entries : List Entry) (statements : List Sql.Statement) : List Entry :=
  statements.foldl reporter.after entries

/-- Every one of the statements is accepted when its turn comes. -/
def Carries (entries : List Entry) : List Sql.Statement → Prop
  | [] => True
  | statement :: statements => Accepts entries statement ∧ Carries (reporter.after entries statement) statements

end Reporter

section Presence

variable {entries : List Entry} {entry : Entry} {table name : String}

theorem hasColumn_iff : HasColumn entries table name ↔ ∃ row, .column table row ∈ entries ∧ row.name = name := by
  simp [HasColumn, mem_columns_iff]

theorem indexName?_eq_some : entry.indexName? = some name ↔ ∃ table row, entry = .index table row ∧ row.name = name := by
  cases entry <;> simp [Entry.indexName?]

theorem constraintOf?_eq_some :
    entry.constraintOf? table = some name ↔ ∃ row, entry = .foreignKey table name row := by
  cases entry <;> simp [Entry.constraintOf?, and_comm]

theorem hasIndex_iff : HasIndex entries name ↔ ∃ table row, .index table row ∈ entries ∧ row.name = name := by
  simp only [HasIndex, List.mem_filterMap, indexName?_eq_some]
  constructor
  · rintro ⟨_, hmem, table, row, rfl, hname⟩
    exact ⟨table, row, hmem, hname⟩
  · rintro ⟨table, row, hmem, hname⟩
    exact ⟨_, hmem, table, row, rfl, hname⟩

theorem hasConstraint_iff : HasConstraint entries table name ↔ ∃ row, .foreignKey table name row ∈ entries := by
  simp only [HasConstraint, List.mem_filterMap, constraintOf?_eq_some]
  constructor
  · rintro ⟨_, hmem, row, rfl⟩
    exact ⟨row, hmem⟩
  · rintro ⟨row, hmem⟩
    exact ⟨_, hmem, row, rfl⟩

end Presence

section Steps

variable (reporter : Reporter) {entries : List Entry} {entry : Entry} {statement other : Sql.Statement}

@[simp] theorem changed_column (table : String) (row : ColumnRow) :
    reporter.changed statement (.column table row) = .column table (reporter.changedRow table row statement) := rfl

@[simp] theorem name_changedRow (table : String) (row : ColumnRow) :
    (reporter.changedRow table row statement).name = row.name := by
  cases statement <;> simp only [Reporter.changedRow] <;> split <;> rfl

/-- Only columns are changed, and they keep their table. -/
theorem changed_cases (statement : Sql.Statement) (entry : Entry) :
    reporter.changed statement entry = entry ∨
      ∃ table row, entry = .column table row ∧
        reporter.changed statement entry = .column table (reporter.changedRow table row statement) := by
  cases entry with
  | column table row => exact .inr ⟨table, row, rfl, rfl⟩
  | table | primaryKey | foreignKey | index => exact .inl rfl

theorem changed_of_idle (h : Idle entries statement) (entry : Entry) : reporter.changed statement entry = entry := by
  cases statement with
  | createIndex index => cases entry <;> rfl
  | createTable | addColumn | dropDefault | alterType | addForeignKey => exact h.elim

/-- What there is after a statement was there, or was added. -/
theorem mem_after_iff : entry ∈ reporter.after entries statement ↔
    (∃ old ∈ entries, reporter.changed statement old = entry) ∨
      ¬Idle entries statement ∧ entry ∈ reporter.added statement := by
  unfold Reporter.after
  split
  · rename_i hidle
    simp [hidle, changed_of_idle reporter hidle]
  · rename_i hidle
    simp [hidle]

theorem changed_mem_after (h : entry ∈ entries) : reporter.changed statement entry ∈ reporter.after entries statement :=
  (mem_after_iff reporter).2 (.inl ⟨entry, h, rfl⟩)

theorem HasColumn.after {table name : String} (h : HasColumn entries table name) :
    HasColumn (reporter.after entries statement) table name := by
  obtain ⟨row, hmem, hname⟩ := hasColumn_iff.1 h
  exact hasColumn_iff.2 ⟨_, changed_mem_after reporter hmem, (name_changedRow reporter table row).trans hname⟩

theorem HasIndex.after {name : String} (h : HasIndex entries name) :
    HasIndex (reporter.after entries statement) name := by
  obtain ⟨table, row, hmem, hname⟩ := hasIndex_iff.1 h
  exact hasIndex_iff.2 ⟨table, row, changed_mem_after reporter hmem, hname⟩

theorem HasConstraint.after {table name : String} (h : HasConstraint entries table name) :
    HasConstraint (reporter.after entries statement) table name := by
  obtain ⟨row, hmem⟩ := hasConstraint_iff.1 h
  exact hasConstraint_iff.2 ⟨row, changed_mem_after reporter hmem⟩

/-- Nothing is removed, so what is free after a statement was free before. -/
theorem Free.of_after (h : Free (reporter.after entries other) statement) : Free entries statement := by
  cases statement with
  | createTable table fields constraint => exact fun hmem => h (changed_mem_after reporter hmem)
  | addColumn table field default => exact fun hcolumn => h (hcolumn.after reporter)
  | addForeignKey table key constraint => exact fun hconstraint => h (hconstraint.after reporter)
  | createIndex index => exact fun hindex => h (hindex.after reporter)
  | dropDefault | alterType => trivial

end Steps

section Courses

variable (reporter : Reporter) {entries : List Entry} {first second statements : List Sql.Statement}

theorem afterAll_append :
    reporter.afterAll entries (first ++ second) = reporter.afterAll (reporter.afterAll entries first) second :=
  List.foldl_append

theorem afterAll_concat (statement : Sql.Statement) :
    reporter.afterAll entries (statements ++ [statement]) =
      reporter.after (reporter.afterAll entries statements) statement :=
  List.foldl_concat ..

theorem carries_append_iff : reporter.Carries entries (first ++ second) ↔
    reporter.Carries entries first ∧ reporter.Carries (reporter.afterAll entries first) second := by
  induction first generalizing entries with
  | nil => simp [Reporter.Carries, Reporter.afterAll]
  | cons statement first ih =>
      rw [List.cons_append, Reporter.Carries, Reporter.Carries, ih, and_assoc]
      rfl

/-- What a statement creates was not there at the start. -/
theorem Reporter.Carries.free (h : reporter.Carries entries statements) {statement : Sql.Statement}
    (hmem : statement ∈ statements) (hcreates : ∀ entries, ¬Idle entries statement) : Free entries statement := by
  induction statements generalizing entries with
  | nil => cases hmem
  | cons first statements ih =>
      obtain ⟨hfirst, hrest⟩ := h
      rcases List.mem_cons.1 hmem with rfl | hmem
      · exact (hfirst.resolve_left (hcreates entries)).1
      · exact (ih hrest hmem).of_after reporter

end Courses

section Pairs

variable (reporter : Reporter) {entries : List Entry} {table : String} {field : Field}

theorem after_addColumn (default : Option String) : reporter.after entries (.addColumn table field default) =
    entries ++ [.column table (reporter.column field default)] := by
  have hkept : ∀ entry ∈ entries, reporter.changed (.addColumn table field default) entry = entry := by
    intro entry _
    cases entry <;> rfl
  change entries.map _ ++ _ = _
  rw [List.map_congr_left hkept, List.map_id'']
  · rfl
  · exact fun _ => rfl

/-- A column that is filled through a default and loses it might have been added without one. -/
theorem after_dropDefault (hnew : ¬HasColumn entries table field.name) (default : Option String) :
    reporter.after (reporter.after entries (.addColumn table field default)) (.dropDefault table field.name) =
      reporter.after entries (.addColumn table field none) := by
  have hkept : ∀ entry ∈ entries, reporter.changed (.dropDefault table field.name) entry = entry := by
    intro entry hmem
    cases entry with
    | column owner row =>
        refine congrArg (Entry.column owner) (if_neg ?_)
        rintro ⟨rfl, hname⟩
        exact hnew (hasColumn_iff.2 ⟨row, hmem, hname.symm⟩)
    | table | primaryKey | foreignKey | index => rfl
  rw [after_addColumn, after_addColumn]
  change (entries ++ [_]).map _ ++ [] = _
  rw [List.append_nil, List.map_append, List.map_congr_left hkept, List.map_id'']
  · refine congrArg (entries ++ [·]) (congrArg (Entry.column table) ?_)
    exact if_pos ⟨rfl, rfl⟩
  · exact fun _ => rfl

end Pairs

section Added

variable (reporter : Reporter) {statement : Sql.Statement} {table name : String}

theorem of_table_mem_added (h : .table name ∈ reporter.added statement) :
    ∃ fields constraint, statement = .createTable name fields constraint := by
  cases statement with
  | createTable created fields constraint =>
      simp only [Reporter.added, List.cons_append, List.mem_cons, List.mem_append, List.mem_map, Entry.table.injEq,
        reduceCtorEq, and_false, exists_false, or_false] at h
      exact ⟨fields, constraint, by rw [h]⟩
  | addColumn | addForeignKey | createIndex => cases List.mem_singleton.1 h
  | dropDefault | alterType => cases h

/-- A column that a statement adds is one of a new table, or one that is added to a table. -/
theorem of_column_mem_added {row : ColumnRow} (h : .column table row ∈ reporter.added statement) :
    (∃ fields constraint field, statement = .createTable table fields constraint ∧ field ∈ fields
      ∧ row = reporter.column field none) ∨
    ∃ field default, statement = .addColumn table field default ∧ row = reporter.column field default := by
  cases statement with
  | createTable created fields constraint =>
      simp only [Reporter.added, List.cons_append, List.mem_cons, List.mem_append, List.mem_map, Entry.column.injEq,
        reduceCtorEq, and_false, exists_false, or_false, false_or] at h
      obtain ⟨field, hfield, rfl, rfl⟩ := h
      exact .inl ⟨fields, constraint, field, rfl, hfield, rfl⟩
  | addColumn created field default =>
      cases List.mem_singleton.1 h
      exact .inr ⟨field, default, rfl, rfl⟩
  | addForeignKey | createIndex => cases List.mem_singleton.1 h
  | dropDefault | alterType => cases h

theorem of_foreignKey_mem_added {row : ForeignKeyRow} (h : .foreignKey table name row ∈ reporter.added statement) :
    ∃ key, statement = .addForeignKey table key name
      ∧ row = { column := key.column, target := key.target, targetColumn := key.targetColumn } := by
  cases statement with
  | createTable created fields constraint => simp [Reporter.added] at h
  | addForeignKey created key constraint =>
      cases List.mem_singleton.1 h
      exact ⟨key, rfl, rfl⟩
  | addColumn | createIndex => cases List.mem_singleton.1 h
  | dropDefault | alterType => cases h

theorem of_index_mem_added {row : IndexRow} (h : .index table row ∈ reporter.added statement) :
    ∃ index, statement = .createIndex index ∧ table = index.table
      ∧ row = { name := index.name, columns := index.columns, unique := index.unique } := by
  cases statement with
  | createTable created fields constraint => simp [Reporter.added] at h
  | createIndex index =>
      cases List.mem_singleton.1 h
      exact ⟨index, rfl, rfl, rfl⟩
  | addColumn | addForeignKey => cases List.mem_singleton.1 h
  | dropDefault | alterType => cases h

end Added

/-- Statements that speak of the same columns and indexes. No default is dropped by them. -/
structure Coherent (statements : List Sql.Statement) : Prop where
  keeps : ∀ table column, .dropDefault table column ∉ statements
  columns : ∀ left ∈ statements, ∀ right ∈ statements, ∀ table field other, (table, field) ∈ left.columns →
    (table, other) ∈ right.columns → field.name = other.name → field = other
  indexes : ∀ left right, .createIndex left ∈ statements → .createIndex right ∈ statements →
    left.name = right.name → left = right

section Coherence

variable (reporter : Reporter) {entries : List Entry} {first second statements : List Sql.Statement}
  {entry : Entry} {statement : Sql.Statement}

theorem Coherent.of_subset (h : Coherent second) (hsub : first ⊆ second) : Coherent first where
  keeps table column hmem := h.keeps table column (hsub hmem)
  columns left hleft right hright := h.columns left (hsub hleft) right (hsub hright)
  indexes left right hleft hright := h.indexes left right (hsub hleft) (hsub hright)

/-- A statement leaves alone what one that agrees with it has added. -/
theorem Coherent.changed_added (h : Coherent statements) {other : Sql.Statement} (hstatement : statement ∈ statements)
    (hother : other ∈ statements) (hentry : entry ∈ reporter.added other) :
    reporter.changed statement entry = entry := by
  have hcolumn : ∀ table field default, (table, field) ∈ other.columns →
      reporter.changed statement (.column table (reporter.column field default)) =
        .column table (reporter.column field default) := by
    intro table field default hfield
    refine congrArg (Entry.column table) ?_
    cases statement with
    | dropDefault owner column => exact absurd hstatement (h.keeps owner column)
    | alterType owner altered =>
        by_cases hsame : owner = table ∧ altered.name = field.name
        · obtain ⟨rfl, hname⟩ := hsame
          obtain rfl := h.columns _ hstatement _ hother owner altered field (List.mem_singleton_self _) hfield hname
          exact if_pos ⟨rfl, rfl⟩
        · exact if_neg hsame
    | createTable | addColumn | addForeignKey | createIndex => rfl
  cases entry with
  | column table row =>
      rcases of_column_mem_added reporter hentry with ⟨fields, constraint, field, rfl, hfield, rfl⟩ | ⟨field, default, rfl, rfl⟩
      · exact hcolumn table field none (List.mem_map_of_mem hfield)
      · exact hcolumn table field default (List.mem_singleton_self _)
  | table | primaryKey | foreignKey | index => rfl

/-- What statements make of an entry. -/
def Reporter.changedAll (entry : Entry) (statements : List Sql.Statement) : Entry :=
  statements.foldl (fun entry statement => reporter.changed statement entry) entry

theorem changedAll_concat : reporter.changedAll entry (statements ++ [statement]) =
    reporter.changed statement (reporter.changedAll entry statements) :=
  List.foldl_concat ..

theorem changedAll_of_not_column (h : ∀ table row, entry ≠ .column table row) :
    reporter.changedAll entry statements = entry := by
  induction statements using List.reverseRecOn with
  | nil => rfl
  | append_singleton statements statement ih =>
      rw [changedAll_concat, ih]
      rcases changed_cases reporter statement entry with hsame | ⟨table, row, rfl, -⟩
      · exact hsame
      · exact absurd rfl (h table row)

/-- What statements make of the row about a column. -/
def Reporter.changedRowAll (table : String) (row : ColumnRow) (statements : List Sql.Statement) : ColumnRow :=
  statements.foldl (reporter.changedRow table) row

variable {table : String} {row : ColumnRow}

theorem changedRowAll_concat : reporter.changedRowAll table row (statements ++ [statement]) =
    reporter.changedRow table (reporter.changedRowAll table row statements) statement :=
  List.foldl_concat ..

theorem changedAll_column :
    reporter.changedAll (.column table row) statements = .column table (reporter.changedRowAll table row statements) := by
  induction statements using List.reverseRecOn with
  | nil => rfl
  | append_singleton statements statement ih => rw [changedAll_concat, ih, changedRowAll_concat, changed_column]

theorem name_changedRowAll : (reporter.changedRowAll table row statements).name = row.name := by
  induction statements using List.reverseRecOn with
  | nil => rfl
  | append_singleton statements statement ih => rw [changedRowAll_concat, name_changedRow, ih]

/-- A column that no statement alters keeps its row. -/
theorem Coherent.changedRowAll_eq_self (h : Coherent statements)
    (hkept : ∀ field, .alterType table field ∈ statements → field.name ≠ row.name) :
    reporter.changedRowAll table row statements = row := by
  induction statements using List.reverseRecOn with
  | nil => rfl
  | append_singleton statements statement ih =>
      have hlast : statement ∈ statements ++ [statement] := List.mem_append_right _ (List.mem_singleton_self _)
      rw [changedRowAll_concat, ih (h.of_subset (List.subset_append_left _ _))
        fun field hfield => hkept field (List.mem_append_left _ hfield)]
      cases statement with
      | dropDefault owner column => exact absurd hlast (h.keeps owner column)
      | alterType owner field =>
          refine if_neg ?_
          rintro ⟨rfl, hname⟩
          exact hkept field hlast hname
      | createTable | addColumn | addForeignKey | createIndex => rfl

/-- A column that some statement alters gets the type of the field. -/
theorem Coherent.changedRowAll_eq_retyped (h : Coherent statements) {field : Field}
    (hmem : .alterType table field ∈ statements) (hname : field.name = row.name) :
    reporter.changedRowAll table row statements = row.retyped (reporter.type field.type.sql) := by
  induction statements using List.reverseRecOn with
  | nil => cases hmem
  | append_singleton statements statement ih =>
      have hlast : statement ∈ statements ++ [statement] := List.mem_append_right _ (List.mem_singleton_self _)
      have hbefore : Coherent statements := h.of_subset (List.subset_append_left _ _)
      have hsame : ∀ other, .alterType table other ∈ statements ++ [statement] → other.name = row.name → other = field :=
        fun other hother hnamed => h.columns _ hother _ hmem table other field (List.mem_singleton_self _)
          (List.mem_singleton_self _) (hnamed.trans hname.symm)
      -- whichever statements came before, the row is as it was or has the type already
      have hrow : reporter.changedRowAll table row statements = row ∧ .alterType table field ∉ statements ∨
          reporter.changedRowAll table row statements = row.retyped (reporter.type field.type.sql) := by
        by_cases hearlier : .alterType table field ∈ statements
        · exact .inr (ih hbefore hearlier)
        · refine .inl ⟨hbefore.changedRowAll_eq_self reporter fun other hother hnamed => hearlier ?_, hearlier⟩
          rwa [← hsame other (List.mem_append_left _ hother) hnamed]
      rw [changedRowAll_concat]
      rcases hrow with ⟨hrow, hearlier⟩ | hrow
      · obtain rfl : .alterType table field = statement := by simpa [hearlier] using hmem
        rw [hrow]
        exact if_pos ⟨rfl, hname⟩
      · rw [hrow]
        cases statement with
        | dropDefault owner column => exact absurd hlast (h.keeps owner column)
        | alterType owner other =>
            by_cases hagain : owner = table ∧ other.name = row.name
            · obtain ⟨rfl, hnamed⟩ := hagain
              obtain rfl := hsame other hlast hnamed
              exact if_pos ⟨rfl, hnamed⟩
            · exact if_neg hagain
        | createTable | addColumn | addForeignKey | createIndex => rfl

/-- Two courses make the same of a column if they alter it alike. -/
theorem changedRowAll_congr (hfirst : Coherent first) (hsecond : Coherent second)
    (halter : ∀ field, field.name = row.name → (.alterType table field ∈ first ↔ .alterType table field ∈ second)) :
    reporter.changedRowAll table row first = reporter.changedRowAll table row second := by
  by_cases haltered : ∃ field, .alterType table field ∈ first ∧ field.name = row.name
  · obtain ⟨field, hmem, hname⟩ := haltered
    rw [hfirst.changedRowAll_eq_retyped reporter hmem hname,
      hsecond.changedRowAll_eq_retyped reporter ((halter field hname).1 hmem) hname]
  · rw [hfirst.changedRowAll_eq_self reporter fun field hmem hname => haltered ⟨field, hmem, hname⟩,
      hsecond.changedRowAll_eq_self reporter fun field hmem hname =>
        haltered ⟨field, (halter field hname).2 hmem, hname⟩]

theorem Idle.afterAll (h : Idle entries statement) : Idle (reporter.afterAll entries statements) statement := by
  induction statements using List.reverseRecOn with
  | nil => exact h
  | append_singleton statements last ih =>
      rw [afterAll_concat]
      cases statement with
      | createIndex index => exact ⟨ih.1, ih.2.after reporter⟩
      | createTable | addColumn | dropDefault | alterType | addForeignKey => exact ih

/-- Entries other than columns are what they were. -/
theorem eq_of_changedAll {old : Entry} (hentry : ∀ table row, entry ≠ .column table row)
    (h : reporter.changedAll old statements = entry) : old = entry := by
  cases old with
  | column table row =>
      rw [changedAll_column] at h
      exact absurd h.symm (hentry table _)
  | table | primaryKey | foreignKey | index => rwa [changedAll_of_not_column reporter (by simp)] at h

/-- What there is after statements was there, as they changed it, or was added by one of them. The order of the
statements does not matter. -/
theorem Coherent.mem_afterAll_iff (h : Coherent statements) : entry ∈ reporter.afterAll entries statements ↔
    (∃ old ∈ entries, reporter.changedAll old statements = entry) ∨
      ∃ statement ∈ statements, ¬Idle entries statement ∧ entry ∈ reporter.added statement := by
  induction statements using List.reverseRecOn generalizing entry with
  | nil => simp [Reporter.afterAll, Reporter.changedAll]
  | append_singleton statements statement ih =>
      have hbefore : Coherent statements := h.of_subset (List.subset_append_left _ _)
      have hlast : statement ∈ statements ++ [statement] := List.mem_append_right _ (List.mem_singleton_self _)
      have hkept : ∀ earlier ∈ statements, ∀ entry ∈ reporter.added earlier, reporter.changed statement entry = entry :=
        fun earlier hearlier entry => h.changed_added reporter hlast (List.mem_append_left _ hearlier)
      have ih {entry : Entry} := @ih entry hbefore
      rw [afterAll_concat, mem_after_iff]
      simp only [changedAll_concat]
      constructor
      · rintro (⟨old, hold, rfl⟩ | ⟨hbusy, hadded⟩)
        · rcases ih.1 hold with ⟨start, hstart, rfl⟩ | ⟨earlier, hearlier, hbusy, hadded⟩
          · exact .inl ⟨start, hstart, rfl⟩
          · refine .inr ⟨earlier, List.mem_append_left _ hearlier, hbusy, ?_⟩
            rwa [hkept earlier hearlier old hadded]
        · exact .inr ⟨statement, hlast, fun hidle => hbusy (hidle.afterAll reporter), hadded⟩
      · rintro (⟨start, hstart, rfl⟩ | ⟨earlier, hearlier, hbusy, hadded⟩)
        · exact .inl ⟨_, ih.2 (.inl ⟨start, hstart, rfl⟩), rfl⟩
        · by_cases hmem : earlier ∈ statements
          · exact .inl ⟨entry, ih.2 (.inr ⟨earlier, hmem, hbusy, hadded⟩), hkept earlier hmem entry hadded⟩
          · obtain rfl : earlier = statement := by simpa [hmem] using hearlier
            refine .inr ⟨fun hidle => hmem ?_, hadded⟩
            -- the name can only have been taken by the statement itself
            cases earlier with
            | createIndex index =>
                obtain ⟨table, row, hrow, hname⟩ := hasIndex_iff.1 hidle.2
                rcases ih.1 hrow with ⟨old, hold, hchanged⟩ | ⟨creating, hcreating, -, hcreated⟩
                · obtain rfl := eq_of_changedAll reporter (by simp) hchanged
                  exact absurd ⟨hidle.1, hasIndex_iff.2 ⟨table, row, hold, hname⟩⟩ hbusy
                · obtain ⟨other, rfl, -, rfl⟩ := of_index_mem_added reporter hcreated
                  rwa [← h.indexes other index (List.mem_append_left _ hcreating) hlast hname]
            | createTable | addColumn | dropDefault | alterType | addForeignKey => exact hidle.elim

/-- Two courses from one catalog leave the same entries if they have the same statements. The statements that
alter columns need only agree on columns that were there, and those that are idle do not matter. -/
theorem sameEntries_afterAll (hfirst : Coherent first) (hsecond : Coherent second)
    (halter : ∀ table row, .column table row ∈ entries → ∀ field, field.name = row.name →
      (.alterType table field ∈ first ↔ .alterType table field ∈ second))
    (hadded : ∀ statement, (∀ table field, statement ≠ .alterType table field) → ¬Idle entries statement →
      (statement ∈ first ↔ statement ∈ second)) :
    SameEntries (reporter.afterAll entries first) (reporter.afterAll entries second) := by
  intro entry
  rw [hfirst.mem_afterAll_iff, hsecond.mem_afterAll_iff]
  refine or_congr (exists_congr fun old => and_congr_right fun hold => ?_) (exists_congr fun statement => ?_)
  · cases old with
    | column table row =>
        rw [changedAll_column, changedAll_column,
          changedRowAll_congr reporter hfirst hsecond (halter table row hold)]
    | table | primaryKey | foreignKey | index =>
        rw [changedAll_of_not_column reporter (by simp), changedAll_of_not_column reporter (by simp)]
  · by_cases haltering : ∃ table field, statement = .alterType table field
    · obtain ⟨table, field, rfl⟩ := haltering
      simp [Reporter.added]
    · by_cases hidle : Idle entries statement
      · simp [hidle]
      · rw [hadded statement (fun table field hstatement => haltering ⟨table, field, hstatement⟩) hidle]

end Coherence

end Catalog

end SchemaMigrate
