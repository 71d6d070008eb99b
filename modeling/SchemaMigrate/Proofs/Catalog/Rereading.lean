import SchemaMigrate.Proofs.Catalog.Effects

/-!
What is read again once statements have been carried out. What was found before is found again, with the names of
its columns, its foreign keys and its indexes, and what is new is what the statements added. Main statement: if the
tables that are created have names of their own, then the catalog can be read again.
-/

namespace SchemaMigrate

namespace Catalog

section Remaining

variable (reporter : Reporter) {entries : List Entry} {statements : List Sql.Statement} {table : String}

/-- A table that is there was there, or a statement has created it. -/
theorem Coherent.table_mem_iff (h : Coherent statements) {name : String} :
    .table name ∈ reporter.afterAll entries statements ↔
      .table name ∈ entries ∨ ∃ fields constraint, .createTable name fields constraint ∈ statements := by
  rw [h.mem_afterAll_iff]
  constructor
  · rintro (⟨old, hold, hchanged⟩ | ⟨statement, hmem, -, hadded⟩)
    · obtain rfl := eq_of_changedAll reporter (by simp) hchanged
      exact .inl hold
    · obtain ⟨fields, constraint, rfl⟩ := of_table_mem_added reporter hadded
      exact .inr ⟨fields, constraint, hmem⟩
  · rintro (hold | ⟨fields, constraint, hmem⟩)
    · exact .inl ⟨_, hold, changedAll_of_not_column reporter (by simp)⟩
    · exact .inr ⟨_, hmem, id, List.mem_cons_self⟩

/-- A column that is there was there under its name, or came with its table, or was added to it. -/
theorem Coherent.column_cases (h : Coherent statements) (hcolumn : .column table row ∈ reporter.afterAll entries statements) :
    (∃ old, .column table old ∈ entries ∧ row = reporter.changedRowAll table old statements) ∨
    (∃ fields constraint field, .createTable table fields constraint ∈ statements ∧ field ∈ fields
      ∧ row = reporter.column field none) ∨
    ∃ field default, .addColumn table field default ∈ statements ∧ row = reporter.column field default := by
  rcases (h.mem_afterAll_iff reporter).1 hcolumn with ⟨old, hold, hchanged⟩ | ⟨statement, hmem, -, hadded⟩
  · left
    cases old with
    | column owner before =>
        rw [changedAll_column] at hchanged
        cases hchanged
        exact ⟨before, hold, rfl⟩
    | table | primaryKey | foreignKey | index =>
        rw [changedAll_of_not_column reporter (by simp)] at hchanged
        cases hchanged
  · rcases of_column_mem_added reporter hadded with ⟨fields, constraint, field, rfl, hfield, rfl⟩ | ⟨field, default, rfl, rfl⟩
    · exact .inr (.inl ⟨fields, constraint, field, hmem, hfield, rfl⟩)
    · exact .inr (.inr ⟨field, default, hmem, rfl⟩)

theorem Coherent.foreignKey_mem_iff (h : Coherent statements) {constraint : String} {row : ForeignKeyRow} :
    .foreignKey table constraint row ∈ reporter.afterAll entries statements ↔
      .foreignKey table constraint row ∈ entries ∨
      ∃ key, .addForeignKey table key constraint ∈ statements
        ∧ row = { column := key.column, target := key.target, targetColumn := key.targetColumn } := by
  rw [h.mem_afterAll_iff]
  constructor
  · rintro (⟨old, hold, hchanged⟩ | ⟨statement, hmem, -, hadded⟩)
    · obtain rfl := eq_of_changedAll reporter (by simp) hchanged
      exact .inl hold
    · obtain ⟨key, rfl, hrow⟩ := of_foreignKey_mem_added reporter hadded
      exact .inr ⟨key, hmem, hrow⟩
  · rintro (hold | ⟨key, hmem, rfl⟩)
    · exact .inl ⟨_, hold, changedAll_of_not_column reporter (by simp)⟩
    · exact .inr ⟨_, hmem, id, List.mem_singleton_self _⟩

/-- An index that is there was there, or a statement that was not idle has created it. -/
theorem Coherent.index_mem_iff (h : Coherent statements) {row : IndexRow} :
    .index table row ∈ reporter.afterAll entries statements ↔
      .index table row ∈ entries ∨
      ∃ index, .createIndex index ∈ statements ∧ ¬Idle entries (.createIndex index) ∧ table = index.table
        ∧ row = { name := index.name, columns := index.columns, unique := index.unique } := by
  rw [h.mem_afterAll_iff]
  constructor
  · rintro (⟨old, hold, hchanged⟩ | ⟨statement, hmem, hbusy, hadded⟩)
    · obtain rfl := eq_of_changedAll reporter (by simp) hchanged
      exact .inl hold
    · obtain ⟨index, rfl, hrow⟩ := of_index_mem_added reporter hadded
      exact .inr ⟨index, hmem, hbusy, hrow⟩
  · rintro (hold | ⟨index, hmem, hbusy, rfl, rfl⟩)
    · exact .inl ⟨_, hold, changedAll_of_not_column reporter (by simp)⟩
    · exact .inr ⟨_, hmem, hbusy, List.mem_singleton_self _⟩

end Remaining

attribute [local irreducible] nameKey

section Tables

variable {entries : List Entry} {table name : String}

theorem field?_tableOf_eq_none_iff : (tableOf entries table).field? name = none ↔
    ∀ row, .column table row ∈ entries → sameName row.name name = false := by
  rw [Table.field?, findNamed?, List.find?_eq_none]
  simp only [← mem_columns_iff]
  constructor
  · intro h row hrow
    exact Bool.eq_false_iff.2 (h _ (List.mem_map_of_mem hrow))
  · intro h field hfield
    obtain ⟨row, hrow, rfl⟩ := List.mem_map.1 hfield
    exact Bool.eq_false_iff.1 (h row hrow)

theorem type_field?_tableOf : ((tableOf entries table).field? name).map Field.type =
    ((rowsOf entries table).columns.find? fun row => sameName row.name name).map ColumnRow.columnType := by
  change (List.find? _ ((rowsOf entries table).columns.map _)).map _ = _
  rw [List.find?_map, Option.map_map]
  rfl

theorem any_foreignKeys_tableOf_iff {key : ForeignKey} :
    (tableOf entries table).foreignKeys.any (sameForeignKey key) = true ↔
      ∃ constraint row, .foreignKey table constraint row ∈ entries ∧ row.outline = key.outline := by
  rw [Plan.any_sameForeignKey_iff]
  change key.outline ∈ ((rowsOf entries table).foreignKeys.map _).map _ ↔ _
  rw [List.map_map, List.mem_map]
  constructor
  · rintro ⟨row, hrow, houtline⟩
    obtain ⟨constraint, hmem⟩ := mem_foreignKeys_iff.1 hrow
    exact ⟨constraint, row, hmem, houtline⟩
  · rintro ⟨constraint, row, hmem, houtline⟩
    exact ⟨row, mem_foreignKeys_iff.2 ⟨constraint, hmem⟩, houtline⟩

theorem any_indexes_tableOf_iff {index : Index} :
    (tableOf entries table).indexes.any (sameIndex index) = true ↔
      ∃ row, .index table row ∈ entries ∧ row.outline = index.outline := by
  rw [Plan.any_sameIndex_iff]
  change index.outline ∈ ((rowsOf entries table).indexes.map _).map _ ↔ _
  rw [List.map_map, List.mem_map]
  exact exists_congr fun row => and_congr_left fun _ => mem_indexes_iff

end Tables

section Rereading

variable (reporter : Reporter) {entries : List Entry} {statements : List Sql.Statement} {table name : String}
  {live reread : Database}

theorem columns_after (statement : Sql.Statement) : ∃ new, (rowsOf (reporter.after entries statement) table).columns =
    (rowsOf entries table).columns.map (reporter.changedRow table · statement) ++ new := by
  have hchanged : (entries.map (reporter.changed statement)).filterMap (Entry.columnOf? table) =
      (entries.filterMap (Entry.columnOf? table)).map (reporter.changedRow table · statement) := by
    rw [List.filterMap_map, List.map_filterMap]
    refine List.filterMap_congr fun entry _ => ?_
    cases entry with
    | column owner row =>
        simp only [Function.comp, changed_column, Entry.columnOf?]
        split
        · rename_i howner
          subst howner
          rfl
        · rfl
    | table | primaryKey | foreignKey | index => rfl
  unfold Reporter.after
  split
  · rename_i hidle
    refine ⟨[], ?_⟩
    rw [List.append_nil, rowsOf, ← hchanged, List.map_congr_left fun entry _ => changed_of_idle reporter hidle entry,
      List.map_id'']
    exact fun _ => rfl
  · rw [rowsOf, List.filterMap_append, hchanged]
    exact ⟨_, rfl⟩

/-- The columns of a table are found in their old order, the new ones behind them. -/
theorem columns_afterAll : ∃ new, (rowsOf (reporter.afterAll entries statements) table).columns =
    (rowsOf entries table).columns.map (reporter.changedRowAll table · statements) ++ new := by
  induction statements using List.reverseRecOn with
  | nil => exact ⟨[], by simp [Reporter.afterAll, Reporter.changedRowAll]⟩
  | append_singleton statements statement ih =>
      obtain ⟨earlier, hearlier⟩ := ih
      rw [afterAll_concat]
      obtain ⟨new, hnew⟩ := @columns_after reporter (reporter.afterAll entries statements) table statement
      rw [hnew, hearlier, List.map_append, List.map_map, List.append_assoc]
      simp only [changedRowAll_concat]
      exact ⟨_, rfl⟩

/-- A field is decided on as before if its column was there and is not changed. -/
theorem decideColumn_afterAll {field : Field} (hfield : (tableOf entries table).field? field.name ≠ none)
    (hkept : ∀ row, .column table row ∈ entries → sameName row.name field.name = true →
      reporter.changedRowAll table row statements = row) :
    decideColumn (tableOf (reporter.afterAll entries statements) table) field =
      decideColumn (tableOf entries table) field := by
  have hfound : ∃ row, (rowsOf entries table).columns.find? (fun row => sameName row.name field.name) = some row := by
    rw [← Option.ne_none_iff_exists']
    intro hnone
    have htype := @type_field?_tableOf entries table field.name
    rw [hnone, Option.map_none, Option.map_eq_none_iff] at htype
    exact hfield htype
  obtain ⟨row, hrow⟩ := hfound
  have hmem : .column table row ∈ entries := mem_columns_iff.1 (List.mem_of_find?_eq_some hrow)
  have hname := List.find?_some hrow
  obtain ⟨new, hnew⟩ := columns_afterAll reporter
  apply decideColumn_of_type
  rw [type_field?_tableOf, type_field?_tableOf, hnew, List.find?_append, List.find?_map]
  simp only [Function.comp_def, name_changedRowAll, hrow, Option.map_some, Option.some_or, hkept row hmem hname]

variable (hlive : readEntries entries = .ok live)
  (hreread : readEntries (reporter.afterAll entries statements) = .ok reread)

include hlive in
theorem hasTable_eq_false_iff : live.hasTable name = false ↔
    ∀ table ∈ visibleTables entries, sameName table name = false := by
  rw [Database.hasTable_eq_false_iff, Option.eq_none_iff_forall_ne_some]
  simp only [ne_eq, table?_readEntries_iff hlive]
  constructor
  · intro h table hmem
    exact Bool.eq_false_iff.2 fun hsame => h _ ⟨table, hmem, hsame, rfl⟩
  · rintro h found ⟨table, hmem, hsame, -⟩
    exact Bool.eq_false_iff.1 (h table hmem) hsame

variable (hcoherent : Coherent statements)

include hcoherent

theorem visibleTables_afterAll_iff : table ∈ visibleTables (reporter.afterAll entries statements) ↔
    table ∈ visibleTables entries ∨
      systemTables.contains table = false ∧ ∃ fields constraint, .createTable table fields constraint ∈ statements := by
  rw [mem_visibleTables_iff, mem_visibleTables_iff, hcoherent.table_mem_iff, or_and_right]
  exact or_congr_right and_comm

include hlive hreread in
/-- A table that was found is found again. -/
theorem table?_reread {found : Table} (h : live.table? name = some found) :
    ∃ table ∈ visibleTables entries, sameName table name = true ∧ found = tableOf entries table ∧
      reread.table? name = some (tableOf (reporter.afterAll entries statements) table) := by
  obtain ⟨table, hmem, hsame, rfl⟩ := (table?_readEntries_iff hlive).1 h
  refine ⟨table, hmem, hsame, rfl, (table?_readEntries_iff hreread).2 ⟨table, ?_, hsame, rfl⟩⟩
  exact (visibleTables_afterAll_iff reporter hcoherent).2 (.inl hmem)

include hlive hreread in
/-- A table that was not found and is found now was created. -/
theorem table?_reread_new {found : Table} (hnone : live.table? name = none) (h : reread.table? name = some found) :
    ∃ table fields constraint, sameName table name = true ∧ .createTable table fields constraint ∈ statements ∧
      found = tableOf (reporter.afterAll entries statements) table := by
  obtain ⟨table, hmem, hsame, rfl⟩ := (table?_readEntries_iff hreread).1 h
  rcases (visibleTables_afterAll_iff reporter hcoherent).1 hmem with hold | ⟨-, fields, constraint, hcreated⟩
  · have hfound := (table?_readEntries_iff hlive).2 ⟨table, hold, hsame, rfl⟩
    rw [hnone] at hfound
    cases hfound
  · exact ⟨table, fields, constraint, hsame, hcreated, rfl⟩

end Rereading

section Names

variable (reporter : Reporter) {entries : List Entry} {statements : List Sql.Statement}

/-- A statement brings at most the table that it creates. -/
theorem visibleTables_after (statement : Sql.Statement) :
    visibleTables (reporter.after entries statement) = visibleTables entries ∨
      ∃ table fields constraint, statement = .createTable table fields constraint ∧
        visibleTables (reporter.after entries statement) = visibleTables entries ++ [table] := by
  have hchanged : (entries.map (reporter.changed statement)).filterMap Entry.tableName? =
      entries.filterMap Entry.tableName? := by
    rw [List.filterMap_map]
    refine List.filterMap_congr fun entry _ => ?_
    cases entry <;> rfl
  unfold Reporter.after
  split
  · exact .inl rfl
  · rw [visibleTables, List.filterMap_append, hchanged, List.filter_append]
    cases statement with
    | createTable table fields constraint =>
        have hadded : (reporter.added (.createTable table fields constraint)).filterMap Entry.tableName? = [table] := by
          simp [Reporter.added, Entry.tableName?, List.filterMap_map, Function.comp_def]
        rw [hadded]
        by_cases hsystem : table ∈ systemTables
        · exact .inl (by simp [visibleTables, hsystem])
        · exact .inr ⟨table, fields, constraint, rfl, by simp [visibleTables, hsystem]⟩
    | addColumn | addForeignKey | createIndex | dropDefault | alterType => exact .inl (List.append_nil _)

/-- A catalog whose tables have different names keeps them different, if what is created has a name of its own. -/
theorem nodup_afterAll (hcarries : reporter.Carries entries statements) (hcoherent : Coherent statements)
    (hstart : ((visibleTables entries).map nameKey).Nodup)
    (hnew : ∀ table fields constraint, .createTable table fields constraint ∈ statements →
      ∀ other ∈ visibleTables entries, sameName other table = false)
    (hdistinct : ∀ table fields constraint, .createTable table fields constraint ∈ statements →
      ∀ other fields constraint, .createTable other fields constraint ∈ statements →
        sameName other table = true → other = table) :
    ((visibleTables (reporter.afterAll entries statements)).map nameKey).Nodup := by
  induction statements using List.reverseRecOn with
  | nil => exact hstart
  | append_singleton statements statement ih =>
      have hsub : statements ⊆ statements ++ [statement] := List.subset_append_left _ _
      have hbefore := hcoherent.of_subset hsub
      obtain ⟨hcarries, haccepts, -⟩ := (carries_append_iff reporter).1 hcarries
      have hnodup := ih hcarries hbefore (fun table fields constraint hmem => hnew table fields constraint (hsub hmem))
        fun table fields constraint hmem other fields constraint hother =>
          hdistinct table _ _ (hsub hmem) other fields constraint (hsub hother)
      rw [afterAll_concat]
      rcases @visibleTables_after reporter (reporter.afterAll entries statements) statement with
        hsame | ⟨table, fields, constraint, rfl, hadded⟩
      · rwa [hsame]
      · have hcreated : .createTable table fields constraint ∈ statements ++ [.createTable table fields constraint] :=
          List.mem_append_right _ (List.mem_singleton_self _)
        have hfree : .table table ∉ reporter.afterAll entries statements := (haccepts.resolve_left id).1
        rw [hadded, List.map_append, List.nodup_append']
        refine ⟨hnodup, List.nodup_singleton _, fun key hold hkey => ?_⟩
        obtain ⟨other, hother, rfl⟩ := List.mem_map.1 hold
        have hsame : sameName other table = true := sameName_iff.2 (List.mem_singleton.1 hkey)
        rcases (visibleTables_afterAll_iff reporter hbefore).1 hother with hstart | ⟨-, fields, constraint, hmem⟩
        · rw [hnew table _ _ hcreated other hstart] at hsame
          cases hsame
        · obtain rfl := hdistinct table _ _ hcreated other fields constraint (hsub hmem) hsame
          exact hfree ((mem_visibleTables_iff).1 hother).1

end Names

end Catalog

end SchemaMigrate
