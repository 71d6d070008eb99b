import SchemaMigrate.Proofs.Catalog.Rereading
import SchemaMigrate.Proofs.Model.WellBuilt
import SchemaMigrate.Proofs.Plan.Due

/-!
Planning again where some of the statements of a plan were carried out. Main statement: a step that was due is due
again, or one of its statements was carried out; except that an index is not asked for again once there is one over
the same columns, whatever its name. No step is due that was not due before, but for alterations.
-/

namespace SchemaMigrate

open Catalog Sql

attribute [local irreducible] nameKey

section Model

variable {target : Database} {table : Table}

theorem eq_of_fieldName (hbuilt : Model.WellBuilt target) (htable : table ∈ target.tables.items) {field other : Field}
    (hfield : field ∈ table.fields) (hother : other ∈ table.fields) (hsame : sameName field.name other.name = true) :
    field = other :=
  List.inj_on_of_nodup_map (hbuilt.tables table htable).fitting.fieldsDistinct hfield hother (sameName_iff.1 hsame)

theorem eq_of_keyColumn (hbuilt : Model.WellBuilt target) (htable : table ∈ target.tables.items)
    {key other : ForeignKey} (hkey : key ∈ table.foreignKeys) (hother : other ∈ table.foreignKeys)
    (hsame : nameKey key.column = nameKey other.column) : key = other :=
  List.inj_on_of_nodup_map (hbuilt.tables table htable).fitting.columnsDistinct hkey hother hsame

end Model

section Coherence

variable {target : Database} {limit : Int} {step : Step} {statement : Statement}

/-- The columns of a statement are fields of the model. -/
theorem Sql.Serves.columns (h : Serves target limit step statement) {name : String} {field : Field}
    (hfield : (name, field) ∈ statement.columns) :
    ∃ table ∈ target.tables.items, table.name = name ∧ field ∈ table.fields := by
  cases h with
  | @createTable table htable constraint =>
      obtain ⟨_, hmem, hsame⟩ := List.mem_map.1 hfield
      cases hsame
      exact ⟨table, htable, rfl, hmem⟩
  | @addColumn table _ htable hmem =>
      cases List.mem_singleton.1 hfield
      exact ⟨table, htable, rfl, hmem⟩
  | @alterColumn table _ htable hmem =>
      cases List.mem_singleton.1 hfield
      exact ⟨table, htable, rfl, hmem⟩
  | addForeignKey | support | addIndex => cases hfield

/-- Statements that serve a model speak of the same columns. -/
theorem coherent_of_serves (hbuilt : Model.WellBuilt target) {statements : List Statement}
    (hserves : ∀ statement ∈ statements, ∃ step, Serves target limit step statement)
    (hindexes : ∀ left right, .createIndex left ∈ statements → .createIndex right ∈ statements →
      left.name = right.name → left = right) : Coherent statements where
  keeps table column hmem := by
    obtain ⟨step, hstep⟩ := hserves _ hmem
    cases hstep
  columns left hleft right hright name field other hfield hother hsame := by
    obtain ⟨_, hleft⟩ := hserves left hleft
    obtain ⟨_, hright⟩ := hserves right hright
    obtain ⟨table, htable, rfl, hmem⟩ := hleft.columns hfield
    obtain ⟨again, hagain, hname, hotherMem⟩ := hright.columns hother
    obtain rfl : table = again := NameMap.eq_of_sameName htable hagain (sameName_iff.2 (congrArg nameKey hname.symm))
    exact eq_of_fieldName hbuilt htable hmem hotherMem (sameName_iff.2 (congrArg nameKey hsame))
  indexes := hindexes

end Coherence

namespace Plan

section Lookup

variable {live : Database} {table : Table}

theorem any_liveKeys_iff {p : ForeignKey → Bool} : (liveKeys live table).any p = true ↔
    ∃ found, live.table? table.name = some found ∧ found.foreignKeys.any p = true := by
  rw [liveKeys]
  cases live.table? table.name <;> simp

theorem any_liveIndexes_iff {p : Index → Bool} : (liveIndexes live table).any p = true ↔
    ∃ found, live.table? table.name = some found ∧ found.indexes.any p = true := by
  rw [liveIndexes]
  cases live.table? table.name <;> simp

end Lookup

/-- Statements of the steps that were due, carried out one after the other. Each of them has an origin. -/
structure Halfway (reporter : Reporter) (target live : Database) (limit : Int) (start : List Entry)
    (made : List Statement) (origin : Step → Statement → Prop) : Prop where
  built : Model.WellBuilt target
  rooted : Rooted start
  read : readEntries start = .ok live
  carries : reporter.Carries start made
  coherent : Coherent made
  serves : ∀ statement ∈ made, ∃ step, Due target live step ∧ Serves target limit step statement
    ∧ origin step statement

namespace Halfway

variable {reporter : Reporter} {target live reread : Database} {limit : Int} {start : List Entry}
  {made : List Statement} {origin : Step → Statement → Prop} {step : Step} {table : Table}
  (h : Halfway reporter target live limit start made origin)

include h

/-- The catalog can be read again. -/
theorem reads : ∃ reread, readEntries (reporter.afterAll start made) = .ok reread := by
  refine readEntries_succeeds (nodup_afterAll reporter h.carries h.coherent (nodup_visibleTables h.read) ?_ ?_)
  · intro name fields constraint hcreated
    obtain ⟨step, hdue, hserves, -⟩ := h.serves _ hcreated
    cases hserves with
    | createTable htable => exact (hasTable_eq_false_iff h.read).1 (hdue.createTable_missing)
  · intro name fields constraint hcreated other others more hother hsame
    obtain ⟨_, -, hserves, -⟩ := h.serves _ hcreated
    obtain ⟨_, -, hserved, -⟩ := h.serves _ hother
    cases hserves with
    | @createTable left hleft =>
        cases hserved with
        | @createTable right hright => exact congrArg Table.name (NameMap.eq_of_sameName hright hleft hsame)

variable (hreread : readEntries (reporter.afterAll start made) = .ok reread)

include hreread

theorem liveKeys_mono {key : ForeignKey} (hlive : (liveKeys live table).any (sameForeignKey key) = true) :
    (liveKeys reread table).any (sameForeignKey key) = true := by
  obtain ⟨found, hfound, hany⟩ := any_liveKeys_iff.1 hlive
  obtain ⟨name, -, -, rfl, hagain⟩ := table?_reread reporter h.read hreread h.coherent hfound
  obtain ⟨constraint, row, hrow, houtline⟩ := any_foreignKeys_tableOf_iff.1 hany
  refine any_liveKeys_iff.2 ⟨_, hagain, any_foreignKeys_tableOf_iff.2 ⟨constraint, row, ?_, houtline⟩⟩
  exact (h.coherent.foreignKey_mem_iff reporter).2 (.inl hrow)

theorem liveIndexes_mono {index : Index} (hlive : (liveIndexes live table).any (sameIndex index) = true) :
    (liveIndexes reread table).any (sameIndex index) = true := by
  obtain ⟨found, hfound, hany⟩ := any_liveIndexes_iff.1 hlive
  obtain ⟨name, -, -, rfl, hagain⟩ := table?_reread reporter h.read hreread h.coherent hfound
  obtain ⟨row, hrow, houtline⟩ := any_indexes_tableOf_iff.1 hany
  refine any_liveIndexes_iff.2 ⟨_, hagain, any_indexes_tableOf_iff.2 ⟨row, ?_, houtline⟩⟩
  exact (h.coherent.index_mem_iff reporter).2 (.inl hrow)

/-- No step is due that was not due before, but for alterations. -/
theorem due_before (hdue : Due target reread step) (hsteady : step.action ≠ .alterColumn) : Due target live step := by
  cases hdue with
  | @createTable table htable hmissing =>
      refine .createTable htable ((hasTable_eq_false_iff h.read).2 fun name hname => ?_)
      refine (hasTable_eq_false_iff hreread).1 hmissing name ?_
      exact (visibleTables_afterAll_iff reporter h.coherent).2 (.inl hname)
  | @addColumn table found field htable hfound hfield hmissing =>
      cases hlive : live.table? table.name with
      | none =>
          -- a table that was created has all its columns
          obtain ⟨name, fields, constraint, hsame, hcreated, rfl⟩ :=
            table?_reread_new reporter h.read hreread h.coherent hlive hfound
          obtain ⟨_, -, hserves, -⟩ := h.serves _ hcreated
          cases hserves with
          | @createTable other hother =>
              obtain rfl : other = table := NameMap.eq_of_sameName hother htable hsame
              have hcolumn : .column other.name (reporter.column field none) ∈ reporter.afterAll start made := by
                refine (h.coherent.mem_afterAll_iff reporter).2 (.inr ⟨_, hcreated, id, ?_⟩)
                exact List.mem_append_left _ (List.mem_cons_of_mem _ (List.mem_map_of_mem hfield))
              have hapart := field?_tableOf_eq_none_iff.1 hmissing _ hcolumn
              exact absurd (sameName_refl field.name) (Bool.eq_false_iff.1 hapart)
      | some old =>
          obtain ⟨name, -, -, rfl, hagain⟩ := table?_reread reporter h.read hreread h.coherent hlive
          cases hfound.symm.trans hagain
          refine .addColumn htable hlive hfield (field?_tableOf_eq_none_iff.2 fun row hrow => ?_)
          have hkept : .column name (reporter.changedRowAll name row made) ∈ reporter.afterAll start made :=
            (h.coherent.mem_afterAll_iff reporter).2 (.inl ⟨_, hrow, changedAll_column reporter⟩)
          have hapart := field?_tableOf_eq_none_iff.1 hmissing _ hkept
          rwa [name_changedRowAll] at hapart
  | alterColumn => exact absurd rfl hsteady
  | addForeignKey htable hkey hbound hmissing =>
      refine .addForeignKey htable hkey hbound (Bool.eq_false_iff.2 fun hlive => ?_)
      exact Bool.eq_false_iff.1 hmissing (h.liveKeys_mono hreread hlive)
  | addIndex htable hindex hmissing =>
      refine .addIndex htable hindex (Bool.eq_false_iff.2 fun hlive => ?_)
      exact Bool.eq_false_iff.1 hmissing (h.liveIndexes_mono hreread hlive)

/-- A foreign key that is found now and was not found before was added. -/
theorem key_made (htable : table ∈ target.tables.items) {key : ForeignKey} (hkey : key ∈ table.foreignKeys)
    (hmissing : (liveKeys live table).any (sameForeignKey key) = false)
    (hthere : (liveKeys reread table).any (sameForeignKey key) = true) :
    ∃ statement ∈ made, origin (.addForeignKey table.name key) statement := by
  obtain ⟨found, hfound, hany⟩ := any_liveKeys_iff.1 hthere
  obtain ⟨name, hname, hsame, rfl⟩ := (table?_readEntries_iff hreread).1 hfound
  obtain ⟨constraint, row, hrow, houtline⟩ := any_foreignKeys_tableOf_iff.1 hany
  rcases (h.coherent.foreignKey_mem_iff reporter).1 hrow with hold | ⟨made, hmade, rfl⟩
  · have hvisible : name ∈ visibleTables start :=
      mem_visibleTables_iff.2 ⟨h.rooted _ hold, (mem_visibleTables_iff.1 hname).2⟩
    refine absurd (any_liveKeys_iff.2 ⟨_, (table?_readEntries_iff h.read).2 ⟨name, hvisible, hsame, rfl⟩, ?_⟩)
      (Bool.eq_false_iff.1 hmissing)
    exact any_foreignKeys_tableOf_iff.2 ⟨constraint, row, hold, houtline⟩
  · obtain ⟨_, -, hserves, horigin⟩ := h.serves _ hmade
    cases hserves with
    | @addForeignKey other _ hother hadded =>
        obtain rfl : other = table := NameMap.eq_of_sameName hother htable hsame
        obtain rfl : made = key := eq_of_keyColumn h.built hother hadded hkey (congrArg Prod.fst houtline)
        exact ⟨_, hmade, horigin⟩

/-- A column that is found now and was not found before was added. -/
theorem column_made {found : Table} (hlive : live.table? table.name = some found)
    (htable : table ∈ target.tables.items) {field : Field} (hfield : field ∈ table.fields)
    (hmissing : found.field? field.name = none) {again : Table} (hagain : reread.table? table.name = some again)
    (hthere : again.field? field.name ≠ none) :
    ∃ statement ∈ made, origin (.addColumn table.name field) statement := by
  obtain ⟨name, hname, hsame, rfl, hfound⟩ := table?_reread reporter h.read hreread h.coherent hlive
  cases hagain.symm.trans hfound
  rw [ne_eq, field?_tableOf_eq_none_iff, not_forall] at hthere
  obtain ⟨row, hrow⟩ := hthere
  rw [Classical.not_imp, Bool.not_eq_false] at hrow
  obtain ⟨hrow, hnamed⟩ := hrow
  rcases h.coherent.column_cases reporter hrow with ⟨old, hold, rfl⟩ | ⟨fields, constraint, field, hcreated, -⟩ |
    ⟨added, default, hadded, rfl⟩
  · rw [name_changedRowAll] at hnamed
    exact absurd hnamed (Bool.eq_false_iff.1 (field?_tableOf_eq_none_iff.1 hmissing old hold))
  · exact absurd (mem_visibleTables_iff.1 hname).1 (h.carries.free reporter hcreated fun _ => id)
  · obtain ⟨_, -, hserves, horigin⟩ := h.serves _ hadded
    cases hserves with
    | @addColumn other _ hother hmem =>
        obtain rfl : other = table := NameMap.eq_of_sameName hother htable hsame
        obtain rfl : added = field := eq_of_fieldName h.built hother hmem hfield hnamed
        exact ⟨_, hadded, horigin⟩

/-- A step that was due is due again, or one of its statements was carried out, or there is an index like its own. -/
theorem due_or_made (hdue : Due target live step) (hsteady : step.action ≠ .alterColumn) :
    Due target reread step ∨ (∃ statement ∈ made, origin step statement) ∨
      ∃ table index, step = .addIndex table.name index ∧ (liveIndexes reread table).any (sameIndex index) = true := by
  cases hdue with
  | @createTable table htable hmissing =>
      cases hthere : reread.hasTable table.name with
      | false => exact .inl (.createTable htable hthere)
      | true =>
          obtain ⟨found, hfound⟩ := Option.isSome_iff_exists.1 hthere
          obtain ⟨name, fields, constraint, hsame, hcreated, -⟩ := table?_reread_new reporter h.read hreread h.coherent
            (Database.hasTable_eq_false_iff.1 hmissing) hfound
          obtain ⟨_, -, hserves, horigin⟩ := h.serves _ hcreated
          cases hserves with
          | @createTable other hother =>
              obtain rfl : other = table := NameMap.eq_of_sameName hother htable hsame
              exact .inr (.inl ⟨_, hcreated, horigin⟩)
  | @addColumn table found field htable hfound hfield hmissing =>
      obtain ⟨name, -, -, -, hagain⟩ := table?_reread reporter h.read hreread h.coherent hfound
      by_cases hthere : (tableOf (reporter.afterAll start made) name).field? field.name = none
      · exact .inl (.addColumn htable hagain hfield hthere)
      · exact .inr (.inl (h.column_made hreread hfound htable hfield hmissing hagain hthere))
  | alterColumn => exact absurd rfl hsteady
  | @addForeignKey table key htable hkey hbound hmissing =>
      cases hthere : (liveKeys reread table).any (sameForeignKey key) with
      | false => exact .inl (.addForeignKey htable hkey hbound hthere)
      | true => exact .inr (.inl (h.key_made hreread htable hkey hmissing hthere))
  | @addIndex table index htable hindex hmissing =>
      cases hthere : (liveIndexes reread table).any (sameIndex index) with
      | false => exact .inl (.addIndex htable hindex hthere)
      | true => exact .inr (.inr ⟨table, index, rfl, hthere⟩)

/-- A field whose column was found is decided on as before, unless its column was altered. -/
theorem decision_kept (htable : table ∈ target.tables.items) {field : Field} (hfield : field ∈ table.fields)
    {found : Table} (hfound : live.table? table.name = some found) (hknown : found.field? field.name ≠ none)
    (hunaltered : .alterType table.name field ∉ made) :
    ∃ again, reread.table? table.name = some again ∧ decideColumn again field = decideColumn found field := by
  obtain ⟨name, -, hsame, rfl, hagain⟩ := table?_reread reporter h.read hreread h.coherent hfound
  refine ⟨_, hagain, decideColumn_afterAll reporter hknown fun row hrow hnamed => ?_⟩
  refine h.coherent.changedRowAll_eq_self reporter fun altered haltered hname => hunaltered ?_
  obtain ⟨_, -, hserves, -⟩ := h.serves _ haltered
  cases hserves with
  | @alterColumn other _ hother hmem =>
      obtain rfl : other = table := NameMap.eq_of_sameName hother htable hsame
      rw [← hname] at hnamed
      obtain rfl : altered = field := eq_of_fieldName h.built hother hmem hfield hnamed
      exact haltered

end Halfway

end Plan

end SchemaMigrate
