import SchemaMigrate.Proofs.NameMap
import SchemaMigrate.Schema.Basic

/-!
Lookup in a schema. What was stored last under a name is found under it, and all else as before.
-/

namespace SchemaMigrate.Database

variable {db : Database} {table : Table} {mixin : Mixin} {name : String}

section Tables

theorem mem_tables_of_table? (h : db.table? name = some table) : table ∈ db.tables.items := NameMap.mem_of_get? h

theorem table?_eq_some_iff_of_mem (h : table ∈ db.tables.items) :
    db.table? name = some table ↔ nameKey name = nameKey table.name := NameMap.get?_eq_some_iff_of_mem h

/-- A table that is found under a name bears it. -/
theorem sameName_of_table? (h : db.table? name = some table) : sameName table.name name = true := by
  have hname := NameMap.sameName_of_get? h
  exact hname

theorem hasTable_eq_isSome (name : String) : db.hasTable name = (db.table? name).isSome := rfl

theorem hasTable_eq_false_iff : db.hasTable name = false ↔ db.table? name = none := by
  rw [hasTable_eq_isSome, Option.isSome_eq_false_iff, Option.isNone_iff_eq_none]

theorem hasTable_of_table? (h : db.table? name = some table) : db.hasTable table.name = true := by
  have hknown : db.tables.contains (Named.name table) = true := NameMap.contains_of_mem (mem_tables_of_table? h)
  exact hknown

theorem table?_putTable (db : Database) (table : Table) (name : String) :
    (db.putTable table).table? name = if sameName table.name name then some table else db.table? name := by
  have hfound : (db.tables.put table).get? name =
      if sameName (Named.name table) name then some table else db.tables.get? name := NameMap.get?_put
  exact hfound

theorem hasTable_putTable (db : Database) (table : Table) (name : String) :
    (db.putTable table).hasTable name = (sameName table.name name || db.hasTable name) := by
  rw [hasTable_eq_isSome, table?_putTable, hasTable_eq_isSome]
  cases sameName table.name name with
  | true => rfl
  | false => rfl

theorem hasTable_putTable_eq_false_iff :
    (db.putTable table).hasTable name = false ↔ sameName table.name name = false ∧ db.hasTable name = false := by
  rw [hasTable_putTable, Bool.or_eq_false_iff]

theorem mixin?_putTable (db : Database) (table : Table) (name : String) :
    (db.putTable table).mixin? name = db.mixin? name := rfl

/-- A table of a new name does not hide another. -/
theorem table?_putTable_new {old : Table} (hnew : db.hasTable table.name = false) (h : db.table? name = some old) :
    (db.putTable table).table? name = some old := by
  have hfound := NameMap.get?_put_new (hasTable_eq_false_iff.1 hnew) h
  exact hfound

theorem table?_congr {left right : String} (h : sameName left right = true) : db.table? left = db.table? right :=
  NameMap.get?_congr h

/-- A table is not found under another name. -/
theorem table?_putTable_apart (h : sameName table.name name = false) :
    (db.putTable table).table? name = db.table? name := by
  rw [table?_putTable, h, if_neg (by decide)]

/-- A table that is stored hides the one of its name. -/
theorem table?_putTable_same {next : Table} (h : sameName table.name next.name = true) (name : String) :
    ((db.putTable table).putTable next).table? name = (db.putTable next).table? name := by
  rw [table?_putTable, table?_putTable, table?_putTable, sameName_congr_left h]
  split
  · rfl
  · rfl

/-- Tables of different names are found alike in whichever order they were stored. -/
theorem table?_putTable_putTable {next : Table} (h : sameName table.name next.name = false) (name : String) :
    ((db.putTable table).putTable next).table? name = ((db.putTable next).putTable table).table? name := by
  have hfound : ((db.tables.put table).put next).get? name = ((db.tables.put next).put table).get? name :=
    NameMap.get?_put_put h
  exact hfound

theorem mem_tables_putTable_iff {other : Table} :
    other ∈ (db.putTable table).tables.items ↔
      other = table ∨ other ∈ db.tables.items ∧ sameName other.name table.name = false := by
  have hmem : other ∈ (db.tables.put table).items ↔
      other = table ∨ other ∈ db.tables.items ∧ sameName (Named.name other) (Named.name table) = false :=
    NameMap.mem_put_iff
  exact hmem

end Tables

section Mixins

theorem mem_mixins_of_mixin? (h : db.mixin? name = some mixin) : mixin ∈ db.mixins.items := NameMap.mem_of_get? h

theorem mixin?_eq_some_iff_of_mem (h : mixin ∈ db.mixins.items) :
    db.mixin? name = some mixin ↔ nameKey name = nameKey mixin.name := NameMap.get?_eq_some_iff_of_mem h

theorem mixin?_putMixin (db : Database) (mixin : Mixin) (name : String) :
    (db.putMixin mixin).mixin? name = if sameName mixin.name name then some mixin else db.mixin? name := by
  have hfound : (db.mixins.put mixin).get? name =
      if sameName (Named.name mixin) name then some mixin else db.mixins.get? name := NameMap.get?_put
  exact hfound

theorem mixin?_putMixin_eq_none_iff :
    (db.putMixin mixin).mixin? name = none ↔ sameName mixin.name name = false ∧ db.mixin? name = none := by
  rw [mixin?_putMixin]
  cases sameName mixin.name name with
  | true => simp
  | false => simp

theorem table?_putMixin (db : Database) (mixin : Mixin) (name : String) :
    (db.putMixin mixin).table? name = db.table? name := rfl

/-- A mixin of a new name does not hide another. -/
theorem mixin?_putMixin_new {old : Mixin} (hnew : db.mixin? mixin.name = none) (h : db.mixin? name = some old) :
    (db.putMixin mixin).mixin? name = some old := by
  have hfound := NameMap.get?_put_new hnew h
  exact hfound

/-- Mixins of different names are found alike in whichever order they were stored. -/
theorem mixin?_putMixin_putMixin {next : Mixin} (h : sameName mixin.name next.name = false) (name : String) :
    ((db.putMixin mixin).putMixin next).mixin? name = ((db.putMixin next).putMixin mixin).mixin? name := by
  have hfound : ((db.mixins.put mixin).put next).get? name = ((db.mixins.put next).put mixin).get? name :=
    NameMap.get?_put_put h
  exact hfound

theorem mem_mixins_putMixin_iff {other : Mixin} :
    other ∈ (db.putMixin mixin).mixins.items ↔
      other = mixin ∨ other ∈ db.mixins.items ∧ sameName other.name mixin.name = false := by
  have hmem : other ∈ (db.mixins.put mixin).items ↔
      other = mixin ∨ other ∈ db.mixins.items ∧ sameName (Named.name other) (Named.name mixin) = false :=
    NameMap.mem_put_iff
  exact hmem

end Mixins

end SchemaMigrate.Database
