import SchemaMigrate.Proofs.Model.KeyTypes
import SchemaMigrate.Proofs.Plan.Due

/-!
The two columns of a planned foreign key. The column that refers is always a plain integer, while the key
that it points at has the type in the header of its model. So the two agree exactly if that header asks for
an integer, or for nothing. A key of any other type cannot be referred to: the database takes a uuid or a
text for no integer, and holds more in a long integer than fits the column.
-/

namespace SchemaMigrate.Plan

open Model (Compiled CompiledFrom Declares IntegerKey ReadAsInteger)

/-- The column of a foreign key of a table and the key of the table that it points at. -/
structure Joins (target : Database) (table : String) (key : ForeignKey) (column primary : Field) : Prop where
  referring : ∃ referring ∈ target.tables.items, referring.name = table ∧ column ∈ referring.fields ∧
    column.name = key.column
  referenced : ∃ referenced, target.table? key.target = some referenced ∧ referenced.primaryKey? = some primary
  pointed : sameName primary.name key.targetColumn = true

section Joins

variable {sources : List Model.Source} {target actual : Database} {table : String} {key : ForeignKey}

/-- A planned foreign key joins an integer column to the key of its target, and that has the type in the
header of a model. The two types agree exactly if the header asks for an integer, as they stand and as they
are written for the database. -/
theorem joined_alike_iff (htarget : CompiledFrom sources target)
    (hstep : .addForeignKey table key ∈ (between target {}).steps) :
    ∃ column primary header, Joins target table key column primary ∧ Declares sources header ∧
      sameName header.name key.target = true ∧
      (∃ place, (header.keyType.getD { code := "int" }).columnType place = .ok primary.type) ∧
      (column.type = primary.type ↔ IntegerKey header.keyType) ∧
      (column.type.sql = primary.type.sql ↔ ReadAsInteger header.keyType) := by
  have hlinked := htarget.compiled.linked
  obtain ⟨referring, hreferring, hname, hkey, hhas⟩ := (mem_between_iff.1 hstep).addForeignKey_mem
  obtain ⟨column, hcolumn, hcolumnName, hinteger, -⟩ :=
    (hlinked.tables referring hreferring).fitting.columns key hkey
  obtain ⟨referenced, hfound⟩ := Option.isSome_iff_exists.1 hhas
  have hreferenced := Database.mem_tables_of_table? hfound
  have hnamed := Database.sameName_of_table? hfound
  obtain ⟨header, primary, hheader, hprimary⟩ := htarget.headed referenced hreferenced
  obtain ⟨others, hothers⟩ := hprimary.fields
  have hfirst : referenced.primaryKey? = some primary := by
    rw [Table.primaryKey?, hothers, List.find?_cons_of_pos hprimary.primaryKey]
  have hpointed : sameName primary.name key.targetColumn = true := by
    rw [hlinked.tableKeys referring hreferring key hkey, hprimary.keyName, ← hprimary.name, sameName_iff,
      nameKey_append, nameKey_append, sameName_iff.1 hnamed]
  have htype : Model.Declarable primary.type :=
    htarget.compiled.typed.tables referenced hreferenced primary (hothers ▸ List.mem_cons_self)
  refine ⟨column, primary, header, ⟨⟨referring, hreferring, hname, hcolumn, hcolumnName⟩,
    ⟨referenced, hfound, hfirst⟩, hpointed⟩, hheader, hprimary.name ▸ hnamed, hprimary.type, ?_, ?_⟩
  · obtain ⟨place, hplace⟩ := hprimary.type
    rw [hinteger, eq_comm]
    exact Model.integerKey_iff hplace
  · obtain ⟨place, hplace⟩ := hprimary.type
    have hwritten : column.type.sql = "integer" := by
      rw [hinteger]
      decide +kernel
    rw [hwritten, eq_comm]
    exact Model.readAsInteger_iff htype hplace

/-- Orders refer to clients with a uuid and to stores with a number. -/
def deliveryFiles : List Model.Source :=
  [{ name := "delivery.dmd"
     text := "model Order \x7b\n  model Client\n  model Store\n\x7d\n" ++
       "model Client guid \x7b\n\x7d\n" ++ "model Store int \x7b\n\x7d\n" }]

/-- The foreign key of an order to the table of this name. -/
def orderKey (target : String) : ForeignKey where
  column := target ++ "ID"
  target
  targetColumn := target ++ "ID"
  relationship := .oneToOne

theorem joined_alike_iff_delivery :
    CompiledFrom deliveryFiles (Model.compile {} deliveryFiles).schema ∧
      ∀ name ∈ ["Client", "Store"],
        .addForeignKey "Order" (orderKey name) ∈ (between (Model.compile {} deliveryFiles).schema {}).steps ∧
        ∃ column primary header,
          Joins (Model.compile {} deliveryFiles).schema "Order" (orderKey name) column primary ∧
            Declares deliveryFiles header ∧ sameName header.name (orderKey name).target = true ∧
            (∃ place, (header.keyType.getD { code := "int" }).columnType place = .ok primary.type) ∧
            (column.type = primary.type ↔ IntegerKey header.keyType) ∧
            (column.type.sql = primary.type.sql ↔ ReadAsInteger header.keyType) := by
  have hcompiled : CompiledFrom deliveryFiles (Model.compile {} deliveryFiles).schema :=
    .batch .empty deliveryFiles
  have hplanned : ∀ name ∈ ["Client", "Store"],
      .addForeignKey "Order" (orderKey name) ∈ (between (Model.compile {} deliveryFiles).schema {}).steps := by
    decide +kernel
  exact ⟨hcompiled, fun name hmem => ⟨hplanned name hmem, joined_alike_iff hcompiled (hplanned name hmem)⟩⟩

/-- The column that refers to a uuid is an integer. -/
theorem uuid_key_unjoined :
    ¬∀ target, Compiled target → ∀ table key, .addForeignKey table key ∈ (between target {}).steps →
      ∀ column primary, Joins target table key column primary → column.type = primary.type := by
  intro h
  have hplanned : .addForeignKey "Order" (orderKey "Client") ∈
      (between (Model.compile {} deliveryFiles).schema {}).steps := by decide +kernel
  have hjoins : Joins (Model.compile {} deliveryFiles).schema "Order" (orderKey "Client")
      { name := "ClientID", type := { name := "integer" } }
      { name := "ClientID", type := { name := "uuid" }, primaryKey := true } := by
    constructor
    case referring => decide +kernel
    case referenced =>
      have hfound : ((Model.compile {} deliveryFiles).schema.table? "Client").bind Table.primaryKey? =
          some { name := "ClientID", type := { name := "uuid" }, primaryKey := true } := by decide +kernel
      exact Option.bind_eq_some_iff.1 hfound
    case pointed => decide +kernel
  have hsame := h _ (.batch .empty deliveryFiles) _ _ hplanned _ _ hjoins
  revert hsame
  decide

end Joins

end SchemaMigrate.Plan
