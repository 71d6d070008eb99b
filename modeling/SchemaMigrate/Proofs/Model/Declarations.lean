import SchemaMigrate.Proofs.Model.KeyTypes
import SchemaMigrate.Proofs.Model.Origins

/-!
The declarations that the types of a schema go back to. Main statement: every type in a schema that was compiled
from some sources is the stored form of a type that one of the sources declares, in the header of a model or on a
line. Where no type is said, it is an integer.
-/

namespace SchemaMigrate.Model

/-- A type that the sources declare: that of a key or that of a field. A key without a type is an integer, and so is
the column that refers to another table. -/
inductive DeclaredIn (sources : List Source) : DeclaredType → Prop
  | key {header : ModelHeader} (h : Declares sources header) :
      DeclaredIn sources (header.keyType.getD { code := "int" })
  | field {block : Block} {line : Line} {field : FieldLine} (hblock : BlockOf sources block)
      (hline : line ∈ block.body) (h : Member.of? line.text = some (.field field)) : DeclaredIn sources field.type
  | reference {block : Block} {line : Line} {reference : RelationshipLine} (hblock : BlockOf sources block)
      (hline : line ∈ block.body) (h : Member.of? line.text = some (.relationship reference)) :
      DeclaredIn sources { code := "int" }

variable {sources : List Source} {db : Database} {block : Block} {type : ColumnType}

/-- An integer that is not declared is stored like one that is. -/
theorem columnType_int (place : Fault → Failure) :
    ({ code := "int" } : DeclaredType).columnType place = .ok { name := "integer" } :=
  columnType_eq_ok_iff.2 ⟨none, none, rfl, ofDeclared_integer_iff.2 (.inl nameKey_int)⟩

/-- A type that a block brings is declared there. -/
theorem declaredIn_of_brings (hblock : BlockOf sources block) (h : Brings block type) :
    ∃ declared, DeclaredIn sources declared ∧ ∀ place, declared.columnType place = .ok type := by
  cases h with
  | @key header key hkind hheader hkey htype =>
      obtain ⟨source, hsource, blocks, hblocks, hmem⟩ := hblock
      obtain ⟨stored, hstored, hfield⟩ := bind_eq_ok hkey
      cases hfield
      cases htype
      exact ⟨_, .key ⟨source, hsource, blocks, hblocks, block, hmem, hkind, hheader⟩,
        fun place => columnType_eq_ok_of hstored⟩
  | @line line added hline hadded htype =>
      obtain ⟨field, hfield, rfl⟩ := List.mem_map.1 htype
      cases adds_of_additions? hadded with
      | index => cases hfield
      | flag => cases hfield
      | relationship hmember =>
          obtain rfl := List.mem_singleton.1 hfield
          exact ⟨_, .reference hblock hline hmember, columnType_int⟩
      | @field declared _ _ hmember hdeclared =>
          obtain rfl := List.mem_singleton.1 hfield
          obtain ⟨stored, hstored, hresult⟩ := bind_eq_ok hdeclared
          cases hresult
          exact ⟨declared.type, .field hblock hline hmember, fun place => columnType_eq_ok_of hstored⟩

/-- Every type of a compiled schema is what one of the sources declares. -/
theorem CompiledFrom.exists_declared (h : CompiledFrom sources db) (htype : HasType db type) :
    ∃ declared, DeclaredIn sources declared ∧ ∀ place, declared.columnType place = .ok type := by
  obtain ⟨blocks, hreaches, hblocks⟩ := h.exists_reaches
  obtain ⟨block, hmem, hbrings⟩ := (hasType_iff_brings hreaches).1 htype
  exact declaredIn_of_brings (hblocks block hmem) hbrings

end SchemaMigrate.Model
