import SchemaMigrate.Model.Compile
import SchemaMigrate.Proofs.Outcome
import SchemaMigrate.Proofs.Schema
import SchemaMigrate.Proofs.Text.Classes

/-!
The types that models can declare. The code of a declaration is a name, and the type is stored under it or,
where the code is known, under the storage type of the code.
-/

namespace SchemaMigrate.Model

open Text (isWord)

/-- Whether a text is made of word characters. -/
def IsWordy (text : String) : Prop := ∀ c ∈ text.toList, isWord c = true

/-- A type that some declaration asks for. -/
def Declarable (type : ColumnType) : Prop :=
  ∃ declared : ColumnType, IsWordy declared.name ∧ ColumnType.ofDeclared declared = .ok type

/-- The schemas that are compiled batch by batch. A batch with a fault may leave a part of itself behind. -/
inductive Compiled : Database → Prop
  | empty : Compiled {}
  | batch {db : Database} (h : Compiled db) (sources : List Source) :
      Compiled (compile db sources).schema

section Runs

variable {db : Database} {P : Database → Prop}

/-- What every block keeps that compiles, blocks in a row keep however far they come. -/
theorem compileBlocks_invariant
    (hstep : ∀ {db : Database} {block : Block} {definition : Definition}, P db →
      compileBlock db block = .ok definition → P (commit db definition))
    (h : P db) (blocks : List Block) : P (compileBlocks db blocks).schema := by
  induction blocks generalizing db with
  | nil => exact h
  | cons block blocks ih =>
      rw [compileBlocks]
      split
      · exact h
      · rename_i definition hdefinition
        exact ih (hstep h hdefinition)

/-- What holds of the empty schema and is kept by every block that compiles holds of every compiled schema. -/
theorem Compiled.invariant (hempty : P {})
    (hstep : ∀ {db : Database} {block : Block} {definition : Definition}, P db →
      compileBlock db block = .ok definition → P (commit db definition))
    (h : Compiled db) : P db := by
  induction h with
  | empty => exact hempty
  | batch _ sources ih =>
      unfold compile
      split
      · exact ih
      · exact compileBlocks_invariant hstep ih _

end Runs

section Reading

theorem isWord_of_spanName? {text name rest : List Char} (h : Text.spanName? text = some (name, rest)) :
    ∀ c ∈ name, isWord c = true := by
  cases text with
  | nil => cases h
  | cons first tail =>
      rw [Text.spanName?] at h
      split at h
      · rename_i hfirst
        simp only [Option.some.injEq, Prod.mk.injEq] at h
        obtain ⟨rfl, -⟩ := h
        intro c hc
        rcases List.mem_cons.1 hc with rfl | hc
        · exact Text.isWord_of_isNameStart hfirst
        · exact List.all_eq_true.1 (List.all_takeWhile) c hc
      · cases h

theorem readIndex?_eq_some {text : List Char} {member : Member} (h : readIndex? text = some member) :
    ∃ inside marks, member = .index (tokensOf inside) marks := by
  simp only [readIndex?, bind, Option.bind_eq_some_iff] at h
  obtain ⟨rest, -, inside, -, marks, -, hmember⟩ := h
  cases hmember
  exact ⟨inside.1, marks, rfl⟩

theorem readAttribute?_eq_some {text : List Char} {member : Member} (h : readAttribute? text = some member) :
    ∃ name, member = .attribute name := by
  unfold readAttribute? at h
  split at h
  · cases h
  · split at h
    · cases h
      exact ⟨_, rfl⟩
    · cases h

theorem readRelationship?_eq_some {text : List Char} {member : Member} (h : readRelationship? text = some member) :
    ∃ line, member = .relationship line := by
  simp only [readRelationship?] at h
  split at h
  · simp only [bind, Option.bind_eq_some_iff] at h
    obtain ⟨many, -, after, -, target, -, role, -, hmember⟩ := h
    cases hmember
    exact ⟨_, rfl⟩
  · split at h
    · simp only [bind, Option.bind_eq_some_iff] at h
      obtain ⟨many, -, after, -, target, -, role, -, hmember⟩ := h
      cases hmember
      exact ⟨_, rfl⟩
    · cases h

theorem readField?_eq_some {text : List Char} {member : Member} (h : readField? text = some member) :
    ∃ line, member = .field line := by
  simp only [readField?, bind, Option.bind_eq_some_iff] at h
  obtain ⟨code, -, after, -, name, -, marks, -, hmember⟩ := h
  cases hmember
  exact ⟨_, rfl⟩

/-- The reader of the lines that are members of this kind. -/
def Member.reader : Member → List Char → Option Member
  | .index _ _ => readIndex?
  | .attribute _ => readAttribute?
  | .relationship _ => readRelationship?
  | .field _ => readField?

/-- A line is read by the reader of what it is. -/
theorem reader_of_member {text : List Char} {member : Member} (h : Member.of? text = some member) :
    member.reader text = some member := by
  simp only [Member.of?, Option.orElse_eq_orElse, Option.orElse_eq_or, Option.or_eq_some_iff] at h
  rcases h with h | ⟨-, h | ⟨-, h | ⟨-, h⟩⟩⟩
  · obtain ⟨_, _, rfl⟩ := readIndex?_eq_some h
    exact h
  · obtain ⟨_, rfl⟩ := readAttribute?_eq_some h
    exact h
  · obtain ⟨_, rfl⟩ := readRelationship?_eq_some h
    exact h
  · obtain ⟨_, rfl⟩ := readField?_eq_some h
    exact h

/-- A line that reads as a field is read by the reader of fields. -/
theorem readField?_of_member {text : List Char} {line : FieldLine}
    (h : Member.of? text = some (.field line)) : readField? text = some (.field line) :=
  reader_of_member h

/-- The tokens of an index are what stands between the commas. -/
theorem tokensOf_of_member {text : List Char} {tokens marks : List String}
    (h : Member.of? text = some (.index tokens marks)) : ∃ inside, tokens = tokensOf inside := by
  obtain ⟨inside, _, hmember⟩ := readIndex?_eq_some (reader_of_member h)
  cases hmember
  exact ⟨inside, rfl⟩

theorem isWordy_of_spanName? {text name rest : List Char} (h : Text.spanName? text = some (name, rest)) :
    IsWordy (String.ofList name) := by
  rw [IsWordy, String.toList_ofList]
  exact isWord_of_spanName? h

theorem isWordy_of_readField? {text : List Char} {line : FieldLine}
    (h : readField? text = some (.field line)) : IsWordy line.type.code := by
  simp only [readField?, bind, Option.bind_eq_some_iff] at h
  obtain ⟨code, hcode, after, -, name, -, marks, -, hmember⟩ := h
  cases hmember
  exact isWordy_of_spanName? hcode

theorem isWordy_of_modelHeader {text : List Char} {header : ModelHeader}
    (h : ModelHeader.of? text = some header) :
    ∀ type, header.keyType = some type → IsWordy type.code := by
  simp only [ModelHeader.of?, bind, Option.bind_eq_some_iff] at h
  obtain ⟨name, -, mixins, -, hheader⟩ := h
  cases hheader
  intro type htype
  simp only [spanKeyType] at htype
  split at htype
  · cases htype
  · rename_i word rest hword
    split at htype
    · cases htype
    · cases htype
      obtain ⟨after, -, hname⟩ := Option.bind_eq_some_iff.1 hword
      exact isWordy_of_spanName? hname

end Reading

theorem isWordy_nat (number : Nat) : IsWordy (toString number) := by
  have htext : (toString number).toList = Nat.toDigits 10 number := String.toList_ofList
  rw [IsWordy, htext]
  exact fun _ => Text.isWord_of_mem_toDigits

section Compiling

/-- The size that a declaration asks for, if it asks for one. -/
def DeclaredType.size (type : DeclaredType) : Except SizeError (Option Int × Option Int) :=
  match type.params with
  | none => .ok (none, none)
  | some params => sizeOf params

/-- How a type fails whose size cannot be read. A numeral that is too long has no place. -/
def DeclaredType.sizeFailure (type : DeclaredType) (place : Fault → Failure) : SizeError → CompileError
  | .malformed => .located (place (.invalidSize (String.ofList (type.params.getD []))))
  | .numeral error => .numeral error

section Sizes

variable {type : DeclaredType} {place other : Fault → Failure} {stored : ColumnType} {error : SizeError}

/-- The size of a type is read first, and then the type is stored with it. -/
theorem columnType_eq (type : DeclaredType) (place : Fault → Failure) :
    type.columnType place =
      type.size.mapError (type.sizeFailure place) >>= fun size =>
        (ColumnType.ofDeclared { name := type.code, precision := size.1, scale := size.2 }).mapError
          fun error => .located (place (.noMaxLength error)) := by
  obtain ⟨code, params⟩ := type
  cases params with
  | none =>
      simp only [DeclaredType.columnType, DeclaredType.size, bind, Except.bind, Except.mapError]
      split <;> simp_all only
  | some params =>
      simp only [DeclaredType.columnType, DeclaredType.size]
      cases sizeOf params with
      | error error => cases error <;> rfl
      | ok size =>
          simp only [bind, Except.bind, Except.mapError]
          split <;> simp_all only

/-- A type whose size cannot be read is not stored. -/
theorem columnType_of_size_error (hsize : type.size = .error error) (place : Fault → Failure) :
    type.columnType place = .error (type.sizeFailure place error) := by
  rw [columnType_eq, hsize]
  rfl

theorem columnType_eq_ok_iff :
    type.columnType place = .ok stored ↔
      ∃ precision scale, type.size = .ok (precision, scale) ∧
        ColumnType.ofDeclared { name := type.code, precision, scale } = .ok stored := by
  simp only [columnType_eq, bind_eq_ok_iff, mapError_eq_ok_iff, Prod.exists]

/-- Whether a type is stored does not depend on its place. -/
theorem columnType_eq_ok_of (h : type.columnType place = .ok stored) : type.columnType other = .ok stored :=
  columnType_eq_ok_iff.2 (columnType_eq_ok_iff.1 h)

theorem declarable_of_columnType (hcode : IsWordy type.code) (h : type.columnType place = .ok stored) :
    Declarable stored := by
  obtain ⟨precision, scale, -, hstored⟩ := columnType_eq_ok_iff.1 h
  exact ⟨{ name := type.code, precision, scale }, hcode, hstored⟩

end Sizes

theorem name_of_store {known : ModelType} {declared type : ColumnType} (h : known.store declared = .ok type) :
    type.name = known.storage := by
  unfold ModelType.store at h
  split at h
  · cases h
    rfl
  · split at h
    · cases h
      rfl
    · split at h
      · split at h
        · cases h
          rfl
        · cases h
      · cases h
        rfl

/-- A declared type is stored under its own code if that is not known, and else under the storage type of
the code. -/
theorem ofDeclared_name {declared type : ColumnType} (h : ColumnType.ofDeclared declared = .ok type) :
    modelType? declared.name = none ∧ type = declared
      ∨ ∃ known ∈ modelTypes, known.store declared = .ok type ∧ type.name = known.storage := by
  unfold ColumnType.ofDeclared at h
  split at h
  · rename_i hunknown
    cases h
    exact .inl ⟨hunknown, rfl⟩
  · rename_i known hknown
    exact .inr ⟨known, List.mem_of_find?_eq_some hknown, h, name_of_store h⟩

theorem isWordy_int : IsWordy "int" := List.all_eq_true.1 rfl

theorem declarable_integer : Declarable { name := "integer" } :=
  ⟨{ name := "int" }, isWordy_int, by decide +kernel⟩

theorem declarable_key {header : ModelHeader} {place : Fault → Failure} {field : Field}
    (hcode : ∀ type, header.keyType = some type → IsWordy type.code)
    (h : header.keyField place = .ok field) : Declarable field.type := by
  obtain ⟨type, htype, hfield⟩ := bind_eq_ok h
  cases hfield
  refine declarable_of_columnType ?_ htype
  cases hkey : header.keyType with
  | none => exact isWordy_int
  | some type => exact hcode type hkey

theorem declarable_fieldLine {line : FieldLine} {place : Fault → Failure} {field : Field}
    (hcode : IsWordy line.type.code) (h : line.field place = .ok field) : Declarable field.type := by
  obtain ⟨type, htype, hfield⟩ := bind_eq_ok h
  cases hfield
  exact declarable_of_columnType hcode htype

end Compiling

end SchemaMigrate.Model
