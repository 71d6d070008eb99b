import SchemaMigrate.Proofs.Grammar.Members
import SchemaMigrate.Proofs.Model.Types
import SchemaMigrate.Proofs.Text.Numerals

/-!
When a declared type is accepted: its code has the size that is asked for, and no number of the size has
more digits than can be read.
-/

namespace SchemaMigrate.Grammar

open Model
open Text (isWord trim maxDigits)

attribute [local irreducible] nameKey

/-- A number is short enough to be read. -/
def ReadableNumber (number : Nat) : Prop := number < 10 ^ maxDigits

section Sizes

theorem readSize_toDigits (number : Nat) :
    Yields (readSize (Nat.toDigits 10 number)) (ReadableNumber number) (· = (number : Int)) := by
  unfold readSize
  rw [Text.readInteger_toDigits]
  by_cases hnumber : number < 10 ^ maxDigits
  · rw [if_pos hnumber]
    exact Yields.ok hnumber rfl
  · rw [if_neg hnumber]
    exact Yields.error hnumber

theorem isDigits_toDigits (number : Nat) : Text.isDigits (Nat.toDigits 10 number) = true := by
  rw [Text.isDigits, Bool.and_eq_true, List.all_eq_true]
  refine ⟨?_, fun c hc => Text.isDigit_of_asciiDigit (Nat.isDigit_of_mem_toDigits (by decide) (by decide) hc)⟩
  simp [Nat.toDigits_ne_nil]

theorem trim_toDigits (number : Nat) : trim (Nat.toDigits 10 number) = Nat.toDigits 10 number :=
  Text.trim_of_isWord fun _ hc => Text.isWord_of_mem_toDigits hc

/-- A number is not taken for the word `max`. -/
theorem map_toLower_toDigits_ne (number : Nat) :
    (Nat.toDigits 10 number).map Char.toLower ≠ "max".toList := by
  intro hmax
  have hmem : 'm' ∈ (Nat.toDigits 10 number).map Char.toLower := by
    rw [hmax]
    decide
  obtain ⟨c, hc, hlower⟩ := List.mem_map.1 hmem
  have hdigit : c.isDigit = true := Nat.isDigit_of_mem_toDigits (by decide) (by decide) hc
  have hascii : c.toNat < 128 := Nat.lt_trans (Text.toNat_lt_of_isDigit hdigit) (by decide)
  revert hlower
  revert hdigit
  exact Text.forall_ascii (P := fun c => c.isDigit = true → ¬c.toLower = 'm') (by decide +kernel) hascii

theorem toDigits_ne_comma (number : Nat) : ∀ c ∈ Nat.toDigits 10 number, c ≠ ',' := fun _ hc =>
  Text.ne_of_isWord (Text.isWord_of_mem_toDigits hc) rfl

/-- The size of a printed type is read back if its numbers are. -/
theorem yields_size (type : TypeTerm) :
    Yields type.declared.size (∀ number ∈ type.size.numbers, ReadableNumber number)
      (· = (type.size.precision?, type.size.scale?)) := by
  unfold DeclaredType.size TypeTerm.declared
  cases type.size with
  | unsized => exact Yields.ok (by simp [Size.numbers]) rfl
  | unbounded => exact Yields.ok (by simp [Size.numbers]) rfl
  | precision digits =>
      have hsplit : (Text.splitOnChar ',' (Nat.toDigits 10 digits)).map trim = [Nat.toDigits 10 digits] := by
        rw [splitOnChar_of_not_mem (toDigits_ne_comma digits), List.map_singleton, trim_toDigits]
      simp only [Size.params?, Model.sizeOf, hsplit, if_neg (map_toLower_toDigits_ne digits),
        isDigits_toDigits, if_true]
      refine ((readSize_toDigits digits).bind fun value _ hvalue => Yields.ok trivial ?_).congr ?_
      · rw [hvalue]
        rfl
      · simp [Size.numbers]
  | scaled digits places =>
      have hsplit : (Text.splitOnChar ',' (Nat.toDigits 10 digits ++ ',' :: Nat.toDigits 10 places)).map trim =
          [Nat.toDigits 10 digits, Nat.toDigits 10 places] := by
        rw [splitOnChar_append (toDigits_ne_comma digits), splitOnChar_of_not_mem (toDigits_ne_comma places),
          List.map_cons, List.map_singleton, trim_toDigits, trim_toDigits]
      simp only [Size.params?, Model.sizeOf, hsplit, isDigits_toDigits, Bool.and_self, if_true]
      refine ((readSize_toDigits digits).bind fun first _ hfirst =>
        (readSize_toDigits places).bind fun second _ hsecond => Yields.ok trivial ?_).congr ?_
      · rw [hfirst, hsecond]
        rfl
      · simp [Size.numbers]

end Sizes

section Codes

theorem isMax_asked (type : TypeTerm) : type.asked.isMax = true ↔ type.size = .unbounded := by
  have hnumber (number : Nat) : (some (number : Int) == some maxLength) = false := by
    simp [maxLength]
  unfold ColumnType.isMax TypeTerm.asked
  cases type.size <;> simp [Size.precision?, hnumber]

/-- The codes that refuse an unbounded size are the ones listed. -/
theorem mem_boundedCodes {type : ModelType} (htype : type ∈ modelTypes) :
    type.code ∈ boundedCodes ↔
      type.fixed = false ∧ type.policy ≠ .none ∧ supportsMax type.storage = false := by
  have hall : ∀ type ∈ modelTypes, (type.code ∈ boundedCodes ↔
      type.fixed = false ∧ type.policy ≠ .none ∧ supportsMax type.storage = false) := by decide +kernel
  exact hall type htype

/-- A code of a bounded type is known. -/
theorem modelType?_of_bounded {code : String} (h : nameKey code ∈ boundedCodes) :
    modelType? code ≠ none := by
  have hall : ∀ key ∈ boundedCodes, modelTypes.find? (·.code == key) ≠ none := by decide +kernel
  exact hall _ h

theorem yields_ofDeclared (type : TypeTerm) :
    Yields (ColumnType.ofDeclared type.asked) type.Accepted (· = type.stored) := by
  have hstored : ∀ stored, ColumnType.ofDeclared type.asked = .ok stored → stored = type.stored := by
    intro stored h
    rw [TypeTerm.stored, h]
    rfl
  refine ⟨?_, ?_, hstored⟩
  · intro haccepted
    unfold ColumnType.ofDeclared
    cases hfound : modelType? type.asked.name with
    | none => exact ⟨_, rfl⟩
    | some found =>
        have hmem : found ∈ modelTypes := List.mem_of_find?_eq_some hfound
        have hcode : found.code = nameKey type.asked.name := by simpa using List.find?_some hfound
        simp only [ModelType.store]
        split
        · exact ⟨_, rfl⟩
        · rename_i hfixed
          split
          · exact ⟨_, rfl⟩
          · rename_i hpolicy
            split
            · rename_i hmax
              split
              · exact ⟨_, rfl⟩
              · rename_i hsupports
                have hbounded := (mem_boundedCodes hmem).2 ⟨by simpa using hfixed, hpolicy, by simpa using hsupports⟩
                rw [hcode] at hbounded
                exact absurd hbounded (haccepted ((isMax_asked type).1 hmax))
            · exact ⟨_, rfl⟩
  · intro stored hok hunbounded (hbounded : nameKey type.asked.name ∈ boundedCodes)
    have hmax := (isMax_asked type).2 hunbounded
    unfold ColumnType.ofDeclared at hok
    cases hfound : modelType? type.asked.name with
    | none => exact modelType?_of_bounded hbounded hfound
    | some found =>
        have hmem : found ∈ modelTypes := List.mem_of_find?_eq_some hfound
        have hcode : found.code = nameKey type.asked.name := by simpa using List.find?_some hfound
        rw [← hcode, mem_boundedCodes hmem] at hbounded
        obtain ⟨hfixed, hpolicy, hsupports⟩ := hbounded
        simp [hfound, ModelType.store, hfixed, hpolicy, hmax, hsupports] at hok

end Codes

/-- A type can be declared and is short enough to be read. -/
def TypeTerm.Compiles (type : TypeTerm) : Prop :=
  type.Accepted ∧ ∀ number ∈ type.size.numbers, ReadableNumber number

/-- A printed type is compiled exactly if it is accepted and can be read. -/
theorem yields_columnType (type : TypeTerm) (place : Fault → Failure) :
    Yields (type.declared.columnType place) type.Compiles (· = type.stored) := by
  rw [columnType_eq]
  refine ((yields_size type).mapError.bind fun size _ hsize => ?_).congr and_comm
  rw [hsize]
  exact (yields_ofDeclared type).mapError

end SchemaMigrate.Grammar
