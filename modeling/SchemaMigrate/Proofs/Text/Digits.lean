import SchemaMigrate.Proofs.Text.Numerals

/-!
Texts that are made of digits of any script. Such a text looks like a number, but it can be read as one
only if all its digits are decimal: a superscript or a circled digit has no place in a numeral. The length
of a numeral is bounded as well.
-/

namespace SchemaMigrate.Text

/-- A number that can be read: its digits are decimal and there are not too many of them. -/
def IsNumeral (digits : List Char) : Prop :=
  (∀ c ∈ digits, (decimalValue? c).isSome = true) ∧ digits.length ≤ maxDigits

instance (digits : List Char) : Decidable (IsNumeral digits) :=
  inferInstanceAs (Decidable (_ ∧ _))

section Characters

variable {c : Char} {value : Nat}

/-- The ranges of the decimal digits. -/
def decimalRanges : List (Nat × Nat) := decimalZeros.map fun first => (first, first + 9)

/-- A decimal digit is an ASCII digit, or lies in a run of ten that starts at a zero. -/
theorem decimalValue?_cases (h : decimalValue? c = some value) :
    c.toNat < 128 ∧ c.isDigit = true ∨ 128 ≤ c.toNat ∧ inRanges decimalRanges c.toNat = true ∧ value < 10 := by
  unfold decimalValue? at h
  split at h
  · rename_i hascii
    split at h
    · exact .inl ⟨hascii, ‹_›⟩
    · cases h
  · rename_i hwide
    obtain ⟨first, hfirst, rfl⟩ := Option.map_eq_some_iff.1 h
    have hrange := List.find?_some hfirst
    simp only [Bool.and_eq_true, decide_eq_true_eq] at hrange
    refine .inr ⟨Nat.le_of_not_lt hwide, ?_, by omega⟩
    exact inRanges_eq_true_iff.2
      ⟨(first, first + 9), List.mem_map_of_mem (List.mem_of_find?_eq_some hfirst), hrange⟩

/-- In a numeral a decimal digit stands for an ASCII digit. -/
theorem isDigit_numeralChar (h : decimalValue? c = some value) : (numeralChar c).isDigit = true := by
  have hdigits : ∀ value < 10, (Char.ofNat ('0'.toNat + value)).isDigit = true := by decide
  rcases decimalValue?_cases h with ⟨-, hdigit⟩ | ⟨hwide, hrange, hvalue⟩
  · rw [numeralChar_of_isDigit hdigit, hdigit]
  · have hblank : isBlank c = false := inRanges_of_apart (by decide +kernel) hrange
    rw [numeralChar, if_neg (by omega), hblank, if_neg (by decide), h]
    exact hdigits value hvalue

/-- In a numeral any other digit is a mark that does not belong there. -/
theorem numeralChar_of_plain (hdigit : isDigit c = true) (h : decimalValue? c = none) : numeralChar c = '?' := by
  have hplain : inRanges plainDigitRanges c.toNat = true := by simpa [isDigit, h] using hdigit
  have hblank : isBlank c = false := inRanges_of_apart (by decide +kernel) hplain
  have hwide : ¬c.toNat < 127 := by
    intro hascii
    have hlow : inRanges [(0, 126)] c.toNat = true := inRanges_eq_true_iff.2 ⟨_, List.mem_cons_self, by omega⟩
    rw [inRanges_of_apart (by decide +kernel) hlow] at hplain
    cases hplain
  rw [numeralChar, if_neg hwide, hblank, if_neg (by decide), h]
  rfl

end Characters

section Texts

variable {digits : List Char}

/-- What digits look like in a numeral. -/
theorem marks_of_isDigits (h : isDigits digits = true) :
    ∀ c ∈ digits.map numeralChar, c.isDigit = true ∨ c = '?' := by
  intro c hc
  obtain ⟨digit, hmem, rfl⟩ := List.mem_map.1 hc
  have hdigit : isDigit digit = true := by
    rw [isDigits, Bool.and_eq_true] at h
    exact List.all_eq_true.1 h.2 digit hmem
  cases hvalue : decimalValue? digit with
  | none => exact .inr (numeralChar_of_plain hdigit hvalue)
  | some value => exact .inl (isDigit_numeralChar hvalue)

/-- A digit is decimal if it is a digit in a numeral. -/
theorem isSome_decimalValue?_iff {c : Char} (h : isDigit c = true) :
    (decimalValue? c).isSome = true ↔ (numeralChar c).isDigit = true := by
  cases hvalue : decimalValue? c with
  | none =>
      rw [numeralChar_of_plain h hvalue]
      decide
  | some value => exact iff_of_true rfl (isDigit_numeralChar hvalue)

/-- A numeral is read as a natural number that is as short. -/
theorem readInteger_of_isNumeral (h : isDigits digits = true) (hnumeral : IsNumeral digits) :
    ∃ number : Nat, number < 10 ^ maxDigits ∧ readInteger (String.ofList digits) = .ok (number : Int) := by
  rw [isDigits, Bool.and_eq_true, List.all_eq_true] at h
  have hdecimal : ∀ c ∈ digits.map numeralChar, c.isDigit = true :=
    List.forall_mem_map.2 fun c hc => (isSome_decimalValue?_iff (h.2 c hc)).1 (hnumeral.1 c hc)
  have hne : digits.map numeralChar ≠ [] := by simpa using h.1
  have hlength : (digits.map numeralChar).length ≤ maxDigits := by simpa using hnumeral.2
  have hmap : (String.ofList digits).toList.map numeralChar = digits.map numeralChar := by rw [String.toList_ofList]
  refine ⟨digitsValue (digits.map numeralChar), ?_, ?_⟩
  · exact (digitsValue_lt hdecimal).trans_le (Nat.pow_le_pow_right (by decide) hlength)
  · rw [readInteger_of_isDigit hmap hne hdecimal, if_neg (Nat.not_lt.2 hlength)]

/-- Digits are read as an integer exactly if they make a numeral. -/
theorem readInteger_of_isDigits (h : isDigits digits = true) :
    (∃ value, readInteger (String.ofList digits) = .ok value) ↔ IsNumeral digits := by
  constructor
  · rintro ⟨value, hvalue⟩
    have hmap : (String.ofList digits).toList.map numeralChar = digits.map numeralChar := by
      rw [String.toList_ofList]
    rw [readInteger_of_marks hmap (marks_of_isDigits h)] at hvalue
    split_ifs at hvalue with _ hlong hrest
    have hall : ∀ c ∈ digits.map numeralChar, c.isDigit = true := List.dropWhile_eq_nil_iff.1 hrest
    rw [List.takeWhile_eq_self_iff.2 hall, List.length_map] at hlong
    rw [isDigits, Bool.and_eq_true, List.all_eq_true] at h
    refine ⟨fun c hc => ?_, Nat.le_of_not_lt hlong⟩
    exact (isSome_decimalValue?_iff (h.2 c hc)).2 (hall _ (List.mem_map_of_mem hc))
  · intro hnumeral
    obtain ⟨number, -, hread⟩ := readInteger_of_isNumeral h hnumeral
    exact ⟨number, hread⟩

end Texts

end SchemaMigrate.Text
