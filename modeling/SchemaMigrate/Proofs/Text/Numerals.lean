import Mathlib.Algebra.Group.Nat.Defs
import Mathlib.Data.List.Induction
import Mathlib.Tactic.Ring
import SchemaMigrate.Proofs.Text.Classes
import SchemaMigrate.Text.Numeral

/-!
Numerals that are made of ASCII digits alone, as numbers are printed. Only their length can keep them
from being read.
-/

namespace SchemaMigrate.Text

theorem toNat_lt_of_isDigit {c : Char} (h : c.isDigit = true) : c.toNat < 127 := by
  rw [Char.isDigit, Bool.and_eq_true, decide_eq_true_eq, decide_eq_true_eq] at h
  exact Nat.lt_of_le_of_lt h.2 (by decide)

theorem numeralChar_of_isDigit {c : Char} (h : c.isDigit = true) : numeralChar c = c :=
  if_pos (toNat_lt_of_isDigit h)

theorem isNumeralBlank_of_isDigit {c : Char} (h : c.isDigit = true) : isNumeralBlank c = false := by
  have hascii : c.toNat < 128 := Nat.lt_trans (toNat_lt_of_isDigit h) (by decide)
  revert h
  exact forall_ascii (P := fun c => c.isDigit = true → isNumeralBlank c = false) (by decide +kernel) hascii

theorem isDigit_of_asciiDigit {c : Char} (h : c.isDigit = true) : isDigit c = true := by
  have hascii : c.toNat < 128 := Nat.lt_trans (toNat_lt_of_isDigit h) (by decide)
  rw [isDigit, decimalValue?, if_pos hascii, if_pos h]
  rfl

section Marks

/-! A character that belongs in no numeral is marked by a question mark. -/

variable {c : Char} {marks digits : List Char} {text : String}

theorem isNumeralBlank_of_mark (h : c.isDigit = true ∨ c = '?') : isNumeralBlank c = false := by
  rcases h with h | rfl
  · exact isNumeralBlank_of_isDigit h
  · decide

/-- The digits behind a digit run as far as they go. -/
theorem digitsAfter?_of_marks (h : ∀ c ∈ marks, c.isDigit = true ∨ c = '?') :
    digitsAfter? marks = some (marks.takeWhile Char.isDigit, marks.dropWhile Char.isDigit) := by
  induction marks with
  | nil => rfl
  | cons c rest ih =>
      have hunderscore : c ≠ '_' := by
        rintro rfl
        rcases h '_' List.mem_cons_self with h | h <;> cases h
      have hcase : ∀ d tail, c = '_' → rest = d :: tail → False := fun _ _ hc _ => hunderscore hc
      rw [digitsAfter?.eq_2 _ _ hcase]
      cases hc : c.isDigit with
      | true =>
          rw [if_pos rfl, ih fun d hd => h d (List.mem_cons_of_mem _ hd), List.takeWhile_cons_of_pos hc,
            List.dropWhile_cons_of_pos hc]
          rfl
      | false =>
          rw [if_neg (by decide), if_neg hunderscore, List.takeWhile_cons_of_neg (by simp [hc]),
            List.dropWhile_cons_of_neg (by simp [hc])]

theorem leadingDigits?_of_marks (h : ∀ c ∈ marks, c.isDigit = true ∨ c = '?') :
    leadingDigits? marks =
      if marks.takeWhile Char.isDigit = [] then none
      else some (marks.takeWhile Char.isDigit, marks.dropWhile Char.isDigit) := by
  cases marks with
  | nil => rfl
  | cons c rest =>
      rw [leadingDigits?]
      cases hc : c.isDigit with
      | true =>
          rw [if_pos rfl, digitsAfter?_of_marks fun d hd => h d (List.mem_cons_of_mem _ hd),
            List.takeWhile_cons_of_pos hc, List.dropWhile_cons_of_pos hc, if_neg (List.cons_ne_nil _ _)]
          rfl
      | false => rw [if_neg (by decide), List.takeWhile_cons_of_neg (by simp [hc]), if_pos rfl]

/-- No sign is taken off a text of marks. -/
theorem splitSign_of_marks (h : ∀ c ∈ marks, c.isDigit = true ∨ c = '?') : splitSign marks = (false, marks) := by
  unfold splitSign
  split
  · rcases h '-' List.mem_cons_self with h | h <;> cases h
  · rcases h '+' List.mem_cons_self with h | h <;> cases h
  · rfl

theorem all_isNumeralBlank_of_marks (h : ∀ c ∈ marks, c.isDigit = true ∨ c = '?') :
    marks.all isNumeralBlank = true ↔ marks = [] := by
  cases marks with
  | nil => exact iff_of_true rfl rfl
  | cons c rest => simp [isNumeralBlank_of_mark (h c List.mem_cons_self)]

/-- A text of marks is read as an integer if they are all digits and not too many. -/
theorem readInteger_of_marks (hmarks : text.toList.map numeralChar = marks)
    (h : ∀ c ∈ marks, c.isDigit = true ∨ c = '?') :
    readInteger text =
      if marks.takeWhile Char.isDigit = [] then .error (.malformed text)
      else if maxDigits < (marks.takeWhile Char.isDigit).length then
        .error (.tooLong (marks.takeWhile Char.isDigit).length)
      else if marks.dropWhile Char.isDigit = [] then .ok (digitsValue (marks.takeWhile Char.isDigit))
      else .error (.malformed text) := by
  have hbody : marks.dropWhile isNumeralBlank = marks :=
    dropWhile_eq_self fun c hc => isNumeralBlank_of_mark (h c (List.mem_of_head? hc))
  have hafter := all_isNumeralBlank_of_marks fun c hc => h c ((List.dropWhile_suffix Char.isDigit).mem hc)
  unfold readInteger
  simp only [hmarks, hbody, splitSign_of_marks h, leadingDigits?_of_marks h]
  by_cases hnone : marks.takeWhile Char.isDigit = []
  · rw [if_pos hnone, if_pos hnone]
  · rw [if_neg hnone, if_neg hnone]
    simp only [hafter, Bool.false_eq_true, if_false]

/-- Digits are read as an integer unless there are too many of them. -/
theorem readInteger_of_isDigit (hdigits : text.toList.map numeralChar = digits) (hne : digits ≠ [])
    (h : ∀ c ∈ digits, c.isDigit = true) :
    readInteger text =
      if maxDigits < digits.length then .error (.tooLong digits.length) else .ok (digitsValue digits) := by
  rw [readInteger_of_marks hdigits fun c hc => .inl (h c hc), List.takeWhile_eq_self_iff.2 h,
    List.dropWhile_eq_nil_iff.2 h, if_neg hne, if_pos rfl]

theorem map_numeralChar_ofList (h : ∀ c ∈ digits, c.isDigit = true) :
    (String.ofList digits).toList.map numeralChar = digits := by
  rw [String.toList_ofList]
  calc digits.map numeralChar
    _ = digits.map id := List.map_congr_left fun c hc => numeralChar_of_isDigit (h c hc)
    _ = digits := List.map_id _

end Marks

theorem digitsValue_toDigits (number : Nat) : digitsValue (Nat.toDigits 10 number) = number := by
  have h : Nat.ofDigitChars 10 (Nat.toDigits 10 number) 0 = number := Nat.ofDigitChars_ten_toDigits
  rw [Nat.ofDigitChars_eq_foldl] at h
  exact h

theorem digitsValue_concat (digits : List Char) (c : Char) :
    digitsValue (digits ++ [c]) = 10 * digitsValue digits + (c.toNat - '0'.toNat) :=
  List.foldl_append

theorem digitsValue_lt {digits : List Char} (h : ∀ c ∈ digits, c.isDigit = true) :
    digitsValue digits < 10 ^ digits.length := by
  induction digits using List.reverseRecOn with
  | nil => decide
  | append_singleton digits c ih =>
      have hdigits := ih fun d hd => h d (List.mem_append_left _ hd)
      have hc : c.isDigit = true := h c (List.mem_append_right _ List.mem_cons_self)
      have hvalue : c.toNat ≤ 57 := by
        rw [Char.isDigit, Bool.and_eq_true, decide_eq_true_eq, decide_eq_true_eq] at hc
        exact hc.2
      have hzero : '0'.toNat = 48 := rfl
      rw [digitsValue_concat, List.length_append, List.length_singleton, Nat.pow_succ, hzero]
      omega

theorem digitsValue_zeros (front : List Char) (count : Nat) :
    digitsValue (front ++ List.replicate count '0') = digitsValue front * 10 ^ count := by
  induction count with
  | zero => simp
  | succ count ih =>
      rw [List.replicate_succ', ← List.append_assoc, digitsValue_concat, ih, Nat.pow_succ]
      simp only [Nat.sub_self]
      ring

/-- Nines fall short of a power of ten by one. -/
theorem digitsValue_nines (front : List Char) (count : Nat) :
    digitsValue (front ++ List.replicate count '9') + 1 = (digitsValue front + 1) * 10 ^ count := by
  induction count with
  | zero => simp
  | succ count ih =>
      have hnine : '9'.toNat - '0'.toNat = 9 := by decide
      rw [List.replicate_succ', ← List.append_assoc, digitsValue_concat, hnine, Nat.pow_succ, ← Nat.mul_assoc, ← ih]
      ring

/-- A printed number is read back if it does not have too many digits. -/
theorem readInteger_toDigits (number : Nat) :
    readInteger (String.ofList (Nat.toDigits 10 number)) =
      if number < 10 ^ maxDigits then .ok (number : Int)
      else .error (.tooLong (Nat.toDigits 10 number).length) := by
  have hlength : (Nat.toDigits 10 number).length ≤ maxDigits ↔ number < 10 ^ maxDigits :=
    Nat.length_toDigits_le_iff (by decide) (by decide)
  have hdigits : ∀ c ∈ Nat.toDigits 10 number, c.isDigit = true :=
    fun c hc => Nat.isDigit_of_mem_toDigits (by decide) (by decide) hc
  rw [readInteger_of_isDigit (map_numeralChar_ofList hdigits) Nat.toDigits_ne_nil hdigits, digitsValue_toDigits]
  by_cases hnumber : number < 10 ^ maxDigits
  · rw [if_pos hnumber, if_neg (Nat.not_lt.2 (hlength.2 hnumber))]
  · rw [if_neg hnumber, if_pos (Nat.lt_of_not_le fun hle => hnumber (hlength.1 hle))]

end SchemaMigrate.Text
