import Mathlib.Data.List.TakeWhile
import SchemaMigrate.Text.Classes
import SchemaMigrate.Text.Lines

/-!
The classes of characters against each other: no word character is blank, a text without blanks at its ends
is trimmed already, and a text with a character that is not blank is not trimmed away.
-/

namespace SchemaMigrate.Text

/-- Whether no two ranges of two tables meet. -/
def rangesApart (first second : List (Nat × Nat)) : Bool :=
  first.all fun a => second.all fun b => a.2 < b.1 || b.2 < a.1

/-- A code point lies in one of two tables at most if they are apart. -/
theorem inRanges_of_apart {first second : List (Nat × Nat)} (h : rangesApart first second = true)
    {code : Nat} (hfirst : inRanges first code = true) : inRanges second code = false := by
  rw [Bool.eq_false_iff]
  intro hsecond
  obtain ⟨a, ha, hlow, hhigh⟩ := inRanges_eq_true_iff.1 hfirst
  obtain ⟨b, hb, hlow', hhigh'⟩ := inRanges_eq_true_iff.1 hsecond
  have hapart := List.all_eq_true.1 (List.all_eq_true.1 h a ha) b hb
  simp only [Bool.or_eq_true, decide_eq_true_eq] at hapart
  omega

/-- What holds of the first 128 characters holds of every ASCII character. -/
theorem forall_ascii {P : Char → Prop} (h : ∀ n < 128, P (Char.ofNat n)) {c : Char}
    (hc : c.toNat < 128) : P c := by
  have := h c.toNat hc
  rwa [Char.ofNat_toNat] at this

theorem isWord_of_isBlank {c : Char} (h : isBlank c = true) : isWord c = false := by
  by_cases hc : c.toNat < 128
  · revert h
    exact forall_ascii (P := fun c => isBlank c = true → isWord c = false) (by decide +kernel) hc
  · rw [isWord, if_neg hc]
    exact inRanges_of_apart (by decide +kernel) h

theorem isBlank_of_isWord {c : Char} (h : isWord c = true) : isBlank c = false := by
  cases hblank : isBlank c with
  | false => rfl
  | true => exact absurd h (by simp [isWord_of_isBlank hblank])

theorem isWord_of_isNameStart {c : Char} (h : isNameStart c = true) : isWord c = true := by
  have hascii : c.toNat < 128 := by
    have hupper : c.isUpper = decide (c.val ≥ 'A'.val ∧ c.val ≤ 'Z'.val) := rfl
    have hlower : c.isLower = (decide (c.val ≥ 'a'.val) && decide (c.val ≤ 'z'.val)) := rfl
    have halpha : c.isAlpha = (c.isUpper || c.isLower) := rfl
    simp only [isNameStart, halpha, hupper, hlower, Bool.or_eq_true, Bool.and_eq_true, decide_eq_true_eq,
      beq_iff_eq, ge_iff_le, UInt32.le_iff_toNat_le] at h
    rcases h with (⟨-, h⟩ | ⟨-, h⟩) | rfl
    · exact Nat.lt_of_le_of_lt h (by decide)
    · exact Nat.lt_of_le_of_lt h (by decide)
    · decide
  revert h
  exact forall_ascii (P := fun c => isNameStart c = true → isWord c = true) (by decide +kernel) hascii

theorem isWord_of_isDigit {c : Char} (h : c.isDigit = true) : isWord c = true := by
  have hascii : c.toNat < 128 := by
    rw [Char.isDigit, Bool.and_eq_true, decide_eq_true_eq, decide_eq_true_eq] at h
    exact Nat.lt_of_le_of_lt h.2 (by decide)
  rw [isWord, if_pos hascii, Char.isAlphanum, h, Bool.or_true, Bool.true_or]

theorem isWord_of_mem_toDigits {number : Nat} {c : Char} (hc : c ∈ Nat.toDigits 10 number) : isWord c = true :=
  isWord_of_isDigit (Nat.isDigit_of_mem_toDigits (by decide) (by decide) hc)

/-- A word character is none of the marks. -/
theorem ne_of_isWord {c mark : Char} (hc : isWord c = true) (hmark : isWord mark = false) : c ≠ mark := by
  rintro rfl
  rw [hmark] at hc
  cases hc

theorem dropWhile_eq_self {α : Type} {p : α → Bool} {items : List α}
    (h : ∀ item, items.head? = some item → p item = false) : items.dropWhile p = items := by
  cases items with
  | nil => rfl
  | cons item items => exact List.dropWhile_cons_of_neg (by simp [h item rfl])

theorem trimLeft_eq_self {text : List Char} (h : ∀ c, text.head? = some c → isBlank c = false) :
    trimLeft text = text :=
  dropWhile_eq_self h

theorem trimRight_eq_self {text : List Char} (h : ∀ c, text.getLast? = some c → isBlank c = false) :
    trimRight text = text := by
  rw [trimRight, dropWhile_eq_self, List.reverse_reverse]
  intro c hc
  rw [List.head?_reverse] at hc
  exact h c hc

/-- A text that neither starts nor ends with a blank is trimmed already. -/
theorem trim_eq_self {text : List Char} (hfirst : ∀ c, text.head? = some c → isBlank c = false)
    (hlast : ∀ c, text.getLast? = some c → isBlank c = false) : trim text = text := by
  rw [trim, trimLeft_eq_self hfirst, trimRight_eq_self hlast]

/-- Names have no blanks around them. -/
theorem trim_of_isWord {text : List Char} (h : ∀ c ∈ text, isWord c = true) : trim text = text :=
  trim_eq_self (fun c hc => isBlank_of_isWord (h c (List.mem_of_head? hc)))
    (fun c hc => isBlank_of_isWord (h c (List.mem_of_getLast? hc)))

/-- What is left of a text when it is trimmed ends in a character that is not blank. -/
theorem exists_not_blank_of_trim {text : List Char} (h : trim text ≠ []) : ∃ c ∈ trim text, isBlank c = false := by
  have hrest : (trimLeft text).reverse.dropWhile isBlank ≠ [] := fun hnil => h (by rw [trim, trimRight, hnil]; rfl)
  refine ⟨((trimLeft text).reverse.dropWhile isBlank).head hrest, ?_, ?_⟩
  · rw [trim, trimRight, List.mem_reverse]
    exact List.head_mem hrest
  · simpa using List.head_dropWhile_not isBlank hrest

/-- A text with a character that is not blank is not trimmed away. -/
theorem trimmed_ne_empty {text : String} {c : Char} (hmem : c ∈ text.toList) (hc : isBlank c = false) :
    trimmed text ≠ "" := by
  intro h
  have hnil : trim text.toList = [] := by
    have hlist := congrArg String.toList h
    rwa [trimmed, String.toList_ofList] at hlist
  rw [trim, trimRight, List.reverse_eq_nil_iff, List.dropWhile_eq_nil_iff] at hnil
  have hrest : ∀ c ∈ trimLeft text.toList, isBlank c = true := fun c hc => hnil c (List.mem_reverse.2 hc)
  rw [← List.takeWhile_append_dropWhile (p := isBlank) (l := text.toList), List.mem_append] at hmem
  have hblank : isBlank c = true := by
    rcases hmem with hmem | hmem
    · exact List.all_eq_true.1 List.all_takeWhile c hmem
    · exact hrest c hmem
  rw [hc] at hblank
  cases hblank

/-- A text has at least one part. -/
theorem splitOnChar_ne_nil (separator : Char) (text : List Char) : splitOnChar separator text ≠ [] := by
  cases text with
  | nil => exact List.cons_ne_nil _ _
  | cons c rest =>
      rw [splitOnChar]
      split
      · exact List.cons_ne_nil _ _
      · cases splitOnChar separator rest with
        | nil => exact List.cons_ne_nil _ _
        | cons line lines => exact List.cons_ne_nil _ _

end SchemaMigrate.Text
