import SchemaMigrate.Name
import SchemaMigrate.Proofs.Text.Classes
import SchemaMigrate.Text.Case

/-!
Lowercase and blanks under case folding. The letters outside ASCII that fold to ASCII letters are few, and no
letter lowers to one of them that does not fold like it. So a text that folds to an ASCII text once it is
lowered folds to it anyway. Blanks fold to themselves and nothing else folds to a blank, so a name can be
trimmed before or after it is folded.
-/

namespace SchemaMigrate.Text

/-- The code points above ASCII whose folding has an ASCII letter in it. -/
def asciiFolding : List Nat :=
  [0x00DF, 0x0130, 0x0149, 0x017F, 0x01F0, 0x1E96, 0x1E97, 0x1E98, 0x1E99, 0x1E9A, 0x1E9E, 0x212A,
   0xFB00, 0xFB01, 0xFB02, 0xFB03, 0xFB04, 0xFB05, 0xFB06]

/-- The capitals of two of them; each lowers to a letter that folds like it. -/
def asciiCapitals : List Nat := [0x1E9E, 0x212A]

/-- Whether a run sends every code point to a character above ASCII. -/
def staysAbove (run : Nat × Nat × Nat × Int) : Bool :=
  128 ≤ run.1 + run.2.2.2
    && (run.2.1 + run.2.2.2 < 0xD800 || (0xE000 ≤ run.1 + run.2.2.2 && run.2.1 + run.2.2.2 < 0x110000))

/-- Whether a run sends no code point to one that folds to ASCII. -/
def avoidsAscii (run : Nat × Nat × Nat × Int) : Bool :=
  asciiFolding.all fun (code : Nat) => code < run.1 + run.2.2.2 || run.2.1 + run.2.2.2 < code

theorem runTarget?_eq_some {runs : List (Nat × Nat × Nat × Int)} {code target : Nat}
    (h : runTarget? runs code = some target) :
    ∃ run ∈ runs, run.1 ≤ code ∧ code ≤ run.2.1 ∧ target = ((code : Int) + run.2.2.2).toNat := by
  obtain ⟨run, hfind, htarget⟩ := Option.map_eq_some_iff.1 h
  have hrun := List.find?_some hfind
  simp only [Bool.and_eq_true, decide_eq_true_eq] at hrun
  exact ⟨run, List.mem_of_find?_eq_some hfind, hrun.1.1, hrun.1.2, htarget.symm⟩

theorem toNat_ofNat {code : Nat} (h : code < 0xD800 ∨ 0xE000 ≤ code ∧ code < 0x110000) :
    (Char.ofNat code).toNat = code := by
  have hvalid : code.isValidChar := by
    rcases h with h | h
    · exact .inl h
    · exact .inr ⟨by omega, h.2⟩
  rw [Char.ofNat, dif_pos hvalid]
  rfl

theorem staysAbove_target {run : Nat × Nat × Nat × Int} (h : staysAbove run = true) {code : Nat}
    (hfirst : run.1 ≤ code) (hlast : code ≤ run.2.1) :
    (Char.ofNat ((code : Int) + run.2.2.2).toNat).toNat = ((code : Int) + run.2.2.2).toNat
      ∧ 128 ≤ ((code : Int) + run.2.2.2).toNat := by
  simp only [staysAbove, Bool.and_eq_true, Bool.or_eq_true, decide_eq_true_eq] at h
  obtain ⟨habove, hvalid⟩ := h
  refine ⟨toNat_ofNat ?_, by omega⟩
  rcases hvalid with hvalid | hvalid
  · left; omega
  · right; omega

/-- An expansion is not empty, is not of a blank, and has no ASCII letter in it unless it is of one of the
few; a run is of no blank, and stays above ASCII unless it is of one of the few. -/
theorem fold_tables :
    (foldExpansions.all fun entry => !entry.2.isEmpty && !inRanges blankRanges entry.1
        && (asciiFolding.contains entry.1 || entry.2.all fun code => 128 ≤ (Char.ofNat code).toNat)) = true
      ∧ (foldRuns.all fun run => staysAbove run || run.1 == run.2.1 && asciiFolding.contains run.1) = true
      ∧ rangesApart blankRanges (foldRuns.map fun run => (run.1, run.2.1)) = true := by
  decide +kernel

/-- Lowering and folding are one on ASCII and on the capitals among the few, and the other runs stay away
from the few. -/
theorem lower_tables :
    (∀ n < 128, (lowerChar (Char.ofNat n)).flatMap foldChar = foldChar (Char.ofNat n))
      ∧ (∀ code ∈ 0x130 :: asciiCapitals,
          (lowerChar (Char.ofNat code)).flatMap foldChar = foldChar (Char.ofNat code))
      ∧ (lowerRuns.all fun run => (staysAbove run && avoidsAscii run)
          || run.1 == run.2.1 && asciiCapitals.contains run.1) = true := by
  decide +kernel

/-- Above ASCII a character folds as an entry says, or as a run does, or to itself. -/
theorem foldChar_cases {c : Char} (hc : 128 ≤ c.toNat) :
    (∃ entry ∈ foldExpansions, entry.1 = c.toNat ∧ foldChar c = entry.2.map Char.ofNat)
      ∨ (∃ run ∈ foldRuns, run.1 ≤ c.toNat ∧ c.toNat ≤ run.2.1
          ∧ foldChar c = [Char.ofNat ((c.toNat : Int) + run.2.2.2).toNat])
      ∨ foldChar c = [c] := by
  rw [foldChar, if_neg (Nat.not_lt.2 hc)]
  split
  · rename_i codes hfind
    exact .inl ⟨_, List.mem_of_find?_eq_some hfind, by simpa using List.find?_some hfind, rfl⟩
  · right
    cases htarget : runTarget? foldRuns c.toNat with
    | none => exact .inr rfl
    | some target =>
        obtain ⟨run, hmem, hfirst, hlast, rfl⟩ := runTarget?_eq_some htarget
        exact .inl ⟨run, hmem, hfirst, hlast, rfl⟩

theorem foldChar_ne_nil (c : Char) : foldChar c ≠ [] := by
  by_cases hc : c.toNat < 128
  · rw [foldChar, if_pos hc]
    exact List.cons_ne_nil _ _
  · rcases foldChar_cases (Nat.not_lt.1 hc) with ⟨entry, hmem, -, hfold⟩ | ⟨run, -, -, -, hfold⟩ | hfold
    · have hentry := List.all_eq_true.1 fold_tables.1 entry hmem
      simp only [Bool.and_eq_true, Bool.not_eq_true', List.isEmpty_eq_false_iff] at hentry
      rw [hfold]
      simpa using hentry.1.1
    · rw [hfold]
      exact List.cons_ne_nil _ _
    · rw [hfold]
      exact List.cons_ne_nil _ _

/-- Of a letter above ASCII that is not among the few, nothing in the folding is ASCII. -/
theorem foldChar_above {c : Char} (hc : 128 ≤ c.toNat) (hfew : c.toNat ∉ asciiFolding) :
    ∀ d ∈ foldChar c, 128 ≤ d.toNat := by
  intro d hd
  rcases foldChar_cases hc with ⟨entry, hmem, hcode, hfold⟩ | ⟨run, hmem, hfirst, hlast, hfold⟩ | hfold
  · have hentry := List.all_eq_true.1 fold_tables.1 entry hmem
    simp only [Bool.and_eq_true, Bool.or_eq_true, List.contains_iff_mem, hcode, hfew, false_or,
      List.all_eq_true, decide_eq_true_eq] at hentry
    rw [hfold] at hd
    obtain ⟨code, hcodes, rfl⟩ := List.mem_map.1 hd
    exact hentry.2 code hcodes
  · have hrun := List.all_eq_true.1 fold_tables.2.1 run hmem
    rw [hfold, List.mem_singleton] at hd
    rw [Bool.or_eq_true] at hrun
    rcases hrun with hrun | hrun
    · have := staysAbove_target hrun hfirst hlast
      rw [hd]
      omega
    · simp only [Bool.and_eq_true, beq_iff_eq, List.contains_iff_mem] at hrun
      have : c.toNat = run.1 := by omega
      exact absurd (this ▸ hrun.2) hfew
  · rw [hfold, List.mem_singleton] at hd
    exact hd ▸ hc

/-- Whether every character is ASCII. -/
def isAscii (text : List Char) : Bool := text.all fun c => c.toNat < 128

theorem not_isAscii_foldChar {c : Char} (hc : 128 ≤ c.toNat) (hfew : c.toNat ∉ asciiFolding) :
    ¬isAscii (foldChar c) = true := by
  intro h
  obtain ⟨d, hd⟩ := List.exists_mem_of_ne_nil _ (foldChar_ne_nil c)
  have hlow := List.all_eq_true.1 h d hd
  have hhigh := foldChar_above hc hfew d hd
  simp only [decide_eq_true_eq] at hlow
  omega

/-- A letter lowers to itself, or to letters that fold like it, or to one that does not fold to ASCII. -/
theorem foldChar_lowerChar {c : Char} (h : isAscii ((lowerChar c).flatMap foldChar) = true) :
    (lowerChar c).flatMap foldChar = foldChar c := by
  obtain ⟨hascii, hcapitals, hruns⟩ := lower_tables
  have hcapital : c.toNat ∈ 0x130 :: asciiCapitals → (lowerChar c).flatMap foldChar = foldChar c := by
    intro hmem
    have := hcapitals c.toNat hmem
    rwa [Char.ofNat_toNat] at this
  by_cases hc : c.toNat < 128
  · exact forall_ascii (P := fun c => (lowerChar c).flatMap foldChar = foldChar c) hascii hc
  · by_cases hdotted : c = '\u0130'
    · refine hcapital ?_
      rw [hdotted]
      exact List.mem_cons_self
    · cases htarget : runTarget? lowerRuns c.toNat with
      | none =>
          rw [lowerChar, if_neg hc, if_neg hdotted, htarget]
          simp
      | some target =>
          obtain ⟨run, hmem, hfirst, hlast, rfl⟩ := runTarget?_eq_some htarget
          have hrun := List.all_eq_true.1 hruns run hmem
          rw [Bool.or_eq_true, Bool.and_eq_true] at hrun
          rcases hrun with ⟨habove, havoids⟩ | hrun
          · exfalso
            rw [lowerChar, if_neg hc, if_neg hdotted, htarget, Option.elim_some,
              List.flatMap_singleton] at h
            obtain ⟨hvalid, hlarge⟩ := staysAbove_target habove hfirst hlast
            refine not_isAscii_foldChar (by omega) ?_ h
            rw [hvalid]
            intro hin
            have := List.all_eq_true.1 havoids _ hin
            simp only [Bool.or_eq_true, decide_eq_true_eq] at this
            omega
          · simp only [Bool.and_eq_true, beq_iff_eq, List.contains_iff_mem] at hrun
            have hcode : c.toNat = run.1 := by omega
            exact hcapital (List.mem_cons_of_mem _ (hcode ▸ hrun.2))

/-- A text that folds to ASCII once it is lowered folds to the same anyway. -/
theorem flatMap_foldChar_lowerFrom {before text : List Char}
    (h : isAscii ((lowerFrom before text).flatMap foldChar) = true) :
    (lowerFrom before text).flatMap foldChar = text.flatMap foldChar := by
  induction text generalizing before with
  | nil => rfl
  | cons c rest ih =>
      rw [lowerFrom] at h ⊢
      simp only [List.flatMap_append, isAscii, List.all_append, Bool.and_eq_true] at h ⊢
      obtain ⟨hfirst, hrest⟩ := h
      rw [ih hrest, List.flatMap_cons]
      congr 1
      split at hfirst
      · -- either form of the sigma folds to the other, and neither is ASCII
        exfalso
        split at hfirst
        · rw [List.flatMap_singleton] at hfirst
          exact not_isAscii_foldChar (c := 'ς') (by decide) (by decide) hfirst
        · rw [List.flatMap_singleton] at hfirst
          exact not_isAscii_foldChar (c := 'σ') (by decide) (by decide) hfirst
      · rename_i hsigma
        rw [if_neg hsigma]
        exact foldChar_lowerChar hfirst

/-- Blanks fold to themselves. -/
theorem foldChar_of_isBlank {c : Char} (h : isBlank c = true) : foldChar c = [c] := by
  by_cases hc : c.toNat < 128
  · revert h
    exact forall_ascii (P := fun c => isBlank c = true → foldChar c = [c]) (by decide +kernel) hc
  · rcases foldChar_cases (Nat.not_lt.1 hc) with ⟨entry, hmem, hcode, -⟩ | ⟨run, hmem, hfirst, hlast, -⟩ | hfold
    · have hentry := List.all_eq_true.1 fold_tables.1 entry hmem
      rw [isBlank] at h
      simp [hcode, h] at hentry
    · have hapart : inRanges (foldRuns.map fun run => (run.1, run.2.1)) c.toNat = false :=
        inRanges_of_apart fold_tables.2.2 h
      have hin : inRanges (foldRuns.map fun run => (run.1, run.2.1)) c.toNat = true :=
        inRanges_eq_true_iff.2 ⟨_, List.mem_map.2 ⟨run, hmem, rfl⟩, hfirst, hlast⟩
      rw [hapart] at hin
      cases hin
    · exact hfold

/-- A text has blanks at its ends only if its folding has. -/
theorem trim_of_foldChar {text : List Char}
    (hfirst : ∀ c, (text.flatMap foldChar).head? = some c → isBlank c = false)
    (hlast : ∀ c, (text.flatMap foldChar).getLast? = some c → isBlank c = false) : trim text = text := by
  apply trim_eq_self
  · intro c hc
    rw [Bool.eq_false_iff]
    intro hblank
    obtain ⟨rest, rfl⟩ := List.head?_eq_some_iff.1 hc
    have := hfirst c (by rw [List.flatMap_cons, foldChar_of_isBlank hblank]; rfl)
    rw [hblank] at this
    cases this
  · intro c hc
    rw [Bool.eq_false_iff]
    intro hblank
    obtain ⟨front, rfl⟩ := List.getLast?_eq_some_iff.1 hc
    have := hlast c (by
      rw [List.flatMap_append, List.flatMap_singleton, foldChar_of_isBlank hblank,
        List.getLast?_concat])
    rw [hblank] at this
    cases this

/-- What a character that is not blank folds to is not blank either. -/
theorem blank_tables :
    (∀ n < 128, isBlank (Char.ofNat n) = false → isBlank (Char.ofNat n).toLower = false)
      ∧ (foldExpansions.all fun entry => entry.2.all fun code => !isBlank (Char.ofNat code)) = true
      ∧ (foldRuns.all fun run => 0 ≤ run.1 + run.2.2.2 && blankRanges.all fun range =>
          range.2 < run.1 + run.2.2.2 || run.2.1 + run.2.2.2 < range.1) = true := by
  decide +kernel

theorem isBlank_of_mem_foldChar {c d : Char} (h : isBlank c = false) (hd : d ∈ foldChar c) : isBlank d = false := by
  obtain ⟨hascii, hexpansions, hruns⟩ := blank_tables
  by_cases hc : c.toNat < 128
  · rw [foldChar, if_pos hc, List.mem_singleton] at hd
    rw [hd]
    revert h
    exact forall_ascii (P := fun c => isBlank c = false → isBlank c.toLower = false) hascii hc
  · rcases foldChar_cases (Nat.not_lt.1 hc) with ⟨entry, hmem, -, hfold⟩ | ⟨run, hmem, hfirst, hlast, hfold⟩ | hfold
    · rw [hfold] at hd
      obtain ⟨code, hcode, rfl⟩ := List.mem_map.1 hd
      simpa using List.all_eq_true.1 (List.all_eq_true.1 hexpansions entry hmem) code hcode
    · rw [hfold, List.mem_singleton] at hd
      rw [hd, Bool.eq_false_iff]
      intro hblank
      obtain ⟨range, hrange, hlow, hhigh⟩ := inRanges_eq_true_iff.1 hblank
      have hrun := List.all_eq_true.1 hruns run hmem
      rw [Bool.and_eq_true, decide_eq_true_eq] at hrun
      obtain ⟨hpositive, hranges⟩ := hrun
      have hapart := List.all_eq_true.1 hranges range hrange
      simp only [Bool.or_eq_true, decide_eq_true_eq] at hapart
      -- a target that is no character is read as the null character, and that one is not blank
      by_cases hvalid : ((c.toNat : Int) + run.2.2.2).toNat.isValidChar
      · rw [toNat_ofNat (hvalid.imp id fun h => ⟨by omega, h.2⟩)] at hlow hhigh
        omega
      · rw [Char.ofNat, dif_neg hvalid] at hblank
        exact absurd hblank (by decide)
    · rw [hfold, List.mem_singleton] at hd
      exact hd ▸ h

/-- Where blanks stay and other characters become texts without blanks, the blanks in front stay in front. -/
theorem dropWhile_isBlank_flatMap {write : Char → List Char} (hblank : ∀ c, isBlank c = true → write c = [c])
    (hother : ∀ c, isBlank c = false → write c ≠ [] ∧ ∀ d ∈ write c, isBlank d = false) (text : List Char) :
    (text.flatMap write).dropWhile isBlank = (text.dropWhile isBlank).flatMap write := by
  induction text with
  | nil => rfl
  | cons c rest ih =>
      cases hc : isBlank c with
      | true =>
          rw [List.flatMap_cons, hblank c hc, List.singleton_append, List.dropWhile_cons_of_pos hc,
            List.dropWhile_cons_of_pos hc, ih]
      | false =>
          rw [List.dropWhile_cons_of_neg (by simp [hc])]
          obtain ⟨hne, hmem⟩ := hother c hc
          refine dropWhile_eq_self fun d hd => ?_
          obtain ⟨first, others, hwrite⟩ := List.exists_cons_of_ne_nil hne
          rw [List.flatMap_cons, hwrite, List.cons_append, List.head?_cons, Option.some.injEq] at hd
          exact hmem d (by rw [hwrite, ← hd]; exact List.mem_cons_self)

/-- The blanks at the ends can be dropped before or after folding. -/
theorem trim_flatMap_foldChar (text : List Char) : trim (text.flatMap foldChar) = (trim text).flatMap foldChar := by
  have hback : ∀ c, isBlank c = true → (foldChar c).reverse = [c] := fun c hc => by
    rw [foldChar_of_isBlank hc, List.reverse_singleton]
  have hother : ∀ c, isBlank c = false → (foldChar c).reverse ≠ [] ∧ ∀ d ∈ (foldChar c).reverse, isBlank d = false :=
    fun c hc => ⟨by simpa using foldChar_ne_nil c, fun d hd => isBlank_of_mem_foldChar hc (List.mem_reverse.1 hd)⟩
  have hfront : trimLeft (text.flatMap foldChar) = (trimLeft text).flatMap foldChar :=
    dropWhile_isBlank_flatMap (fun c hc => foldChar_of_isBlank hc)
      (fun c hc => ⟨foldChar_ne_nil c, fun d hd => isBlank_of_mem_foldChar hc hd⟩) text
  calc trim (text.flatMap foldChar)
    _ = (((trimLeft text).flatMap foldChar).reverse.dropWhile isBlank).reverse := by rw [trim, hfront, trimRight]
    _ = (((trimLeft text).reverse.dropWhile isBlank).flatMap fun c => (foldChar c).reverse).reverse := by
      rw [List.reverse_flatMap]
      exact congrArg List.reverse (dropWhile_isBlank_flatMap hback hother _)
    _ = (trim text).flatMap foldChar := by
      rw [List.reverse_flatMap]
      simp [trim, trimRight, Function.comp_def]

end SchemaMigrate.Text

namespace SchemaMigrate

/-- The key of a trimmed name is the trimmed key. -/
theorem nameKey_trimmed (name : String) : nameKey (Text.trimmed name) = Text.trimmed (nameKey name) := by
  simp only [nameKey, Text.foldCase, Text.trimmed, String.toList_ofList, Text.trim_flatMap_foldChar]

end SchemaMigrate
