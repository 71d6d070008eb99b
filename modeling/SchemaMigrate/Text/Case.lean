import SchemaMigrate.Text.Classes
import SchemaMigrate.Text.Table.Fold
import SchemaMigrate.Text.Table.Lower

/-!
Full case folding and lowercase. Two texts that differ in the case of their letters alone fold to one
text; a letter may fold to several, as the sharp s does. Every letter lowers by itself but the capital
sigma, which takes its final form at the end of a word: behind a letter and not before one, looking past
marks and joining punctuation.
-/

namespace SchemaMigrate.Text

/-- Where a table of runs (first, last, step, distance) sends a code point, if it sends it anywhere. -/
def runTarget? (runs : List (Nat × Nat × Nat × Int)) (code : Nat) : Option Nat :=
  let run := runs.find? fun (first, last, step, _) =>
    first ≤ code && code ≤ last && (code - first) % step == 0
  run.map fun (_, _, _, distance) => ((code : Int) + distance).toNat

section Folding

/-- The case folding of one character. -/
def foldChar (c : Char) : List Char :=
  if c.toNat < 128 then [c.toLower]
  else match foldExpansions.find? (·.1 == c.toNat) with
    | some (_, codes) => codes.map Char.ofNat
    | none => [(runTarget? foldRuns c.toNat).elim c Char.ofNat]

/-- The case folding of a text, character by character. -/
def foldCase (text : String) : String := String.ofList (text.toList.flatMap foldChar)

/-- Folding goes character by character, so it splits over a concatenation. -/
theorem foldCase_append (first second : String) :
    foldCase (first ++ second) = foldCase first ++ foldCase second := by
  simp [foldCase, String.toList_append, String.ofList_append]

end Folding

section Lowering

/-- The lowercase of one character, the place of a sigma aside. -/
def lowerChar (c : Char) : List Char :=
  if c.toNat < 128 then [c.toLower]
  else if c = '\u0130' then ['i', '\u0307']
  else [(runTarget? lowerRuns c.toNat).elim c Char.ofNat]

/-- Whether the next character that counts is a cased letter. -/
def meetsLetter (text : List Char) : Bool :=
  match text.dropWhile fun c => inRanges skippedRanges c.toNat with
  | [] => false
  | c :: _ => inRanges letterRanges c.toNat

/-- The lowercase of a text that stands behind `before`, whose nearest character comes first. -/
def lowerFrom (before : List Char) : List Char → List Char
  | [] => []
  | c :: rest =>
      let lowered :=
        if c = '\u03A3' then
          [if meetsLetter before && !meetsLetter rest then '\u03C2' else '\u03C3']
        else lowerChar c
      lowered ++ lowerFrom (c :: before) rest

/-- The lowercase of a text. -/
def lowercase (text : String) : String := String.ofList (lowerFrom [] text.toList)

end Lowering

end SchemaMigrate.Text
