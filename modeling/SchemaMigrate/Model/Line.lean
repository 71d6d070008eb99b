import SchemaMigrate.Text.Classes
import SchemaMigrate.Text.Lines

/-!
The lines of a model text that say something. Remarks are taken out: those in block marks, which may
run over several lines, and those behind `//` or a hash mark, which run to the end of the line. Blank
lines are dropped, and each line keeps its number.
-/

namespace SchemaMigrate.Model

structure Line where
  number : Nat
  text : List Char
deriving Repr, DecidableEq

/-- A line without the remarks in block marks. `inside` tells whether a block is open at its start; the
second result, whether one is open at its end. -/
def stripBlocks : Bool → List Char → List Char × Bool
  | inside, [] => ([], inside)
  | true, '*' :: '/' :: rest => stripBlocks false rest
  | true, _ :: rest => stripBlocks true rest
  | false, '/' :: '*' :: rest => stripBlocks true rest
  | false, c :: rest => (c :: (stripBlocks false rest).1, (stripBlocks false rest).2)

/-- A line up to the first mark of a remark that runs to its end. -/
def cutRemark : List Char → List Char
  | [] => []
  | '/' :: '/' :: _ => []
  | c :: rest => if c = '#' then [] else c :: cutRemark rest

/-- Reads lines from the given number on. -/
def linesFrom (number : Nat) (inside : Bool) : List (List Char) → List Line
  | [] => []
  | raw :: rest =>
      let stripped := stripBlocks inside raw
      let text := Text.trim (cutRemark stripped.1)
      let lines := linesFrom (number + 1) stripped.2 rest
      if text.isEmpty then lines else { number, text } :: lines

/-- The lines of a text that say something, counted from one. -/
def linesOf (text : String) : List Line := linesFrom 1 false (Text.splitLines text.toList)

end SchemaMigrate.Model
