import SchemaMigrate.Model.Failure
import SchemaMigrate.Model.Line
import SchemaMigrate.Text.Classes

/-!
Blocks of a model text: a header line and the lines between the braces. The opening brace stands at the
end of the header or alone on the next line, and the closing brace alone; an empty block may be written
on its header line.
-/

namespace SchemaMigrate.Model

/-- A named text. -/
structure Source where
  name : String
  text : String
deriving Repr, DecidableEq

structure Block where
  kind : BlockKind
  header : List Char
  source : String
  lineNumber : Nat
  body : List Line := []
deriving Repr, DecidableEq

/-- The header as it is shown in a failure. -/
def Block.headerLine (block : Block) : String :=
  String.ofList (Text.trim (block.kind.keyword.toList ++ ' ' :: block.header))

/-- A fault of the block as a whole. -/
def Block.failure (block : Block) (fault : Fault) : Failure where
  fault
  source := block.source
  lineNumber := block.lineNumber
  line := block.headerLine

/-- A fault of one of its lines. -/
def Block.failureAt (block : Block) (line : Line) (fault : Fault) : Failure where
  fault
  source := block.source
  lineNumber := line.number
  line := String.ofList line.text

def openBrace : Char := '\x7b'

def closeBrace : Char := '\x7d'

/-- How far a header line goes. -/
inductive Opening where
  | whole
  | opened
  | awaited
deriving Repr, DecidableEq

/-- The braces at the end of a header, and the header without them. Only spaces may stand between the
two braces of an empty block. -/
def splitOpening (header : List Char) : Opening × List Char :=
  match header.reverse with
  | [] => (.awaited, header)
  | last :: rest =>
      if last = openBrace then (.opened, Text.trim rest.reverse)
      else if last = closeBrace then
        match rest.dropWhile (· = ' ') with
        | [] => (.awaited, header)
        | c :: before =>
            if c = openBrace then (.whole, Text.trim before.reverse) else (.awaited, header)
      else (.awaited, header)

/-- The kind of block that a word opens. -/
def kindOf? (word : List Char) : Option BlockKind :=
  if word = "model".toList then some .model
  else if word = "mixin".toList then some .mixin
  else if word = "extends".toList then some .extension
  else none

/-- The kind of block that a line opens, and the rest of the header. -/
def headerOf? (text : List Char) : Option (BlockKind × List Char) :=
  let (word, rest) := Text.spanWord text
  (kindOf? word).map fun kind => (kind, Text.trim rest)

/-- Where a reader stands between two lines. -/
inductive Position where
  | outside
  | beforeBrace (block : Block)
  | inside (block : Block)
deriving Repr, DecidableEq

/-- The blocks read so far, and where the reader stands. -/
structure Reading where
  blocks : List Block := []
  position : Position := .outside
deriving Repr, DecidableEq

/-- Reads one line of the named source. -/
def Reading.step (source : String) (reading : Reading) (line : Line) : Except Failure Reading :=
  match reading.position with
  | .outside =>
      match headerOf? line.text with
      | none =>
          .error { fault := .strayText, source, lineNumber := line.number
                   line := String.ofList line.text }
      | some (kind, rest) =>
          let block (header : List Char) : Block := { kind, header, source, lineNumber := line.number }
          match splitOpening rest with
          | (.whole, header) => .ok { reading with blocks := reading.blocks ++ [block header] }
          | (.opened, header) => .ok { reading with position := .inside (block header) }
          | (.awaited, header) => .ok { reading with position := .beforeBrace (block header) }
  | .beforeBrace block =>
      if line.text = [openBrace] then .ok { reading with position := .inside block }
      else .error (block.failure .missingBrace)
  | .inside block =>
      if line.text = [closeBrace] then .ok { blocks := reading.blocks ++ [block] }
      else if line.text.any fun c => c = openBrace || c = closeBrace then
        .error (block.failureAt line .unexpectedBrace)
      else .ok { reading with position := .inside { block with body := block.body ++ [line] } }

/-- Ends a reading, which must not stand in a block. -/
def Reading.finish (reading : Reading) : Except Failure (List Block) :=
  match reading.position with
  | .outside => .ok reading.blocks
  | .beforeBrace block | .inside block => .error (block.failure (.unterminated block.kind))

/-- The blocks of a source. -/
def Source.blocks (source : Source) : Except Failure (List Block) := do
  let reading ← (linesOf source.text).foldlM (Reading.step source.name) {}
  reading.finish

/-- The blocks of several sources, up to the first failure. -/
def blocksOf : List Source → Except Failure (List Block)
  | [] => .ok []
  | source :: rest => do
      let first ← source.blocks
      let others ← blocksOf rest
      pure (first ++ others)

end SchemaMigrate.Model
