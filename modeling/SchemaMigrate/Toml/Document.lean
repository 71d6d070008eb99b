import SchemaMigrate.Toml.Scalar

/-!
TOML documents: keys, arrays, inline tables, and the statements of which a document is made.

A table may be opened once, and only where no value stands in its way; arrays and inline tables are closed
for good when they are written. The namespaces of a document record what may no longer be done.

Readers that call one another are given more steps than the text has characters; as every second step
passes a character, the steps do not run out.
-/

namespace SchemaMigrate.Toml

/-- What the keys of a document may no longer be used for. -/
structure Namespaces where
  frozen : List Key := []
  opened : List Key := []
  pending : List Key := []

namespace Namespaces

/-- Whether nothing may be added at a key, because a closed value stands at it or above it. -/
def isFrozen (names : Namespaces) (key : Key) : Bool := names.frozen.any (·.isPrefixOf key)

/-- Whether the table of a key has been opened. -/
def isOpened (names : Namespaces) (key : Key) : Bool := names.opened.contains key

def freeze (names : Namespaces) (key : Key) : Namespaces := { names with frozen := key :: names.frozen }

def openTable (names : Namespaces) (key : Key) : Namespaces := { names with opened := key :: names.opened }

/-- Opens the tables that dotted keys have made. -/
def settle (names : Namespaces) : Namespaces :=
  { names with opened := names.pending ++ names.opened, pending := [] }

/-- Forgets everything at a key and below it. -/
def forget (names : Namespaces) (key : Key) : Namespaces :=
  { names with
    frozen := names.frozen.filter fun other => !key.isPrefixOf other
    opened := names.opened.filter fun other => !key.isPrefixOf other }

end Namespaces

/-- The steps of a reader take characters from the front of the text. -/
abbrev Reader (α : Type) := StateT (List Char) (Except ReadError) α

namespace Reader

def fail {α : Type} : Reader α := throw .malformed

/-- Runs a function that reads characters or gives up. -/
def ofOption {α : Type} (read : List Char → Option (α × List Char)) : Reader α := do
  match read (← get) with
  | some (value, rest) => set rest; pure value
  | none => fail

def skipWhile (p : Char → Bool) : Reader Unit := modify (·.dropWhile p)

/-- Passes a mark if it is next, and tells whether it was. -/
def skip (mark : String) : Reader Bool := do
  match mark.toList.isPrefixOf? (← get) with
  | some rest => set rest; pure true
  | none => pure false

/-- Passes a mark that must be next. -/
def expect (mark : String) : Reader Unit := do
  unless ← skip mark do fail

end Reader

/-- The text behind blanks, newlines and comments; `inComment` tells where it starts. -/
def afterTrivia? (inComment : Bool) : List Char → Option (List Char)
  | [] => some []
  | c :: rest =>
      if inComment then
        if c = '\n' then afterTrivia? false rest
        else if isControl c then none
        else afterTrivia? true rest
      else if isSpaceOrNewline c then afterTrivia? false rest
      else if c = '#' then afterTrivia? true rest
      else some (c :: rest)

def skipTrivia : Reader Unit :=
  .ofOption fun text => (afterTrivia? false text).map ((), ·)

/-- The text behind a comment on this line, if there is one. -/
def afterComment? : List Char → Option (List Char)
  | [] => some []
  | c :: rest =>
      if c = '#' then
        if (rest.takeWhile (· ≠ '\n')).any isControl then none else some (rest.dropWhile (· ≠ '\n'))
      else some (c :: rest)

def isBareKeyChar (c : Char) : Bool := c.isAlphanum || c = '-' || c = '_'

/-- Reads one name of a key. -/
def readName? (text : List Char) : Option (String × List Char) :=
  match text with
  | [] => none
  | c :: rest =>
      if isBareKeyChar c then
        some (String.ofList (text.takeWhile isBareKeyChar), text.dropWhile isBareKeyChar)
      else if c = '\'' then (readLiteral? rest).map fun (name, rest) => (String.ofList name, rest)
      else if c = '"' then (readBasic? rest).map fun (name, rest) => (String.ofList name, rest)
      else none

/-- Reads the names behind the first one, each behind a dot. -/
def moreNames : Nat → Reader Key
  | 0 => .fail
  | steps + 1 => do
      Reader.skipWhile isSpace
      if ← Reader.skip "." then
        Reader.skipWhile isSpace
        let name ← Reader.ofOption readName?
        let key ← moreNames steps
        pure (name :: key)
      else pure []

def readKey (steps : Nat) : Reader Key := do
  let name ← Reader.ofOption readName?
  let key ← moreNames steps
  pure (name :: key)

/-- Whether a value closes the key it stands at. -/
def Value.isContainer : Value → Bool
  | .array _ | .table _ => true
  | _ => false

/-- Adds an entry to the table of an inline table that the key leads to. -/
def addInline (names : Namespaces) (entries : Entries) (key : Key) (value : Value) : Option Entries :=
  if names.isFrozen key then none
  else
    match key.getLast? with
    | none => none
    | some name => entries.modify false (Entries.insertNew name value) key.dropLast

mutual

/-- Reads a value. -/
def readValue : Nat → Reader Value
  | 0 => .fail
  | steps + 1 => do
      let text ← get
      match readString? text with
      | some (value, rest) => set rest; pure (.text (String.ofList value))
      | none =>
          if ← Reader.skip "true" then pure (.flag true)
          else if ← Reader.skip "false" then pure (.flag false)
          else if ← Reader.skip "[" then do
            skipTrivia
            if ← Reader.skip "]" then pure (.array []) else .array <$> readItems steps
          else if ← Reader.skip "\x7b" then do
            Reader.skipWhile isSpace
            if ← Reader.skip "\x7d" then pure (.table []) else .table <$> readEntries steps {} []
          else
            match readMoment? text <|> readBased? text with
            | some (value, rest) => set rest; pure value
            | none =>
                match ← readDecimal? text with
                | some (value, rest) => set rest; pure value
                | none => Reader.ofOption readSpecial?

/-- Reads the items of an array, up to its bracket. -/
def readItems : Nat → Reader (List Value)
  | 0 => .fail
  | steps + 1 => do
      let item ← readValue steps
      skipTrivia
      if ← Reader.skip "]" then pure [item]
      else do
        Reader.expect ","
        skipTrivia
        if ← Reader.skip "]" then pure [item]
        else do
          let items ← readItems steps
          pure (item :: items)

/-- Reads the entries of an inline table, up to its brace. -/
def readEntries : Nat → Namespaces → Entries → Reader Entries
  | 0, _, _ => .fail
  | steps + 1, names, entries => do
      let (key, value) ← readPair steps
      match addInline names entries key value with
      | none => .fail
      | some entries =>
          Reader.skipWhile isSpace
          if ← Reader.skip "\x7d" then pure entries
          else do
            Reader.expect ","
            Reader.skipWhile isSpace
            readEntries steps (if value.isContainer then names.freeze key else names) entries

/-- Reads a key and its value. -/
def readPair : Nat → Reader (Key × Value)
  | 0 => .fail
  | steps + 1 => do
      let key ← readKey steps
      Reader.expect "="
      Reader.skipWhile isSpace
      let value ← readValue steps
      pure (key, value)

end

/-- A document as far as it has been read, and the table that its statements go to. -/
structure Draft where
  entries : Entries := []
  names : Namespaces := {}
  header : Key := []

/-- The keys from the first name of a dotted key to the one before its last, below a header. -/
def dottedKeys (header key : Key) : List Key :=
  (List.range key.length).tail.map fun count => header ++ key.take count

/-- Enters a key and its value. -/
def Draft.addPair (draft : Draft) (key : Key) (value : Value) : Option Draft :=
  let keys := dottedKeys draft.header key
  let above := draft.header ++ key.dropLast
  if keys.any draft.names.isOpened || draft.names.isFrozen above then none
  else
    match key.getLast? with
    | none => none
    | some name => do
        let entries ← draft.entries.modify true (Entries.insertNew name value) above
        let names := { draft.names with pending := keys ++ draft.names.pending }
        some { draft with
               entries
               names := if value.isContainer then names.freeze (draft.header ++ key) else names }

/-- Opens a table. -/
def Draft.openTable (draft : Draft) (key : Key) : Option Draft :=
  if draft.names.isOpened key || draft.names.isFrozen key then none
  else do
    let entries ← draft.entries.modify true some key
    some { entries, names := draft.names.openTable key, header := key }

/-- Opens a new table at the end of an array of tables. -/
def Draft.openItem (draft : Draft) (key : Key) : Option Draft :=
  if draft.names.isFrozen key then none
  else
    match key.getLast? with
    | none => none
    | some name => do
        let entries ← draft.entries.modify true (Entries.appendTable name) key.dropLast
        some { entries, names := (draft.names.forget key).openTable key, header := key }

/-- Turns a refused change into a failure. -/
def accept (draft : Option Draft) : Reader Draft :=
  match draft with
  | some draft => pure draft
  | none => .fail

/-- Reads a statement, of which a line may be empty. -/
def readStatement (steps : Nat) (draft : Draft) : Reader Draft := do
  match ← get with
  | [] => pure draft
  | c :: _ =>
      if isBareKeyChar c || c = '"' || c = '\'' then do
        let (key, value) ← readPair steps
        accept (draft.addPair key value)
      else if c = '[' then do
        let settled := { draft with names := draft.names.settle }
        if ← Reader.skip "[[" then do
          Reader.skipWhile isSpace
          let key ← readKey steps
          let draft ← accept (settled.openItem key)
          Reader.expect "]]"
          pure draft
        else do
          Reader.expect "["
          Reader.skipWhile isSpace
          let key ← readKey steps
          let draft ← accept (settled.openTable key)
          Reader.expect "]"
          pure draft
      else pure draft

/-- Reads statements to the end of the text, each on its line. -/
def readStatements (steps : Nat) : Nat → Draft → Reader Draft
  | 0, _ => .fail
  | lines + 1, draft => do
      Reader.skipWhile isSpace
      let draft ← readStatement steps draft
      Reader.skipWhile isSpace
      Reader.ofOption fun text => (afterComment? text).map ((), ·)
      if (← get).isEmpty then pure draft
      else do
        Reader.expect "\n"
        readStatements steps lines draft

/-- Writes every carriage return before a line feed as the line feed alone. -/
def joinNewlines : List Char → List Char
  | [] => []
  | '\r' :: '\n' :: rest => '\n' :: joinNewlines rest
  | c :: rest => c :: joinNewlines rest

/-- Reads a document. -/
def read (text : String) : Except ReadError Entries := do
  let chars := joinNewlines text.toList
  let size := chars.length + 1
  let (draft, _) ← (readStatements (2 * size) size {}).run chars
  pure draft.entries

end SchemaMigrate.Toml
