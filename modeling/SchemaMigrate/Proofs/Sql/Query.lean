import SchemaMigrate.Proofs.Sql.Storing
import SchemaMigrate.Proofs.Sql.Token
import SchemaMigrate.Run.Client

/-!
Queries and updates as the database carries them out, read from the texts in which they are sent: the greatest length
in a column, the number of rows that meet a condition, and the update of a column.

Numbers are exact and of any size. What is computed from null is null, and a comparison with null is neither true nor
false. An update computes from the old row, and what it computes is assigned to a column of a declared type, which may
round it or refuse it; if one row is refused, none is changed.
-/

namespace SchemaMigrate.Sql

/-- A row by its columns, and the tables by their rows. -/
abbrev Row := String → Option Value

abbrev Store := String → Option (List Row)

/-- The types of the columns, by table and column. -/
abbrev LiveTypes := String → String → Option LiveType

/-- What a length counts. -/
inductive LengthUnit where
  | characters
  | octets
deriving Repr, DecidableEq

/-- The length of a value; null has none. -/
def LengthUnit.measure : LengthUnit → Value → Except Refusal (Option ℕ)
  | _, .null => .ok none
  | .characters, .text value => .ok (some value.length)
  | .octets, .bytes value => .ok (some value.length)
  | _, _ => .error .mismatch

/-- What is done to a value. The places of a substring are counted from one. -/
inductive Operation where
  | length (unit : LengthUnit)
  | abs
  | sign
  | round (places : ℕ)
  | left (count : ℕ)
  | substring (first count : ℕ)
deriving Repr, DecidableEq

def Operation.apply : Operation → Value → Except Refusal Value
  | _, .null => .ok .null
  | .length unit, value => (fun length => length.elim .null fun length => .number length) <$> unit.measure value
  | .abs, .number value => .ok (.number |value|)
  | .sign, .number value => .ok (.number (SignType.sign value))
  | .round places, .number value => .ok (.number (roundAway places value))
  | .left count, .text characters => .ok (.text (characters.take count))
  | .substring first count, .bytes octets => .ok (.bytes ((octets.take (first + count - 1)).drop (first - 1)))
  | _, _ => .error .mismatch

/-- What is computed from a row. -/
inductive Term where
  | column (name : String)
  | literal (value : ℚ)
  | apply (operation : Operation) (argument : Term)
  | product (first second : Term)
deriving Repr, DecidableEq

def Value.times : Value → Value → Except Refusal Value
  | .null, _ | _, .null => .ok .null
  | .number first, .number second => .ok (.number (first * second))
  | _, _ => .error .mismatch

def Term.eval (row : Row) : Term → Except Refusal Value
  | .column name => (row name).elim (.error (.noColumn name)) .ok
  | .literal value => .ok (.number value)
  | .apply operation argument => argument.eval row >>= operation.apply
  | .product first second => do (← first.eval row).times (← second.eval row)

inductive Comparison where
  | greater
  | atLeast
  | differs
deriving Repr, DecidableEq

def Comparison.test (comparison : Comparison) (first second : ℚ) : Bool :=
  match comparison with
  | .greater => second < first
  | .atLeast => second ≤ first
  | .differs => first ≠ second

/-- A comparison of values, if it is true or false. -/
def Comparison.apply (comparison : Comparison) : Value → Value → Except Refusal (Option Bool)
  | .null, _ | _, .null => .ok none
  | .number first, .number second => .ok (some (comparison.test first second))
  | _, _ => .error .mismatch

inductive Condition where
  | compare (comparison : Comparison) (first second : Term)
  | either (first second : Condition)
deriving Repr, DecidableEq

/-- One truth or another; what is not known may be either. -/
def eitherTruth : Option Bool → Option Bool → Option Bool
  | some true, _ | _, some true => some true
  | some false, some false => some false
  | _, _ => none

def Condition.eval (row : Row) : Condition → Except Refusal (Option Bool)
  | .compare comparison first second => do comparison.apply (← first.eval row) (← second.eval row)
  | .either first second => do return eitherTruth (← first.eval row) (← second.eval row)

/-- Whether a row is among those that a condition is about. -/
def Condition.holds (condition : Condition) (row : Row) : Except Refusal Bool :=
  (· == some true) <$> condition.eval row

inductive Query where
  | longest (unit : LengthUnit) (argument : Term) (table : String)
  | count (table : String) (condition : Condition)
deriving Repr, DecidableEq

structure Update where
  table : String
  column : String
  value : Term
  condition : Condition
deriving Repr, DecidableEq

def Store.rows (store : Store) (table : String) : Except Refusal (List Row) :=
  (store table).elim (.error (.noTable table)) .ok

/-- The greatest of the lengths that there are. -/
def greatestLength (lengths : List (Option ℕ)) : Cell :=
  (lengths.filterMap id).max?.elim .null fun length => .whole length

def Query.answer (store : Store) : Query → Except Refusal Cell
  | .longest unit argument table => do
      let rows ← store.rows table
      greatestLength <$> rows.mapM fun row => argument.eval row >>= unit.measure
  | .count table condition => do
      let rows ← store.rows table
      (fun held => .whole (held.count true : ℕ)) <$> rows.mapM condition.holds

/-- A row with a value assigned to a column of a type. -/
def assignColumn (live : LiveType) (column : String) (value : Value) (row : Row) : Except Refusal Row :=
  (fun stored => Function.update row column (some stored)) <$> live.assign value

/-- What an update of a column of a type makes of a row. -/
def Update.mend (update : Update) (live : LiveType) (row : Row) : Except Refusal Row := do
  if ← update.condition.holds row then
    assignColumn live update.column (← update.value.eval row) row
  else .ok row

def Update.run (update : Update) (types : LiveTypes) (store : Store) : Except Refusal Store := do
  let rows ← store.rows update.table
  match types update.table update.column with
  | none => .error (.noColumn update.column)
  | some live => (fun mended => Function.update store update.table (some mended)) <$> rows.mapM (update.mend live)

section Reading

/-- The operation that a word names, by what stands between its first argument and the closing bracket. -/
def readOperation (word : String) (tokens : List Token) : Option (Operation × List Token) :=
  match word, tokens with
  | "char_length", .mark ")" :: rest => some (.length .characters, rest)
  | "octet_length", .mark ")" :: rest => some (.length .octets, rest)
  | "abs", .mark ")" :: rest => some (.abs, rest)
  | "sign", .mark ")" :: rest => some (.sign, rest)
  | "round", .mark "," :: .whole places :: .mark ")" :: rest => some (.round places, rest)
  | "left", .mark "," :: .whole count :: .mark ")" :: rest => some (.left count, rest)
  | "substring", .word "from" :: .whole first :: .word "for" :: .whole count :: .mark ")" :: rest =>
      some (.substring first count, rest)
  | _, _ => none

/-- A term that is no product, and what comes behind it. Brackets are nested to a depth. -/
def readTerm : ℕ → List Token → Option (Term × List Token)
  | 0, _ => none
  | _ + 1, .name column :: rest => some (.column column, rest)
  | _ + 1, .whole value :: rest => some (.literal value, rest)
  | _ + 1, .fraction value :: rest => some (.literal value, rest)
  | depth + 1, .word word :: .mark "(" :: rest => do
      let (argument, rest) ← readTerm depth rest
      let (operation, rest) ← readOperation word rest
      some (.apply operation argument, rest)
  | _ + 1, _ => none

def readProduct (tokens : List Token) : Option (Term × List Token) := do
  let (first, rest) ← readTerm tokens.length tokens
  match rest with
  | .mark "*" :: rest => do
      let (second, rest) ← readTerm rest.length rest
      some (.product first second, rest)
  | _ => some (first, rest)

def comparisonOf? (mark : String) : Option Comparison :=
  match mark with
  | ">" => some .greater
  | ">=" => some .atLeast
  | "<>" => some .differs
  | _ => none

def readComparison (tokens : List Token) : Option (Condition × List Token) := do
  let (first, rest) ← readTerm tokens.length tokens
  match rest with
  | .mark mark :: rest => do
      let comparison ← comparisonOf? mark
      let (second, rest) ← readTerm rest.length rest
      some (.compare comparison first second, rest)
  | _ => none

/-- The condition that the tokens are. -/
def readCondition (tokens : List Token) : Option Condition := do
  let (first, rest) ← readComparison tokens
  match rest with
  | [] => some first
  | .word "or" :: rest => do
      let (second, rest) ← readComparison rest
      if rest.isEmpty then some (.either first second) else none
  | _ => none

def readQuery (tokens : List Token) : Option Query :=
  match tokens with
  | .word "select" :: .word "max" :: .mark "(" :: rest => do
      let (term, rest) ← readTerm rest.length rest
      match term, rest with
      | .apply (.length unit) argument, [.mark ")", .word "from", .name table] => some (.longest unit argument table)
      | _, _ => none
  | .word "select" :: .word "count" :: .mark "(" :: .mark "*" :: .mark ")" :: .word "from" :: .name table
      :: .word "where" :: rest => (readCondition rest).map (.count table)
  | _ => none

def readUpdate (tokens : List Token) : Option Update :=
  match tokens with
  | .word "update" :: .name table :: .word "set" :: .name column :: .mark "=" :: rest => do
      let (value, rest) ← readProduct rest
      match rest with
      | .word "where" :: rest => (readCondition rest).map fun condition => { table, column, value, condition }
      | _ => none
  | _ => none

end Reading

/-- The query that a text is. -/
def queryOf (text : String) : Except Refusal Query :=
  ((tokens text.toList).bind readQuery).elim (.error .unreadable) .ok

/-- The update that a text is. -/
def updateOf (text : String) : Except Refusal Update :=
  ((tokens text.toList).bind readUpdate).elim (.error .unreadable) .ok

/-- What the database answers to a query. -/
def answer (query : String) (store : Store) : Except String Cell :=
  (queryOf query >>= (·.answer store)).mapError Refusal.message

/-- The database as a client, its columns being of some types. A text that it refuses leaves the rows as they are. -/
def server (types : LiveTypes) : Client Store where
  execute statement store :=
    match updateOf statement >>= (·.run types store) with
    | .ok mended => (.ok (), mended)
    | .error refusal => (.error refusal.message, store)
  scalar query store := (answer query store, store)

section Server

variable {text : String} {types : LiveTypes} {store : Store}

theorem answer_of_queryOf {query : Query} (h : queryOf text = .ok query) :
    answer text store = (query.answer store).mapError Refusal.message := by
  rw [answer, h]
  rfl

theorem server_execute {update : Update} {mended : Store} (h : updateOf text = .ok update)
    (hrun : update.run types store = .ok mended) : (server types).execute text store = (.ok (), mended) := by
  have hboth : (updateOf text >>= (·.run types store)) = .ok mended := by rw [h]; exact hrun
  simp only [server, hboth]

theorem server_execute_refused {update : Update} {refusal : Refusal} (h : updateOf text = .ok update)
    (hrun : update.run types store = .error refusal) :
    (server types).execute text store = (.error refusal.message, store) := by
  have hboth : (updateOf text >>= (·.run types store)) = .error refusal := by rw [h]; exact hrun
  simp only [server, hboth]

end Server

end SchemaMigrate.Sql
