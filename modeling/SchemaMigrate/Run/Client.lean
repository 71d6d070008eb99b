import SchemaMigrate.Number.Double
import SchemaMigrate.Text.Numeral
import SchemaMigrate.Text.Search

/-!
Clients of a database: what a migration asks of a connection, and a client that answers from a script.
-/

namespace SchemaMigrate

/-- A value that a query gives. -/
inductive Cell where
  | null
  | flag (value : Bool)
  | whole (value : Int)
  | real (value : Float)
  | text (value : String)

/-- Why a value is no count. -/
inductive CountError where
  | numeral (error : Text.NumeralError)
  | infinite
  | notANumber
deriving Repr, DecidableEq

def CountError.message : CountError → String
  | .numeral error => error.message
  | .infinite => "cannot convert float infinity to integer"
  | .notANumber => "cannot convert float NaN to integer"

/-- The count that a value stands for: nothing counts as zero, fractions are dropped, and text is read. -/
def Cell.count : Cell → Except CountError Int
  | .null => .ok 0
  | .flag value => .ok (if value then 1 else 0)
  | .whole value => .ok value
  | .real value =>
      match doubleKind value with
      | .nan => .error .notANumber
      | .infinite => .error .infinite
      | .finite negative significand exponent =>
          .ok (((DoubleKind.finite negative significand exponent).truncate?).getD 0)
  | .text value =>
      if value.isEmpty then .ok 0
      else match Text.readInteger value with
        | .ok count => .ok count
        | .error error => .error (.numeral error)

/-- Whether a value equals one, as a flag or number. -/
def Cell.isOne : Cell → Bool
  | .flag value => value
  | .whole value => value == 1
  | .real value => value == 1
  | .null | .text _ => false

/-- A connection with a state. A statement is executed in its own transaction, a query gives the first
value of its first row, and either may fail with a message. -/
structure Client (σ : Type) where
  execute : String → σ → Except String Unit × σ
  scalar : String → σ → Except String Cell × σ

/-- What a scripted client was asked. -/
inductive Call where
  | execute (statement : String)
  | scalar (query : String)
deriving Repr, DecidableEq

/-- Answers by what occurs in the text. A failure goes before an answer, and of several the first. -/
structure Script where
  failures : List (String × String) := []
  answers : List (String × Cell) := []

def Script.failure? (script : Script) (sql : String) : Option String :=
  (script.failures.find? fun rule => Text.holds sql rule.1).map (·.2)

def Script.answer (script : Script) (sql : String) : Cell :=
  ((script.answers.find? fun rule => Text.holds sql rule.1).map (·.2)).getD .null

/-- What the script gives for a text. -/
def Script.respond (script : Script) (sql : String) : Except String Cell :=
  match script.failure? sql with
  | some message => .error message
  | none => .ok (script.answer sql)

/-- The client of a script, which keeps the calls in order. -/
def Script.client (script : Script) : Client (List Call) where
  execute statement calls := ((fun _ => ()) <$> script.respond statement, calls ++ [.execute statement])
  scalar query calls := (script.respond query, calls ++ [.scalar query])

end SchemaMigrate
