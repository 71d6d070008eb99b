import SchemaMigrate.Schema.Basic
import SchemaMigrate.Sql.Identifier

/-!
The data of a column that is to be narrowed: the query that measures it against the new bound, what the
measurement says, and the updates that make the data fit.

Strings and binaries are measured by their greatest length. Of a decimal column the rows are counted that
are too large once they are rounded, or that rounding changes.
-/

namespace SchemaMigrate.Sql

/-- The bound that a type puts on its values. -/
inductive Bound where
  | unbounded
  | characters (limit : Int)
  | bytes (limit : Int)
  | digits (precision scale : Int)
deriving Repr, DecidableEq

/-- The bound of a field. A decimal without a scale has scale zero. -/
def boundOf (field : Field) : Bound :=
  match field.family?, field.type.precision with
  | some .string, some limit => if limit = maxLength then .unbounded else .characters limit
  | some .binary, some limit => if limit = maxLength then .unbounded else .bytes limit
  | some .decimal, some precision => .digits precision (field.type.scale.getD 0)
  | _, _ => .unbounded

/-- A digit, repeated; not at all if the count is negative. -/
def repeated (digit : Char) (count : Int) : String :=
  String.ofList (List.replicate count.toNat digit)

/-- The least magnitude that has too many digits before the point. -/
def integerLimit (precision scale : Int) : String := "1" ++ repeated '0' (precision - scale)

/-- The greatest magnitude that fits. -/
def greatestValue (precision scale : Int) : String :=
  let whole := if 0 < precision - scale then repeated '9' (precision - scale) else "0"
  if scale = 0 then whole else whole ++ "." ++ repeated '9' scale

/-- The query that measures a column, if its type has a bound. -/
def measureQuery? (table : String) (field : Field) : Option String :=
  let column := quote field.name
  match boundOf field with
  | .unbounded => none
  | .characters _ => some ("SELECT MAX(char_length(" ++ column ++ ")) FROM " ++ quote table)
  | .bytes _ => some ("SELECT MAX(octet_length(" ++ column ++ ")) FROM " ++ quote table)
  | .digits precision scale =>
      let rounded := "round(" ++ column ++ ", " ++ toString scale ++ ")"
      some ("SELECT COUNT(*) FROM " ++ quote table ++ " WHERE abs(" ++ rounded ++ ") >= "
        ++ integerLimit precision scale ++ " OR " ++ column ++ " <> " ++ rounded)

/-- What is known about the data of a column before it is narrowed. -/
structure SafetyCheck where
  table : String
  field : Field
  safe : Bool
  observed : Int := 0
  message : String := ""
deriving Repr, DecidableEq

/-- A length that was found, against the limit. -/
def lengthVerdict (table : String) (field : Field) (unit : String) (limit observed : Int) :
    SafetyCheck where
  table
  field
  safe := observed ≤ limit
  observed
  message := "Longest value in " ++ table ++ "." ++ field.name ++ " is " ++ toString observed ++ " "
    ++ unit ++ "; new limit is " ++ toString limit

/-- What a measurement says. -/
def verdict (table : String) (field : Field) (observed : Int) : SafetyCheck :=
  match boundOf field with
  | .unbounded => { table, field, safe := true, message := "No bound to check" }
  | .characters limit => lengthVerdict table field "characters" limit observed
  | .bytes limit => lengthVerdict table field "bytes" limit observed
  | .digits precision scale =>
      { table
        field
        safe := observed == 0
        observed
        message := toString observed ++ " row(s) in " ++ table ++ "." ++ field.name
          ++ " do not fit numeric(" ++ toString precision ++ "," ++ toString scale ++ ")" }

/-- The updates that make the data of a column fit: lengths are cut, decimals are rounded and then held
to the greatest magnitude. -/
def fixups (table : String) (field : Field) : List String :=
  let column := quote field.name
  let update := "UPDATE " ++ quote table ++ " SET " ++ column ++ " = "
  match boundOf field with
  | .unbounded => []
  | .characters limit =>
      [update ++ "left(" ++ column ++ ", " ++ toString limit ++ ") WHERE char_length(" ++ column ++ ") > "
        ++ toString limit]
  | .bytes limit =>
      [update ++ "substring(" ++ column ++ " from 1 for " ++ toString limit ++ ") WHERE octet_length("
        ++ column ++ ") > " ++ toString limit]
  | .digits precision scale =>
      let rounded := "round(" ++ column ++ ", " ++ toString scale ++ ")"
      let greatest := greatestValue precision scale
      [update ++ rounded ++ " WHERE " ++ column ++ " <> " ++ rounded,
       update ++ "sign(" ++ column ++ ") * " ++ greatest ++ " WHERE abs(" ++ column ++ ") > " ++ greatest]

end SchemaMigrate.Sql
