import SchemaMigrate.ColumnType.Canonical
import SchemaMigrate.Model.Failure
import SchemaMigrate.Model.Member

/-!
The columns, indexes and keys that the lines of a block declare. A fault is placed by the caller, who
knows the line.
-/

namespace SchemaMigrate.Model

/-- Why parameters give no size. -/
inductive SizeError where
  | malformed
  | numeral (error : Text.NumeralError)
deriving Repr, DecidableEq

/-- Reads a size that is known to be made of digits. -/
def readSize (digits : List Char) : Except SizeError Int :=
  match Text.readInteger (String.ofList digits) with
  | .ok value => .ok value
  | .error error => .error (.numeral error)

/-- The precision and scale that parameters ask for: `max`, one number, or two. -/
def sizeOf (params : List Char) : Except SizeError (Option Int × Option Int) :=
  match (Text.splitOnChar ',' params).map Text.trim with
  | [only] =>
      if only.map Char.toLower = "max".toList then .ok (some maxLength, none)
      else if Text.isDigits only then do
        let precision ← readSize only
        .ok (some precision, none)
      else .error .malformed
  | [first, second] =>
      if Text.isDigits first && Text.isDigits second then do
        let precision ← readSize first
        let scale ← readSize second
        .ok (some precision, some scale)
      else .error .malformed
  | _ => .error .malformed

/-- The storage type that a declaration asks for. -/
def DeclaredType.columnType (type : DeclaredType) (place : Fault → Failure) :
    Except CompileError ColumnType := do
  let (precision, scale) ←
    match type.params with
    | none => .ok (none, none)
    | some params =>
        match sizeOf params with
        | .ok size => .ok size
        | .error .malformed => .error (.located (place (.invalidSize (String.ofList params))))
        | .error (.numeral error) => .error (.numeral error)
  match ColumnType.ofDeclared { name := type.code, precision, scale } with
  | .ok type => .ok type
  | .error error => .error (.located (place (.noMaxLength error)))

/-- The generated key of a table, an integer unless the header says otherwise. -/
def ModelHeader.keyField (header : ModelHeader) (place : Fault → Failure) :
    Except CompileError Field := do
  let type ← (header.keyType.getD { code := "int" }).columnType place
  .ok { name := header.name ++ "ID"
        type
        primaryKey := true
        identity := typeFamily? type.name == some .integer }

def FieldLine.field (line : FieldLine) (place : Fault → Failure) : Except CompileError Field := do
  let type ← line.type.columnType place
  .ok { name := line.name
        type
        nullable := line.nullable
        attributes := Attributes.ofList (line.marks.map (·, true)) }

/-- The column that a relationship adds. -/
def RelationshipLine.column (line : RelationshipLine) : String :=
  line.role.getD "" ++ line.target ++ "ID"

def RelationshipLine.field (line : RelationshipLine) : Field where
  name := line.column
  type := { name := "integer" }
  nullable := line.nullable
  optional := line.optional

def RelationshipLine.foreignKey (line : RelationshipLine) : ForeignKey where
  column := line.column
  target := line.target
  targetColumn := line.target ++ "ID"
  relationship := if line.many then .oneToMany else .oneToOne
  nullable := line.nullable

/-- The attributes an index may have; the second and third mean the same. -/
def indexAttributes : List String := ["unique", "alternatekey", "ak", "clustered"]

/-- The least of some texts. -/
def leastOf (first : String) (others : List String) : String :=
  others.foldl (fun least text => if text < least then text else least) first

/-- The index that a line declares, or the fault in it. -/
def indexOf (tokens marks : List String) : Except Fault Index :=
  if tokens.any (·.isEmpty) then .error .blankIndexField
  else
    let keys := marks.map nameKey
    match keys.filter fun key => !indexAttributes.contains key with
    | first :: others => .error (.unknownIndexAttribute (leastOf first others))
    | [] =>
        let alternateKey := keys.contains "alternatekey" || keys.contains "ak"
        .ok { fields := tokens
              unique := keys.contains "unique" || alternateKey
              alternateKey
              kind := if keys.contains "clustered" then .clustered else .nonclustered }

end SchemaMigrate.Model
