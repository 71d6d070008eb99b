import SchemaMigrate.ColumnType.Basic
import SchemaMigrate.Text.Case

/-!
Canonical column types. What a model declares and what the catalog reports both become a storage type
with its size, so that the two sides of a comparison are spelled alike.
-/

namespace SchemaMigrate

/-- A declared type that has no unbounded variant was asked for it. -/
structure NoMaxLength where
  code : String
deriving Repr, DecidableEq

def NoMaxLength.message (e : NoMaxLength) : String :=
  "Type '" ++ e.code ++ "' does not support max length"

/-- Whether a storage type has an unbounded variant. -/
def supportsMax (storage : String) : Bool := (storageType? storage).any (·.supportsMax)

/-- The storage type of a known model type, declared with the given size. -/
def ModelType.store (type : ModelType) (declared : ColumnType) : Except NoMaxLength ColumnType :=
  if type.fixed then
    .ok { name := type.storage, precision := type.defaultPrecision, scale := type.defaultScale }
  else if type.policy = .none then
    .ok { name := type.storage }
  else if declared.isMax then
    if supportsMax type.storage then .ok { name := type.storage, precision := some maxLength }
    else .error ⟨declared.name⟩
  else
    .ok { name := type.storage
          precision := declared.precision <|> type.defaultPrecision
          scale := if type.policy = .precision then none else declared.scale <|> type.defaultScale }

/-- The storage type that a declaration in a model asks for. What is left out takes the type's default,
what the type has no use for is dropped, and a code that is not known stays as it is. -/
def ColumnType.ofDeclared (declared : ColumnType) : Except NoMaxLength ColumnType :=
  match modelType? declared.name with
  | none => .ok declared
  | some type => type.store declared

/-- The storage type of a column as the catalog reports it, where a missing length means unbounded. A
type that is not known keeps its size and is written in lowercase. -/
def ColumnType.ofCatalog (reported : ColumnType) : ColumnType :=
  match storageType? reported.name with
  | none => { reported with name := Text.lowercase reported.name }
  | some type =>
      match type.convertsTo with
      | some target => target
      | none =>
          match type.policy with
          | .none => { name := type.code }
          | .precision =>
              let unbounded := if type.supportsMax then some maxLength else type.defaultPrecision
              { name := type.code, precision := reported.precision <|> unbounded }
          | .precisionAndScale =>
              { name := type.code
                precision := reported.precision <|> type.defaultPrecision
                scale := reported.scale <|> type.defaultScale }

end SchemaMigrate
