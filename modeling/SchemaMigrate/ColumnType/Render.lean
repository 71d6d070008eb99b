import SchemaMigrate.ColumnType.Basic

/-!
Column types as text: in the database's language, where the unbounded variant is the bare type, and in
the model language, where it is marked.
-/

namespace SchemaMigrate

/-- A type name followed by the size parameters that its policy admits. -/
def sizedName (base : String) (policy : Option SizePolicy) (precision scale : Option Int)
    (maxMark : String) : String :=
  if policy = some .none then base
  else match precision with
    | none => base
    | some size =>
        if size = maxLength then base ++ maxMark
        else match scale with
          | some digits =>
              if policy = some .precision then base ++ "(" ++ toString size ++ ")"
              else base ++ "(" ++ toString size ++ "," ++ toString digits ++ ")"
          | none => base ++ "(" ++ toString size ++ ")"

/-- The type that a type converts to, or the type itself. -/
def ColumnType.resolved (type : ColumnType) : ColumnType :=
  ((storageType? type.name).bind (·.convertsTo)).getD type

/-- Writes a type under the name that `base` gives its storage type, defaults filled in. -/
def ColumnType.write (type : ColumnType) (base : StorageType → String) (maxMark : String) : String :=
  let type := type.resolved
  match storageType? type.name with
  | none => sizedName type.name none type.precision type.scale maxMark
  | some storage =>
      let precision :=
        if storage.policy = .none then type.precision else type.precision <|> storage.defaultPrecision
      let scale :=
        if storage.policy = .precisionAndScale then type.scale <|> storage.defaultScale else type.scale
      sizedName (base storage) (some storage.policy) precision scale maxMark

/-- The type as the database reads it. -/
def ColumnType.sql (type : ColumnType) : String := type.write (·.code) ""

/-- The type as a model declares it. -/
def ColumnType.declaration (type : ColumnType) : String := type.write (·.modelCode) "(max)"

end SchemaMigrate
