import SchemaMigrate.Name
import SchemaMigrate.Text.Classes

/-!
Column types, and the two registries that relate them: the type codes of the model language, each with
the storage type it declares, and the storage types of the database, each with the spellings the
catalog uses for it and the code that declares it. Lookups ignore case; the codes below are written
folded.
-/

namespace SchemaMigrate

/-- A type with its size. A precision of `maxLength` means unbounded. -/
structure ColumnType where
  name : String
  precision : Option Int := none
  scale : Option Int := none
deriving Repr, DecidableEq

/-- The precision of a type without a bound. -/
def maxLength : Int := -1

/-- The size parameters a type takes. -/
inductive SizePolicy where
  | none
  | precision
  | precisionAndScale
deriving Repr, DecidableEq

/-- What kind of values a type holds. -/
inductive TypeFamily where
  | boolean
  | uuid
  | string
  | binary
  | integer
  | decimal
  | float
  | timestamp
  | date
deriving Repr, DecidableEq

/-- A type code of the model language. A fixed type has its default size whatever is declared. -/
structure ModelType where
  code : String
  storage : String
  policy : SizePolicy := .none
  defaultPrecision : Option Int := none
  defaultScale : Option Int := none
  fixed : Bool := false
  deprecated : Bool := false
deriving Repr, DecidableEq

/-- A storage type of the database. One that converts to another is only a spelling of it. -/
structure StorageType where
  code : String
  modelCode : String
  family : TypeFamily
  policy : SizePolicy := .none
  defaultPrecision : Option Int := none
  defaultScale : Option Int := none
  supportsMax : Bool := false
  aliases : List String := []
  convertsTo : Option ColumnType := none
deriving Repr, DecidableEq

/-- The codes in which a model declares its fields. -/
def modelTypes : List ModelType :=
  [{ code := "bool", storage := "boolean" },
   { code := "guid", storage := "uuid" },
   { code := "achar", storage := "char", policy := .precision, defaultPrecision := some 1 },
   { code := "astring", storage := "varchar", policy := .precision, defaultPrecision := some 255 },
   { code := "uchar", storage := "char", policy := .precision, defaultPrecision := some 1 },
   { code := "ustring", storage := "varchar", policy := .precision, defaultPrecision := some 255 },
   { code := "char", storage := "char", policy := .precision, defaultPrecision := some 1
     deprecated := true },
   { code := "string", storage := "varchar", policy := .precision, defaultPrecision := some 255
     deprecated := true },
   { code := "text", storage := "varchar", policy := .precision, defaultPrecision := some maxLength
     fixed := true, deprecated := true },
   { code := "int", storage := "integer" },
   { code := "long", storage := "bigint" },
   { code := "decimal", storage := "numeric", policy := .precisionAndScale
     defaultPrecision := some 18, defaultScale := some 0 },
   { code := "money", storage := "numeric", policy := .precisionAndScale
     defaultPrecision := some 19, defaultScale := some 4, fixed := true },
   { code := "smallmoney", storage := "numeric", policy := .precisionAndScale
     defaultPrecision := some 10, defaultScale := some 4, fixed := true },
   { code := "float", storage := "double precision" },
   { code := "datetime", storage := "timestamp" },
   { code := "date", storage := "date" },
   { code := "binary", storage := "bytea" }]

/-- The types in which columns are stored. -/
def storageTypes : List StorageType :=
  [{ code := "boolean", modelCode := "bool", family := .boolean, aliases := ["bool"] },
   { code := "uuid", modelCode := "guid", family := .uuid },
   { code := "char", modelCode := "uchar", family := .string, policy := .precision
     defaultPrecision := some 1, aliases := ["character", "bpchar"] },
   { code := "varchar", modelCode := "ustring", family := .string, policy := .precision
     defaultPrecision := some 255, supportsMax := true, aliases := ["character varying"] },
   { code := "text", modelCode := "ustring", family := .string
     convertsTo := some { name := "varchar", precision := some maxLength } },
   { code := "integer", modelCode := "int", family := .integer, aliases := ["int", "int4"] },
   { code := "bigint", modelCode := "long", family := .integer, aliases := ["int8"] },
   { code := "numeric", modelCode := "decimal", family := .decimal, policy := .precisionAndScale
     defaultPrecision := some 18, defaultScale := some 0, aliases := ["decimal"] },
   { code := "money", modelCode := "decimal", family := .decimal
     convertsTo := some { name := "numeric", precision := some 19, scale := some 4 } },
   { code := "double precision", modelCode := "float", family := .float, aliases := ["float8"] },
   { code := "timestamp", modelCode := "datetime", family := .timestamp
     aliases := ["timestamp without time zone"] },
   { code := "date", modelCode := "date", family := .date },
   { code := "bytea", modelCode := "binary", family := .binary }]

/-- The model type of a code. -/
def modelType? (code : String) : Option ModelType :=
  modelTypes.find? (·.code == nameKey code)

/-- Every spelling under which a storage type is found. -/
def StorageType.spellings (type : StorageType) : List String := type.code :: type.aliases

/-- The storage type of a name or of one of the catalog's spellings, blanks around it aside. -/
def storageType? (name : String) : Option StorageType :=
  storageTypes.find? (·.spellings.contains (nameKey (Text.trimmed name)))

/-- The family of a storage type, if the type is known. -/
def typeFamily? (name : String) : Option TypeFamily := (storageType? name).map (·.family)

/-- Whether the type is the unbounded variant. -/
def ColumnType.isMax (type : ColumnType) : Bool := type.precision == some maxLength

end SchemaMigrate
