import SchemaMigrate.Sql.Identifier

/-!
The configuration of migrations: the databases that can be reached, where the model is, and how plans are
applied.
-/

namespace SchemaMigrate

/-- A database that migrations can be run against. A password may be kept apart from the URL. -/
structure Profile where
  url : String
  description : String := ""
  password : Option String := none
deriving Repr, DecidableEq

/-- Where the model files are, and the database schema they describe. -/
structure SchemaSettings where
  paths : List String := ["models"]
  name : String := "public"
deriving Repr, DecidableEq

structure MigrationSettings where
  limit : Int := Sql.defaultLimit
  allowLoss : Bool := false
deriving Repr, DecidableEq

/-- The profiles stand in the order in which they are written. -/
structure Config where
  profiles : List (String × Profile) := []
  schema : SchemaSettings := {}
  migration : MigrationSettings := {}
deriving Repr, DecidableEq

def Config.profile? (config : Config) (name : String) : Option Profile :=
  (config.profiles.find? (·.1 == name)).map (·.2)

end SchemaMigrate
