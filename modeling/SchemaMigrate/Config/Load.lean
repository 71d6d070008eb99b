import SchemaMigrate.Config.Basic
import SchemaMigrate.Config.Setting
import SchemaMigrate.File.Tree
import SchemaMigrate.Toml.Document

/-!
Configuration files. A file is a document with a table of profiles, a table about the schema and a table
about migrations, each of which may be missing; keys that mean nothing are passed over.
-/

namespace SchemaMigrate

open Config

namespace Config

/-- The tables of a configuration whose settings are checked. -/
inductive Part where
  | profile
  | schema
  | migration
deriving Repr, DecidableEq

/-- Why there is no configuration. -/
inductive LoadError where
  | notFound (path : Path)
  | isDirectory (path : Path)
  | undecodable (path : Path)
  | document (error : Toml.ReadError)
  | profilesNotTable
  | notTable (part : Part)
  | invalid (part : Part) (issues : List Issue)
deriving Repr, DecidableEq

/-- The name of the configuration file, if none is given. -/
def fileName : String := "shift.toml"

def LoadError.message : LoadError → String
  | .notFound path =>
      "Config not found: " ++ path.toString
        ++ "\nCreate " ++ fileName ++ " with a [profiles.<name>] section."
  | .isDirectory path => "Is a directory: " ++ path.toString
  | .undecodable path => "Not in UTF-8: " ++ path.toString
  | .document .malformed => "Malformed document"
  | .document (.tooLong digits) => (Text.NumeralError.tooLong digits).message
  | .profilesNotTable => "The profiles are no table"
  | .notTable _ => "A section is no table"
  | .invalid _ issues => toString issues.length ++ " invalid setting(s)"

/-- The least limit on identifiers has room for the suffix of a cut name and one character. -/
def limitBound : Int := Sql.suffixLength

def readProfile (entries : Toml.Entries) : Reading Profile :=
  let url := required entries "url" readText
  let description := setting entries "description" "" readText
  let password := setting entries "db_password" none fun value => some <$> readText value
  (url.both (description.both password)).map fun (url, description, password) =>
    { url, description, password }

def readSchema (entries : Toml.Entries) : Reading SchemaSettings :=
  let default : SchemaSettings := {}
  let paths : Reading (List String) := match entries.get? "paths" with
    | none => .ok default.paths
    | some value => readTexts (.key "paths") value
  let name := setting entries "name" default.name readText
  (paths.both name).map fun (paths, name) => { paths, name }

def readMigration (entries : Toml.Entries) : Reading MigrationSettings :=
  let default : MigrationSettings := {}
  let limit := setting entries "max_identifier_length" default.limit (readWholeAbove limitBound)
  let allowLoss := setting entries "allow_data_loss" default.allowLoss readFlag
  (limit.both allowLoss).map fun (limit, allowLoss) => { limit, allowLoss }

/-- Reads a part from a value, which has to be a table. -/
def readPart {α : Type} (part : Part) (read : Toml.Entries → Reading α) :
    Toml.Value → Except LoadError α
  | .table entries => (read entries).mapError (.invalid part)
  | _ => .error (.notTable part)

/-- Reads profiles in order, up to the first that is wrong. -/
def readProfiles : Toml.Entries → Except LoadError (List (String × Profile))
  | [] => .ok []
  | (name, value) :: entries => do
      let profile ← readPart .profile readProfile value
      let profiles ← readProfiles entries
      .ok ((name, profile) :: profiles)

/-- A path as it is from the working directory, given as it is from a directory. -/
def fromDirectory (directory : Path) (path : String) : String :=
  if (Path.ofString path).isAbsolute then path else (directory.join (Path.ofString path)).toString

/-- The value of a key, or an empty table. -/
def tableAt (entries : Toml.Entries) (name : String) : Toml.Value :=
  (entries.get? name).getD (.table [])

/-- The configuration that a document in a directory holds. -/
def ofDocument (directory : Path) (entries : Toml.Entries) : Except LoadError Config := do
  let profiles ← match tableAt entries "profiles" with
    | .table profiles => readProfiles profiles
    | _ => .error .profilesNotTable
  let schema ← readPart .schema readSchema (tableAt entries "schema")
  let migration ← readPart .migration readMigration (tableAt entries "migration")
  .ok { profiles, schema := { schema with paths := schema.paths.map (fromDirectory directory) }, migration }

/-- Loads the configuration at a path. -/
def loadAt (tree : Tree) (path : Path) : Except LoadError Config :=
  if tree.isFile path then
    match String.fromUTF8? ((tree.read? path).getD ByteArray.empty) with
    | none => .error (.undecodable path)
    | some text =>
        match Toml.read text with
        | .error error => .error (.document error)
        | .ok entries => ofDocument path.parent entries
  else if tree.isDirectory path then .error (.isDirectory path)
  else .error (.notFound path)

/-- Loads the configuration at a path, or the one in the working directory. -/
def load (tree : Tree) (path : Option String) : Except LoadError Config :=
  loadAt tree (path.elim (tree.fromWorkingDirectory fileName) Path.ofString)

end Config

end SchemaMigrate
