import SchemaMigrate.Catalog.Visit
import SchemaMigrate.Config.Active
import SchemaMigrate.Config.Load
import SchemaMigrate.Model.Load
import SchemaMigrate.Postgres.Session
import SchemaMigrate.Run.Apply

/-!
Whole migrations: the configuration is loaded and a profile chosen, the model files are compiled, the live
database is read, the plan between the two is made and, unless it is only asked for, applied.

What is said and what is done at the database is kept in a transcript, also when the migration ends in an
error.
-/

namespace SchemaMigrate

/-- What surrounds a migration: the files, the profile that the environment names, and the database. -/
structure Surroundings where
  tree : Tree
  profileName : Option String := none
  catalog : Catalog.Source
  respond : String → Except String Cell

/-- Why there is no outcome. The errors of single steps do not end a migration. -/
inductive MigrationError where
  | config (error : Config.LoadError)
  | profile (error : ProfileError)
  | model (error : Model.LoadError)
  | catalog (error : Catalog.IntrospectError)
deriving Repr, DecidableEq

/-- Something done at the database. -/
inductive Contact where
  | catalog (event : Catalog.VisitEvent)
  | session (event : Postgres.SessionEvent Empty)
deriving Repr, DecidableEq

structure Transcript where
  notices : List Notice := []
  contacts : List Contact := []
deriving Repr, DecidableEq

/-- A course of actions that may end in an error and keeps a transcript. -/
abbrev Migrating (α : Type) := ExceptT MigrationError (StateM Transcript) α

namespace Migrating

def say (notices : List Notice) : Migrating Unit :=
  modify fun transcript => { transcript with notices := transcript.notices ++ notices }

def record (contacts : List Contact) : Migrating Unit :=
  modify fun transcript => { transcript with contacts := transcript.contacts ++ contacts }

/-- The value, or the end of the migration. -/
def ofExcept {ε α : Type} (cause : ε → MigrationError) (value : Except ε α) : Migrating α :=
  match value with
  | .ok value => pure value
  | .error error => throw (cause error)

end Migrating

/-- Which configuration and which of its profiles are asked for, if they are not left to the default. -/
structure Request where
  config : Option String := none
  profile : Option String := none
deriving Repr, DecidableEq

/-- The outcome of a migration; a plan that is not applied has no result. -/
structure MigrationRun where
  profile : String
  plan : Plan
  result : Option ApplyResult := none
deriving Repr, DecidableEq

namespace Surroundings

open Migrating

variable (around : Surroundings)

/-- The configuration, and the name and URL of its active profile. -/
def choose (request : Request) : Migrating (Config × String × String) := do
  let config ← ofExcept .config (Config.load around.tree request.config)
  let (name, profile) ← ofExcept .profile (config.activeProfile request.profile around.profileName)
  pure (config, name, profile.fullUrl)

/-- Compiles the model files. -/
def readModel (paths : List String) : Migrating Database := do
  let loading := Model.load around.tree paths
  say loading.notices
  ofExcept .model loading.schema

/-- Reads a schema of the live database. -/
def readDatabase (url schema : String) : Migrating Database := do
  let (answer, events) := Catalog.visit url (Catalog.introspect around.catalog schema)
  record (events.map .catalog)
  let db ← ofExcept .catalog answer
  say [Catalog.introspectNotice schema db]
  pure db

/-- The plan from the live database to the model. -/
def plan (config : Config) (url : String) : Migrating Plan := do
  let target ← around.readModel config.schema.paths
  let actual ← around.readDatabase url config.schema.name
  say (Plan.notices target actual)
  pure (.between target actual)

/-- Applies a plan in a session of its own. -/
def apply (plan : Plan) (url : String) (settings : Settings) : Migrating ApplyResult := do
  let client := Postgres.Session.client around.respond
  let (reports, session) := runSteps client settings plan.steps (Postgres.Session.start url [])
  say (runNotices reports)
  record (session.close.events.map .session)
  pure (.ofReports reports settings.dryRun)

/-- Starts a session with the database of the active profile. -/
def startSession (request : Request) : Migrating (Postgres.Session Empty) := do
  let (_, _, url) ← around.choose request
  let session := Postgres.Session.start url []
  record (session.events.map .session)
  pure session

/-- Makes a plan without applying it. -/
def preview (request : Request) : Migrating MigrationRun := do
  let (config, profile, url) ← around.choose request
  let plan ← around.plan config url
  pure { profile, plan }

/-- Makes a plan and applies it. Whether data may be lost is decided here or left to the configuration. -/
def migrate (request : Request) (dryRun : Bool) (allowLoss : Option Bool) : Migrating MigrationRun := do
  let (config, profile, url) ← around.choose request
  say [{ level := .info, speaker := .migration, text := "Migrating profile '" ++ profile ++ "'" }]
  let plan ← around.plan config url
  let settings : Settings :=
    { limit := config.migration.limit
      allowLoss := allowLoss.getD config.migration.allowLoss
      dryRun }
  let result ← around.apply plan url settings
  pure { profile, plan, result := some result }

end Surroundings

end SchemaMigrate
