import SchemaMigrate.Config.Basic
import SchemaMigrate.Postgres.Url
import SchemaMigrate.Text.Lines

/-!
The active profile: the one that is asked for, else the one that the environment names.
-/

namespace SchemaMigrate

/-- The environment variable that names a profile. -/
def profileVariable : String := "SHIFT_DB_PROFILE"

/-- Why there is no active profile. -/
inductive ProfileError where
  | notConfigured
  | unknown (name : String) (available : List String)
deriving Repr, DecidableEq

def ProfileError.message : ProfileError → String
  | .notConfigured =>
      "No database profile configured.\nPass a profile name or set " ++ profileVariable ++ "=<name>."
  | .unknown name available =>
      let names := Text.joinWith ", " available
      "Profile '" ++ name ++ "' not found. Available profiles: "
        ++ (if names.isEmpty then "(none)" else names)

/-- The first name that is given and not empty. -/
def chooseName (asked environment : Option String) : Option String :=
  asked.filter (· ≠ "") <|> environment.filter (· ≠ "")

namespace Config

/-- The active profile and its name. -/
def activeProfile (config : Config) (asked environment : Option String) :
    Except ProfileError (String × Profile) :=
  match chooseName asked environment with
  | none => .error .notConfigured
  | some name =>
      match config.profile? name with
      | none => .error (.unknown name (config.profiles.map (·.1)))
      | some profile => .ok (name, profile)

end Config

/-- The URL of a profile with the password filled in. -/
def Profile.fullUrl (profile : Profile) : String := Postgres.fillPassword profile.url profile.password

end SchemaMigrate
