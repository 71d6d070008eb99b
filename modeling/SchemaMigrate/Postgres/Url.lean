import SchemaMigrate.Text.Encoding
import SchemaMigrate.Text.Search

/-!
Connection URLs: their schemes, the timeout they carry, and the place for a password.
-/

namespace SchemaMigrate.Postgres

/-- Writes another scheme, if the URL has the given one. -/
def changeScheme (url old new : String) : String :=
  match Text.after? url old with
  | some rest => new ++ rest
  | none => url

/-- The URL for an engine, whose scheme names the driver. -/
def engineUrl (url : String) : String :=
  changeScheme (changeScheme url "postgres://" "postgresql://") "postgresql://" "postgresql+psycopg://"

/-- The URL for a plain connection, whose scheme names no driver. -/
def plainUrl (url : String) : String :=
  changeScheme (changeScheme url "postgresql+psycopg://" "postgresql://") "postgres://" "postgresql://"

/-- Adds a timeout in seconds, unless the URL speaks of one. -/
def withTimeout (url : String) (seconds : Nat) : String :=
  if Text.holds url "connect_timeout" then url
  else url ++ (if Text.holds url "?" then "&" else "?") ++ "connect_timeout=" ++ toString seconds

/-- The URL under which a schema is read. -/
def introspectionUrl (url : String) : String := withTimeout (plainUrl url) 10

/-- What stands in a URL for a password that is given elsewhere. -/
def passwordMark : String := "[YOUR-PASSWORD]"

/-- The URL with its password filled in. An empty password is none. -/
def fillPassword (url : String) (password : Option String) : String :=
  match password with
  | none => url
  | some password =>
      if password.isEmpty then url else Text.replaceAll url passwordMark (Text.percentEncode password)

end SchemaMigrate.Postgres
