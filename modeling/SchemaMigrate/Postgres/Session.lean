import SchemaMigrate.Postgres.Url
import SchemaMigrate.Run.Client

/-!
A session with a server: one engine, and one connection that is opened when it is first needed and again
when it was closed. Every statement runs in its own transaction. The session keeps what it does with the
engine and the connection, in order.

The options of an engine and the parameters of a statement are passed on as they are; `ν` is the type of
their values.
-/

namespace SchemaMigrate.Postgres

/-- An option of an engine: one of the session's own, or one that was passed on. -/
inductive EngineOption (ν : Type) where
  | number (value : Nat)
  | flag (value : Bool)
  | given (value : ν)
deriving Repr, DecidableEq

inductive SessionEvent (ν : Type) where
  | engine (url : String) (options : List (String × EngineOption ν))
  | connect
  | begin
  | sql (text : String) (params : List (String × ν))
  | commit
  | rollback
  | close
  | dispose
deriving Repr, DecidableEq

inductive Connection where
  | opened
  | closed
deriving Repr, DecidableEq

structure Session (ν : Type) where
  connection : Option Connection := none
  events : List (SessionEvent ν) := []
deriving Repr, DecidableEq

/-- A session holds one connection, checks it before use, and renews it every five minutes. -/
def defaultOptions (ν : Type) : List (String × EngineOption ν) :=
  [("pool_size", .number 1), ("max_overflow", .number 2), ("pool_pre_ping", .flag true),
   ("pool_recycle", .number 300), ("echo", .flag false)]

/-- The default options, as far as they are not given otherwise, and the given ones. -/
def engineOptions {ν : Type} (given : List (String × ν)) : List (String × EngineOption ν) :=
  (defaultOptions ν).filter (fun option => !given.any (·.1 == option.1))
    ++ given.map fun (name, value) => (name, .given value)

namespace Session

variable {ν : Type}

/-- Adds an event. -/
def log (session : Session ν) (event : SessionEvent ν) : Session ν :=
  { session with events := session.events ++ [event] }

/-- A new session at a URL. -/
def start (url : String) (options : List (String × ν)) : Session ν :=
  ({} : Session ν).log (.engine (withTimeout (engineUrl url) 5) (engineOptions options))

/-- Opens a connection unless one is open. -/
def connected (session : Session ν) : Session ν :=
  match session.connection with
  | some .opened => session
  | _ => { session.log .connect with connection := some .opened }

/-- Runs a text in a transaction of its own, on a server that answers with `respond`. -/
def run (respond : String → Except String Cell) (sql : String) (params : List (String × ν))
    (session : Session ν) : Except String Cell × Session ν :=
  let session := (session.connected.log .begin).log (.sql sql params)
  match respond sql with
  | .error message => (.error message, session.log .rollback)
  | .ok cell => (.ok cell, session.log .commit)

/-- Closes the connection, if there is one, and disposes of the engine. -/
def close (session : Session ν) : Session ν :=
  match session.connection with
  | none => session.log .dispose
  | some _ => { (session.log .close).log .dispose with connection := none }

/-- The connection was closed from outside. -/
def dropConnection (session : Session ν) : Session ν :=
  { session with connection := session.connection.map fun _ => .closed }

/-- Whether the server answers. -/
def test (respond : String → Except String Cell) (session : Session ν) :
    Except String Bool × Session ν :=
  let (answer, session) := session.run respond "SELECT 1" []
  (answer.map Cell.isOne, session)

/-- The client that runs statements and queries in a session. -/
def client (respond : String → Except String Cell) : Client (Session ν) where
  execute statement session :=
    let (answer, session) := session.run respond statement []
    ((fun _ => ()) <$> answer, session)
  scalar query session := session.run respond query []

@[simp] theorem connection_log (session : Session ν) (event : SessionEvent ν) :
    (session.log event).connection = session.connection := rfl

/-- Whatever comes of a text, its connection stays open for the next one. -/
theorem connection_run (respond : String → Except String Cell) (sql : String)
    (params : List (String × ν)) (session : Session ν) :
    (session.run respond sql params).2.connection = some .opened := by
  have hconnected : session.connected.connection = some .opened := by
    unfold connected
    split
    · assumption
    · rfl
  unfold run
  split <;> simpa using hconnected

/-- A closed session holds no connection. -/
theorem connection_close (session : Session ν) : session.close.connection = none := by
  unfold close
  split
  · simpa
  · rfl

end Session

end SchemaMigrate.Postgres
