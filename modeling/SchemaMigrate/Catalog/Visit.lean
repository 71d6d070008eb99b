import SchemaMigrate.Catalog.Introspect
import SchemaMigrate.Postgres.Url

/-!
Visits to a catalog: an inquiry at a connection of its own.
-/

namespace SchemaMigrate.Catalog

inductive VisitEvent where
  | connect (url : String)
  | query (query : Query)
  | close
deriving Repr, DecidableEq

/-- Makes an inquiry at a connection, which is closed whatever comes of the inquiry. -/
def visit {α : Type} (url : String) (inquiry : Inquiry α) :
    Except IntrospectError α × List VisitEvent :=
  let (answer, queries) := inquiry.run.run []
  (answer, .connect (Postgres.introspectionUrl url) :: queries.map .query ++ [.close])

/-- Without a connection an inquiry fails before its first query. -/
def withoutVisit {α : Type} (_ : Inquiry α) : Except IntrospectError α × List VisitEvent :=
  (.error .notConnected, [])

end SchemaMigrate.Catalog
