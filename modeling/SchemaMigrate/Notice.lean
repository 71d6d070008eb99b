/-!
Notices: what the parts of the program say about their work while they do it.
-/

namespace SchemaMigrate

inductive Level where
  | debug
  | info
  | warning
  | error
deriving Repr, DecidableEq

/-- The part of the program that speaks. -/
inductive Speaker where
  | compiler
  | loader
  | introspection
  | planner
  | safety
  | executor
  | migration
deriving Repr, DecidableEq

structure Notice where
  level : Level
  speaker : Speaker
  text : String
deriving Repr, DecidableEq

end SchemaMigrate
