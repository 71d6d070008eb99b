import SchemaMigrate.Notice
import SchemaMigrate.Plan.Extras
import SchemaMigrate.Plan.Size
import SchemaMigrate.Plan.Step

/-!
Plans: the steps that bring a live database in line with its model, and what it has beyond the model.

The steps come in four phases. Missing tables are created; tables that both sides have get their missing
columns, and their columns change size where the model allows it; then foreign keys are added whose
target is in the model; then indexes. Nothing is removed.
-/

namespace SchemaMigrate

structure Plan where
  steps : List Step := []
  extras : Extras := {}
deriving Repr, DecidableEq

/-- The field attribute that lets a column be narrowed. -/
def reduceSize : String := "ReduceSize"

/-- What becomes of a field of a table that both sides have. -/
inductive ColumnDecision where
  | keep
  | add
  | widen
  | narrow
  | hold
deriving Repr, DecidableEq

def decideColumn (actual : Table) (field : Field) : ColumnDecision :=
  match actual.field? field.name with
  | none => .add
  | some live =>
      match compareSize field live with
      | none => .keep
      | some .widen => .widen
      | some .narrow => if field.hasAttribute reduceSize then .narrow else .hold

def ColumnDecision.step? (table : String) (field : Field) : ColumnDecision → Option Step
  | .keep | .hold => none
  | .add => some (.addColumn table field)
  | .widen => some (.alterColumn table field true)
  | .narrow => some (.alterColumn table field false)

def ColumnDecision.notice? (table : String) (field : Field) : ColumnDecision → Option Notice
  | .hold => some
      { level := .debug, speaker := .planner
        text := s!"Not narrowing {table}.{field.name}: field is not marked @{reduceSize}" }
  | _ => none

/-- Foreign keys are the same if their column, target and target column are. -/
def sameForeignKey (left right : ForeignKey) : Bool :=
  sameName left.column right.column && sameName left.target right.target
    && sameName left.targetColumn right.targetColumn

/-- Indexes are the same if they are over the same fields in order and both unique or both not. -/
def sameIndex (left right : Index) : Bool :=
  left.unique == right.unique && sameNames left.fields right.fields

/-- What becomes of a foreign key of the model. -/
inductive KeyDecision where
  | present
  | dangling
  | add
deriving Repr, DecidableEq

def decideKey (target : Database) (live : List ForeignKey) (key : ForeignKey) : KeyDecision :=
  if live.any (sameForeignKey key) then .present
  else if target.hasTable key.target then .add
  else .dangling

def KeyDecision.step? (table : String) (key : ForeignKey) : KeyDecision → Option Step
  | .add => some (.addForeignKey table key)
  | _ => none

def KeyDecision.notice? (table : String) (key : ForeignKey) : KeyDecision → Option Notice
  | .dangling => some
      { level := .debug, speaker := .planner
        text := s!"Skipping foreign key {table}.{key.column}: target table '{key.target}' is not in the model" }
  | _ => none

namespace Plan

variable (target actual : Database)

/-- The tables of the model that the database has too, each with its live version. -/
def sharedTables : List (Table × Table) :=
  target.tables.items.filterMap fun table => (actual.table? table.name).map (table, ·)

def tableSteps : List Step :=
  target.tables.items.filterMap fun table =>
    if actual.hasTable table.name then none else some (.createTable table)

def columnSteps : List Step :=
  (sharedTables target actual).flatMap fun (table, live) =>
    table.fields.filterMap fun field => (decideColumn live field).step? table.name field

/-- The foreign keys that the live version of a table has. -/
def liveKeys (table : Table) : List ForeignKey :=
  (actual.table? table.name).elim [] (·.foreignKeys)

/-- The indexes that the live version of a table has. -/
def liveIndexes (table : Table) : List Index :=
  (actual.table? table.name).elim [] (·.indexes)

def foreignKeySteps : List Step :=
  target.tables.items.flatMap fun table =>
    table.foreignKeys.filterMap fun key =>
      (decideKey target (liveKeys actual table) key).step? table.name key

def indexSteps : List Step :=
  target.tables.items.flatMap fun table =>
    table.indexes.filterMap fun index =>
      if (liveIndexes actual table).any (sameIndex index) then none
      else some (.addIndex table.name index)

/-- The index that goes along with a foreign key. -/
def supportIndex (key : ForeignKey) : Index := { fields := [key.column] }

/-- The indexes that a table of the model accounts for: its own, and those of its foreign keys. -/
def expectedIndexes (table : Table) : List Index :=
  table.indexes ++ table.foreignKeys.map supportIndex

def extraTables : List String :=
  actual.tables.items.filterMap fun live =>
    if target.hasTable live.name then none else some live.name

/-- The live tables that the model has too, each with the model's version first. -/
def knownTables : List (Table × Table) :=
  actual.tables.items.filterMap fun live => (target.table? live.name).map (·, live)

def extraColumns : List ExtraColumn :=
  (knownTables target actual).flatMap fun (table, live) =>
    live.fields.filterMap fun field =>
      if table.hasField field.name then none
      else some { table := live.name, column := field.name, type := field.type.name }

def extraIndexes : List ExtraIndex :=
  (knownTables target actual).flatMap fun (table, live) =>
    live.indexes.filterMap fun index =>
      if (expectedIndexes table).any (sameIndex index) then none
      else some { table := live.name, fields := index.fields, unique := index.unique
                  name := index.name }

/-- The plan that brings the actual schema in line with the target. -/
def between : Plan where
  steps := tableSteps target actual ++ columnSteps target actual ++ foreignKeySteps target actual
    ++ indexSteps target actual
  extras :=
    { tables := extraTables target actual
      columns := extraColumns target actual
      indexes := extraIndexes target actual }

def columnNotices : List Notice :=
  (sharedTables target actual).flatMap fun (table, live) =>
    table.fields.filterMap fun field => (decideColumn live field).notice? table.name field

def foreignKeyNotices : List Notice :=
  target.tables.items.flatMap fun table =>
    table.foreignKeys.filterMap fun key =>
      (decideKey target (liveKeys actual table) key).notice? table.name key

/-- What is said while the plan is made: what was left undone, and the size of the plan. -/
def notices : List Notice :=
  let plan := between target actual
  columnNotices target actual ++ foreignKeyNotices target actual
    ++ [{ level := .info, speaker := .planner
          text := s!"Planned {plan.steps.length} step(s); {plan.extras.count} extra object(s) in database" }]

/-- Without one of the two schemas there is no plan. -/
inductive MissingSchema where
  | target
  | actual
deriving Repr, DecidableEq

def MissingSchema.message : MissingSchema → String
  | .target => "Target model is required"
  | .actual => "Actual model is required"

/-- Both schemas, if they are there. -/
def required (target actual : Option Database) : Except MissingSchema (Database × Database) :=
  match target, actual with
  | none, _ => .error .target
  | some _, none => .error .actual
  | some target, some actual => .ok (target, actual)

def hasChanges (plan : Plan) : Bool := !plan.steps.isEmpty

/-- The steps of an action, in order. -/
def stepsFor (plan : Plan) (action : Action) : List Step := plan.steps.filter (·.action == action)

/-- How many steps each action has, for the actions that have any. -/
def stepCounts (plan : Plan) : List (Action × Nat) :=
  (Action.all.map fun action => (action, (plan.stepsFor action).length)).filter (·.2 != 0)

end Plan

end SchemaMigrate
