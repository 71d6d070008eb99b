import SchemaMigrate.Run.Client
import SchemaMigrate.Sql.Narrowing
import SchemaMigrate.Sql.Statement

/-!
Application of a plan through a client.

Each step is run by itself: an error ends the step and is reported, and the run goes on with the next
one. Before a column is narrowed its data is measured; a narrowing that would lose data is skipped unless
that is allowed, and then the data is made to fit first. A dry run records the statements without
executing them, and measures all the same.
-/

namespace SchemaMigrate

/-- The field attribute that allows the data of a column to be cut. -/
def allowDataLoss : String := "AllowDataLoss"

structure Settings where
  limit : Int := Sql.defaultLimit
  allowLoss : Bool := false
  dryRun : Bool := false
deriving Repr, DecidableEq

/-- Why a step failed. -/
inductive StepError where
  | client (message : String)
  | statement (error : Sql.SqlError)
  | count (error : CountError)
deriving Repr, DecidableEq

def StepError.message : StepError → String
  | .client message => message
  | .statement error => error.message
  | .count error => error.message

/-- What happens in the course of a step. -/
inductive Event where
  | measured (query : String)
  | lossAllowed (table : String) (check : Sql.SafetyCheck)
  | recorded (statement : String)
deriving Repr, DecidableEq

inductive Outcome where
  | applied
  | failed (error : StepError)
  | skipped (check : Sql.SafetyCheck)
deriving Repr, DecidableEq

/-- What came of running something: the events in order, the outcome, and the state of the client. -/
structure Course (σ : Type) where
  events : List Event := []
  outcome : Outcome
  state : σ

/-- Goes on after a course that was carried through. -/
def Course.andThen {σ : Type} (course : Course σ) (next : σ → Course σ) : Course σ :=
  match course.outcome with
  | .applied =>
      let rest := next course.state
      { rest with events := course.events ++ rest.events }
  | _ => course

section Running

variable {σ : Type} (client : Client σ) (settings : Settings)

/-- Executes a statement, unless the run is dry. -/
def perform (statement : String) (state : σ) : Except String Unit × σ :=
  if settings.dryRun then (.ok (), state) else client.execute statement state

/-- Records statements and executes them, up to the first that fails. -/
def runStatements : List String → σ → Course σ
  | [], state => { outcome := .applied, state }
  | statement :: statements, state =>
      match perform client settings statement state with
      | (.error message, state) =>
          { events := [.recorded statement], outcome := .failed (.client message), state }
      | (.ok _, state) =>
          let rest := runStatements statements state
          { rest with events := .recorded statement :: rest.events }

/-- Measures the data of a column. -/
def measure (query : String) (state : σ) : Except StepError Int × σ :=
  match client.scalar query state with
  | (.error message, state) => (.error (.client message), state)
  | (.ok cell, state) => (cell.count.mapError .count, state)

/-- Checks a column before it is narrowed, and tells what was measured. -/
def checkNarrowing (table : String) (field : Field) (state : σ) :
    Except StepError Sql.SafetyCheck × List Event × σ :=
  match Sql.measureQuery? table field with
  | none => (.ok (Sql.verdict table field 0), [], state)
  | some query =>
      let (observed, state) := measure client query state
      (observed.map (Sql.verdict table field), [.measured query], state)

/-- Whether the data of a field may be cut. -/
def mayLose (field : Field) : Bool := settings.allowLoss || field.hasAttribute allowDataLoss

/-- Narrows a column. -/
def narrowField (table : String) (field : Field) (state : σ) : Course σ :=
  let (check, events, state) := checkNarrowing client table field state
  let alter := Sql.alterColumnType table field
  match check with
  | .error error => { events, outcome := .failed error, state }
  | .ok check =>
      if check.safe then
        let rest := runStatements client settings [alter] state
        { rest with events := events ++ rest.events }
      else if mayLose settings field then
        let rest := runStatements client settings (Sql.fixups table field ++ [alter]) state
        { rest with events := events ++ .lossAllowed table check :: rest.events }
      else { events, outcome := .skipped check, state }

/-- Narrows columns one after the other, up to the first that is not carried through. -/
def narrowFields (table : String) : List Field → σ → Course σ
  | [], state => { outcome := .applied, state }
  | field :: fields, state =>
      (narrowField client settings table field state).andThen (narrowFields table fields)

def runStep (step : Step) (state : σ) : Course σ :=
  if step.action = .alterColumn ∧ step.widening = false then
    narrowFields client settings step.table step.fields state
  else
    match Sql.ofStep step settings.limit with
    | .error error => { outcome := .failed (.statement error), state }
    | .ok statements => runStatements client settings statements state

/-- A step with what came of it. -/
structure StepReport where
  step : Step
  events : List Event
  outcome : Outcome
deriving Repr, DecidableEq

/-- Runs steps in order, each from the state that the one before it left. -/
def runSteps : List Step → σ → List StepReport × σ
  | [], state => ([], state)
  | step :: steps, state =>
      let course := runStep client settings step state
      let (reports, state) := runSteps steps course.state
      ({ step, events := course.events, outcome := course.outcome } :: reports, state)

end Running

/-- The statements among events. -/
def Event.statement? : Event → Option String
  | .recorded statement => some statement
  | _ => none

/-- The outcome of a run, step by step. -/
structure ApplyResult where
  applied : List Step := []
  failures : List (Step × String) := []
  skipped : List (Step × String) := []
  statements : List String := []
  dryRun : Bool := false
deriving Repr, DecidableEq

/-- A run is a success if no step failed. -/
def ApplyResult.success (result : ApplyResult) : Bool := result.failures.isEmpty

namespace StepReport

def applied? (report : StepReport) : Option Step :=
  match report.outcome with
  | .applied => some report.step
  | _ => none

def failure? (report : StepReport) : Option (Step × String) :=
  match report.outcome with
  | .failed error => some (report.step, error.message)
  | _ => none

def skipped? (report : StepReport) : Option (Step × String) :=
  match report.outcome with
  | .skipped check => some (report.step, check.message)
  | _ => none

def statements (report : StepReport) : List String := report.events.filterMap Event.statement?

end StepReport

def ApplyResult.ofReports (reports : List StepReport) (dryRun : Bool) : ApplyResult where
  applied := reports.filterMap StepReport.applied?
  failures := reports.filterMap StepReport.failure?
  skipped := reports.filterMap StepReport.skipped?
  statements := reports.flatMap StepReport.statements
  dryRun

/-- Applies the steps of a plan. -/
def applyPlan {σ : Type} (client : Client σ) (plan : Plan) (settings : Settings) (state : σ) :
    ApplyResult × σ :=
  let (reports, state) := runSteps client settings plan.steps state
  (.ofReports reports settings.dryRun, state)

def Event.notice : Event → Notice
  | .measured query => { level := .debug, speaker := .safety, text := "Safety check: " ++ query }
  | .recorded statement => { level := .debug, speaker := .executor, text := "SQL: " ++ statement }
  | .lossAllowed table check =>
      { level := .warning, speaker := .executor
        text := s!"Data loss allowed for {table}.{check.field.name}: {check.message}" }

/-- What is said about the outcome of a step; nothing if it was applied. -/
def StepReport.outcomeNotices (report : StepReport) : List Notice :=
  match report.outcome with
  | .applied => []
  | .failed error =>
      [{ level := .error, speaker := .executor
         text := s!"Step failed: {report.step.describe}: {error.message}" }]
  | .skipped check =>
      [{ level := .warning, speaker := .executor
         text := s!"Skipping {report.step.describe}: {check.message}. "
           ++ s!"Mark the field @{allowDataLoss} or pass allow_data_loss=True to truncate." }]

/-- What is said about a step, the `number`th of `total`. -/
def StepReport.notices (number total : Nat) (report : StepReport) : List Notice :=
  { level := .info, speaker := .executor, text := s!"[{number}/{total}] {report.step.describe}" }
    :: report.events.map Event.notice ++ report.outcomeNotices

/-- What is said during a run. -/
def runNotices (reports : List StepReport) : List Notice :=
  if reports.isEmpty then [{ level := .info, speaker := .executor, text := "Nothing to apply" }]
  else
    let result := ApplyResult.ofReports reports false
    (reports.zipIdx 1).flatMap (fun (report, number) => report.notices number reports.length)
      ++ [{ level := .info, speaker := .executor
            text := s!"Applied {result.applied.length} step(s), "
              ++ s!"{result.failures.length} failed, {result.skipped.length} skipped" }]

section Laws

variable {σ : Type} (client : Client σ) (settings : Settings)

/-- A run over two stretches of steps is the run over the first and then over the second. -/
theorem runSteps_append (first second : List Step) (state : σ) :
    runSteps client settings (first ++ second) state =
      ((runSteps client settings first state).1
          ++ (runSteps client settings second (runSteps client settings first state).2).1,
        (runSteps client settings second (runSteps client settings first state).2).2) := by
  induction first generalizing state with
  | nil => rfl
  | cons step steps ih => simp [runSteps, ih]

/-- Every step is reported once, in order. -/
theorem map_step_runSteps (steps : List Step) (state : σ) :
    (runSteps client settings steps state).1.map (·.step) = steps := by
  induction steps generalizing state with
  | nil => rfl
  | cons step steps ih => simp [runSteps, ih]

end Laws

end SchemaMigrate
