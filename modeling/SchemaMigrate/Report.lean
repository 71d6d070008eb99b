import SchemaMigrate.ColumnType.Render
import SchemaMigrate.Run.Apply

/-!
Reports for a terminal: what is printed about a plan and about the outcome of its application. Texts carry
their markup, tables their columns and rows; how they are drawn is left to the terminal.
-/

namespace SchemaMigrate.Report

inductive Justify where
  | left
  | right
deriving Repr, DecidableEq

structure Column where
  header : String
  justify : Justify := .left
  style : String := ""
deriving Repr, DecidableEq

structure Grid where
  title : String
  showHeader : Bool := true
  headerStyle : String := "bold"
  columns : List Column
  rows : List (List String)
deriving Repr, DecidableEq

/-- One thing that is printed. -/
inductive Item where
  | blank
  | text (content : String) (style : Option String)
  | grid (grid : Grid)
deriving Repr, DecidableEq

def Item.plain (content : String) : Item := .text content none

/-- An action as it stands in a table. -/
def badge : Action → String
  | .createTable => "[bold green]NEW TABLE[/bold green]"
  | .addColumn => "[green]ADD COLUMN[/green]"
  | .alterColumn => "[yellow]ALTER COLUMN[/yellow]"
  | .addForeignKey => "[cyan]FOREIGN KEY[/cyan]"
  | .addIndex => "[cyan]INDEX[/cyan]"

/-- Whether an altered column gets wider or narrower. -/
def sizeMark (step : Step) : String :=
  if step.action = .alterColumn then
    if step.widening then " (widen)" else " [bold yellow](narrow)[/bold yellow]"
  else ""

/-- A column as a model declares it. -/
def fieldText (field : Field) : String :=
  field.type.declaration ++ (if field.nullable then "?" else "") ++ " " ++ field.name

/-- What a step is about: its foreign key, else its index, else its fields, which are only counted for a
new table. -/
def detail (step : Step) : String :=
  match step.foreignKey, step.index with
  | some key, _ => key.arrow
  | none, some index =>
      (if index.unique then "unique " else "") ++ "(" ++ Text.joinWith ", " index.fields ++ ")"
  | none, none =>
      if step.action = .createTable then toString step.fields.length ++ " field(s)"
      else Text.joinWith ", " (step.fields.map fun field => fieldText field ++ sizeMark step)

/-- The row of a step under its number. -/
def row (number : Nat) (step : Step) : List String :=
  [toString number, badge step.action, step.table, detail step]

def columns : List Column :=
  [{ header := "#", justify := .right, style := "dim" }, { header := "Action" },
   { header := "Table" }, { header := "Detail" }]

/-- The steps of a plan as a table. -/
def stepGrid (plan : Plan) : Grid where
  title := "Migration Plan"
  columns
  rows := (plan.steps.zipIdx 1).map fun (step, number) => row number step

/-- How many steps of each action a plan has. -/
def summary (plan : Plan) : String :=
  "  " ++ Text.joinWith ", "
    (plan.stepCounts.map fun (action, count) => toString count ++ " " ++ action.label)

/-- What is printed about a plan: its steps, and the extras if there are any. -/
def ofPlan (plan : Plan) : List Item :=
  let steps :=
    if plan.hasChanges then [.blank, .grid (stepGrid plan), .text (summary plan) (some "dim")]
    else [.blank, .plain "[bold green]v[/bold green] Database matches the model - no changes needed"]
  let extras :=
    if plan.extras.isEmpty then []
    else [.blank, .plain ("[yellow]" ++ plan.extras.report ++ "[/yellow]")]
  steps ++ extras

/-- The outcome of an application in one line. -/
def headline (result : ApplyResult) : String :=
  let applied :=
    (if result.dryRun then "Dry run: " else "") ++ toString result.applied.length ++ " step(s) applied"
  if result.success then "[bold green]v[/bold green] " ++ applied
  else "[bold red]x[/bold red] " ++ applied ++ ", " ++ toString result.failures.length ++ " failed"

/-- A step that was not applied, and why. -/
def remark (mark : String) (step : Step) (reason : String) : String :=
  "  " ++ mark ++ " " ++ step.describe ++ ": " ++ reason

/-- What is printed about the application of a plan. -/
def ofResult (result : ApplyResult) : List Item :=
  .blank :: .plain (headline result)
    :: result.skipped.map (fun (step, reason) => .plain (remark "[yellow]Skipped[/yellow]" step reason))
    ++ result.failures.map (fun (step, reason) => .plain (remark "[red]Failed[/red]" step reason))

end SchemaMigrate.Report
