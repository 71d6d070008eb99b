import SchemaMigrate.Proofs.Plan.Due
import SchemaMigrate.Proofs.Run.Accounting
import SchemaMigrate.Proofs.Run.Preview

/-!
Steps that are skipped. A step is skipped at the first column whose narrowing is refused, and the columns
before that one stay narrowed. Main statement: what a skipped step has recorded and executed are the statements
of those columns, so that it was not applied at all exactly if the refused column is its first. The steps
of the planner narrow one column each.

What a step gives its client to execute is what an observer before the client notes.
-/

namespace SchemaMigrate

section Skipping

variable {σ : Type}

/-- The narrowing of a column is refused: the check finds data that would be lost, and it may not be cut. -/
structure Refused (client : Client σ) (settings : Settings) (table : String) (field : Field) (state : σ)
    (check : Sql.SafetyCheck) : Prop where
  found : (checkNarrowing client table field state).1 = .ok check
  risky : check.safe = false
  kept : mayLose settings field = false

/-- The statements that a step gives its client to execute. -/
def executedBy (client : Client σ) (settings : Settings) (step : Step) (state : σ) : List String :=
  (runStep client.observed settings step (state, [])).state.2

-- the texts of queries and statements are never looked into here
attribute [local irreducible] Sql.measureQuery? Sql.verdict Sql.fixups Sql.alterColumnType

variable {client : Client σ} {settings : Settings}

/-- A column that is skipped was refused, and nothing was recorded for it. -/
theorem narrowField_skipped {table : String} {field : Field} {state : σ} {check : Sql.SafetyCheck}
    (h : (narrowField client settings table field state).outcome = .skipped check) :
    Refused client settings table field state check
      ∧ (narrowField client settings table field state).events.filterMap Event.statement? = [] := by
  cases hchecked : checkNarrowing client table field state with
  | mk answer rest =>
      obtain ⟨events, measured⟩ := rest
      cases answer with
      | error error =>
          rw [narrowField_unanswered hchecked] at h
          cases h
      | ok found =>
          cases hsafe : found.safe with
          | true =>
              rw [narrowField_safe hchecked hsafe] at h
              exact absurd h (runStatements_ran _ _ _)
          | false =>
              cases hallowed : mayLose settings field with
              | true =>
                  rw [narrowField_cut hchecked hsafe hallowed] at h
                  exact absurd h (runStatements_ran _ _ _)
              | false =>
                  rw [narrowField_refused hchecked hsafe hallowed] at h ⊢
                  cases h
                  exact ⟨⟨by rw [hchecked], hsafe, hallowed⟩, checkNarrowing_statements hchecked⟩

/-- Columns are narrowed up to one that is refused. What is recorded narrows those before it. -/
theorem narrowFields_skipped {table : String} {fields : List Field} {state : σ} {check : Sql.SafetyCheck}
    (h : (narrowFields client settings table fields state).outcome = .skipped check) :
    ∃ narrowed field rest checks reached, fields = narrowed ++ field :: rest
      ∧ Narrowed client settings table state narrowed checks
          ((narrowFields client settings table fields state).events.filterMap Event.statement?) reached
      ∧ Refused client settings table field reached check := by
  induction fields generalizing state with
  | nil => cases h
  | cons field fields ih =>
      rw [narrowFields] at h ⊢
      by_cases houtcome : (narrowField client settings table field state).outcome = .applied
      · obtain ⟨first, events, measured, hcheck, hstatements, hstate⟩ := narrowField_applied houtcome
        rw [Course.andThen_applied houtcome] at h ⊢
        obtain ⟨narrowed, refused, rest, checks, reached, hfields, hnarrowed, hrefused⟩ := ih h
        rw [hstate] at hnarrowed
        refine ⟨field :: narrowed, refused, rest, first :: checks, reached, ?_, ?_, hrefused⟩
        · rw [hfields, List.cons_append]
        · rw [List.filterMap_append, hstatements, hstate]
          exact .cons hcheck hnarrowed
      · rw [Course.andThen_stopped houtcome] at h ⊢
        obtain ⟨hrefused, hnone⟩ := narrowField_skipped h
        rw [hnone]
        exact ⟨[], field, fields, [], state, rfl, .nil state, hrefused⟩

/-- Columns that are narrowed have statements. -/
theorem Narrowed.statements_eq_nil_iff {table : String} {fields : List Field} {checks : List Sql.SafetyCheck}
    {statements : List String} {state reached : σ}
    (h : Narrowed client settings table state fields checks statements reached) :
    statements = [] ↔ fields = [] := by
  cases h with
  | nil => simp
  | cons => simp [Sql.narrowing]

/-- Only narrowings are skipped. -/
theorem narrows_of_skipped {step : Step} {state : σ} {check : Sql.SafetyCheck}
    (h : (runStep client settings step state).outcome = .skipped check) : step.Narrows := by
  by_contra hstates
  rw [runStep_states hstates] at h
  cases hown : Sql.ofStep step settings.limit with
  | error error =>
      rw [hown] at h
      cases h
  | ok statements =>
      rw [hown] at h
      exact runStatements_ran _ _ _ h

/-- What a step records is executed, unless the run is dry. -/
theorem executedBy_eq (step : Step) (state : σ) :
    executedBy client settings step state =
      if settings.dryRun then [] else (runStep client settings step state).events.filterMap Event.statement? := by
  have hevents := congrArg Course.events (runStep_view (observed_follows client) settings step (state, []))
  have hstate := (runStep_spec client.observed settings step (state, [])).1
  rw [executedBy, hstate, replay_observed, List.nil_append]
  change (runStep client settings step state).events = _ at hevents
  rw [hevents]
  rfl

/-- A skipped step narrows some of its columns, and the next one is refused. -/
theorem runStep_skipped {step : Step} {state : σ} {check : Sql.SafetyCheck}
    (h : (runStep client settings step state).outcome = .skipped check) :
    step.Narrows ∧ ∃ narrowed field rest checks reached, step.fields = narrowed ++ field :: rest
      ∧ Narrowed client settings step.table state narrowed checks
          ((runStep client settings step state).events.filterMap Event.statement?) reached
      ∧ Refused client settings step.table field reached check := by
  have hnarrows := narrows_of_skipped h
  rw [runStep_narrows hnarrows] at h ⊢
  exact ⟨hnarrows, narrowFields_skipped h⟩

end Skipping

/-- A skipped step, in a run of any plan. It is a narrowing, some of its columns were narrowed, and the next one
was refused. Recorded are the statements of the columns before, and these the client was given to execute
unless the run is dry. So nothing of the step was recorded or executed exactly if there are none before. -/
theorem skipped_untouched_iff {σ : Type} (client : Client σ) (settings : Settings) (plan : Plan) (state : σ)
    {earlier later : List StepReport} {report : StepReport} {check : Sql.SafetyCheck}
    (hrun : (runSteps client settings plan.steps state).1 = earlier ++ report :: later)
    (hskipped : report.outcome = .skipped check) :
    let start := (runSteps client settings (earlier.map (·.step)) state).2
    let executed := executedBy client settings report.step start
    ∃ narrowed field rest checks reached, report.step.Narrows
      ∧ report.step.fields = narrowed ++ field :: rest
      ∧ Narrowed client settings report.step.table start narrowed checks report.statements reached
      ∧ Refused client settings report.step.table field reached check
      ∧ executed = (if settings.dryRun then [] else report.statements)
      ∧ (report.statements = [] ∧ executed = [] ↔ narrowed = []) := by
  intro start executed
  obtain ⟨-, -, hevents, houtcome⟩ := runSteps_report hrun
  rw [hskipped] at houtcome
  obtain ⟨hnarrows, narrowed, field, rest, checks, reached, hfields, hnarrowed, hrefused⟩ := runStep_skipped houtcome.symm
  have hexecuted : executed = if settings.dryRun then [] else report.statements := by
    rw [StepReport.statements, hevents]
    exact executedBy_eq report.step start
  rw [← hevents] at hnarrowed
  refine ⟨narrowed, field, rest, checks, reached, hnarrows, hfields, hnarrowed, hrefused, hexecuted, ?_⟩
  rw [← hnarrowed.statements_eq_nil_iff]
  constructor
  · exact And.left
  · intro hnone
    refine ⟨hnone, ?_⟩
    rw [hexecuted, StepReport.statements, hnone, ite_self]

/-- A column that is to be shortened to ten characters. -/
def shortText : Field := { name := "Text", type := { name := "varchar", precision := some 10 } }

/-- A step with a column before it whose texts fit. -/
def shortenBothPlan : Plan where
  steps :=
    [{ action := .alterColumn, table := "Note"
       fields := [{ name := "Title", type := { name := "varchar", precision := some 30 } }, shortText] }]

/-- Texts of twenty characters keep the second column from being shortened, when the first has been. -/
theorem skipped_untouched_iff_shorten :
    let report : StepReport :=
      { step :=
          { action := .alterColumn, table := "Note"
            fields := [{ name := "Title", type := { name := "varchar", precision := some 30 } }, shortText] }
        events :=
          [.measured "SELECT MAX(char_length(\"Title\")) FROM \"Note\"",
           .recorded "ALTER TABLE \"Note\" ALTER COLUMN \"Title\" TYPE varchar(30)",
           .measured "SELECT MAX(char_length(\"Text\")) FROM \"Note\""]
        outcome := .skipped (Sql.verdict "Note" shortText 20) }
    (runSteps longNotes {} shortenBothPlan.steps []).1 = [] ++ report :: []
    ∧ ∃ narrowed field rest checks reached, report.step.Narrows
      ∧ report.step.fields = narrowed ++ field :: rest
      ∧ Narrowed longNotes {} "Note" [] narrowed checks report.statements reached
      ∧ Refused longNotes {} "Note" field reached (Sql.verdict "Note" shortText 20)
      ∧ executedBy longNotes {} report.step [] = report.statements
      ∧ (report.statements = [] ∧ executedBy longNotes {} report.step [] = [] ↔ narrowed = []) := by
  intro report
  have hrun : (runSteps longNotes {} shortenBothPlan.steps []).1 = [] ++ report :: [] := by decide +kernel
  exact ⟨hrun, skipped_untouched_iff longNotes {} shortenBothPlan [] hrun rfl⟩

/-- The step is skipped for its second column, after its first was altered. -/
theorem skipped_after_altering :
    let run := applyPlan longNotes shortenBothPlan {} []
    run.1.skipped.map (·.1) = shortenBothPlan.steps ∧ run.1.applied = [] ∧ run.1.failures = []
      ∧ run.1.statements = ["ALTER TABLE \"Note\" ALTER COLUMN \"Title\" TYPE varchar(30)"]
      ∧ shortenBothPlan.steps.map (executedBy longNotes {} · []) = [run.1.statements] := by
  decide +kernel

/-- A skipped step of a plan that was made from two schemas was not applied at all. -/
theorem planned_skipped_untouched {σ : Type} (client : Client σ) (settings : Settings) (target live : Database)
    (state : σ) {earlier later : List StepReport} {report : StepReport} {check : Sql.SafetyCheck}
    (hrun : (runSteps client settings (Plan.between target live).steps state).1 = earlier ++ report :: later)
    (hskipped : report.outcome = .skipped check) :
    report.statements = []
      ∧ executedBy client settings report.step (runSteps client settings (earlier.map (·.step)) state).2 = [] := by
  obtain ⟨-, -, hevents, houtcome⟩ := runSteps_report hrun
  rw [hskipped] at houtcome
  obtain ⟨hnarrows, narrowed, _, _, _, _, hfields, hnarrowed, -⟩ := runStep_skipped houtcome.symm
  obtain ⟨table, only, hstep⟩ := (Plan.mem_between_iff.1 (runSteps_spec hrun).1).of_narrows hnarrows
  have hfirst : narrowed = [] := by
    rw [hstep] at hfields
    cases narrowed with
    | nil => rfl
    | cons first others => simp [Step.alterColumn] at hfields
  have hnone := hnarrowed.statements_eq_nil_iff.2 hfirst
  rw [executedBy_eq, StepReport.statements, hevents, hnone, ite_self]
  exact ⟨rfl, rfl⟩

end SchemaMigrate
