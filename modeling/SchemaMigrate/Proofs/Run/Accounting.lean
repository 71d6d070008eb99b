import SchemaMigrate.Proofs.Run.Gate

/-!
The accounts of a run. A run has a result whatever the client answers and wherever it fails. Main statement:
every step has one entry in the result, a run over more steps is a run over the first of them and then one
over the others, and the statements of a result are those that the client was given to execute.

What a client is given is seen by an observer that stands before it. A run does not notice the observer,
since it goes by the answers alone.
-/

namespace SchemaMigrate

/-- Steps are dealt out: each of them goes to the applied, the failed or the skipped ones, and every share
keeps the order of the whole. -/
inductive Dealt : List Step → List Step → List Step → List Step → Prop
  | nil : Dealt [] [] [] []
  | applied {steps applied failed skipped : List Step} (step : Step)
      (h : Dealt steps applied failed skipped) : Dealt (step :: steps) (step :: applied) failed skipped
  | failed {steps applied failed skipped : List Step} (step : Step)
      (h : Dealt steps applied failed skipped) : Dealt (step :: steps) applied (step :: failed) skipped
  | skipped {steps applied failed skipped : List Step} (step : Step)
      (h : Dealt steps applied failed skipped) : Dealt (step :: steps) applied failed (step :: skipped)

/-- The result of a run that goes on with another one. -/
def ApplyResult.append (first second : ApplyResult) : ApplyResult where
  applied := first.applied ++ second.applied
  failures := first.failures ++ second.failures
  skipped := first.skipped ++ second.skipped
  statements := first.statements ++ second.statements
  dryRun := first.dryRun

section Results

theorem dealt_ofReports (reports : List StepReport) (dryRun : Bool) :
    let result := ApplyResult.ofReports reports dryRun
    Dealt (reports.map (·.step)) result.applied (result.failures.map (·.1)) (result.skipped.map (·.1)) := by
  induction reports with
  | nil => exact .nil
  | cons report reports ih =>
      obtain ⟨step, events, outcome⟩ := report
      cases outcome with
      | applied => exact .applied step ih
      | failed error => exact .failed step ih
      | skipped check => exact .skipped step ih

theorem ofReports_append (first second : List StepReport) (dryRun : Bool) :
    ApplyResult.ofReports (first ++ second) dryRun =
      (ApplyResult.ofReports first dryRun).append (ApplyResult.ofReports second dryRun) := by
  simp [ApplyResult.ofReports, ApplyResult.append]

end Results

section Views

-- The views hold whatever the texts of a narrowing are, so these stay closed.
attribute [local irreducible] Sql.measureQuery? Sql.verdict Sql.fixups Sql.alterColumnType

variable {σ τ : Type}

/-- A client answers as another does whose state is a view of its own. -/
structure Client.Follows (client : Client τ) (other : Client σ) (view : τ → σ) : Prop where
  execute : ∀ statement state,
    other.execute statement (view state) = Prod.map id view (client.execute statement state)
  scalar : ∀ query state, other.scalar query (view state) = Prod.map id view (client.scalar query state)

/-- A course, of which the state is seen in a view. -/
def Course.view (view : τ → σ) (course : Course τ) : Course σ where
  events := course.events
  outcome := course.outcome
  state := view course.state

variable {client : Client τ} {other : Client σ} {view : τ → σ} (h : client.Follows other view)
  (settings : Settings)

include h

theorem perform_view (statement : String) (state : τ) :
    perform other settings statement (view state) = Prod.map id view (perform client settings statement state) := by
  unfold perform
  split
  · rfl
  · exact h.execute statement state

theorem runStatements_view (statements : List String) (state : τ) :
    runStatements other settings statements (view state) =
      (runStatements client settings statements state).view view := by
  induction statements generalizing state with
  | nil => rfl
  | cons statement statements ih =>
      rw [runStatements, runStatements, perform_view h]
      cases perform client settings statement state with
      | mk answer next =>
          cases answer with
          | error message => rfl
          | ok _ =>
              simp only [Prod.map, id, ih]
              rfl

theorem checkNarrowing_view (table : String) (field : Field) (state : τ) :
    checkNarrowing other table field (view state) =
      Prod.map id (Prod.map id view) (checkNarrowing client table field state) := by
  cases hquery : Sql.measureQuery? table field with
  | none =>
      rw [checkNarrowing_unmeasured _ hquery, checkNarrowing_unmeasured _ hquery]
      rfl
  | some query =>
      have hmeasure : (measure other query (view state)).1 = (measure client query state).1 := by
        unfold measure
        rw [h.scalar]
        cases client.scalar query state with
        | mk answer next => cases answer <;> rfl
      rw [checkNarrowing_measured _ _ hquery, checkNarrowing_measured _ _ hquery, hmeasure, h.scalar]
      rfl

theorem narrowField_view (table : String) (field : Field) (state : τ) :
    narrowField other settings table field (view state) =
      (narrowField client settings table field state).view view := by
  have hcheck := checkNarrowing_view h table field state
  cases hchecked : checkNarrowing client table field state with
  | mk answer rest =>
      obtain ⟨events, next⟩ := rest
      rw [hchecked] at hcheck
      cases answer with
      | error error =>
          rw [narrowField_unanswered hcheck, narrowField_unanswered hchecked]
          rfl
      | ok check =>
          cases hsafe : check.safe with
          | true =>
              rw [narrowField_safe hcheck hsafe, narrowField_safe hchecked hsafe, runStatements_view h]
              rfl
          | false =>
              cases hallowed : mayLose settings field with
              | true =>
                  rw [narrowField_cut hcheck hsafe hallowed, narrowField_cut hchecked hsafe hallowed,
                    runStatements_view h]
                  rfl
              | false =>
                  rw [narrowField_refused hcheck hsafe hallowed, narrowField_refused hchecked hsafe hallowed]
                  rfl

theorem narrowFields_view (table : String) (fields : List Field) (state : τ) :
    narrowFields other settings table fields (view state) =
      (narrowFields client settings table fields state).view view := by
  induction fields generalizing state with
  | nil => rfl
  | cons field fields ih =>
      rw [narrowFields, narrowFields, narrowField_view h]
      by_cases houtcome : (narrowField client settings table field state).outcome = .applied
      · rw [Course.andThen_applied houtcome, Course.andThen_applied]
        · simp only [Course.view, ih]
        · exact houtcome
      · rw [Course.andThen_stopped houtcome, Course.andThen_stopped]
        exact houtcome

theorem runStep_view (step : Step) (state : τ) :
    runStep other settings step (view state) = (runStep client settings step state).view view := by
  by_cases hnarrows : step.Narrows
  · rw [runStep_narrows hnarrows, runStep_narrows hnarrows, narrowFields_view h]
  · rw [runStep_states hnarrows, runStep_states hnarrows]
    cases Sql.ofStep step settings.limit with
    | error error => rfl
    | ok statements => exact runStatements_view h settings statements state

/-- A run reports the same of clients that answer alike. -/
theorem runSteps_view (steps : List Step) (state : τ) :
    runSteps other settings steps (view state) = Prod.map id view (runSteps client settings steps state) := by
  induction steps generalizing state with
  | nil => rfl
  | cons step steps ih =>
      rw [runSteps, runSteps, runStep_view h]
      simp only [Course.view, ih]
      rfl

end Views

section Observing

variable {σ : Type} (client : Client σ) (settings : Settings)

/-- A client behind an observer, who notes the statements that come to be executed. -/
def Client.observed : Client (σ × List String) where
  execute statement state :=
    ((client.execute statement state.1).1, (client.execute statement state.1).2, state.2 ++ [statement])
  scalar query state := ((client.scalar query state.1).1, (client.scalar query state.1).2, state.2)

theorem observed_follows : client.observed.Follows client Prod.fst where
  execute _ _ := rfl
  scalar _ _ := rfl

/-- The observer notes what the events record, unless the run is dry. -/
theorem replay_observed (state : σ) (noted : List String) (events : List Event) :
    (replay client.observed settings (state, noted) events).2 =
      noted ++ if settings.dryRun then [] else events.filterMap Event.statement? := by
  induction events generalizing state noted with
  | nil => simp [replay]
  | cons event events ih =>
      cases event with
      | measured query => exact ih _ _
      | lossAllowed table check => exact ih _ _
      | recorded statement =>
          rw [replay, perform]
          cases hdry : settings.dryRun with
          | true =>
              rw [if_pos rfl, ih, hdry]
              rfl
          | false =>
              change (replay client.observed settings
                ((client.execute statement state).2, noted ++ [statement]) events).2 = _
              rw [ih, hdry]
              simp [Event.statement?]

end Observing

/-- The accounts of a run. Its steps are dealt out to the three lists of the result. A run over more steps
goes on from the state in which the first ones left the client, and each list of its result is that of the
first followed by that of the second. The statements of the result are those that the client is given to
execute, failing ones included; in a dry run it is given none. -/
theorem applyPlan_accounts {σ : Type} (client : Client σ) (settings : Settings) (plan : Plan) (state : σ) :
    let run := applyPlan client plan settings state
    Dealt plan.steps run.1.applied (run.1.failures.map (·.1)) (run.1.skipped.map (·.1))
    ∧ (∀ more : List Step,
      let rest := applyPlan client { plan with steps := more } settings run.2
      applyPlan client { plan with steps := plan.steps ++ more } settings state = (run.1.append rest.1, rest.2))
    ∧ applyPlan client.observed plan settings (state, []) =
        (run.1, run.2, if settings.dryRun then [] else run.1.statements) := by
  intro run
  refine ⟨?_, fun more => ?_, ?_⟩
  · have hdealt := dealt_ofReports (runSteps client settings plan.steps state).1 settings.dryRun
    rwa [map_step_runSteps] at hdealt
  · simp only [applyPlan, runSteps_append, ofReports_append]
    rfl
  · have hview := runSteps_view (observed_follows client) settings plan.steps (state, [])
    have hreports := congrArg Prod.fst hview
    have hfinal := congrArg Prod.snd hview
    have hnoted := congrArg Prod.snd (runSteps_state client.observed settings plan.steps (state, []))
    rw [replay_observed, List.nil_append, List.filterMap_flatMap] at hnoted
    simp only [Prod.map, id] at hreports hfinal
    rw [← hreports] at hnoted
    have hstate : (runSteps client.observed settings plan.steps (state, [])).2 =
        (run.2, if settings.dryRun then [] else run.1.statements) := Prod.ext hfinal.symm hnoted
    change (ApplyResult.ofReports (runSteps client.observed settings plan.steps (state, [])).1 settings.dryRun,
      (runSteps client.observed settings plan.steps (state, [])).2) = _
    rw [hstate, ← hreports]
    rfl

/-- A plan whose first step fails at its second statement, whose second is skipped, and whose third is
applied. -/
example :
    let client := Script.client
      { failures := [("_FK", "no room")], answers := [("MAX", .whole 20)] }
    let plan : Plan :=
      { steps :=
          [.addForeignKey "Order" { column := "ClientID", target := "Client", targetColumn := "ClientID" },
           .alterColumn "Note" { name := "Text", type := { name := "varchar", precision := some 10 } } false,
           .addColumn "Note" { name := "Rank", type := { name := "integer" }, nullable := true }] }
    let result := (applyPlan client plan {} []).1
    (result.applied.length, result.failures.length, result.skipped.length, result.statements.length) =
      (1, 1, 1, 3) := by
  decide +kernel

end SchemaMigrate
