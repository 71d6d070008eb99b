import SchemaMigrate.Proofs.Run.Accounting

/-!
Dry runs as rehearsals. Main statement: where statements never fail, and the answer to a query goes by its
text alone, a dry run asks what the real run asks, executes nothing, and has the result of the real run.

The two runs do not keep the client in one state, so they are compared from any two states: what a step
reports depends on the answers, and these do not depend on the state.
-/

namespace SchemaMigrate

/-- A client that carries out every statement, and whose answer to a query goes by the text alone. -/
structure Client.Steady {σ : Type} (client : Client σ) : Prop where
  execute : ∀ statement state, (client.execute statement state).1 = .ok ()
  scalar : ∀ query first second, (client.scalar query first).1 = (client.scalar query second).1

/-- Courses that differ at most in the state in which they leave the client. -/
structure Course.Agrees {σ : Type} (first second : Course σ) : Prop where
  events : first.events = second.events
  outcome : first.outcome = second.outcome

def Call.isScalar : Call → Bool
  | .scalar _ => true
  | .execute _ => false

/-- What an event asks of the client. A dry run asks queries only. -/
def Event.call? (dryRun : Bool) : Event → Option Call
  | .measured query => some (.scalar query)
  | .recorded statement => if dryRun then none else some (.execute statement)
  | .lossAllowed _ _ => none

/-- A client that keeps a log of what it is asked. -/
def Client.logged {σ : Type} (client : Client σ) : Client (σ × List Call) where
  execute statement state :=
    ((client.execute statement state.1).1, (client.execute statement state.1).2, state.2 ++ [.execute statement])
  scalar query state :=
    ((client.scalar query state.1).1, (client.scalar query state.1).2, state.2 ++ [.scalar query])

-- the texts of queries and statements are never looked into here
attribute [local irreducible] Sql.measureQuery? Sql.verdict Sql.fixups Sql.alterColumnType

section Comparison

variable {σ : Type} {client : Client σ} (hsteady : client.Steady) (settings : Settings)

include hsteady

theorem perform_steady (statement : String) (state : σ) :
    (perform client settings statement state).1 = .ok () := by
  unfold perform
  split
  · rfl
  · exact hsteady.execute statement state

/-- Statements are all recorded and carried out. -/
theorem runStatements_steady (statements : List String) (state : σ) :
    (runStatements client settings statements state).events = statements.map .recorded
      ∧ (runStatements client settings statements state).outcome = .applied := by
  induction statements generalizing state with
  | nil => exact ⟨rfl, rfl⟩
  | cons statement statements ih =>
      have hperform := perform_steady hsteady settings statement state
      rw [runStatements]
      cases hanswer : perform client settings statement state with
      | mk answer next =>
          rw [hanswer] at hperform
          obtain rfl : answer = .ok () := hperform
          obtain ⟨hevents, houtcome⟩ := ih next
          exact ⟨congrArg (Event.recorded statement :: ·) hevents, houtcome⟩

theorem measure_steady (query : String) (first second : σ) :
    (measure client query first).1 = (measure client query second).1 := by
  have hscalar := hsteady.scalar query first second
  unfold measure
  cases hfirst : client.scalar query first with
  | mk answer next =>
      cases hsecond : client.scalar query second with
      | mk other final =>
          rw [hfirst, hsecond] at hscalar
          obtain rfl : answer = other := hscalar
          cases answer with
          | error message => rfl
          | ok cell => rfl

theorem checkNarrowing_steady (table : String) (field : Field) (first second : σ) :
    ∃ answer events next final, checkNarrowing client table field first = (answer, events, next)
      ∧ checkNarrowing client table field second = (answer, events, final) := by
  cases hquery : Sql.measureQuery? table field with
  | none =>
      rw [checkNarrowing_unmeasured _ hquery, checkNarrowing_unmeasured _ hquery]
      exact ⟨_, _, _, _, rfl, rfl⟩
  | some query =>
      rw [checkNarrowing_measured _ _ hquery, checkNarrowing_measured _ _ hquery,
        measure_steady hsteady query first second]
      exact ⟨_, _, _, _, rfl, rfl⟩

variable (dryRun other : Bool)

theorem narrowField_agrees (table : String) (field : Field) (first second : σ) :
    (narrowField client { settings with dryRun } table field first).Agrees
      (narrowField client { settings with dryRun := other } table field second) := by
  obtain ⟨answer, events, next, final, hfirst, hsecond⟩ := checkNarrowing_steady hsteady table field first second
  cases answer with
  | error error =>
      rw [narrowField_unanswered hfirst, narrowField_unanswered hsecond]
      exact ⟨rfl, rfl⟩
  | ok check =>
      cases hsafe : check.safe with
      | true =>
          rw [narrowField_safe hfirst hsafe, narrowField_safe hsecond hsafe]
          refine ⟨rfl, ?_⟩
          exact (runStatements_steady hsteady _ _ next).2.trans (runStatements_steady hsteady _ _ final).2.symm
      | false =>
          -- both runs have the same field and the same permission
          have hallowed : mayLose { settings with dryRun } field = mayLose { settings with dryRun := other } field := rfl
          cases hmay : mayLose { settings with dryRun } field with
          | true =>
              rw [narrowField_cut hfirst hsafe hmay, narrowField_cut hsecond hsafe (hallowed ▸ hmay)]
              obtain ⟨hevents, houtcome⟩ := runStatements_steady hsteady { settings with dryRun }
                (Sql.fixups table field ++ [Sql.alterColumnType table field]) next
              obtain ⟨hothers, hother⟩ := runStatements_steady hsteady { settings with dryRun := other }
                (Sql.fixups table field ++ [Sql.alterColumnType table field]) final
              exact ⟨by rw [hevents, hothers], houtcome.trans hother.symm⟩
          | false =>
              rw [narrowField_refused hfirst hsafe hmay, narrowField_refused hsecond hsafe (hallowed ▸ hmay)]
              exact ⟨rfl, rfl⟩

theorem narrowFields_agrees (table : String) (fields : List Field) (first second : σ) :
    (narrowFields client { settings with dryRun } table fields first).Agrees
      (narrowFields client { settings with dryRun := other } table fields second) := by
  induction fields generalizing first second with
  | nil => exact ⟨rfl, rfl⟩
  | cons field fields ih =>
      have hfield := narrowField_agrees hsteady settings dryRun other table field first second
      rw [narrowFields, narrowFields]
      by_cases houtcome : (narrowField client { settings with dryRun } table field first).outcome = .applied
      · have hrest := ih (narrowField client { settings with dryRun } table field first).state
          (narrowField client { settings with dryRun := other } table field second).state
        rw [Course.andThen_applied houtcome, Course.andThen_applied (hfield.outcome ▸ houtcome)]
        exact ⟨by rw [hfield.events, hrest.events], hrest.outcome⟩
      · rw [Course.andThen_stopped houtcome, Course.andThen_stopped (hfield.outcome ▸ houtcome)]
        exact hfield

theorem runStep_agrees (step : Step) (first second : σ) :
    (runStep client { settings with dryRun } step first).Agrees
      (runStep client { settings with dryRun := other } step second) := by
  by_cases hnarrows : step.Narrows
  · rw [runStep_narrows hnarrows, runStep_narrows hnarrows]
    exact narrowFields_agrees hsteady settings dryRun other step.table step.fields first second
  · rw [runStep_states hnarrows, runStep_states hnarrows]
    cases Sql.ofStep step settings.limit with
    | error error => exact ⟨rfl, rfl⟩
    | ok statements =>
        obtain ⟨hevents, houtcome⟩ := runStatements_steady hsteady { settings with dryRun } statements first
        obtain ⟨hothers, hother⟩ := runStatements_steady hsteady { settings with dryRun := other } statements second
        exact ⟨hevents.trans hothers.symm, houtcome.trans hother.symm⟩

/-- Runs report the same from any two states, whether they are dry or not. -/
theorem reports_agree (steps : List Step) (first second : σ) :
    (runSteps client { settings with dryRun } steps first).1 =
      (runSteps client { settings with dryRun := other } steps second).1 := by
  induction steps generalizing first second with
  | nil => rfl
  | cons step steps ih =>
      have hstep := runStep_agrees hsteady settings dryRun other step first second
      rw [runSteps, runSteps]
      simp only [hstep.events, hstep.outcome]
      rw [ih]

end Comparison

section Logs

variable {σ : Type} (client : Client σ) (settings : Settings)

theorem logged_follows : client.logged.Follows client Prod.fst where
  execute _ _ := rfl
  scalar _ _ := rfl

/-- The log has what the events ask, in order. -/
theorem replay_logged (state : σ) (log : List Call) (events : List Event) :
    (replay client.logged settings (state, log) events).2 =
      log ++ events.filterMap (Event.call? settings.dryRun) := by
  induction events generalizing state log with
  | nil => simp [replay]
  | cons event events ih =>
      cases event with
      | lossAllowed table check => exact ih _ _
      | measured query =>
          change (replay client.logged settings ((client.scalar query state).2, log ++ [.scalar query]) events).2 = _
          rw [ih, List.append_assoc]
          rfl
      | recorded statement =>
          rw [replay, perform]
          cases hdry : settings.dryRun with
          | true =>
              rw [if_pos rfl, ih, hdry]
              rfl
          | false =>
              change (replay client.logged settings
                ((client.execute statement state).2, log ++ [.execute statement]) events).2 = _
              rw [ih, hdry, List.append_assoc]
              rfl

/-- What a run asks of the client can be told from its reports. -/
theorem log_applyPlan (plan : Plan) (state : σ) :
    (applyPlan client.logged plan settings (state, [])).2.2 =
      ((runSteps client settings plan.steps state).1.flatMap (·.events)).filterMap
        (Event.call? settings.dryRun) := by
  have hview := runSteps_view (logged_follows client) settings plan.steps (state, [])
  have hreports : (runSteps client settings plan.steps state).1 =
      (runSteps client.logged settings plan.steps (state, [])).1 := congrArg Prod.fst hview
  rw [hreports, applyPlan, runSteps_state, replay_logged, List.nil_append]

theorem call?_dry : Event.call? true = fun event => (event.call? false).filter Call.isScalar := by
  funext event
  cases event <;> rfl

end Logs

/-- A dry run predicts the real one. Where every statement is carried out and the answer to a query goes by
its text alone, the dry run executes nothing, asks the queries of the real run in the same order, and has
its result. -/
theorem dryRun_predicts {σ : Type} (client : Client σ) (hsteady : client.Steady) (settings : Settings)
    (plan : Plan) (state : σ) :
    let result (dryRun : Bool) := (applyPlan client plan { settings with dryRun } state).1
    let log (dryRun : Bool) := (applyPlan client.logged plan { settings with dryRun } (state, [])).2.2
    (∀ statement, .execute statement ∉ log true)
    ∧ log true = (log false).filter Call.isScalar
    ∧ result true = { result false with dryRun := true } := by
  intro result log
  have hreports := reports_agree hsteady settings true false plan.steps state state
  have hlog : log true = (log false).filter Call.isScalar := by
    simp only [log, log_applyPlan, hreports, call?_dry, List.filter_filterMap]
  refine ⟨fun statement hmem => ?_, hlog, ?_⟩
  · rw [hlog] at hmem
    cases (List.mem_filter.1 hmem).2
  · change ApplyResult.ofReports _ _ = _
    rw [hreports]
    rfl

/-- Finds texts of twenty characters and cannot measure binaries. Its state counts what was executed. -/
def surveyor : Client Nat where
  execute _ count := (.ok (), count + 1)
  scalar query count :=
    (if Text.holds query "octet_length" then .error "no such function" else .ok (.text "20"), count)

theorem surveyor_steady : surveyor.Steady where
  execute _ _ := rfl
  scalar _ _ _ := rfl

/-- A step that is skipped at its second column, one that cuts data, one whose check fails, one that has no
statements, and one that is no narrowing. -/
def surveyPlan : Plan where
  steps :=
    [{ action := .alterColumn, table := "Note"
       fields := [{ name := "Title", type := { name := "varchar", precision := some 30 } },
                  { name := "Text", type := { name := "varchar", precision := some 10 } }] },
     .alterColumn "Note" { name := "Code", type := { name := "char", precision := some 5 }
                           attributes := [(allowDataLoss, true)] } false,
     .alterColumn "Note" { name := "Image", type := { name := "bytea", precision := some 5 } } false,
     { action := .addForeignKey, table := "Note" },
     .addColumn "Note" { name := "Rank", type := { name := "integer" } }]

/-- The dry run of this plan predicts two steps applied, two failed and one skipped, as it then comes. -/
theorem dryRun_predicts_survey :
    let result (dryRun : Bool) := (applyPlan surveyor surveyPlan { dryRun } 0).1
    let log (dryRun : Bool) := (applyPlan surveyor.logged surveyPlan { dryRun } (0, [])).2.2
    surveyor.Steady
    ∧ ((∀ statement, .execute statement ∉ log true)
      ∧ log true = (log false).filter Call.isScalar
      ∧ result true = { result false with dryRun := true })
    ∧ ((result true).applied.length, (result true).failures.length, (result true).skipped.length) = (2, 2, 1)
    ∧ ((log true).length, (log false).length) = (4, 9) :=
  ⟨surveyor_steady, dryRun_predicts surveyor surveyor_steady {} surveyPlan 0, by decide +kernel, by decide +kernel⟩

end SchemaMigrate
