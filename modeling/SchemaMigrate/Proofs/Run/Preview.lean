import SchemaMigrate.Proofs.Outcome
import SchemaMigrate.Proofs.Run.Gate

/-!
The preview of a plan beside its run. Main statement: if no step of a run fails or is skipped, then the plan
has a preview, and the run records the statements of the preview, with updates put in before the alteration
of each column whose data was measured not to fit.

Steps and columns are lined up by a relation, which takes the client along: what is put in before an
alteration depends on the check at that point of the run.
-/

namespace SchemaMigrate

/-- The statements that narrow a column. If its data does not fit, the updates come first. -/
def Sql.narrowing (table : String) (field : Field) (safe : Bool) : List String :=
  (if safe then [] else Sql.fixups table field) ++ [Sql.alterColumnType table field]

section Lines

variable {σ : Type} (client : Client σ) (settings : Settings)

/-- The state in which statements leave the client once they are recorded. -/
def afterStatements (statements : List String) (state : σ) : σ :=
  replay client settings state (statements.map .recorded)

/-- Columns are narrowed in turn: the checks that are made, the statements that are recorded, and the state in
which they leave the client. -/
inductive Narrowed (table : String) : σ → List Field → List Sql.SafetyCheck → List String → σ → Prop
  | nil (state : σ) : Narrowed table state [] [] [] state
  | cons {state measured final : σ} {field : Field} {fields : List Field} {check : Sql.SafetyCheck}
      {events : List Event} {checks : List Sql.SafetyCheck} {statements : List String}
      (hcheck : checkNarrowing client table field state = (.ok check, events, measured))
      (hrest : Narrowed table (afterStatements client settings (Sql.narrowing table field check.safe) measured)
        fields checks statements final) :
      Narrowed table state (field :: fields) (check :: checks)
        (Sql.narrowing table field check.safe ++ statements) final

/-- The preview of some steps beside the statements that a run of them records. They part at the columns that
are narrowed and nowhere else. -/
inductive Expanded : σ → List Step → List Sql.SafetyCheck → List String → List String → σ → Prop
  | nil (state : σ) : Expanded state [] [] [] [] state
  | states {state final : σ} {step : Step} {steps : List Step} {checks : List Sql.SafetyCheck}
      {own preview statements : List String} (hstates : ¬ step.Narrows)
      (hown : Sql.ofStep step settings.limit = .ok own)
      (hrest : Expanded (afterStatements client settings own state) steps checks preview statements final) :
      Expanded state (step :: steps) checks (own ++ preview) (own ++ statements) final
  | narrows {state next final : σ} {step : Step} {steps : List Step} {found checks : List Sql.SafetyCheck}
      {own preview statements : List String} (hnarrows : step.Narrows)
      (hfields : Narrowed client settings step.table state step.fields found own next)
      (hrest : Expanded next steps checks preview statements final) :
      Expanded state (step :: steps) (found ++ checks)
        (step.fields.map (Sql.alterColumnType step.table) ++ preview) (own ++ statements) final

end Lines

-- the texts of queries and statements are never looked into here
attribute [local irreducible] Sql.measureQuery? Sql.verdict Sql.fixups Sql.alterColumnType

section Applied

variable {σ : Type} {client : Client σ} {settings : Settings}

/-- Statements that are carried through are all recorded. -/
theorem runStatements_applied {statements : List String} {state : σ}
    (h : (runStatements client settings statements state).outcome = .applied) :
    (runStatements client settings statements state).events = statements.map .recorded
      ∧ (runStatements client settings statements state).state =
          afterStatements client settings statements state := by
  obtain ⟨hstate, done, rest, hsplit, hevents, -, happlied⟩ := runStatements_spec client settings statements state
  obtain ⟨rfl, -⟩ := happlied h
  rw [List.append_nil] at hsplit
  rw [hstate, hevents, hsplit]
  exact ⟨rfl, rfl⟩

theorem statements_recorded (statements : List String) :
    (statements.map Event.recorded).filterMap Event.statement? = statements := by
  rw [List.filterMap_map]
  exact List.filterMap_some

theorem checkNarrowing_statements {table : String} {field : Field} {state measured : σ}
    {answer : Except StepError Sql.SafetyCheck} {events : List Event}
    (h : checkNarrowing client table field state = (answer, events, measured)) :
    events.filterMap Event.statement? = [] := by
  cases hquery : Sql.measureQuery? table field with
  | none =>
      rw [checkNarrowing_unmeasured _ hquery] at h
      cases h
      rfl
  | some query =>
      rw [checkNarrowing_measured _ _ hquery] at h
      cases h
      rfl

/-- A column that is narrowed was checked, and has its statements recorded as the check came out. -/
theorem narrowField_applied {table : String} {field : Field} {state : σ}
    (h : (narrowField client settings table field state).outcome = .applied) :
    ∃ check events measured, checkNarrowing client table field state = (.ok check, events, measured)
      ∧ (narrowField client settings table field state).events.filterMap Event.statement? =
          Sql.narrowing table field check.safe
      ∧ (narrowField client settings table field state).state =
          afterStatements client settings (Sql.narrowing table field check.safe) measured := by
  cases hchecked : checkNarrowing client table field state with
  | mk answer rest =>
      obtain ⟨events, measured⟩ := rest
      have hnone := checkNarrowing_statements hchecked
      cases answer with
      | error error =>
          rw [narrowField_unanswered hchecked] at h
          cases h
      | ok check =>
          refine ⟨check, events, measured, rfl, ?_⟩
          cases hsafe : check.safe with
          | true =>
              rw [narrowField_safe hchecked hsafe] at h ⊢
              refine ⟨?_, (runStatements_applied h).2⟩
              rw [List.filterMap_append, hnone]
              rfl
          | false =>
              cases hallowed : mayLose settings field with
              | true =>
                  rw [narrowField_cut hchecked hsafe hallowed] at h ⊢
                  obtain ⟨hevents, hstate⟩ := runStatements_applied h
                  refine ⟨?_, hstate⟩
                  rw [List.filterMap_append, hnone, List.filterMap_cons_none rfl, hevents, statements_recorded]
                  rfl
              | false =>
                  rw [narrowField_refused hchecked hsafe hallowed] at h
                  cases h

theorem narrowFields_applied {table : String} {fields : List Field} {state : σ}
    (h : (narrowFields client settings table fields state).outcome = .applied) :
    ∃ checks, Narrowed client settings table state fields checks
      ((narrowFields client settings table fields state).events.filterMap Event.statement?)
      (narrowFields client settings table fields state).state := by
  induction fields generalizing state with
  | nil => exact ⟨[], .nil state⟩
  | cons field fields ih =>
      rw [narrowFields] at h ⊢
      by_cases houtcome : (narrowField client settings table field state).outcome = .applied
      · obtain ⟨check, events, measured, hcheck, hstatements, hstate⟩ := narrowField_applied houtcome
        rw [Course.andThen_applied houtcome] at h ⊢
        obtain ⟨checks, hrest⟩ := ih h
        rw [hstate] at hrest
        refine ⟨check :: checks, ?_⟩
        rw [List.filterMap_append, hstatements, hstate]
        exact .cons hcheck hrest
      · rw [Course.andThen_stopped houtcome] at h
        exact absurd h houtcome

/-- The preview of a narrowing is its alterations. -/
theorem ofStep_narrows {step : Step} (h : step.Narrows) (limit : Int) :
    Sql.ofStep step limit = .ok (step.fields.map (Sql.alterColumnType step.table)) := by
  rw [Sql.ofStep, h.1]

theorem ofSteps_cons {step : Step} {steps : List Step} {limit : Int} {own preview : List String}
    (hown : Sql.ofStep step limit = .ok own) (hpreview : Sql.ofSteps steps limit = .ok preview) :
    Sql.ofSteps (step :: steps) limit = .ok (own ++ preview) := by
  rw [Sql.ofSteps, hown, hpreview]
  rfl

/-- Steps that are all carried through have a preview, and their run expands it. -/
theorem runSteps_expanded {steps : List Step} {state : σ}
    (h : ∀ report ∈ (runSteps client settings steps state).1, report.outcome = .applied) :
    ∃ preview checks, Sql.ofSteps steps settings.limit = .ok preview
      ∧ Expanded client settings state steps checks preview
          ((runSteps client settings steps state).1.flatMap StepReport.statements)
          (runSteps client settings steps state).2 := by
  induction steps generalizing state with
  | nil => exact ⟨[], [], rfl, .nil state⟩
  | cons step steps ih =>
      rw [runSteps] at h ⊢
      obtain ⟨hfirst, hothers⟩ := List.forall_mem_cons.1 h
      obtain ⟨preview, checks, hpreview, hexpanded⟩ := ih hothers
      rw [List.flatMap_cons]
      by_cases hnarrows : step.Narrows
      · have happlied := hfirst
        rw [runStep_narrows hnarrows] at happlied
        obtain ⟨found, hfields⟩ := narrowFields_applied happlied
        refine ⟨_, found ++ checks, ofSteps_cons (ofStep_narrows hnarrows _) hpreview, .narrows hnarrows ?_ hexpanded⟩
        rw [StepReport.statements, runStep_narrows hnarrows]
        exact hfields
      · have happlied := hfirst
        rw [runStep_states hnarrows] at happlied
        cases hown : Sql.ofStep step settings.limit with
        | error error =>
            rw [hown] at happlied
            cases happlied
        | ok own =>
            rw [hown] at happlied
            obtain ⟨hevents, hstate⟩ := runStatements_applied happlied
            have hrun : runStep client settings step state = runStatements client settings own state := by
              rw [runStep_states hnarrows, hown]
            rw [StepReport.statements, hrun, hevents, statements_recorded]
            rw [hrun, hstate] at hexpanded
            refine ⟨own ++ preview, checks, ofSteps_cons hown hpreview, ?_⟩
            rw [hstate]
            exact .states hnarrows hown hexpanded

theorem Narrowed.of_safe {table : String} {fields : List Field} {checks : List Sql.SafetyCheck} {statements : List String}
    {state final : σ} (h : Narrowed client settings table state fields checks statements final)
    (hsafe : ∀ check ∈ checks, check.safe = true) : statements = fields.map (Sql.alterColumnType table) := by
  induction h with
  | nil => rfl
  | cons hcheck hrest ih =>
      obtain ⟨hfirst, hothers⟩ := List.forall_mem_cons.1 hsafe
      rw [ih hothers, hfirst]
      rfl

theorem Expanded.of_safe {steps : List Step} {checks : List Sql.SafetyCheck} {preview statements : List String}
    {state final : σ} (h : Expanded client settings state steps checks preview statements final)
    (hsafe : ∀ check ∈ checks, check.safe = true) : statements = preview := by
  induction h with
  | nil => rfl
  | states _ _ _ ih => rw [ih hsafe]
  | narrows _ hfields _ ih =>
      obtain ⟨hfound, hothers⟩ := List.forall_mem_append.1 hsafe
      rw [hfields.of_safe hfound, ih hothers]

end Applied

/-- A run whose steps neither fail nor are skipped has them all applied. -/
theorem outcome_of_applied {reports : List StepReport} {dryRun : Bool}
    (hfailures : (ApplyResult.ofReports reports dryRun).failures = [])
    (hskipped : (ApplyResult.ofReports reports dryRun).skipped = []) :
    ∀ report ∈ reports, report.outcome = .applied := by
  intro report hmem
  have hfailure := List.filterMap_eq_nil_iff.1 hfailures report hmem
  have hskip := List.filterMap_eq_nil_iff.1 hskipped report hmem
  cases houtcome : report.outcome with
  | applied => rfl
  | failed error => simp [StepReport.failure?, houtcome] at hfailure
  | skipped check => simp [StepReport.skipped?, houtcome] at hskip

/-- The preview agrees with what is run. If no step fails or is skipped, the plan has a preview under the same
limit. The statements of the run are those of the preview, where the columns whose check measured unsafe
data, and only they, have their updates right before their alteration. If every check is safe, the
statements are the preview. -/
theorem preview_agrees {σ : Type} (client : Client σ) (settings : Settings) (plan : Plan) (state : σ)
    (hfailures : (applyPlan client plan settings state).1.failures = [])
    (hskipped : (applyPlan client plan settings state).1.skipped = []) :
    ∃ preview checks, Sql.ofPlan plan settings.limit = .ok preview
      ∧ Expanded client settings state plan.steps checks preview
          (applyPlan client plan settings state).1.statements (applyPlan client plan settings state).2
      ∧ ((∀ check ∈ checks, check.safe = true) → (applyPlan client plan settings state).1.statements = preview) := by
  obtain ⟨preview, checks, hpreview, hexpanded⟩ := runSteps_expanded (outcome_of_applied hfailures hskipped)
  exact ⟨preview, checks, hpreview, hexpanded, hexpanded.of_safe⟩

/-- A step that narrows a column whose data fits and one whose data does not, and a foreign key. -/
def tightenPlan : Plan where
  steps :=
    [{ action := .alterColumn, table := "Note"
       fields := [{ name := "Title", type := { name := "varchar", precision := some 30 } },
                  { name := "Text", type := { name := "varchar", precision := some 10 } }] },
     .addForeignKey "Note" { column := "AuthorID", target := "Author", targetColumn := "AuthorID" }]

/-- The second column gets its update, right before its alteration. -/
theorem preview_agrees_tighten :
    let client := Script.client { answers := [("MAX", .whole 20)] }
    let settings : Settings := { allowLoss := true }
    let run := applyPlan client tightenPlan settings []
    run.1.failures = [] ∧ run.1.skipped = []
    ∧ (∃ preview checks, Sql.ofPlan tightenPlan settings.limit = .ok preview
      ∧ Expanded client settings [] tightenPlan.steps checks preview run.1.statements run.2
      ∧ ((∀ check ∈ checks, check.safe = true) → run.1.statements = preview))
    ∧ run.1.statements.take 3 =
      ["ALTER TABLE \"Note\" ALTER COLUMN \"Title\" TYPE varchar(30)",
       "UPDATE \"Note\" SET \"Text\" = left(\"Text\", 10) WHERE char_length(\"Text\") > 10",
       "ALTER TABLE \"Note\" ALTER COLUMN \"Text\" TYPE varchar(10)"] := by
  intro client settings run
  have hfailures : run.1.failures = [] := by decide +kernel
  have hskipped : run.1.skipped = [] := by decide +kernel
  exact ⟨hfailures, hskipped, preview_agrees client settings tightenPlan [] hfailures hskipped, by decide +kernel⟩

end SchemaMigrate
