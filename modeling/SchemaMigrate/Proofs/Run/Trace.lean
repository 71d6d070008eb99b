import SchemaMigrate.Run.Apply

/-!
Traces of runs. The trace of a run is its queries and recorded statements in order. What the client
answered to a call is read off the trace by taking the client through the calls before it.

Each function of the run has one lemma that says everything it can do to the trace.
-/

namespace SchemaMigrate

/-- Whether an event is a query or a recorded statement, and not only a remark. -/
def Event.isCall : Event → Bool
  | .lossAllowed _ _ => false
  | .measured _ | .recorded _ => true

/-- The queries and recorded statements among events. -/
def calls (events : List Event) : List Event := events.filter Event.isCall

/-- The trace of a run. -/
def trace (reports : List StepReport) : List Event := reports.flatMap fun report => calls report.events

/-- A narrowing is an alteration that may lose data. -/
def Step.Narrows (step : Step) : Prop := step.action = .alterColumn ∧ step.widening = false

@[simp] theorem calls_nil : calls [] = [] := rfl

@[simp] theorem calls_append (first second : List Event) :
    calls (first ++ second) = calls first ++ calls second :=
  List.filter_append ..

@[simp] theorem calls_measured (query : String) (events : List Event) :
    calls (.measured query :: events) = .measured query :: calls events :=
  rfl

@[simp] theorem calls_lossAllowed (table : String) (check : Sql.SafetyCheck) (events : List Event) :
    calls (.lossAllowed table check :: events) = calls events :=
  rfl

@[simp] theorem calls_recorded (statements : List String) :
    calls (statements.map .recorded) = statements.map .recorded := by
  apply List.filter_eq_self.2
  intro event hmem
  obtain ⟨statement, _, rfl⟩ := List.mem_map.1 hmem
  rfl

/-- Remarks are no statements. -/
theorem statements_calls (events : List Event) :
    (calls events).filterMap Event.statement? = events.filterMap Event.statement? := by
  induction events with
  | nil => rfl
  | cons event events ih =>
      cases event with
      | measured query =>
          rw [calls_measured, List.filterMap_cons_none rfl, List.filterMap_cons_none rfl, ih]
      | lossAllowed table check => rw [calls_lossAllowed, List.filterMap_cons_none rfl, ih]
      | recorded statement =>
          have hcalls : calls (.recorded statement :: events) = .recorded statement :: calls events := rfl
          rw [hcalls, List.filterMap_cons, List.filterMap_cons, ih]

theorem trace_cons (report : StepReport) (reports : List StepReport) :
    trace (report :: reports) = calls report.events ++ trace reports :=
  List.flatMap_cons

theorem calls_events (reports : List StepReport) : calls (reports.flatMap (·.events)) = trace reports :=
  List.filter_flatMap ..

-- the texts of queries and statements are never looked into here
attribute [local irreducible] Sql.measureQuery? Sql.verdict Sql.fixups Sql.alterColumnType

section Replay

variable {σ : Type} (client : Client σ) (settings : Settings)

/-- The state to which events take the client. -/
def replay (state : σ) : List Event → σ
  | [] => state
  | .measured query :: events => replay (client.scalar query state).2 events
  | .recorded statement :: events => replay (perform client settings statement state).2 events
  | .lossAllowed _ _ :: events => replay state events

/-- Every one of the statements is executed, one after the other, and none fails. -/
inductive Performed : σ → List String → Prop
  | nil (state : σ) : Performed state []
  | cons {state : σ} {statement : String} {statements : List String}
      (hfirst : (perform client settings statement state).1 = .ok ())
      (hrest : Performed (perform client settings statement state).2 statements) :
      Performed state (statement :: statements)

theorem replay_append (state : σ) (first second : List Event) :
    replay client settings state (first ++ second) =
      replay client settings (replay client settings state first) second := by
  induction first generalizing state with
  | nil => rfl
  | cons event events ih => cases event <;> exact ih _

/-- Remarks do not touch the client. -/
theorem replay_calls (state : σ) (events : List Event) :
    replay client settings state (calls events) = replay client settings state events := by
  induction events generalizing state with
  | nil => rfl
  | cons event events ih => cases event <;> exact ih _

theorem measure_state (query : String) (state : σ) :
    (measure client query state).2 = (client.scalar query state).2 := by
  unfold measure
  split <;> simp_all

end Replay

section Running

variable {σ : Type} {client : Client σ} {settings : Settings}

variable (client settings) in
/-- Statements are recorded up to the first that fails, and a course is carried through if none does. -/
theorem runStatements_spec (statements : List String) (state : σ) :
    let course := runStatements client settings statements state
    course.state = replay client settings state course.events
      ∧ ∃ done rest, statements = done ++ rest
        ∧ course.events = done.map .recorded
        ∧ Performed client settings state done.dropLast
        ∧ (course.outcome = .applied → rest = [] ∧ Performed client settings state done) := by
  induction statements generalizing state with
  | nil => exact ⟨rfl, [], [], rfl, rfl, .nil _, fun _ => ⟨rfl, .nil _⟩⟩
  | cons statement statements ih =>
      rw [runStatements]
      cases hperform : perform client settings statement state with
      | mk answer next =>
          have hnext : (perform client settings statement state).2 = next := by rw [hperform]
          cases answer with
          | error message =>
              refine ⟨?_, [statement], statements, rfl, rfl, .nil _, nofun⟩
              simp [replay, hnext]
          | ok _ =>
              obtain ⟨hstate, done, rest, hsplit, hevents, hdone, happlied⟩ := ih next
              have hok : (perform client settings statement state).1 = .ok () := by rw [hperform]
              refine ⟨?_, statement :: done, rest, ?_, ?_, ?_, ?_⟩
              · simpa [replay, hnext] using hstate
              · rw [hsplit, List.cons_append]
              · simp [hevents]
              · cases done with
                | nil => exact .nil _
                | cons first others =>
                    rw [List.dropLast_cons_of_ne_nil (by simp)]
                    exact .cons hok (hnext ▸ hdone)
              · intro houtcome
                obtain ⟨hrest, hall⟩ := happlied houtcome
                exact ⟨hrest, .cons hok (hnext ▸ hall)⟩

/-- The client answers a query with this number. -/
def Answered (client : Client σ) (query : String) (observed : Int) (state : σ) : Prop :=
  (measure client query state).1 = .ok observed

theorem runStatements_ran (statements : List String) (state : σ) (check : Sql.SafetyCheck) :
    (runStatements client settings statements state).outcome ≠ .skipped check := by
  induction statements generalizing state with
  | nil => nofun
  | cons statement statements ih =>
      rw [runStatements]
      split
      · nofun
      · exact ih _

/-- Everything that the narrowing of a column can do: there is nothing to check, the check gives no
answer, unsafe data must be kept, the data is safe, or unsafe data may be cut. -/
inductive NarrowCourse (client : Client σ) (settings : Settings) (table : String) (field : Field)
    (state : σ) : List Event → Outcome → Prop
  | unchecked (outcome : Outcome)
      (hquery : Sql.measureQuery? table field = none)
      (hran : ∀ check, outcome ≠ .skipped check) :
      NarrowCourse client settings table field state
        [.recorded (Sql.alterColumnType table field)] outcome
  | unanswered (query : String) (error : StepError)
      (hquery : Sql.measureQuery? table field = some query)
      (hanswer : (measure client query state).1 = .error error) :
      NarrowCourse client settings table field state [.measured query] (.failed error)
  | refused (query : String) (observed : Int)
      (hquery : Sql.measureQuery? table field = some query)
      (hanswer : Answered client query observed state)
      (hrisky : (Sql.verdict table field observed).safe = false)
      (hkept : mayLose settings field = false) :
      NarrowCourse client settings table field state [.measured query]
        (.skipped (Sql.verdict table field observed))
  | safe (query : String) (observed : Int) (outcome : Outcome)
      (hquery : Sql.measureQuery? table field = some query)
      (hanswer : Answered client query observed state)
      (hsafe : (Sql.verdict table field observed).safe = true)
      (hran : ∀ check, outcome ≠ .skipped check) :
      NarrowCourse client settings table field state
        [.measured query, .recorded (Sql.alterColumnType table field)] outcome
  | cut (query : String) (observed : Int) (done rest : List String) (outcome : Outcome)
      (hquery : Sql.measureQuery? table field = some query)
      (hanswer : Answered client query observed state)
      (hrisky : (Sql.verdict table field observed).safe = false)
      (hallowed : mayLose settings field = true)
      (hsplit : Sql.fixups table field ++ [Sql.alterColumnType table field] = done ++ rest)
      (hdone : Performed client settings (client.scalar query state).2 done.dropLast)
      (hran : ∀ check, outcome ≠ .skipped check) :
      NarrowCourse client settings table field state (.measured query :: done.map .recorded) outcome

/-- A single statement is recorded whatever comes of it. -/
theorem runStatements_single (statement : String) (state : σ) :
    (runStatements client settings [statement] state).events = [.recorded statement] := by
  rw [runStatements]
  split <;> rfl

/-- A field that has no query has nothing that could be cut. -/
theorem verdict_of_unmeasured {table : String} {field : Field} (hquery : Sql.measureQuery? table field = none) :
    (Sql.verdict table field 0).safe = true := by
  unfold Sql.measureQuery? at hquery
  unfold Sql.verdict
  cases hbound : Sql.boundOf field with
  | unbounded => rfl
  | characters limit => simp only [hbound, reduceCtorEq] at hquery
  | bytes limit => simp only [hbound, reduceCtorEq] at hquery
  | digits precision scale => simp only [hbound, reduceCtorEq] at hquery

theorem checkNarrowing_unmeasured {table : String} {field : Field} (state : σ)
    (hquery : Sql.measureQuery? table field = none) :
    checkNarrowing client table field state = (.ok (Sql.verdict table field 0), [], state) := by
  delta checkNarrowing
  simp only [hquery]

variable (client) in
theorem checkNarrowing_measured {table : String} {field : Field} {query : String} (state : σ)
    (hquery : Sql.measureQuery? table field = some query) :
    checkNarrowing client table field state =
      ((measure client query state).1.map (Sql.verdict table field), [.measured query],
        (client.scalar query state).2) := by
  delta checkNarrowing
  simp only [hquery, measure_state]

section Checked

variable {table : String} {field : Field} {state next : σ} {events : List Event}

theorem narrowField_unanswered {error : StepError}
    (hcheck : checkNarrowing client table field state = (.error error, events, next)) :
    narrowField client settings table field state = { events, outcome := .failed error, state := next } := by
  delta narrowField
  simp only [hcheck]

theorem narrowField_safe {check : Sql.SafetyCheck}
    (hcheck : checkNarrowing client table field state = (.ok check, events, next))
    (hsafe : check.safe = true) :
    narrowField client settings table field state =
      { runStatements client settings [Sql.alterColumnType table field] next with
        events := events ++ [.recorded (Sql.alterColumnType table field)] } := by
  delta narrowField
  simp only [hcheck, hsafe, if_true, runStatements_single]

theorem narrowField_cut {check : Sql.SafetyCheck}
    (hcheck : checkNarrowing client table field state = (.ok check, events, next))
    (hrisky : check.safe = false) (hallowed : mayLose settings field = true) :
    narrowField client settings table field state =
      { runStatements client settings (Sql.fixups table field ++ [Sql.alterColumnType table field]) next with
        events := events ++ .lossAllowed table check :: (runStatements client settings
          (Sql.fixups table field ++ [Sql.alterColumnType table field]) next).events } := by
  delta narrowField
  simp only [hcheck, hrisky, hallowed, if_true, Bool.false_eq_true, if_false]

theorem narrowField_refused {check : Sql.SafetyCheck}
    (hcheck : checkNarrowing client table field state = (.ok check, events, next))
    (hrisky : check.safe = false) (hkept : mayLose settings field = false) :
    narrowField client settings table field state = { events, outcome := .skipped check, state := next } := by
  delta narrowField
  simp only [hcheck, hrisky, hkept, Bool.false_eq_true, if_false]

end Checked

variable (client settings) in
/-- Remarks aside, a narrowing does one of five things. -/
theorem narrowField_spec (table : String) (field : Field) (state : σ) :
    (narrowField client settings table field state).state =
        replay client settings state (narrowField client settings table field state).events
      ∧ NarrowCourse client settings table field state
          (calls (narrowField client settings table field state).events)
          (narrowField client settings table field state).outcome := by
  cases hquery : Sql.measureQuery? table field with
  | none =>
      rw [narrowField_safe (checkNarrowing_unmeasured state hquery) (verdict_of_unmeasured hquery)]
      obtain ⟨hstate, -⟩ := runStatements_spec client settings
        [Sql.alterColumnType table field] state
      rw [runStatements_single] at hstate
      refine ⟨hstate, ?_⟩
      exact .unchecked _ hquery (runStatements_ran _ _)
  | some query =>
      have hcheck := checkNarrowing_measured client state hquery
      cases hanswer : (measure client query state).1 with
      | error error =>
          rw [hanswer] at hcheck
          rw [narrowField_unanswered hcheck]
          exact ⟨rfl, .unanswered query error hquery hanswer⟩
      | ok observed =>
          rw [hanswer] at hcheck
          cases hsafe : (Sql.verdict table field observed).safe with
          | true =>
              rw [narrowField_safe hcheck hsafe]
              obtain ⟨hstate, -⟩ := runStatements_spec client settings
                [Sql.alterColumnType table field] (client.scalar query state).2
              rw [runStatements_single] at hstate
              exact ⟨hstate, .safe query observed _ hquery hanswer hsafe (runStatements_ran _ _)⟩
          | false =>
              cases hallowed : mayLose settings field with
              | true =>
                  rw [narrowField_cut hcheck hsafe hallowed]
                  obtain ⟨hstate, done, rest, hsplit, hevents, hdone, -⟩ :=
                    runStatements_spec client settings
                      (Sql.fixups table field ++ [Sql.alterColumnType table field])
                      (client.scalar query state).2
                  rw [hevents] at hstate
                  rw [hevents]
                  refine ⟨hstate, ?_⟩
                  rw [List.singleton_append, calls_measured, calls_lossAllowed, calls_recorded]
                  exact .cut query observed done rest _ hquery hanswer hsafe hallowed hsplit hdone
                    (runStatements_ran _ _)
              | false =>
                  rw [narrowField_refused hcheck hsafe hallowed]
                  exact ⟨rfl, .refused query observed hquery hanswer hsafe hallowed⟩

end Running

end SchemaMigrate
