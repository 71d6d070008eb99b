import SchemaMigrate.Proofs.Run.Trace
import SchemaMigrate.Proofs.Sql.Statement

/-!
The gate before the loss of data. Whatever the client answers and wherever it fails, a statement that a
narrowing records has a licence in the trace before it: the data of the column was measured, and it was
found safe, or it may be cut.
-/

namespace SchemaMigrate

/-- Whether a statement changes rows. -/
def isUpdate (statement : String) : Bool := Text.startsWith statement "UPDATE "

/-- What lets a narrowing record a statement for a column after the events `before`. -/
inductive Licence {σ : Type} (client : Client σ) (settings : Settings) (state : σ) (table : String)
    (field : Field) (before : List Event) : String → Prop
  | unchecked (hquery : Sql.measureQuery? table field = none) :
      Licence client settings state table field before (Sql.alterColumnType table field)
  | safe (query : String) (observed : Int) (start : List Event)
      (hbefore : before = start ++ [.measured query])
      (hquery : Sql.measureQuery? table field = some query)
      (hanswer : Answered client query observed (replay client settings state start))
      (hsafe : (Sql.verdict table field observed).safe = true) :
      Licence client settings state table field before (Sql.alterColumnType table field)
  | fixup (query : String) (observed : Int) (start : List Event) (done rest : List String)
      (statement : String)
      (hsplit : Sql.fixups table field = done ++ statement :: rest)
      (hbefore : before = start ++ .measured query :: done.map .recorded)
      (hquery : Sql.measureQuery? table field = some query)
      (hanswer : Answered client query observed (replay client settings state start))
      (hrisky : (Sql.verdict table field observed).safe = false)
      (hallowed : mayLose settings field = true) :
      Licence client settings state table field before statement
  | fixed (query : String) (observed : Int) (start : List Event)
      (hbefore : before = start ++ .measured query :: (Sql.fixups table field).map .recorded)
      (hquery : Sql.measureQuery? table field = some query)
      (hanswer : Answered client query observed (replay client settings state start))
      (hrisky : (Sql.verdict table field observed).safe = false)
      (hallowed : mayLose settings field = true)
      (hperformed : Performed client settings
        (replay client settings state (start ++ [.measured query])) (Sql.fixups table field)) :
      Licence client settings state table field before (Sql.alterColumnType table field)

section Statements

/-- What a statement starts with decides whether it is an update. -/
theorem isUpdate_append {first : String} (hlength : 7 ≤ first.length) (second : String) :
    isUpdate (first ++ second) = isUpdate first := by
  have hwhole : "UPDATE ".toList.length ≤ first.toList.length := by
    rwa [String.length_toList]
  rw [isUpdate, isUpdate, Bool.eq_iff_iff, Text.startsWith, Text.startsWith,
    List.isPrefixOf_iff_prefix, List.isPrefixOf_iff_prefix, String.toList_append]
  constructor
  · intro hprefix
    exact List.prefix_of_prefix_length_le hprefix (List.prefix_append _ _) hwhole
  · intro hprefix
    exact hprefix.trans (List.prefix_append _ _)

theorem isUpdate_fixups {table : String} {field : Field} :
    ∀ statement ∈ Sql.fixups table field, isUpdate statement = true := by
  have hupdate (rest : String) : isUpdate ("UPDATE " ++ rest) = true :=
    (isUpdate_append (by decide) rest).trans (by decide)
  intro statement hmem
  unfold Sql.fixups at hmem
  cases hbound : Sql.boundOf field <;>
    simp only [hbound, String.append_assoc, List.mem_cons, List.not_mem_nil, or_false] at hmem
  case characters => exact hmem ▸ hupdate _
  case bytes => exact hmem ▸ hupdate _
  case digits =>
    rcases hmem with rfl | rfl
    · exact hupdate _
    · exact hupdate _

theorem isUpdate_textOf {first : String} (hlength : 7 ≤ first.length) (parts : List Sql.Part) :
    isUpdate (Sql.textOf (.plain first :: parts)) = isUpdate first := isUpdate_append hlength _

/-- The statements that a plan is written in change no rows. -/
theorem not_isUpdate_text (statement : Sql.Statement) : isUpdate statement.text = false := by
  cases statement with
  | createTable => exact (isUpdate_textOf (by decide) _).trans (by decide)
  | addColumn => exact (isUpdate_textOf (by decide) _).trans (by decide)
  | dropDefault => exact (isUpdate_textOf (by decide) _).trans (by decide)
  | alterType => exact (isUpdate_textOf (by decide) _).trans (by decide)
  | addForeignKey => exact (isUpdate_textOf (by decide) _).trans (by decide)
  | createIndex index =>
      -- the text starts alike for all kinds of indexes
      have hcreate (rest : String) : isUpdate ("CREATE " ++ rest) = false :=
        (isUpdate_append (by decide) rest).trans (by decide)
      simp only [Sql.Statement.text, Sql.Statement.parts, List.cons_append, Sql.textOf, Sql.Part.text,
        String.append_assoc, hcreate]

theorem not_isUpdate_alterColumnType (table : String) (field : Field) :
    isUpdate (Sql.alterColumnType table field) = false :=
  Sql.text_alterType table field ▸ not_isUpdate_text _

/-- No step has an update among its own statements. -/
theorem not_isUpdate_ofStep {step : Step} {limit : Int} {statements : List String}
    (h : Sql.ofStep step limit = .ok statements) :
    ∀ statement ∈ statements, isUpdate statement = false := by
  rw [← Sql.text_statementsOf] at h
  obtain ⟨own, -, rfl⟩ := map_eq_ok h
  exact List.forall_mem_map.2 fun statement _ => not_isUpdate_text statement

end Statements

-- from here on the texts of queries and statements are not looked into
attribute [local irreducible] Sql.measureQuery? Sql.verdict Sql.fixups Sql.alterColumnType

section Licences

variable {σ : Type} {client : Client σ} {settings : Settings}

/-- A licence holds in every run that comes to the state in which it was given. -/
theorem Licence.later {state : σ} {table : String} {field : Field} {before : List Event}
    {statement : String} (earlier : List Event)
    (h : Licence client settings (replay client settings state earlier) table field before statement) :
    Licence client settings state table field (earlier ++ before) statement := by
  cases h with
  | unchecked hquery => exact .unchecked hquery
  | safe query observed start hbefore hquery hanswer hsafe =>
      refine .safe query observed (earlier ++ start) ?_ hquery ?_ hsafe
      · rw [hbefore, List.append_assoc]
      · rw [replay_append]
        exact hanswer
  | fixup query observed start done rest _ hsplit hbefore hquery hanswer hrisky hallowed =>
      refine .fixup query observed (earlier ++ start) done rest _ hsplit ?_ hquery ?_ hrisky
        hallowed
      · rw [hbefore, List.append_assoc]
      · rw [replay_append]
        exact hanswer
  | fixed query observed start hbefore hquery hanswer hrisky hallowed hperformed =>
      refine .fixed query observed (earlier ++ start) ?_ hquery ?_ hrisky hallowed ?_
      · rw [hbefore, List.append_assoc]
      · rw [replay_append]
        exact hanswer
      · rw [List.append_assoc, replay_append]
        exact hperformed

/-- What stands at a place in two lists stands in the first or in the second. -/
theorem append_eq_append_cons {α : Type} {first second before after : List α} {x : α}
    (h : first ++ second = before ++ x :: after) :
    (∃ rest, first = before ++ x :: rest)
      ∨ ∃ start, before = first ++ start ∧ second = start ++ x :: after := by
  rcases List.append_eq_append_iff.1 h with ⟨start, hbefore, hsecond⟩ | ⟨rest, hfirst, hrest⟩
  · exact .inr ⟨start, hbefore, hsecond⟩
  · cases rest with
    | nil =>
        rw [List.append_nil] at hfirst
        exact .inr ⟨[], by simp [hfirst], by simpa using hrest.symm⟩
    | cons y rest =>
        obtain ⟨rfl, -⟩ := List.cons.inj hrest
        exact .inl ⟨rest, hfirst⟩

/-- Of statements that were recorded one after the other, those before a place were recorded before. -/
theorem recorded_eq_append_cons {statements : List String} {before after : List Event}
    {statement : String}
    (h : statements.map Event.recorded = before ++ .recorded statement :: after) :
    ∃ done rest, statements = done ++ statement :: rest ∧ before = done.map .recorded := by
  obtain ⟨done, others, hsplit, hdone, hothers⟩ := List.map_eq_append_iff.1 h
  obtain ⟨first, rest, hcons, hfirst, -⟩ := List.map_eq_cons_iff.1 hothers
  cases hfirst
  exact ⟨done, rest, by rw [hsplit, hcons], hdone.symm⟩

theorem Performed.of_append {state : σ} {first second : List String}
    (h : Performed client settings state (first ++ second)) : Performed client settings state first := by
  induction first generalizing state with
  | nil => exact .nil _
  | cons statement statements ih =>
      cases h with
      | cons hfirst hrest => exact .cons hfirst (ih hrest)

/-- Every statement that the narrowing of a column records has a licence. -/
theorem NarrowCourse.licence {state : σ} {table : String} {field : Field} {events : List Event}
    {outcome : Outcome} (h : NarrowCourse client settings table field state events outcome)
    {before after : List Event} {statement : String}
    (hevents : events = before ++ .recorded statement :: after) :
    Licence client settings state table field before statement := by
  cases h with
  | unchecked _ hquery _ =>
      obtain ⟨rfl, hcons⟩ | ⟨_, -, hnone⟩ := List.cons_eq_append_iff.1 hevents
      · cases hcons
        exact .unchecked hquery
      · simp at hnone
  | unanswered query error hquery hanswer =>
      obtain ⟨rfl, hcons⟩ | ⟨_, -, hnone⟩ := List.cons_eq_append_iff.1 hevents
      · cases hcons
      · simp at hnone
  | refused query observed hquery hanswer hrisky hkept =>
      obtain ⟨rfl, hcons⟩ | ⟨_, -, hnone⟩ := List.cons_eq_append_iff.1 hevents
      · cases hcons
      · simp at hnone
  | safe query observed _ hquery hanswer hsafe _ =>
      obtain ⟨rfl, hcons⟩ | ⟨start, rfl, hlast⟩ := List.cons_eq_append_iff.1 hevents
      · cases hcons
      · change [Sql.alterColumnType table field].map Event.recorded = _ at hlast
        obtain ⟨done, rest, hsplit, rfl⟩ := recorded_eq_append_cons hlast
        obtain ⟨rfl, hcons⟩ | ⟨_, -, hnone⟩ := List.cons_eq_append_iff.1 hsplit
        · cases hcons
          exact .safe query observed [] rfl hquery hanswer hsafe
        · simp at hnone
  | cut query observed done rest _ hquery hanswer hrisky hallowed hsplit hperformed _ =>
      obtain ⟨rfl, hcons⟩ | ⟨start, rfl, hdone⟩ := List.cons_eq_append_iff.1 hevents
      · cases hcons
      · obtain ⟨earlier, later, rfl, rfl⟩ := recorded_eq_append_cons hdone
        rw [List.append_assoc, List.cons_append] at hsplit
        rcases append_eq_append_cons hsplit with ⟨others, hfixups⟩ | ⟨last, hearlier, halter⟩
        · exact .fixup query observed [] earlier others statement hfixups (List.nil_append _).symm
            hquery hanswer hrisky hallowed
        · -- the alteration stands last, so that all the updates were carried out before it
          rcases List.cons_eq_append_iff.1 halter with ⟨hlast, hcons⟩ | ⟨_, -, hnone⟩
          · rw [hlast, List.append_nil] at hearlier
            rw [List.dropLast_append_cons, hearlier] at hperformed
            rw [hearlier, (List.cons.inj hcons).1]
            exact .fixed query observed [] (List.nil_append _).symm hquery hanswer hrisky hallowed
              hperformed.of_append
          · simp at hnone

theorem Course.andThen_applied {course : Course σ} {next : σ → Course σ}
    (h : course.outcome = .applied) :
    course.andThen next =
      { next course.state with events := course.events ++ (next course.state).events } := by
  simp only [Course.andThen, h]

theorem Course.andThen_stopped {course : Course σ} {next : σ → Course σ}
    (h : course.outcome ≠ .applied) : course.andThen next = course := by
  unfold Course.andThen
  split
  · contradiction
  · rfl

variable (client settings) in
/-- Columns are narrowed in turn, each under licences of its own. -/
theorem narrowFields_spec (table : String) (fields : List Field) (state : σ) :
    let course := narrowFields client settings table fields state
    course.state = replay client settings state course.events
      ∧ ∀ (before : List Event) (statement : String) (after : List Event),
          calls course.events = before ++ .recorded statement :: after →
          ∃ field ∈ fields, Licence client settings state table field before statement := by
  induction fields generalizing state with
  | nil =>
      refine ⟨rfl, fun before statement after hevents => ?_⟩
      simp [narrowFields] at hevents
  | cons field fields ih =>
      rw [narrowFields]
      obtain ⟨hstate, hcourse⟩ := narrowField_spec client settings
        table field state
      by_cases houtcome : (narrowField client settings table field state).outcome = .applied
      · obtain ⟨hrest, hlicences⟩ := ih (narrowField client settings table field state).state
        rw [Course.andThen_applied houtcome]
        refine ⟨?_, fun before statement after hevents => ?_⟩
        · rw [replay_append, ← hstate]
          exact hrest
        · rw [calls_append] at hevents
          rcases append_eq_append_cons hevents with ⟨others, hfirst⟩ | ⟨start, hbefore, hsecond⟩
          · exact ⟨field, List.mem_cons_self, hcourse.licence hfirst⟩
          · obtain ⟨other, hmem, hlicence⟩ := hlicences start statement after hsecond
            rw [hbefore]
            refine ⟨other, List.mem_cons_of_mem _ hmem, Licence.later _ ?_⟩
            rw [replay_calls, ← hstate]
            exact hlicence
      · rw [Course.andThen_stopped houtcome]
        exact ⟨hstate, fun before statement after hevents =>
          ⟨field, List.mem_cons_self, hcourse.licence hevents⟩⟩

theorem runStep_narrows {step : Step} (h : step.Narrows) (state : σ) :
    runStep client settings step state = narrowFields client settings step.table step.fields state :=
  if_pos h

theorem runStep_states {step : Step} (h : ¬ step.Narrows) (state : σ) :
    runStep client settings step state =
      match Sql.ofStep step settings.limit with
      | .error error => { outcome := .failed (.statement error), state }
      | .ok statements => runStatements client settings statements state :=
  if_neg h

variable (client settings) in
/-- A narrowing has licences for all that it records; other steps record no updates. -/
theorem runStep_spec (step : Step) (state : σ) :
    let course := runStep client settings step state
    course.state = replay client settings state course.events
      ∧ ∀ (before : List Event) (statement : String) (after : List Event),
          calls course.events = before ++ .recorded statement :: after →
          (step.Narrows ∧ ∃ field ∈ step.fields,
              Licence client settings state step.table field before statement)
            ∨ ¬ step.Narrows ∧ isUpdate statement = false := by
  by_cases hnarrows : step.Narrows
  · rw [runStep_narrows hnarrows]
    obtain ⟨hstate, hlicences⟩ := narrowFields_spec client settings
      step.table step.fields state
    exact ⟨hstate, fun before statement after hevents =>
      .inl ⟨hnarrows, hlicences before statement after hevents⟩⟩
  · rw [runStep_states hnarrows]
    cases hstatements : Sql.ofStep step settings.limit with
    | error error =>
        refine ⟨rfl, fun before statement after hevents => ?_⟩
        simp at hevents
    | ok statements =>
        obtain ⟨hstate, done, rest, hsplit, hcalls, -⟩ := runStatements_spec client settings
          statements state
        refine ⟨hstate, fun before statement after hevents => .inr ⟨hnarrows, ?_⟩⟩
        simp only [hcalls, calls_recorded] at hevents
        obtain ⟨earlier, later, hdone, -⟩ := recorded_eq_append_cons hevents
        exact not_isUpdate_ofStep hstatements statement (by simp [hsplit, hdone])

variable (client settings) in
/-- The events of a run take the client to the state in which the run leaves it. -/
theorem runSteps_state (steps : List Step) (state : σ) :
    (runSteps client settings steps state).2 =
      replay client settings state ((runSteps client settings steps state).1.flatMap (·.events)) := by
  induction steps generalizing state with
  | nil => rfl
  | cons step steps ih =>
      have hstate := (runStep_spec client settings step state).1
      rw [runSteps, List.flatMap_cons, replay_append, ← hstate]
      exact ih _

/-- A report says what its step does in the state in which the steps before it leave the client. -/
theorem runSteps_report {steps : List Step} {state : σ} {earlier later : List StepReport} {report : StepReport}
    (h : (runSteps client settings steps state).1 = earlier ++ report :: later) :
    report.step ∈ steps ∧ (runSteps client settings (earlier.map (·.step)) state).1 = earlier ∧
      let course := runStep client settings report.step (runSteps client settings (earlier.map (·.step)) state).2
      report.events = course.events ∧ report.outcome = course.outcome := by
  induction steps generalizing state earlier with
  | nil => simp [runSteps] at h
  | cons step steps ih =>
      rw [runSteps] at h
      cases earlier with
      | nil =>
          obtain ⟨rfl, -⟩ := List.cons.inj h
          exact ⟨List.mem_cons_self, rfl, rfl, rfl⟩
      | cons first earlier =>
          obtain ⟨rfl, hrest⟩ := List.cons.inj h
          obtain ⟨hmem, hearlier, hreport⟩ := ih hrest
          exact ⟨List.mem_cons_of_mem _ hmem, congrArg (List.cons _) hearlier, hreport⟩

/-- The trace before a report takes the client to the state in which its step is run. -/
theorem runSteps_spec {steps : List Step} {state : σ} {earlier later : List StepReport}
    {report : StepReport}
    (h : (runSteps client settings steps state).1 = earlier ++ report :: later) :
    report.step ∈ steps
      ∧ report.events =
          (runStep client settings report.step (replay client settings state (trace earlier))).events := by
  obtain ⟨hmem, hearlier, hevents, -⟩ := runSteps_report h
  rw [runSteps_state, hearlier, ← replay_calls, calls_events] at hevents
  exact ⟨hmem, hevents⟩

/-- Whatever is recorded in a trace is recorded in one of the reports. -/
theorem trace_eq_append_cons {reports : List StepReport} {before after : List Event} {event : Event}
    (h : trace reports = before ++ event :: after) :
    ∃ earlier report later start rest, reports = earlier ++ report :: later
      ∧ before = trace earlier ++ start ∧ calls report.events = start ++ event :: rest := by
  induction reports generalizing before with
  | nil => simp [trace] at h
  | cons report reports ih =>
      rw [trace_cons] at h
      rcases append_eq_append_cons h with ⟨rest, hfirst⟩ | ⟨start, hbefore, hsecond⟩
      · exact ⟨[], report, reports, before, rest, rfl, rfl, hfirst⟩
      · obtain ⟨earlier, other, later, start', rest, hreports, hstart, hevents⟩ := ih hsecond
        refine ⟨report :: earlier, other, later, start', rest, ?_, ?_, hevents⟩
        · rw [hreports, List.cons_append]
        · rw [hbefore, hstart, trace_cons, List.append_assoc]

theorem mayLose_iff {field : Field} :
    mayLose settings field = true ↔
      settings.allowLoss = true ∨ field.hasAttribute allowDataLoss = true := by
  rw [mayLose, Bool.or_eq_true]

/-- A licence for an update names the measurement that calls for it. -/
theorem Licence.of_update {state : σ} {table : String} {field : Field} {before : List Event}
    {statement : String} (h : Licence client settings state table field before statement)
    (hupdate : isUpdate statement = true) :
    ∃ query observed start done rest, Sql.measureQuery? table field = some query
      ∧ Sql.fixups table field = done ++ statement :: rest
      ∧ before = start ++ .measured query :: done.map .recorded
      ∧ Answered client query observed (replay client settings state start)
      ∧ (Sql.verdict table field observed).safe = false
      ∧ (settings.allowLoss = true ∨ field.hasAttribute allowDataLoss = true) := by
  have halter := not_isUpdate_alterColumnType table field
  cases h with
  | unchecked => exact absurd hupdate (by simp [halter])
  | safe => exact absurd hupdate (by simp [halter])
  | fixed => exact absurd hupdate (by simp [halter])
  | fixup query observed start done rest _ hsplit hbefore hquery hanswer hrisky hallowed =>
      exact ⟨query, observed, start, done, rest, hquery, hsplit, hbefore, hanswer, hrisky,
        mayLose_iff.1 hallowed⟩

/-- A licence for anything else is one for the alteration of the column. -/
theorem Licence.of_alter {state : σ} {table : String} {field : Field} {before : List Event}
    {statement : String} (h : Licence client settings state table field before statement)
    (hother : isUpdate statement = false) :
    statement = Sql.alterColumnType table field
      ∧ ∀ query, Sql.measureQuery? table field = some query →
          ∃ observed start, Answered client query observed (replay client settings state start)
            ∧ ((Sql.verdict table field observed).safe = true ∧ before = start ++ [.measured query]
              ∨ (Sql.verdict table field observed).safe = false
                ∧ (settings.allowLoss = true ∨ field.hasAttribute allowDataLoss = true)
                ∧ before = start ++ .measured query :: (Sql.fixups table field).map .recorded
                ∧ Performed client settings
                    (replay client settings state (start ++ [.measured query]))
                    (Sql.fixups table field)) := by
  cases h with
  | unchecked hnone =>
      refine ⟨rfl, fun query hquery => ?_⟩
      rw [hnone] at hquery
      cases hquery
  | safe query observed start hbefore hsome hanswer hsafe =>
      refine ⟨rfl, fun other hquery => ?_⟩
      obtain rfl : query = other := Option.some.inj (hsome.symm.trans hquery)
      exact ⟨observed, start, hanswer, .inl ⟨hsafe, hbefore⟩⟩
  | fixup query observed start done rest _ hsplit =>
      have hupdate := isUpdate_fixups statement (by rw [hsplit]; simp)
      rw [hother] at hupdate
      cases hupdate
  | fixed query observed start hbefore hsome hanswer hrisky hallowed hperformed =>
      refine ⟨rfl, fun other hquery => ?_⟩
      obtain rfl : query = other := Option.some.inj (hsome.symm.trans hquery)
      exact ⟨observed, start, hanswer,
        .inr ⟨hrisky, mayLose_iff.1 hallowed, hbefore, hperformed⟩⟩

/-- The result of a run lists the statements of its trace. -/
theorem statements_applyPlan (plan : Plan) (state : σ) :
    (applyPlan client plan settings state).1.statements =
      (trace (runSteps client settings plan.steps state).1).filterMap Event.statement? := by
  simp only [applyPlan, ApplyResult.ofReports, trace, List.filterMap_flatMap]
  congr 1
  funext report
  exact (statements_calls report.events).symm

/-- What a run records has a licence from a narrowing, or it is no update. -/
theorem runSteps_licence {steps : List Step} {state : σ} {before after : List Event} {statement : String}
    (h : trace (runSteps client settings steps state).1 = before ++ .recorded statement :: after) :
    (∃ step ∈ steps, step.Narrows ∧ ∃ field ∈ step.fields,
      Licence client settings state step.table field before statement) ∨ isUpdate statement = false := by
  obtain ⟨earlier, report, later, start, rest, hreports, rfl, hcalls⟩ := trace_eq_append_cons h
  obtain ⟨hmem, hevents⟩ := runSteps_spec hreports
  rw [hevents] at hcalls
  obtain ⟨hnarrows, field, hfield, hlicence⟩ | ⟨-, hother⟩ :=
    (runStep_spec client settings report.step _).2 start statement rest hcalls
  · exact .inl ⟨report.step, hmem, hnarrows, field, hfield, hlicence.later (trace earlier)⟩
  · exact .inr hother

end Licences

/-- The gate before the loss of data, over whole runs. An update is recorded only right after the
measurement of its column, and earlier updates of that column, if the measurement was bad and the data may
be cut. A narrowing of a column that has a measurement is recorded only after the answer, if the data was
safe or if it may be cut and every one of its updates was recorded and carried out. A run in which nothing
may be cut records no update at all. -/
theorem narrowing_gated {σ : Type} (client : Client σ) (settings : Settings) (plan : Plan) (state : σ) :
    let reports := (runSteps client settings plan.steps state).1
    (∀ (before : List Event) (statement : String) (after : List Event),
      trace reports = before ++ .recorded statement :: after → isUpdate statement = true →
      ∃ step ∈ plan.steps, step.Narrows ∧ ∃ field ∈ step.fields, ∃ query observed start done rest,
        Sql.measureQuery? step.table field = some query
          ∧ Sql.fixups step.table field = done ++ statement :: rest
          ∧ before = start ++ .measured query :: done.map .recorded
          ∧ Answered client query observed (replay client settings state start)
          ∧ (Sql.verdict step.table field observed).safe = false
          ∧ (settings.allowLoss = true ∨ field.hasAttribute allowDataLoss = true))
    ∧ (∀ (earlier : List StepReport) (report : StepReport) (later : List StepReport)
        (before : List Event) (statement : String) (after : List Event),
      reports = earlier ++ report :: later → report.step.Narrows → calls report.events = before ++ .recorded statement :: after →
      isUpdate statement = false →
      ∃ field ∈ report.step.fields, statement = Sql.alterColumnType report.step.table field
        ∧ ∀ query, Sql.measureQuery? report.step.table field = some query →
            ∃ observed start,
              Answered client query observed (replay client settings state (trace earlier ++ start))
              ∧ ((Sql.verdict report.step.table field observed).safe = true
                  ∧ before = start ++ [.measured query]
                ∨ (Sql.verdict report.step.table field observed).safe = false
                  ∧ (settings.allowLoss = true ∨ field.hasAttribute allowDataLoss = true)
                  ∧ before = start ++ .measured query
                      :: (Sql.fixups report.step.table field).map .recorded
                  ∧ Performed client settings
                      (replay client settings state (trace earlier ++ start ++ [.measured query]))
                      (Sql.fixups report.step.table field)))
    ∧ (settings.allowLoss = false →
      (∀ step ∈ plan.steps, ∀ field ∈ step.fields, field.hasAttribute allowDataLoss = false) →
      ∀ statement ∈ (applyPlan client plan settings state).1.statements,
        isUpdate statement = false) := by
  intro reports
  refine ⟨fun before statement after htrace hupdate => ?_, ?_, ?_⟩
  · rcases runSteps_licence htrace with ⟨step, hstep, hnarrows, field, hfield, hlicence⟩ | hother
    · exact ⟨step, hstep, hnarrows, field, hfield, hlicence.of_update hupdate⟩
    · rw [hother] at hupdate
      cases hupdate
  · intro earlier report later before statement after hreports hnarrows hcalls hother
    obtain ⟨-, hevents⟩ := runSteps_spec hreports
    rw [hevents] at hcalls
    obtain ⟨-, field, hfield, hlicence⟩ | ⟨hstates, -⟩ :=
      (runStep_spec client settings report.step _).2 before statement after hcalls
    · obtain ⟨halter, hgate⟩ := hlicence.of_alter hother
      refine ⟨field, hfield, halter, fun query hquery => ?_⟩
      obtain ⟨observed, start, hanswer, hsafe⟩ := hgate query hquery
      refine ⟨observed, start, ?_, ?_⟩
      · rw [replay_append]
        exact hanswer
      · rw [List.append_assoc, replay_append]
        exact hsafe
    · exact absurd hnarrows hstates
  · intro hkept hfields statement hmem
    rw [statements_applyPlan, List.mem_filterMap] at hmem
    obtain ⟨event, hevent, hstatement⟩ := hmem
    obtain ⟨before, after, htrace⟩ := List.append_of_mem hevent
    cases event with
    | measured query => cases hstatement
    | lossAllowed table check => cases hstatement
    | recorded other =>
        obtain rfl : other = statement := Option.some.inj hstatement
        rcases runSteps_licence htrace with ⟨step, hstep, -, field, hfield, hlicence⟩ | hother
        · rw [Bool.eq_false_iff]
          intro hupdate
          obtain ⟨-, -, -, -, -, -, -, -, -, -, hallowed⟩ := hlicence.of_update hupdate
          rw [hkept, hfields step hstep field hfield] at hallowed
          simp at hallowed
        · exact hother

/-- A plan that shortens one column. -/
def shortenPlan : Plan where
  steps := [.alterColumn "Note" { name := "Text", type := { name := "varchar", precision := some 10 } } false]

/-- A client that finds texts of twenty characters. -/
def longNotes : Client (List Call) := Script.client { answers := [("MAX", .whole 20)] }

/-- Long texts are cut where that is allowed, and otherwise left alone. -/
theorem narrowing_gated_shorten :
    (∃ step ∈ shortenPlan.steps, step.Narrows ∧ ∃ field ∈ step.fields, ∃ query observed start done rest,
        Sql.measureQuery? step.table field = some query
          ∧ Sql.fixups step.table field = done ++
              "UPDATE \"Note\" SET \"Text\" = left(\"Text\", 10) WHERE char_length(\"Text\") > 10" :: rest
          ∧ [.measured "SELECT MAX(char_length(\"Text\")) FROM \"Note\""] =
              start ++ .measured query :: done.map .recorded
          ∧ Answered longNotes query observed (replay longNotes { allowLoss := true } [] start)
          ∧ (Sql.verdict step.table field observed).safe = false
          ∧ (true = true ∨ field.hasAttribute allowDataLoss = true))
      ∧ ∀ statement ∈ (applyPlan longNotes shortenPlan {} []).1.statements,
          isUpdate statement = false := by
  refine ⟨?_, ?_⟩
  · exact (narrowing_gated longNotes { allowLoss := true } shortenPlan []).1 _ _
      [.recorded "ALTER TABLE \"Note\" ALTER COLUMN \"Text\" TYPE varchar(10)"] (by decide +kernel)
      rfl
  · exact (narrowing_gated longNotes {} shortenPlan []).2.2 rfl (by decide +kernel)

end SchemaMigrate
