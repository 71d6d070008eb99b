import SchemaMigrate.Proofs.Plan.Replanning
import SchemaMigrate.Proofs.Run.Deeds

/-!
Runs that are resumed. After a run in which statements failed the database is read again, and a second plan is
applied. Main statement: if no statement of the second run fails, the database is what one run without failures
would have made of it, exactly if the first run has stranded nothing. A step is stranded if it stopped between its
two statements and the plan cannot tell, or if its index is not asked for again because there is one like it.
-/

namespace SchemaMigrate

open Catalog Sql

/-- A failed step that a second plan does not make up for: a column that keeps the default it was filled through,
a foreign key without the index that should support it, or an index that is taken for another one. -/
inductive Stranded (limit : Int) (start : List Entry) (reread : Database) (report : StepReport) : Prop
  | default {table : String} {field : Field} (hstep : report.step = .addColumn table field)
      (hfailed : report.outcome ≠ .applied) (hcount : report.statements.length = 2) :
      Stranded limit start reread report
  | support {table : String} {key : ForeignKey} {name : String} (hstep : report.step = .addForeignKey table key)
      (hfailed : report.outcome ≠ .applied) (hcount : report.statements.length = 2)
      (hname : foreignKeyIndexName table key.column limit = .ok name) (hfree : ¬HasIndex start name) :
      Stranded limit start reread report
  | twin {table : String} {index : Index} {found : Table} (hstep : report.step = .addIndex table index)
      (hfailed : report.outcome ≠ .applied) (hfound : reread.table? table = some found)
      (htwin : found.indexes.any (sameIndex index) = true) : Stranded limit start reread report

section Deciding

variable {limit : Int} {start : List Entry} {reread : Database} {report : StepReport}

theorem stranded_iff : Stranded limit start reread report ↔ report.outcome ≠ .applied ∧
    ((report.statements.length = 2 ∧
        ∃ field ∈ report.step.fields.head?, report.step = .addColumn report.step.table field) ∨
      (report.statements.length = 2 ∧
        ∃ key ∈ report.step.foreignKey, report.step = .addForeignKey report.step.table key ∧
          ∃ name ∈ (foreignKeyIndexName report.step.table key.column limit).toOption, ¬HasIndex start name) ∨
      ∃ index ∈ report.step.index, report.step = .addIndex report.step.table index ∧
        ∃ found ∈ reread.table? report.step.table, found.indexes.any (sameIndex index) = true) := by
  constructor
  · intro h
    cases h with
    | default hstep hfailed hcount => exact ⟨hfailed, .inl ⟨hcount, _, by rw [hstep]; rfl, by rw [hstep]; rfl⟩⟩
    | @support table key name hstep hfailed hcount hname hfree =>
        refine ⟨hfailed, .inr (.inl ⟨hcount, key, by rw [hstep]; rfl, by rw [hstep]; rfl, name, ?_, hfree⟩)⟩
        rw [hstep, show (Step.addForeignKey table key).table = table from rfl, hname]
        rfl
    | @twin table index found hstep hfailed hfound htwin =>
        refine ⟨hfailed, .inr (.inr ⟨index, by rw [hstep]; rfl, by rw [hstep]; rfl, found, ?_, htwin⟩)⟩
        rw [hstep]
        exact hfound
  · rintro ⟨hfailed, ⟨hcount, field, -, hstep⟩ | ⟨hcount, key, -, hstep, name, hname, hfree⟩ |
      ⟨index, -, hstep, found, hfound, htwin⟩⟩
    · exact .default hstep hfailed hcount
    · cases hlimit : foreignKeyIndexName report.step.table key.column limit with
      | error error =>
          rw [hlimit] at hname
          cases hname
      | ok other =>
          rw [hlimit] at hname
          cases hname
          exact .support hstep hfailed hcount hlimit hfree
    · exact .twin hstep hfailed hfound htwin

instance : Decidable (Stranded limit start reread report) := decidable_of_iff _ stranded_iff.symm

end Deciding

/-- The statements of a run in which none failed. -/
structure Complete (reporter : Reporter) (target live : Database) (limit : Int) (start : List Entry)
    (done : List Statement) : Prop where
  carries : reporter.Carries start done
  due : ∀ statement ∈ done, ∃ step, Due target live step ∧ ∃ own, statementsOf step limit = .ok own
    ∧ statement ∈ condense own
  whole : ∀ step, Due target live step → ¬step.Narrows → ∃ own, statementsOf step limit = .ok own
    ∧ condense own ⊆ done

/-- The statements of a run that may have failed, with its reports. It had no column to narrow. -/
structure Partial (reporter : Reporter) (target live : Database) (limit : Int) (start : List Entry)
    (made : List Statement) (reports : List StepReport) : Prop where
  built : Model.WellBuilt target
  rooted : Rooted start
  read : readEntries start = .ok live
  carries : reporter.Carries start made
  due : ∀ report ∈ reports, Due target live report.step
  reported : ∀ step, Due target live step → ∃ report ∈ reports, report.step = step
  steady : ∀ step, Due target live step → ¬step.Narrows
  deeds : ∀ statement, statement ∈ made ↔ ∃ report ∈ reports, Deed limit report statement
  recorded : ∀ report ∈ reports, ∀ own, statementsOf report.step limit = .ok own →
    report.statements.length ≤ own.length
  names : (reports.flatMap fun report => report.step.indexNames limit).Nodup

section Runs

variable {σ : Type} {client : Client σ} {settings : Settings} {reporter : Reporter} {view : σ → List Entry}
  {target live : Database}

/-- In a run without failures every step that is no narrowing is carried out. -/
theorem applied_of_success {plan : Plan} {state : σ} (hsuccess : (applyPlan client plan settings state).1.success = true)
    {report : StepReport} (hmem : report ∈ (runSteps client settings plan.steps state).1)
    (hsteady : ¬report.step.Narrows) :
    report.outcome = .applied ∧ ∃ own, statementsOf report.step settings.limit = .ok own := by
  have hfailure := List.filterMap_eq_nil_iff.1 (List.isEmpty_iff.1 hsuccess) report hmem
  rcases steady_of_mem hmem hsteady with ⟨error, -, houtcome⟩ | ⟨own, hown, -, hran⟩
  · simp [StepReport.failure?, houtcome] at hfailure
  · refine ⟨?_, own, hown⟩
    cases houtcome : report.outcome with
    | applied => rfl
    | failed error => simp [StepReport.failure?, houtcome] at hfailure
    | skipped check => exact absurd houtcome (hran check)

/-- A run in which no statement fails carries out all that is due. -/
theorem complete_of_success (hkeeps : client.Keeps reporter (target.possibleStatements settings.limit) view)
    (hreal : settings.dryRun = false) {state : σ}
    (hsuccess : (applyPlan client (Plan.between target live) settings state).1.success = true) :
    ∃ done, Complete reporter target live settings.limit (view state) done
      ∧ view (applyPlan client (Plan.between target live) settings state).2 = reporter.afterAll (view state) done := by
  have hdue : ∀ step ∈ (Plan.between target live).steps, Due target live step := fun step => Plan.mem_between_iff.1
  have hsteps := map_step_runSteps client settings (Plan.between target live).steps state
  obtain ⟨done, hcarries, hview, htold, horigin⟩ := runSteps_deeds hkeeps hreal hdue state
  refine ⟨done, ⟨hcarries, fun statement hmem => ?_, fun step hstep hsteady => ?_⟩, hview⟩
  · rcases horigin statement hmem with ⟨report, hreport, hdeed⟩ | ⟨table, field, hstep, rfl⟩
    · have hdue : Due target live report.step := hdue _ (hsteps ▸ List.mem_map_of_mem hreport)
      cases hdeed with
      | whole _ _ hown hmem => exact ⟨_, hdue, _, hown, hmem⟩
      | begun hsteady hfailed => exact absurd (applied_of_success hsuccess hreport hsteady).1 hfailed
    · exact ⟨_, hdue _ hstep, _, rfl, List.mem_singleton_self _⟩
  · rw [← Plan.mem_between_iff, ← hsteps] at hstep
    obtain ⟨report, hreport, rfl⟩ := List.mem_map.1 hstep
    obtain ⟨happlied, own, hown⟩ := applied_of_success hsuccess hreport hsteady
    exact ⟨own, hown, fun statement hmem => htold report hreport statement (.whole hsteady happlied hown hmem)⟩

/-- A run whose steps do not narrow carries out what its reports tell. -/
theorem partial_of_run (hbuilt : Model.WellBuilt target)
    (hkeeps : client.Keeps reporter (target.possibleStatements settings.limit) view)
    (hreal : settings.dryRun = false) {state : σ} (hrooted : Rooted (view state)) (hlive : readEntries (view state) = .ok live)
    (hsteady : ∀ step ∈ (Plan.between target live).steps, ¬step.Narrows) {statements : List Statement}
    (hstatements : statementsOfSteps (Plan.between target live).steps settings.limit = .ok statements)
    (hnames : ((statements.filterMap Statement.index?).map (·.name)).Nodup) :
    ∃ made, Partial reporter target live settings.limit (view state) made
        (runSteps client settings (Plan.between target live).steps state).1
      ∧ view (runSteps client settings (Plan.between target live).steps state).2 = reporter.afterAll (view state) made := by
  have hdue : ∀ step ∈ (Plan.between target live).steps, Due target live step := fun step => Plan.mem_between_iff.1
  have hsteps := map_step_runSteps client settings (Plan.between target live).steps state
  have hmem : ∀ report ∈ (runSteps client settings (Plan.between target live).steps state).1,
      report.step ∈ (Plan.between target live).steps := fun report hreport => hsteps ▸ List.mem_map_of_mem hreport
  obtain ⟨made, hcarries, hview, htold, horigin⟩ := runSteps_deeds hkeeps hreal hdue state
  refine ⟨made, ?_, hview⟩
  exact {
    built := hbuilt
    rooted := hrooted
    read := hlive
    carries := hcarries
    due := fun report hreport => hdue _ (hmem report hreport)
    reported := fun step hstep => by
      rw [← Plan.mem_between_iff, ← hsteps] at hstep
      exact List.mem_map.1 hstep
    steady := fun step hstep => hsteady step (Plan.mem_between_iff.2 hstep)
    deeds := fun statement => by
      refine ⟨fun hmade => ?_, fun ⟨report, hreport, hdeed⟩ => htold report hreport statement hdeed⟩
      exact (horigin statement hmade).resolve_right fun ⟨table, field, hstep, _⟩ => hsteady _ hstep ⟨rfl, rfl⟩
    recorded := fun report hreport own hown => by
      rcases steady_of_mem hreport (hsteady _ (hmem report hreport)) with ⟨error, herror, -⟩ | ⟨written, hwritten, hlength, -⟩
      · cases herror.symm.trans hown
      · cases hwritten.symm.trans hown
        exact hlength
    names := by
      have hdistinct := nodup_indexNames hstatements hnames
      rwa [← hsteps, List.flatMap_map] at hdistinct }

end Runs

section Halted

variable {reporter : Reporter} {target live reread : Database} {limit : Int} {start : List Entry}
  {made rest full statements : List Statement} {reports : List StepReport}
  (h : Partial reporter target live limit start made reports)
  (hfull : Complete reporter target live limit start full)

/-- What tells where a statement of a run comes from. -/
def Told (limit : Int) (reports : List StepReport) (step : Step) (statement : Statement) : Prop :=
  ∃ report ∈ reports, report.step = step ∧ Deed limit report statement

include hfull

theorem Complete.serves {statement : Statement} (hmem : statement ∈ full) :
    ∃ step, Due target live step ∧ Serves target limit step statement := by
  obtain ⟨step, hdue, own, hown, hmem⟩ := hfull.due statement hmem
  exact ⟨step, hdue, hdue.serves hown (.inl hmem)⟩

include h

/-- Steps that create indexes of one name are one step, reported once. -/
theorem Partial.eq_of_index {left right : StepReport} (hleft : left ∈ reports) (hright : right ∈ reports)
    {index other : NewIndex} (hserves : Serves target limit left.step (.createIndex index))
    (hserved : Serves target limit right.step (.createIndex other)) (hname : index.name = other.name) :
    left = right ∧ index = other := by
  obtain ⟨own, hown, -⟩ := hfull.whole _ (h.due left hleft) (h.steady _ (h.due left hleft))
  obtain ⟨others, hothers, -⟩ := hfull.whole _ (h.due right hright) (h.steady _ (h.due right hright))
  have hmem := hserves.index_mem hown
  have hagain := hserved.index_mem hothers
  obtain rfl : left = right := eq_of_mem_flatMap h.names hleft hright (Step.mem_indexNames hown hmem)
    (hname ▸ Step.mem_indexNames hothers hagain)
  cases hown.symm.trans hothers
  exact ⟨rfl, ((h.due left hleft).writes hown).index_unique hmem hagain⟩

/-- Statements of steps that were due agree about indexes. -/
theorem Partial.coherent (hserves : ∀ statement ∈ statements, ∃ step, Serves target limit step statement)
    (hindexes : ∀ index, .createIndex index ∈ statements →
      ∃ step, Due target live step ∧ Serves target limit step (.createIndex index)) : Coherent statements := by
  refine coherent_of_serves h.built hserves fun left right hleft hright hname => ?_
  obtain ⟨step, hstep, hserves⟩ := hindexes left hleft
  obtain ⟨other, hother, hserved⟩ := hindexes right hright
  obtain ⟨report, hreport, rfl⟩ := h.reported step hstep
  obtain ⟨again, hagain, rfl⟩ := h.reported other hother
  exact (h.eq_of_index hfull hreport hagain hserves hserved hname).2

theorem Partial.halfway : Plan.Halfway reporter target live limit start made (Told limit reports) := by
  have hserves : ∀ statement ∈ made, ∃ step, Due target live step ∧ Serves target limit step statement
      ∧ Told limit reports step statement := by
    intro statement hmem
    obtain ⟨report, hreport, hdeed⟩ := (h.deeds statement).1 hmem
    exact ⟨report.step, h.due report hreport, hdeed.serves (h.due report hreport), report, hreport, rfl, hdeed⟩
  refine ⟨h.built, h.rooted, h.read, h.carries, h.coherent hfull ?_ ?_, hserves⟩
  · intro statement hmem
    obtain ⟨step, -, hserves, -⟩ := hserves statement hmem
    exact ⟨step, hserves⟩
  · intro index hmem
    obtain ⟨step, hdue, hserves, -⟩ := hserves _ hmem
    exact ⟨step, hdue, hserves⟩

theorem Partial.coherent_full : Coherent full := by
  refine h.coherent hfull (fun statement hmem => ?_) fun index hmem => hfull.serves hmem
  obtain ⟨step, -, hserves⟩ := hfull.serves hmem
  exact ⟨step, hserves⟩

/-- A column that was there is one that the plan has seen. -/
theorem Partial.column_known {table : Table} (htable : table ∈ target.tables.items) {field : Field}
    (hfield : field ∈ table.fields) (hcolumn : HasColumn start table.name field.name) :
    ∃ found, live.table? table.name = some found ∧ found.field? field.name ≠ none := by
  cases hlive : live.table? table.name with
  | none =>
      have hdue : Due target live (.createTable table) := .createTable htable (Database.hasTable_eq_false_iff.2 hlive)
      obtain ⟨own, hown, hsub⟩ := hfull.whole _ hdue (h.steady _ hdue)
      obtain ⟨constraint, rfl⟩ := writes_createTable hown
      obtain ⟨row, hrow, -⟩ := hasColumn_iff.1 hcolumn
      exact absurd (h.rooted _ hrow) (hfull.carries.free reporter (hsub (List.mem_singleton_self _)) fun _ => id)
  | some found =>
      refine ⟨found, rfl, fun hmissing => ?_⟩
      have hdue : Due target live (.addColumn table.name field) := .addColumn htable hlive hfield hmissing
      obtain ⟨own, hown, hsub⟩ := hfull.whole _ hdue (h.steady _ hdue)
      have hadded : .addColumn table.name field none ∈ full := by
        rcases writes_addColumn hown with rfl | ⟨value, rfl⟩ <;> exact hsub (List.mem_singleton_self _)
      exact hfull.carries.free reporter hadded (fun _ => id) hcolumn

theorem Partial.alter_of_due {table : String} {field : Field} {widening : Bool}
    (hdue : Due target live (.alterColumn table field widening)) : .alterType table field ∈ full := by
  obtain ⟨own, hown, hsub⟩ := hfull.whole _ hdue (h.steady _ hdue)
  cases hown
  exact hsub (List.mem_singleton_self _)

variable (hreread : readEntries (reporter.afterAll start made) = .ok reread)
  (hrest : Complete reporter target reread limit (reporter.afterAll start made) rest)

include hreread hrest

/-- What is not an alteration and is made up for by the second run was due in the first. -/
theorem Partial.due_of_rest {statement : Statement} (hmem : statement ∈ rest)
    (hadds : ∀ table field, statement ≠ .alterType table field) :
    ∃ step, Due target live step ∧ Serves target limit step statement ∧ Due target reread step := by
  obtain ⟨step, hdue, hserves⟩ := hrest.serves hmem
  exact ⟨step, (h.halfway hfull).due_before hreread hdue (hserves.steady hadds), hserves, hdue⟩

theorem Partial.coherent_both : Coherent (made ++ rest) := by
  refine h.coherent hfull (fun statement hmem => ?_) fun index hmem => ?_
  · rcases List.mem_append.1 hmem with hmem | hmem
    · obtain ⟨step, -, hserves, -⟩ := (h.halfway hfull).serves statement hmem
      exact ⟨step, hserves⟩
    · obtain ⟨step, -, hserves⟩ := hrest.serves hmem
      exact ⟨step, hserves⟩
  · rcases List.mem_append.1 hmem with hmem | hmem
    · obtain ⟨step, hdue, hserves, -⟩ := (h.halfway hfull).serves _ hmem
      exact ⟨step, hdue, hserves⟩
    · obtain ⟨step, hdue, hserves, -⟩ := h.due_of_rest hfull hreread hrest hmem nofun
      exact ⟨step, hdue, hserves⟩

/-- The columns that were there are altered as in a run without failures. -/
theorem Partial.alters_iff {table : String} {field : Field} (hcolumn : HasColumn start table field.name) :
    .alterType table field ∈ made ++ rest ↔ .alterType table field ∈ full := by
  have hhalf := h.halfway hfull
  have hmade : .alterType table field ∈ made → .alterType table field ∈ full := by
    intro hmem
    obtain ⟨step, hdue, hserves, -⟩ := hhalf.serves _ hmem
    cases hserves with
    | alterColumn => exact h.alter_of_due hfull hdue
  by_cases hearlier : .alterType table field ∈ made
  · exact iff_of_true (List.mem_append_left _ hearlier) (hmade hearlier)
  · rw [List.mem_append, or_iff_right hearlier]
    constructor
    · intro hmem
      obtain ⟨step, hdue, hserves⟩ := hrest.serves hmem
      cases hserves with
      | @alterColumn owner _ htable hfield widening =>
          obtain ⟨found, hfound, hknown⟩ := h.column_known hfull htable hfield hcolumn
          obtain ⟨again, hagain, hsame⟩ := hhalf.decision_kept hreread htable hfield hfound hknown hearlier
          refine h.alter_of_due hfull (.alterColumn widening htable hfound hfield ?_)
          rw [← hsame]
          exact hdue.alterColumn_decision hagain
    · intro hmem
      obtain ⟨step, hdue, hserves⟩ := hfull.serves hmem
      cases hserves with
      | @alterColumn owner _ htable hfield widening =>
          obtain ⟨found, hfound, hknown⟩ := h.column_known hfull htable hfield hcolumn
          obtain ⟨again, hagain, hsame⟩ := hhalf.decision_kept hreread htable hfield hfound hknown hearlier
          have hdecision := hdue.alterColumn_decision hfound
          rw [← hsame] at hdecision
          obtain ⟨own, hown, hsub⟩ := hrest.whole _ (.alterColumn widening htable hagain hfield hdecision)
            (h.steady _ hdue)
          cases hown
          exact hsub (List.mem_singleton_self _)

section Forward

variable (hnone : ∀ report ∈ reports, ¬Stranded limit start reread report)

include hnone

/-- What was made is what a run without failures makes, and so is what is made later. -/
theorem Partial.mem_full {statement : Statement} (hmem : statement ∈ made ++ rest)
    (hadds : ∀ table field, statement ≠ .alterType table field) : statement ∈ full := by
  rcases List.mem_append.1 hmem with hmem | hmem
  · obtain ⟨report, hreport, hdeed⟩ := (h.deeds statement).1 hmem
    have hdue := h.due report hreport
    obtain ⟨own, hown, hsub⟩ := hfull.whole report.step hdue (h.steady _ hdue)
    cases hdeed with
    | whole _ _ hwritten hmem =>
        cases hwritten.symm.trans hown
        exact hsub hmem
    | begun _ hfailed hcount hwritten =>
        cases hwritten.symm.trans hown
        rcases hdue.first_cases hown with hfirst | ⟨table, field, hstep⟩
        · exact hsub hfirst
        · exact absurd (.default hstep hfailed hcount) (hnone report hreport)
  · obtain ⟨step, hdue, own, hown, hmem⟩ := hrest.due statement hmem
    have hsteady := (hdue.serves hown (.inl hmem)).steady hadds
    obtain ⟨written, hwritten, hsub⟩ := hfull.whole step ((h.halfway hfull).due_before hreread hdue hsteady)
      fun hnarrows => hsteady hnarrows.1
    cases hwritten.symm.trans hown
    exact hsub hmem

/-- What a run without failures makes was made, or is made later. -/
theorem Partial.of_mem_full {statement : Statement} (hmem : statement ∈ full)
    (hadds : ∀ table field, statement ≠ .alterType table field) (hbusy : ¬Idle start statement) :
    statement ∈ made ++ rest := by
  obtain ⟨step, hdue, own, hown, hmem⟩ := hfull.due statement hmem
  have hsteady := (hdue.serves hown (.inl hmem)).steady hadds
  have hnarrows : ¬step.Narrows := fun hnarrows => hsteady hnarrows.1
  rcases (h.halfway hfull).due_or_made hreread hdue hsteady with hagain | ⟨other, -, report, hreport, rfl, hdeed⟩ |
    ⟨table, index, rfl, htwin⟩
  · obtain ⟨written, hwritten, hsub⟩ := hrest.whole step hagain hnarrows
    cases hwritten.symm.trans hown
    exact List.mem_append_right _ (hsub hmem)
  · refine List.mem_append_left _ ((h.deeds statement).2 ⟨report, hreport, ?_⟩)
    cases hdeed with
    | whole _ happlied => exact .whole hnarrows happlied hown hmem
    | begun _ hfailed hcount hwritten =>
        cases hwritten.symm.trans hown
        rcases hdue.rest_cases hown hmem with rfl | ⟨table, field, hstep⟩ | ⟨table, key, name, hstep, hname, rfl⟩
        · exact .begun hnarrows hfailed hcount hown
        · exact absurd (.default hstep hfailed hcount) (hnone report hreport)
        · refine absurd (.support hstep hfailed hcount hname fun htaken => ?_) (hnone report hreport)
          exact hbusy ⟨rfl, htaken⟩
  · obtain ⟨report, hreport, hstep⟩ := h.reported _ hdue
    refine List.mem_append_left _ ((h.deeds statement).2 ⟨report, hreport, ?_⟩)
    by_cases happlied : report.outcome = .applied
    · exact .whole (hstep ▸ hnarrows) happlied (hstep ▸ hown) hmem
    · obtain ⟨found, hfound, hany⟩ := Plan.any_liveIndexes_iff.1 htwin
      exact absurd (.twin hstep happlied hfound hany) (hnone report hreport)

/-- A second run makes up for the first if nothing is stranded. -/
theorem Partial.same : SameEntries (reporter.afterAll start (made ++ rest)) (reporter.afterAll start full) := by
  refine sameEntries_afterAll reporter (h.coherent_both hfull hreread hrest) (h.coherent_full hfull) ?_ ?_
  · intro table row hrow field hname
    exact h.alters_iff hfull hreread hrest (hasColumn_iff.2 ⟨row, hrow, hname.symm⟩)
  · intro statement hadds hbusy
    exact ⟨fun hmem => h.mem_full hfull hreread hrest hnone hmem hadds,
      fun hmem => h.of_mem_full hfull hreread hrest hnone hmem hadds hbusy⟩

end Forward

section Backward

variable {report : StepReport} (hreport : report ∈ reports)

include hreport

/-- An index that a step did not come to create is missing, unless the second run creates it. -/
theorem Partial.index_missing {index : NewIndex}
    (hserves : Serves target limit report.step (.createIndex index))
    (hindex : .createIndex index ∈ full) (hbusy : ¬HasIndex start index.name)
    (hnot : ¬Deed limit report (.createIndex index)) (hnever : ¬Due target reread report.step) :
    ¬SameEntries (reporter.afterAll start (made ++ rest)) (reporter.afterAll start full) := by
  intro hsame
  have hentry : .index index.table { name := index.name, columns := index.columns, unique := index.unique }
      ∈ reporter.afterAll start full :=
    ((h.coherent_full hfull).index_mem_iff reporter).2 (.inr ⟨index, hindex, fun hidle => hbusy hidle.2, rfl, rfl⟩)
  rcases ((h.coherent_both hfull hreread hrest).index_mem_iff reporter).1 ((hsame _).2 hentry) with
    hold | ⟨other, hother, -, -, hrow⟩
  · exact hbusy (hasIndex_iff.2 ⟨_, _, hold, rfl⟩)
  · have hname : index.name = other.name := congrArg IndexRow.name hrow
    rcases List.mem_append.1 hother with hother | hother
    · obtain ⟨again, hagain, hdeed⟩ := (h.deeds _).1 hother
      obtain ⟨rfl, rfl⟩ := h.eq_of_index hfull hreport hagain hserves (hdeed.serves (h.due again hagain)) hname
      exact hnot hdeed
    · obtain ⟨step, hdue, hserved, hdueAgain⟩ := h.due_of_rest hfull hreread hrest hother nofun
      obtain ⟨again, hagain, rfl⟩ := h.reported step hdue
      obtain ⟨rfl, -⟩ := h.eq_of_index hfull hreport hagain hserves hserved hname
      exact hnever hdueAgain

variable (hfailed : report.outcome ≠ .applied)

include hfailed

/-- A column that keeps its default is another column than the one that lost it. -/
theorem Partial.default_stays {table : String} {field : Field} (hstep : report.step = .addColumn table field)
    (hcount : report.statements.length = 2) :
    ¬SameEntries (reporter.afterAll start (made ++ rest)) (reporter.afterAll start full) := by
  intro hsame
  have hdue := h.due report hreport
  obtain ⟨own, hown, hsub⟩ := hfull.whole _ hdue (h.steady _ hdue)
  have hlength := h.recorded report hreport own hown
  rcases writes_addColumn (hstep ▸ hown) with rfl | ⟨value, rfl⟩
  · rw [hcount] at hlength
    exact absurd hlength (Nat.not_succ_le_self 1)
  · have hmade : .addColumn table field (some value) ∈ made :=
      (h.deeds _).2 ⟨report, hreport, .begun (h.steady _ hdue) hfailed hcount hown⟩
    have hcolumn : .column table (reporter.column field (some value)) ∈ reporter.afterAll start (made ++ rest) := by
      refine ((h.coherent_both hfull hreread hrest).mem_afterAll_iff reporter).2 (.inr ?_)
      exact ⟨_, List.mem_append_left _ hmade, id, List.mem_singleton_self _⟩
    rcases (h.coherent_full hfull).column_cases reporter ((hsame _).1 hcolumn) with
      ⟨old, hold, hrow⟩ | ⟨_, _, other, -, -, hrow⟩ | ⟨other, default, hadded, hrow⟩
    · have hname : field.name = old.name :=
        (congrArg ColumnRow.name hrow).trans (name_changedRowAll reporter)
      have hfree := hfull.carries.free reporter (hsub (List.mem_singleton_self _)) fun _ => id
      exact hfree (hasColumn_iff.2 ⟨old, hold, hname.symm⟩)
    · cases congrArg ColumnRow.default hrow
    · obtain ⟨adding, hadding, others, hothers, hmem⟩ := hfull.due _ hadded
      rw [hadding.addColumn_bare hothers hmem] at hrow
      cases congrArg ColumnRow.default hrow

/-- The index of a foreign key is not created once the foreign key is there. -/
theorem Partial.support_lost {table : String} {key : ForeignKey} {name : String}
    (hstep : report.step = .addForeignKey table key) (hcount : report.statements.length = 2)
    (hname : foreignKeyIndexName table key.column limit = .ok name) (hfree : ¬HasIndex start name) :
    ¬SameEntries (reporter.afterAll start (made ++ rest)) (reporter.afterAll start full) := by
  have hdue := h.due report hreport
  obtain ⟨own, hown, hsub⟩ := hfull.whole _ hdue (h.steady _ hdue)
  obtain ⟨constraint, again, hagain, rfl⟩ := writes_addForeignKey (hstep ▸ hown)
  cases hname.symm.trans hagain
  have hindex : .createIndex { name, table, columns := [key.column], supports := true } ∈ condense
      [.addForeignKey table key constraint, .createIndex { name, table, columns := [key.column], supports := true }] :=
    List.mem_cons_of_mem _ (List.mem_singleton_self _)
  refine h.index_missing hfull hreread hrest hreport (hdue.serves hown (.inl hindex)) (hsub hindex) hfree ?_ ?_
  · intro hdeed
    cases hdeed with
    | whole _ happlied => exact hfailed happlied
    | begun _ _ _ hwritten => cases hown.symm.trans hwritten
  · intro hdueAgain
    obtain ⟨others, hothers, hsubAgain⟩ := hrest.whole _ hdueAgain (h.steady _ hdue)
    cases hown.symm.trans hothers
    have hmade : .addForeignKey table key constraint ∈ made :=
      (h.deeds _).2 ⟨report, hreport, .begun (h.steady _ hdue) hfailed hcount hown⟩
    have hthere : HasConstraint (reporter.afterAll start made) table constraint :=
      hasConstraint_iff.2 ⟨_, ((h.halfway hfull).coherent.foreignKey_mem_iff reporter).2 (.inr ⟨key, hmade, rfl⟩)⟩
    exact hrest.carries.free reporter (hsubAgain List.mem_cons_self) (fun _ => id) hthere

/-- An index is not created once there is one like it. -/
theorem Partial.twin_taken {table : String} {index : Index} {found : Table} (hstep : report.step = .addIndex table index)
    (hfound : reread.table? table = some found) (htwin : found.indexes.any (sameIndex index) = true) :
    ¬SameEntries (reporter.afterAll start (made ++ rest)) (reporter.afterAll start full) := by
  have hdue := h.due report hreport
  obtain ⟨own, hown, hsub⟩ := hfull.whole _ hdue (h.steady _ hdue)
  obtain ⟨name, -, rfl⟩ := writes_addIndex (hstep ▸ hown)
  have hindex := hsub (List.mem_singleton_self _)
  have hserves := hdue.serves hown (.inl (List.mem_singleton_self _))
  refine h.index_missing hfull hreread hrest hreport hserves hindex ?_ ?_ ?_
  · exact hfull.carries.free reporter hindex fun _ hidle => Bool.false_ne_true hidle.1
  · intro hdeed
    cases hdeed with
    | whole _ happlied => exact hfailed happlied
    | begun _ _ hcount =>
        have hlength := h.recorded report hreport _ hown
        rw [hcount] at hlength
        exact absurd hlength (Nat.not_succ_le_self 1)
  · intro hdueAgain
    rw [hstep] at hdueAgain
    rw [hdueAgain.addIndex_missing hfound] at htwin
    cases htwin

end Backward

/-- A second run makes up for the first exactly if nothing is stranded. -/
theorem Partial.same_iff : SameEntries (reporter.afterAll start (made ++ rest)) (reporter.afterAll start full) ↔
    ∀ report ∈ reports, ¬Stranded limit start reread report := by
  constructor
  · intro hsame report hreport hstranded
    cases hstranded with
    | default hstep hfailed hcount => exact h.default_stays hfull hreread hrest hreport hfailed hstep hcount hsame
    | support hstep hfailed hcount hname hfree =>
        exact h.support_lost hfull hreread hrest hreport hfailed hstep hcount hname hfree hsame
    | twin hstep hfailed hfound htwin => exact h.twin_taken hfull hreread hrest hreport hfailed hstep hfound htwin hsame
  · exact h.same hfull hreread hrest

end Halted

/-- A run with failures is resumed by a second one, for every compiled model, every database and whichever
statements of the first run are refused, as long as no column is narrowed and the indexes of the plan have different
names. The database can be read again after the first run. If the second run has no failures, it leaves the tables,
columns, defaults, keys and indexes that one run without failures leaves, exactly if the first run has stranded no
step. -/
theorem resumed_iff {σ : Type} {client : Client σ} {reporter : Reporter} {view : σ → List Entry} {settings : Settings}
    {target live : Database} {statements : List Statement} {first whole : σ} (hcompiled : Model.Compiled target)
    (hkeeps : client.Keeps reporter (target.possibleStatements settings.limit) view) (hreal : settings.dryRun = false)
    (hrooted : Rooted (view first)) (hlive : readEntries (view first) = .ok live)
    (hsteady : ∀ step ∈ (Plan.between target live).steps, ¬step.Narrows)
    (hstatements : statementsOfSteps (Plan.between target live).steps settings.limit = .ok statements)
    (hnames : ((statements.filterMap Statement.index?).map (·.name)).Nodup) (hstart : view whole = view first)
    (hwhole : (applyPlan client (Plan.between target live) settings whole).1.success = true) :
    let plan := Plan.between target live
    let reports := (runSteps client settings plan.steps first).1
    let halted := (applyPlan client plan settings first).2
    ∃ reread, readEntries (view halted) = .ok reread ∧ ∀ again, view again = view halted →
      (applyPlan client (Plan.between target reread) settings again).1.success = true →
      (SameEntries (view (applyPlan client (Plan.between target reread) settings again).2)
          (view (applyPlan client plan settings whole).2)
        ↔ ∀ report ∈ reports, ¬Stranded settings.limit (view first) reread report) := by
  intro plan reports halted
  obtain ⟨full, hfull, hwholeView⟩ := complete_of_success hkeeps hreal hwhole
  rw [hstart] at hfull hwholeView
  obtain ⟨made, hpartial, hview⟩ := partial_of_run hcompiled.linked.toWellBuilt hkeeps hreal hrooted hlive
    hsteady hstatements hnames
  change view halted = _ at hview
  obtain ⟨reread, hreread⟩ := (hpartial.halfway hfull).reads
  refine ⟨reread, by rw [hview, hreread], fun again hagain hsuccess => ?_⟩
  obtain ⟨rest, hrest, hrestView⟩ := complete_of_success hkeeps hreal hsuccess
  rw [hagain, hview] at hrest hrestView
  rw [hrestView, hwholeView, ← afterAll_append]
  exact hpartial.same_iff hfull hreread hrest

/-- A model of orders with their clients. -/
def tradeFiles : List Model.Source :=
  [{ name := "trade.dmd", text := "model Client \x7b\n\x7d\nmodel Order \x7b\n  model Client\n\x7d\n" }]

def tradeClient : Table where
  name := "Client"
  fields := [{ name := "ClientID", type := { name := "integer" }, primaryKey := true, identity := true }]

/-- What the files say. -/
def tradeModel : Database where
  tables :=
    { items :=
        [tradeClient,
         { name := "Order"
           fields := [{ name := "OrderID", type := { name := "integer" }, primaryKey := true, identity := true },
                      { name := "ClientID", type := { name := "integer" } }]
           foreignKeys := [{ column := "ClientID", target := "Client", targetColumn := "ClientID"
                             relationship := .oneToOne }] }]
      distinct := by decide +kernel }

/-- A column of whole numbers as the catalog reports it. -/
def tradeColumn (name identity : String) : ColumnRow where
  name := name
  type := "integer"
  numericPrecision := some 32
  numericScale := some 0
  nullable := "NO"
  identity := identity

def tradeReporter : Reporter where
  type text := { type := text, numericPrecision := some 32, numericScale := some 0 }
  default value := value

/-- A database with clients. -/
def tradeStart : List Entry :=
  [.table "Client", .column "Client" (tradeColumn "ClientID" "YES"), .primaryKey "Client" "ClientID"]

/-- The index that supports the foreign key of the orders. -/
def tradeIndex : Entry := .index "Order" { name := "IX_Order_ClientID_FK", columns := ["ClientID"] }

/-- What is read of the database at first. -/
def tradeLive : Database where
  tables := { items := [tradeClient], distinct := by decide +kernel }

def tradePlan : Plan := Plan.between tradeModel tradeLive

def tradeServer : Client Server := Server.client tradeReporter (tradeModel.possibleStatements Sql.defaultLimit)

/-- A run in which the statements that are marked are refused. -/
def tradeRun (refusals : List Bool) : ApplyResult × Server :=
  applyPlan tradeServer tradePlan {} { entries := tradeStart, refusals }

/-- What is read after such a run. -/
def tradeReread (refusals : List Bool) : Database := (readEntries (tradeRun refusals).2.entries).toOption.getD {}

/-- The run that resumes it. -/
def tradeResumed (refusals : List Bool) : ApplyResult × Server :=
  applyPlan tradeServer (Plan.between tradeModel (tradeReread refusals)) {} (tradeRun refusals).2

theorem trade_assumptions :
    Model.Compiled tradeModel
      ∧ tradeServer.Keeps tradeReporter (tradeModel.possibleStatements Sql.defaultLimit) Server.entries
      ∧ Rooted tradeStart ∧ readEntries tradeStart = .ok tradeLive
      ∧ (∀ step ∈ tradePlan.steps, ¬step.Narrows)
      ∧ statementsOfSteps tradePlan.steps Sql.defaultLimit = .ok (tradePlan.steps.flatMap uncut)
      ∧ ((tradePlan.steps.flatMap uncut).flatMap Statement.generated).Nodup
      ∧ (((tradePlan.steps.flatMap uncut).filterMap Statement.index?).map (·.name)).Nodup
      ∧ (tradeRun []).1.success = true ∧ tradeIndex ∈ (tradeRun []).2.entries := by
  have hschema : (Model.compile {} tradeFiles).schema = tradeModel := by decide +kernel
  have hcompiled : Model.Compiled tradeModel := by
    rw [← hschema]
    exact .batch .empty tradeFiles
  have hrooted : ∀ entry ∈ tradeStart, .table entry.owner ∈ tradeStart := by decide
  have hsteady : ∀ step ∈ tradePlan.steps, ¬(step.action = .alterColumn ∧ step.widening = false) := by decide +kernel
  exact ⟨hcompiled, Server.keeps (by decide +kernel), hrooted, by decide +kernel, hsteady, by decide +kernel⟩

/-- If the foreign key is refused, nothing is stranded. If its index is, nothing is due any more. -/
theorem trade_resumed :
    ((tradeResumed [false, true]).1.success = true
        ∧ ∀ report ∈ (runSteps tradeServer {} tradePlan.steps { entries := tradeStart, refusals := [false, true] }).1,
          ¬Stranded Sql.defaultLimit tradeStart (tradeReread [false, true]) report)
      ∧ readEntries (tradeRun [false, false, true]).2.entries = .ok (tradeReread [false, false, true])
      ∧ (Plan.between tradeModel (tradeReread [false, false, true])).steps = []
      ∧ (tradeResumed [false, false, true]).1.success = true
      ∧ tradeIndex ∉ (tradeResumed [false, false, true]).2.entries := by decide +kernel

/-- The foreign key is refused at first. The second run adds it with its index. -/
theorem resumed_iff_trade :
    Model.Compiled tradeModel
      ∧ tradeServer.Keeps tradeReporter (tradeModel.possibleStatements Sql.defaultLimit) Server.entries
      ∧ Rooted tradeStart ∧ readEntries tradeStart = .ok tradeLive
      ∧ (∀ step ∈ tradePlan.steps, ¬step.Narrows)
      ∧ statementsOfSteps tradePlan.steps Sql.defaultLimit = .ok (tradePlan.steps.flatMap uncut)
      ∧ (((tradePlan.steps.flatMap uncut).filterMap Statement.index?).map (·.name)).Nodup
      ∧ (tradeRun []).1.success = true
      ∧ readEntries (tradeRun [false, true]).2.entries = .ok (tradeReread [false, true])
      ∧ (tradeResumed [false, true]).1.success = true
      ∧ SameEntries (tradeResumed [false, true]).2.entries (tradeRun []).2.entries := by
  obtain ⟨hcompiled, hkeeps, hrooted, hlive, hsteady, hstatements, -, hnames, hwhole, -⟩ := trade_assumptions
  obtain ⟨⟨hsuccess, hnone⟩, -⟩ := trade_resumed
  refine ⟨hcompiled, hkeeps, hrooted, hlive, hsteady, hstatements, hnames, hwhole, ?_⟩
  obtain ⟨reread, hreread, hresumed⟩ := @resumed_iff Server tradeServer tradeReporter Server.entries {} tradeModel
    tradeLive (tradePlan.steps.flatMap uncut) { entries := tradeStart, refusals := [false, true] }
    { entries := tradeStart } hcompiled hkeeps rfl hrooted hlive hsteady hstatements hnames rfl hwhole
  change readEntries (tradeRun [false, true]).2.entries = .ok reread at hreread
  obtain rfl : tradeReread [false, true] = reread := by rw [tradeReread, hreread]; rfl
  refine ⟨hreread, hsuccess, ?_⟩
  unfold tradeResumed
  exact (hresumed (tradeRun [false, true]).2 rfl hsuccess).2 hnone

/-- The index that supports the foreign key is refused when the foreign key is there already. The second plan has no
steps, so the index is never created. -/
theorem support_never_created :
    Model.Compiled tradeModel
      ∧ tradeServer.Keeps tradeReporter (tradeModel.possibleStatements Sql.defaultLimit) Server.entries
      ∧ Rooted tradeStart ∧ readEntries tradeStart = .ok tradeLive
      ∧ (∀ row ∈ (rowsOf tradeStart "Client").columns, row.default = none)
      ∧ (∀ step ∈ tradePlan.steps, ¬step.Narrows)
      ∧ statementsOfSteps tradePlan.steps Sql.defaultLimit = .ok (tradePlan.steps.flatMap uncut)
      ∧ ((tradePlan.steps.flatMap uncut).flatMap Statement.generated).Nodup
      ∧ (tradeRun []).1.success = true
      ∧ readEntries (tradeRun [false, false, true]).2.entries = .ok (tradeReread [false, false, true])
      ∧ (Plan.between tradeModel (tradeReread [false, false, true])).steps = []
      ∧ (tradeResumed [false, false, true]).1.success = true
      ∧ ¬SameEntries (tradeResumed [false, false, true]).2.entries (tradeRun []).2.entries := by
  obtain ⟨hcompiled, hkeeps, hrooted, hlive, hsteady, hstatements, hnames, -, hwhole, hindex⟩ := trade_assumptions
  obtain ⟨-, hreread, hsteps, hsuccess, hmissing⟩ := trade_resumed
  exact ⟨hcompiled, hkeeps, hrooted, hlive, by decide, hsteady, hstatements, hnames, hwhole, hreread, hsteps, hsuccess,
    fun hsame => hmissing ((hsame tradeIndex).2 hindex)⟩

end SchemaMigrate
