import SchemaMigrate.Proofs.Catalog.Effects
import SchemaMigrate.Proofs.Plan.Due
import SchemaMigrate.Proofs.Run.Preview

/-!
What a run leaves behind in a database, told from its reports. The client is any client whose state has a catalog
that statements change as they should, or not at all. Main statement: a run has carried out the statements of the
steps that were applied, and of a step that stopped at its second statement the first one.
-/

namespace SchemaMigrate

open Catalog

/-- A client of a database. A statement is carried out on the catalog or refused without an effect, and only what
the catalog accepts is carried out. Updates and queries leave the catalog alone. -/
structure Client.Keeps {σ : Type} (client : Client σ) (reporter : Reporter) (known : List Sql.Statement)
    (view : σ → List Entry) : Prop where
  refuses : ∀ statement ∈ known, ∀ state message, (client.execute statement.text state).1 = .error message →
    view (client.execute statement.text state).2 = view state
  carries : ∀ statement ∈ known, ∀ state, (client.execute statement.text state).1 = .ok () →
    Accepts (view state) statement ∧
      view (client.execute statement.text state).2 = reporter.after (view state) statement
  updates : ∀ text, isUpdate text = true → ∀ state, view (client.execute text state).2 = view state
  queries : ∀ query state, view (client.scalar query state).2 = view state

/-- The statements that a step has left behind. A default that was dropped again is not told. -/
inductive Deed (limit : Int) (report : StepReport) : Sql.Statement → Prop
  | whole {own : List Sql.Statement} {statement : Sql.Statement} (hsteady : ¬report.step.Narrows)
      (houtcome : report.outcome = .applied) (hown : Sql.statementsOf report.step limit = .ok own)
      (hmem : statement ∈ Sql.condense own) : Deed limit report statement
  | begun {first : Sql.Statement} {rest : List Sql.Statement} (hsteady : ¬report.step.Narrows)
      (houtcome : report.outcome ≠ .applied) (hcount : report.statements.length = 2)
      (hown : Sql.statementsOf report.step limit = .ok (first :: rest)) : Deed limit report first

/-- What a step has left behind is what it is for. -/
theorem Deed.serves {target live : Database} {limit : Int} {report : StepReport} {statement : Sql.Statement}
    (hdue : Due target live report.step) (h : Deed limit report statement) :
    Sql.Serves target limit report.step statement := by
  cases h with
  | whole _ _ hown hmem => exact hdue.serves hown (.inl hmem)
  | begun _ _ _ hown => exact hdue.serves hown (.inr ⟨_, rfl⟩)

section Deeds

variable {limit : Int} {report : StepReport} {own done rest : List Sql.Statement} {statement : Sql.Statement}

theorem not_deed_of_unwritten {error : Sql.SqlError} (h : Sql.statementsOf report.step limit = .error error) :
    ¬Deed limit report statement := by
  intro hdeed
  cases hdeed with
  | whole _ _ hown => cases h.symm.trans hown
  | begun _ _ _ hown => cases h.symm.trans hown

/-- A step that was applied leaves all its statements behind. -/
theorem deed_applied_iff (hsteady : ¬report.step.Narrows) (houtcome : report.outcome = .applied)
    (hown : Sql.statementsOf report.step limit = .ok own) :
    Deed limit report statement ↔ statement ∈ Sql.condense own := by
  constructor
  · intro hdeed
    cases hdeed with
    | whole _ _ hwritten hmem =>
        cases hown.symm.trans hwritten
        exact hmem
    | begun _ hfailed => exact absurd houtcome hfailed
  · exact .whole hsteady houtcome hown

/-- A step that was stopped after some of its statements leaves them behind if it is one statement. -/
theorem deed_stopped_iff (hsteady : ¬report.step.Narrows) (houtcome : report.outcome ≠ .applied)
    (hown : Sql.statementsOf report.step limit = .ok (done ++ rest))
    (hcount : report.statements.length = done.length + 1) :
    Deed limit report statement ↔ done = [statement] := by
  constructor
  · intro hdeed
    cases hdeed with
    | whole _ happlied => exact absurd happlied houtcome
    | begun _ _ htwo hwritten =>
        have hsplit := Except.ok.inj (hown.symm.trans hwritten)
        obtain ⟨first, rfl⟩ := List.length_eq_one_iff.1 (Nat.succ.inj (hcount.symm.trans htwo))
        rw [(List.cons.inj hsplit).1]
  · rintro rfl
    exact .begun hsteady houtcome hcount hown

end Deeds

section Reports

variable {σ : Type} {client : Client σ} {settings : Settings} {steps : List Step} {state : σ} {report : StepReport}

theorem exists_runStep_of_mem (h : report ∈ (runSteps client settings steps state).1) : ∃ before,
    report.events = (runStep client settings report.step before).events
      ∧ report.outcome = (runStep client settings report.step before).outcome := by
  obtain ⟨earlier, later, hsplit⟩ := List.append_of_mem h
  obtain ⟨-, -, hevents, houtcome⟩ := runSteps_report hsplit
  exact ⟨_, hevents, houtcome⟩

/-- A step that is no narrowing has statements and records at most these, or it fails. -/
theorem steady_of_mem (h : report ∈ (runSteps client settings steps state).1) (hsteady : ¬report.step.Narrows) :
    (∃ error, Sql.statementsOf report.step settings.limit = .error error ∧ report.outcome = .failed (.statement error)) ∨
    ∃ own, Sql.statementsOf report.step settings.limit = .ok own ∧ report.statements.length ≤ own.length
      ∧ ∀ check, report.outcome ≠ .skipped check := by
  obtain ⟨before, hevents, houtcome⟩ := exists_runStep_of_mem h
  rw [StepReport.statements, hevents, houtcome, runStep_states hsteady, ← Sql.text_statementsOf]
  cases Sql.statementsOf report.step settings.limit with
  | error error => exact .inl ⟨error, rfl, rfl⟩
  | ok own =>
      refine .inr ⟨own, rfl, ?_, runStatements_ran _ before⟩
      obtain ⟨-, done, rest, hsplit, hdone, -⟩ :=
        runStatements_spec client settings (own.map Sql.Statement.text) before
      change (List.filterMap _ (runStatements client settings (own.map Sql.Statement.text) before).events).length ≤ _
      rw [hdone, statements_recorded]
      have hlength := congrArg List.length hsplit
      rw [List.length_map, List.length_append] at hlength
      omega

end Reports

section Running

variable {σ : Type} {client : Client σ} {settings : Settings} {reporter : Reporter} {known : List Sql.Statement}
  {view : σ → List Entry}

/-- Statements are carried out up to the first that is refused. -/
theorem runStatements_carries (hkeeps : client.Keeps reporter known view) (hreal : settings.dryRun = false)
    {own : List Sql.Statement} (hown : own ⊆ known) (state : σ) :
    let course := runStatements client settings (own.map Sql.Statement.text) state
    ∃ done rest, own = done ++ rest ∧ reporter.Carries (view state) done
      ∧ view course.state = reporter.afterAll (view state) done
      ∧ (course.outcome = .applied ∧ rest = [] ∨ (∃ error, course.outcome = .failed error) ∧ rest ≠ []
        ∧ (course.events.filterMap Event.statement?).length = done.length + 1) := by
  induction own generalizing state with
  | nil => exact ⟨[], [], rfl, trivial, rfl, .inl ⟨rfl, rfl⟩⟩
  | cons statement own ih =>
      obtain ⟨hknown, hown⟩ := List.cons_subset.1 hown
      have hperform : perform client settings statement.text state = client.execute statement.text state := by
        rw [perform, hreal]
        rfl
      rw [List.map_cons, runStatements, hperform]
      cases hanswer : client.execute statement.text state with
      | mk answer next =>
          have hnext : (client.execute statement.text state).2 = next := by rw [hanswer]
          cases answer with
          | error message =>
              refine ⟨[], statement :: own, rfl, trivial, ?_, .inr ⟨⟨_, rfl⟩, List.cons_ne_nil _ _, rfl⟩⟩
              rw [← hnext]
              exact hkeeps.refuses statement hknown state message (by rw [hanswer])
          | ok _ =>
              obtain ⟨haccepts, hview⟩ := hkeeps.carries statement hknown state (by rw [hanswer])
              rw [hnext] at hview
              obtain ⟨done, rest, hsplit, hcarries, hfinal, houtcome⟩ := ih hown next
              rw [hview] at hcarries hfinal
              refine ⟨statement :: done, rest, by rw [hsplit, List.cons_append], ⟨haccepts, hcarries⟩, hfinal, ?_⟩
              rcases houtcome with happlied | ⟨herror, hrest, hcount⟩
              · exact .inl happlied
              · exact .inr ⟨herror, hrest, congrArg (· + 1) hcount⟩

/-- Where all statements of a step are carried out, they may be told without the default that is dropped again. -/
theorem carries_condense {target live : Database} {step : Step} {limit : Int} {own : List Sql.Statement}
    {entries : List Entry} (hdue : Due target live step) (hown : Sql.statementsOf step limit = .ok own)
    (h : reporter.Carries entries own) : reporter.Carries entries (Sql.condense own)
      ∧ reporter.afterAll entries (Sql.condense own) = reporter.afterAll entries own := by
  cases hdue.writes hown with
  | fillColumn table field value =>
      obtain ⟨haccepts, -⟩ := h
      obtain ⟨hfree, hfounded⟩ := haccepts.resolve_left id
      exact ⟨⟨.inr ⟨hfree, hfounded⟩, trivial⟩, (after_dropDefault reporter hfree (some value)).symm⟩
  | createTable | addColumn | alterColumn | addForeignKey | addIndex => exact ⟨h, rfl⟩

/-- A step that is no narrowing leaves its deeds behind, and nothing else. -/
theorem runStep_steady_deeds (hkeeps : client.Keeps reporter known view) (hreal : settings.dryRun = false)
    {target live : Database} {step : Step} (hdue : Due target live step) (hsteady : ¬step.Narrows)
    (hknown : ∀ own, Sql.statementsOf step settings.limit = .ok own → own ⊆ known) (state : σ) :
    let course := runStep client settings step state
    ∃ deeds, reporter.Carries (view state) deeds ∧ view course.state = reporter.afterAll (view state) deeds
      ∧ ∀ statement, statement ∈ deeds ↔
        Deed settings.limit { step, events := course.events, outcome := course.outcome } statement := by
  intro course
  have hcourse : course = _ := runStep_states hsteady state
  rw [← Sql.text_statementsOf] at hcourse
  cases hown : Sql.statementsOf step settings.limit with
  | error error =>
      rw [hown] at hcourse
      exact ⟨[], trivial, by rw [hcourse]; rfl, fun statement =>
        iff_of_false List.not_mem_nil (not_deed_of_unwritten hown)⟩
  | ok own =>
      rw [hown] at hcourse
      obtain ⟨done, rest, rfl, hcarries, hview, houtcome⟩ :=
        runStatements_carries hkeeps hreal (hknown own hown) state
      change course = runStatements client settings ((done ++ rest).map Sql.Statement.text) state at hcourse
      rw [← hcourse] at hview houtcome
      rcases houtcome with ⟨happlied, rfl⟩ | ⟨⟨error, hfailed⟩, hrest, hcount⟩
      · rw [List.append_nil] at hown
        obtain ⟨hcondensed, hsame⟩ := carries_condense hdue hown hcarries
        exact ⟨Sql.condense done, hcondensed, hview.trans hsame.symm, fun statement =>
          (deed_applied_iff hsteady happlied hown).symm⟩
      · have hunapplied : course.outcome ≠ .applied := by
          rw [hfailed]
          nofun
        let report : StepReport := { step, events := course.events, outcome := course.outcome }
        have hdeed (statement : Sql.Statement) : Deed settings.limit report statement ↔ done = [statement] :=
          deed_stopped_iff hsteady hunapplied hown hcount
        refine ⟨done, hcarries, hview, fun statement => ?_⟩
        rw [hdeed]
        -- a step has two statements at most, and one of them was not carried out
        have hlength := (hdue.writes hown).length_le
        rw [List.length_append] at hlength
        have hrest := List.length_pos_iff.2 hrest
        match done, hlength with
        | [], _ => simp
        | [first], _ => simp [eq_comm]
        | _ :: _ :: _, hlength => simp only [List.length_cons] at hlength; omega

attribute [local irreducible] Sql.measureQuery? Sql.verdict Sql.fixups Sql.alterColumnType

/-- Updates leave the catalog alone, so a narrowing alters its column or does nothing to it. -/
theorem runStatements_updates (hkeeps : client.Keeps reporter known view) (hreal : settings.dryRun = false)
    {table : String} {field : Field} (hknown : .alterType table field ∈ known) {updates : List String}
    (hupdates : ∀ text ∈ updates, isUpdate text = true) (state : σ) :
    ∃ deeds, (∀ statement ∈ deeds, statement = .alterType table field) ∧ reporter.Carries (view state) deeds
      ∧ view (runStatements client settings (updates ++ [Sql.alterColumnType table field]) state).state =
        reporter.afterAll (view state) deeds := by
  induction updates generalizing state with
  | nil =>
      obtain ⟨done, rest, hsplit, hcarries, hview, -⟩ :=
        runStatements_carries hkeeps hreal (List.cons_subset.2 ⟨hknown, List.nil_subset _⟩) state
      rw [List.map_singleton, Sql.text_alterType] at hview
      refine ⟨done, fun statement hmem => ?_, hcarries, hview⟩
      exact List.mem_singleton.1 (hsplit ▸ List.mem_append_left rest hmem)
  | cons update updates ih =>
      obtain ⟨hupdate, hupdates⟩ := List.forall_mem_cons.1 hupdates
      have hperform : perform client settings update state = client.execute update state := by
        rw [perform, hreal]
        rfl
      have hview := hkeeps.updates update hupdate state
      rw [List.cons_append, runStatements, hperform]
      cases hanswer : client.execute update state with
      | mk answer next =>
          rw [hanswer] at hview
          cases answer with
          | error message => exact ⟨[], fun _ hmem => absurd hmem List.not_mem_nil, trivial, hview⟩
          | ok _ =>
              obtain ⟨deeds, halter, hcarries, hfinal⟩ := ih hupdates next
              rw [show view next = view state from hview] at hcarries hfinal
              exact ⟨deeds, halter, hcarries, hfinal⟩

theorem narrowField_deeds (hkeeps : client.Keeps reporter known view) (hreal : settings.dryRun = false)
    {table : String} {field : Field} (hknown : .alterType table field ∈ known) (state : σ) :
    ∃ deeds, (∀ statement ∈ deeds, statement = .alterType table field) ∧ reporter.Carries (view state) deeds
      ∧ view (narrowField client settings table field state).state = reporter.afterAll (view state) deeds := by
  have hidle : ∀ next, view next = view state → ∃ deeds : List Sql.Statement,
      (∀ statement ∈ deeds, statement = .alterType table field) ∧ reporter.Carries (view state) deeds
        ∧ view next = reporter.afterAll (view state) deeds :=
    fun next hnext => ⟨[], fun _ hmem => absurd hmem List.not_mem_nil, trivial, hnext⟩
  have hcheck : view (checkNarrowing client table field state).2.2 = view state := by
    unfold checkNarrowing
    cases Sql.measureQuery? table field with
    | none => rfl
    | some query =>
        have hquery := hkeeps.queries query state
        simp only [measure]
        cases hanswer : client.scalar query state with
        | mk answer next =>
            rw [hanswer] at hquery
            cases answer with
            | error message => exact hquery
            | ok cell => exact hquery
  unfold narrowField
  cases hmeasured : checkNarrowing client table field state with
  | mk check rest =>
      obtain ⟨events, next⟩ := rest
      rw [hmeasured] at hcheck
      have hcheck : view next = view state := hcheck
      cases check with
      | error error => exact hidle next hcheck
      | ok check =>
          simp only
          split
          · have hrun := runStatements_updates hkeeps hreal hknown (fun _ hmem => absurd hmem List.not_mem_nil) next
            rwa [hcheck] at hrun
          · split
            · have hrun := runStatements_updates hkeeps hreal hknown (@isUpdate_fixups table field) next
              rwa [hcheck] at hrun
            · exact hidle next hcheck

theorem state_narrowFields_singleton (table : String) (field : Field) (state : σ) :
    (narrowFields client settings table [field] state).state = (narrowField client settings table field state).state := by
  rw [narrowFields, Course.andThen]
  split <;> rfl

/-- A step leaves its deeds behind, and at most the alteration if it is a narrowing. -/
theorem runStep_deeds {target live : Database}
    (hkeeps : client.Keeps reporter (target.possibleStatements settings.limit) view) (hreal : settings.dryRun = false)
    {step : Step} (hdue : Due target live step) (state : σ) :
    let course := runStep client settings step state
    ∃ deeds, reporter.Carries (view state) deeds ∧ view course.state = reporter.afterAll (view state) deeds
      ∧ (∀ statement, Deed settings.limit { step, events := course.events, outcome := course.outcome } statement →
        statement ∈ deeds)
      ∧ ∀ statement ∈ deeds, Deed settings.limit { step, events := course.events, outcome := course.outcome } statement
        ∨ ∃ table field, step = .alterColumn table field false ∧ statement = .alterType table field := by
  by_cases hnarrows : step.Narrows
  · obtain ⟨table, field, rfl⟩ := hdue.of_narrows hnarrows
    have hknown : .alterType table field ∈ target.possibleStatements settings.limit :=
      hdue.statement_mem rfl (List.mem_singleton_self _)
    obtain ⟨deeds, halter, hcarries, hview⟩ := narrowField_deeds hkeeps hreal hknown state
    refine ⟨deeds, hcarries, ?_, fun statement hdeed => ?_, fun statement hmem => ?_⟩
    · rw [runStep_narrows hnarrows]
      exact (congrArg view (state_narrowFields_singleton table field state)).trans hview
    · cases hdeed with
      | whole hsteady => exact absurd hnarrows hsteady
      | begun hsteady => exact absurd hnarrows hsteady
    · exact .inr ⟨table, field, rfl, halter statement hmem⟩
  · obtain ⟨deeds, hcarries, hview, hdeeds⟩ := runStep_steady_deeds hkeeps hreal hdue hnarrows
      (fun own hown statement hmem => hdue.statement_mem hown hmem) state
    exact ⟨deeds, hcarries, hview, fun statement => (hdeeds statement).2,
      fun statement hmem => .inl ((hdeeds statement).1 hmem)⟩

/-- A run over due steps leaves the deeds of its reports behind, and what was narrowed. -/
theorem runSteps_deeds {target live : Database}
    (hkeeps : client.Keeps reporter (target.possibleStatements settings.limit) view) (hreal : settings.dryRun = false)
    {steps : List Step} (hdue : ∀ step ∈ steps, Due target live step) (state : σ) :
    let run := runSteps client settings steps state
    ∃ deeds, reporter.Carries (view state) deeds ∧ view run.2 = reporter.afterAll (view state) deeds
      ∧ (∀ report ∈ run.1, ∀ statement, Deed settings.limit report statement → statement ∈ deeds)
      ∧ ∀ statement ∈ deeds, (∃ report ∈ run.1, Deed settings.limit report statement)
        ∨ ∃ table field, .alterColumn table field false ∈ steps ∧ statement = .alterType table field := by
  induction steps generalizing state with
  | nil =>
      exact ⟨[], trivial, rfl, fun _ hmem => absurd hmem List.not_mem_nil, fun _ hmem => absurd hmem List.not_mem_nil⟩
  | cons step steps ih =>
      obtain ⟨hstep, hdue⟩ := List.forall_mem_cons.1 hdue
      obtain ⟨first, hcarries, hview, hmem, hdeeds⟩ := runStep_deeds hkeeps hreal hstep state
      obtain ⟨rest, hcarriesRest, hviewRest, hmemRest, hdeedsRest⟩ := ih hdue (runStep client settings step state).state
      rw [hview] at hcarriesRest hviewRest
      refine ⟨first ++ rest, (carries_append_iff reporter).2 ⟨hcarries, hcarriesRest⟩, ?_, ?_, ?_⟩
      · rw [afterAll_append]
        exact hviewRest
      · intro report hreport statement hdeed
        rcases List.mem_cons.1 hreport with rfl | hreport
        · exact List.mem_append_left _ (hmem statement hdeed)
        · exact List.mem_append_right _ (hmemRest report hreport statement hdeed)
      · intro statement hstatement
        rcases List.mem_append.1 hstatement with hstatement | hstatement
        · exact (hdeeds statement hstatement).imp (fun hdeed => ⟨_, List.mem_cons_self, hdeed⟩)
            fun ⟨table, field, hnarrow, halter⟩ => ⟨table, field, hnarrow ▸ List.mem_cons_self, halter⟩
        · exact (hdeedsRest statement hstatement).imp
            (fun ⟨report, hreport, hdeed⟩ => ⟨report, List.mem_cons_of_mem _ hreport, hdeed⟩)
            fun ⟨table, field, hnarrow, halter⟩ => ⟨table, field, List.mem_cons_of_mem _ hnarrow, halter⟩

end Running

/-- A catalog, and which of the next statements will be refused whatever they are. -/
structure Server where
  entries : List Entry
  refusals : List Bool := []
deriving Repr, DecidableEq

/-- A server that knows statements by their texts. -/
def Server.client (reporter : Reporter) (known : List Sql.Statement) : Client Server where
  execute text server :=
    let later := { server with refusals := server.refusals.tail }
    if server.refusals.headD false then (.error "refused", later)
    else match known.find? (·.text == text) with
      | some statement =>
          if Accepts server.entries statement then
            (.ok (), { later with entries := reporter.after server.entries statement })
          else (.error "not accepted", later)
      | none => if isUpdate text then (.ok (), later) else (.error "not known", later)
  scalar _ server := (.ok .null, server)

/-- If the statements that plans for a model can send have different texts, the server keeps to the rules. -/
theorem Server.keeps {reporter : Reporter} {target : Database} {limit : Int}
    (htexts : ((target.possibleStatements limit).map Sql.Statement.text).Nodup) :
    (Server.client reporter (target.possibleStatements limit)).Keeps reporter (target.possibleStatements limit)
      Server.entries := by
  have hupdates : ∀ statement ∈ target.possibleStatements limit, isUpdate statement.text = false :=
    fun statement _ => not_isUpdate_text statement
  generalize target.possibleStatements limit = known at htexts hupdates ⊢
  have hfind : ∀ statement ∈ known, known.find? (·.text == statement.text) = some statement := by
    intro statement hmem
    cases hfound : known.find? (·.text == statement.text) with
    | none => exact absurd (beq_self_eq_true _) (List.find?_eq_none.1 hfound statement hmem)
    | some other =>
        have htext : (other.text == statement.text) = true := List.find?_some (p := fun known : Sql.Statement => known.text == statement.text) hfound
        rw [List.inj_on_of_nodup_map htexts (List.mem_of_find?_eq_some hfound) hmem (beq_iff_eq.1 htext)]
  refine ⟨?_, ?_, ?_, fun _ _ => rfl⟩
  · intro statement hmem server message h
    simp only [Server.client, hfind statement hmem] at h ⊢
    split at h
    · rename_i hrefused
      rw [if_pos hrefused]
    · rename_i hpassed
      split at h
      · cases h
      · rename_i hrejected
        rw [if_neg hpassed, if_neg hrejected]
  · intro statement hmem server h
    simp only [Server.client, hfind statement hmem] at h ⊢
    split at h
    · cases h
    · rename_i hpassed
      split at h
      · rename_i haccepts
        rw [if_neg hpassed, if_pos haccepts]
        exact ⟨haccepts, rfl⟩
      · cases h
  · intro text hupdate server
    have hunknown : known.find? (·.text == text) = none := by
      rw [List.find?_eq_none]
      intro statement hmem htext
      rw [← beq_iff_eq.1 htext, hupdates statement hmem] at hupdate
      cases hupdate
    simp only [Server.client, hunknown, hupdate]
    split <;> rfl

end SchemaMigrate
