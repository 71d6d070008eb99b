import SchemaMigrate.Proofs.Model.Names
import SchemaMigrate.Proofs.Plan.Spelling
import SchemaMigrate.Proofs.Run.Deeds
import SchemaMigrate.Proofs.Run.Rehearsal
import SchemaMigrate.Proofs.Sql.Colons

/-!
Colons in what a run sends and records. Every text that goes out is a statement of a step, a query that measures a
column, or an update that makes data fit. Main statement: for a compiled model none of these has a colon, unless the
plan adds an index over a column with a colon, which is a token of an index line of the model.
-/

namespace SchemaMigrate

open Sql (Colonless NamedColonless)

/-- The texts that can be made for steps. -/
inductive Produced (limit : Int) (steps : List Step) : String → Prop
  | statement {step : Step} {texts : List String} {text : String} (hstep : step ∈ steps)
      (htexts : Sql.ofStep step limit = .ok texts) (hmem : text ∈ texts) : Produced limit steps text
  | query {step : Step} {field : Field} {text : String} (hstep : step ∈ steps) (hfield : field ∈ step.fields)
      (htext : Sql.measureQuery? step.table field = some text) : Produced limit steps text
  | fixup {step : Step} {field : Field} {text : String} (hstep : step ∈ steps) (hfield : field ∈ step.fields)
      (hmem : text ∈ Sql.fixups step.table field) : Produced limit steps text

/-- The indexes that the steps add are over columns without a colon, unless their names cannot be written. -/
def IndexesColonless (limit : Int) (steps : List Step) : Prop :=
  ∀ table index name, .addIndex table index ∈ steps →
    Sql.indexName table index.fields index.alternateKey limit = .ok name → ∀ column ∈ index.fields, Colonless column

/-- The text that goes out with an event. -/
def Event.text? : Event → Option String
  | .measured text | .recorded text => some text
  | .lossAllowed _ _ => none

def Call.text : Call → String
  | .execute text | .scalar text => text

section Steps

variable {sources : List Model.Source} {target actual : Database} {step : Step} {limit : Int} {text : String}

theorem ofStep_addIndex {table name : String} {index : Index}
    (h : Sql.indexName table index.fields index.alternateKey limit = .ok name) :
    ∃ text, Sql.ofStep (.addIndex table index) limit = .ok [text] := by
  obtain ⟨text, htext⟩ : ∃ text, Sql.addIndex table index limit = .ok text := by
    rw [Sql.addIndex, h]
    exact ⟨_, rfl⟩
  refine ⟨text, ?_⟩
  change (fun text => [text]) <$> Sql.addIndex table index limit = _
  rw [htext]
  rfl

theorem exists_indexName {table : String} {index : Index} {texts : List String}
    (h : Sql.ofStep (.addIndex table index) limit = .ok texts) :
    ∃ name, Sql.indexName table index.fields index.alternateKey limit = .ok name := by
  obtain ⟨text, htext, -⟩ := map_eq_ok (show (fun text => [text]) <$> Sql.addIndex table index limit = .ok texts from h)
  obtain ⟨name, hname, -⟩ := bind_eq_ok htext
  exact ⟨name, hname⟩

/-- The steps of a plan take their names from the model. -/
theorem namedColonless_of_step {token : String → Prop} (hworded : Model.WordedSchema token target)
    (hstep : step ∈ (Plan.between target actual).steps) : NamedColonless step := by
  have htable {table : Table} (hmem : table ∈ target.tables.items) : Colonless table.name :=
    Sql.colonless_of_isWordy (hworded.names table hmem)
  have hfield {table : Table} (hmem : table ∈ target.tables.items) {field : Field} (hfield : field ∈ table.fields) :
      Colonless field.name :=
    Sql.colonless_of_isWordy ((hworded.tables table hmem).fields field hfield)
  cases Plan.mem_between_iff.1 hstep with
  | createTable hmem => exact ⟨htable hmem, fun _ => hfield hmem, nofun⟩
  | addColumn hmem _ hown => exact ⟨htable hmem, List.forall_mem_singleton.2 (hfield hmem hown), nofun⟩
  | alterColumn _ hmem _ hown => exact ⟨htable hmem, List.forall_mem_singleton.2 (hfield hmem hown), nofun⟩
  | @addForeignKey table key hmem hkey =>
      obtain ⟨hcolumn, htarget, htargetColumn⟩ := (hworded.tables table hmem).foreignKeys key hkey
      refine ⟨htable hmem, List.forall_mem_nil _, fun other hother => ?_⟩
      cases hother
      exact ⟨Sql.colonless_of_isWordy hcolumn, Sql.colonless_of_isWordy htarget,
        Sql.colonless_of_isWordy htargetColumn⟩
  | addIndex hmem => exact ⟨htable hmem, List.forall_mem_nil _, nofun⟩

/-- A step that has an index adds it. -/
theorem eq_addIndex_of_index {index : Index} (hstep : step ∈ (Plan.between target actual).steps)
    (haction : step.action = .addIndex) (hindex : step.index = some index) : step = .addIndex step.table index := by
  cases Plan.mem_between_iff.1 hstep with
  | addIndex =>
      cases hindex
      rfl
  | _ => cases haction

/-- The texts of a plan have no colon exactly if the columns of its indexes have none. -/
theorem colonless_produced_iff (hmodel : Model.CompiledFrom sources target) :
    (∀ text, Produced limit (Plan.between target actual).steps text → Colonless text) ↔
      IndexesColonless limit (Plan.between target actual).steps := by
  have hnamed {step : Step} (hstep : step ∈ (Plan.between target actual).steps) : NamedColonless step :=
    namedColonless_of_step hmodel.worded hstep
  have htypes {step : Step} (hstep : step ∈ (Plan.between target actual).steps) :=
    Plan.declarable_of_step hmodel.compiled hstep
  constructor
  · intro htexts table index name hstep hname
    obtain ⟨text, hown⟩ := ofStep_addIndex hname
    have hcolonless := List.forall_mem_singleton.2 (htexts text (.statement hstep hown (List.mem_singleton_self _)))
    exact (Sql.colonless_ofStep_iff (hnamed hstep) (htypes hstep) hown).1 hcolonless rfl index rfl
  · intro hindexes text hproduced
    cases hproduced with
    | @statement step texts _ hstep htexts hmem =>
        refine (Sql.colonless_ofStep_iff (hnamed hstep) (htypes hstep) htexts).2 ?_ text hmem
        intro haction index hindex
        have hadd := eq_addIndex_of_index hstep haction hindex
        rw [hadd] at hstep htexts
        obtain ⟨name, hname⟩ := exists_indexName htexts
        exact hindexes step.table index name hstep hname
    | query hstep hfield htext =>
        exact Sql.colonless_measureQuery (hnamed hstep).table ((hnamed hstep).fields _ hfield) htext
    | fixup hstep hfield hmem =>
        exact Sql.colonless_fixups (hnamed hstep).table ((hnamed hstep).fields _ hfield) text hmem

/-- A column with a colon comes from an index line of the sources. -/
theorem tokenOf_of_colon (hmodel : Model.CompiledFrom sources target) {table column : String} {index : Index}
    (hstep : .addIndex table index ∈ (Plan.between target actual).steps) (hcolumn : column ∈ index.fields)
    (hcolon : ¬Colonless column) : Model.TokenOf sources column := by
  cases Plan.mem_between_iff.1 hstep with
  | addIndex hmem hindex =>
      rcases (hmodel.worded.tables _ hmem).indexes _ hindex column hcolumn with hwordy | htoken
      · exact absurd (Sql.colonless_of_isWordy hwordy) hcolon
      · exact htoken

end Steps

-- from here on the texts of queries and statements are not looked into
attribute [local irreducible] Sql.measureQuery? Sql.verdict Sql.fixups Sql.alterColumnType

section Runs

variable {σ : Type} {client : Client σ} {settings : Settings} {steps : List Step} {text : String} {event : Event}
  {events : List Event}

/-- What goes out with text is no remark. -/
theorem mem_calls (hmem : event ∈ events) (htext : event.text? = some text) : event ∈ calls events := by
  refine List.mem_filter.2 ⟨hmem, ?_⟩
  cases event with
  | lossAllowed table check => cases htext
  | measured query => rfl
  | recorded statement => rfl

/-- What goes out while a column is narrowed. -/
theorem NarrowCourse.texts {table : String} {field : Field} {state : σ} {outcome : Outcome}
    (h : NarrowCourse client settings table field state events outcome) (hmem : event ∈ events)
    (htext : event.text? = some text) :
    Sql.measureQuery? table field = some text ∨ text ∈ Sql.fixups table field ++ [Sql.alterColumnType table field] := by
  have halter : .recorded (Sql.alterColumnType table field) = event →
      text ∈ Sql.fixups table field ++ [Sql.alterColumnType table field] := by
    rintro rfl
    cases htext
    exact List.mem_append_right _ (List.mem_singleton_self _)
  have hmeasured {query : String} (hquery : Sql.measureQuery? table field = some query) :
      .measured query = event → Sql.measureQuery? table field = some text := by
    rintro rfl
    cases htext
    exact hquery
  cases h with
  | unchecked => exact .inr (halter (List.mem_singleton.1 hmem).symm)
  | unanswered query error hquery => exact .inl (hmeasured hquery (List.mem_singleton.1 hmem).symm)
  | refused query observed hquery => exact .inl (hmeasured hquery (List.mem_singleton.1 hmem).symm)
  | safe query observed _ hquery =>
      rcases List.mem_cons.1 hmem with hevent | hevent
      · exact .inl (hmeasured hquery hevent.symm)
      · exact .inr (halter (List.mem_singleton.1 hevent).symm)
  | cut query observed done rest _ hquery _ _ _ hsplit =>
      rcases List.mem_cons.1 hmem with hevent | hevent
      · exact .inl (hmeasured hquery hevent.symm)
      · obtain ⟨statement, hdone, rfl⟩ := List.mem_map.1 hevent
        cases htext
        rw [hsplit]
        exact .inr (List.mem_append_left _ hdone)

theorem narrowFields_texts {table : String} {fields : List Field} {state : σ}
    (hmem : event ∈ (narrowFields client settings table fields state).events) (htext : event.text? = some text) :
    ∃ field ∈ fields, Sql.measureQuery? table field = some text ∨
      text ∈ Sql.fixups table field ++ [Sql.alterColumnType table field] := by
  induction fields generalizing state with
  | nil => cases hmem
  | cons field fields ih =>
      have hfirst (hown : event ∈ (narrowField client settings table field state).events) :=
        (narrowField_spec client settings table field state).2.texts (mem_calls hown htext) htext
      rw [narrowFields] at hmem
      by_cases houtcome : (narrowField client settings table field state).outcome = .applied
      · rw [Course.andThen_applied houtcome] at hmem
        rcases List.mem_append.1 hmem with hown | hrest
        · exact ⟨field, List.mem_cons_self, hfirst hown⟩
        · obtain ⟨other, hother, htexts⟩ := ih hrest
          exact ⟨other, List.mem_cons_of_mem _ hother, htexts⟩
      · rw [Course.andThen_stopped houtcome] at hmem
        exact ⟨field, List.mem_cons_self, hfirst hmem⟩

/-- What goes out while a step is run is made for the step. -/
theorem runStep_texts {step : Step} {state : σ} (hstep : step ∈ steps)
    (hmem : event ∈ (runStep client settings step state).events) (htext : event.text? = some text) :
    Produced settings.limit steps text := by
  by_cases hnarrows : step.Narrows
  · rw [runStep_narrows hnarrows] at hmem
    obtain ⟨field, hfield, hquery | hstatement⟩ := narrowFields_texts hmem htext
    · exact .query hstep hfield hquery
    · rcases List.mem_append.1 hstatement with hfixup | halter
      · exact .fixup hstep hfield hfixup
      · rw [List.mem_singleton.1 halter]
        exact .statement hstep (ofStep_narrows hnarrows settings.limit) (List.mem_map_of_mem hfield)
  · rw [runStep_states hnarrows] at hmem
    cases htexts : Sql.ofStep step settings.limit with
    | error error =>
        rw [htexts] at hmem
        cases hmem
    | ok texts =>
        rw [htexts] at hmem
        obtain ⟨-, done, rest, hsplit, hevents, -⟩ := runStatements_spec client settings texts state
        obtain ⟨statement, hdone, rfl⟩ := List.mem_map.1 (hevents ▸ hmem)
        cases htext
        exact .statement hstep htexts (hsplit ▸ List.mem_append_left _ hdone)

/-- The step that adds an index records its statement, whatever comes of it. -/
theorem runStep_addIndex {table : String} {index : Index} {state : σ}
    (h : Sql.ofStep (.addIndex table index) settings.limit = .ok [text]) :
    (runStep client settings (.addIndex table index) state).events = [.recorded text] := by
  have hsteady : ¬(Step.addIndex table index).Narrows := fun hnarrows => by cases hnarrows.1
  rw [runStep_states hsteady, h]
  exact runStatements_single text state

theorem text?_of_statement? (h : event.statement? = some text) : event.text? = some text := by
  cases event <;> cases h
  rfl

theorem text?_of_call? {dryRun : Bool} {call : Call} (h : event.call? dryRun = some call) :
    event.text? = some call.text := by
  cases event with
  | measured query =>
      cases h
      rfl
  | recorded statement =>
      cases dryRun <;> cases h
      rfl
  | lossAllowed table check => cases h

/-- The texts that a run sends or lists are made for its steps. -/
theorem produced_of_run (plan : Plan) (state : σ) :
    ∀ text ∈ (applyPlan client plan settings state).1.statements
      ++ (applyPlan client.logged plan settings (state, [])).2.2.map Call.text,
      Produced settings.limit plan.steps text := by
  have hreports : ∀ report ∈ (runSteps client settings plan.steps state).1, ∀ event ∈ report.events, ∀ text,
      event.text? = some text → Produced settings.limit plan.steps text := by
    intro report hreport event hevent text htext
    obtain ⟨before, hevents, -⟩ := exists_runStep_of_mem hreport
    have hstep : report.step ∈ plan.steps :=
      map_step_runSteps client settings plan.steps state ▸ List.mem_map_of_mem hreport
    exact runStep_texts hstep (hevents ▸ hevent) htext
  refine List.forall_mem_append.2 ⟨fun text hmem => ?_, List.forall_mem_map.2 fun call hmem => ?_⟩
  · obtain ⟨report, hreport, hmem⟩ := List.mem_flatMap.1 hmem
    obtain ⟨event, hevent, hstatement⟩ := List.mem_filterMap.1 hmem
    exact hreports report hreport event hevent text (text?_of_statement? hstatement)
  · rw [log_applyPlan] at hmem
    obtain ⟨event, hmem, hcall⟩ := List.mem_filterMap.1 hmem
    obtain ⟨report, hreport, hevent⟩ := List.mem_flatMap.1 hmem
    exact hreports report hreport event hevent call.text (text?_of_call? hcall)

/-- A run lists the statements of the indexes that its plan adds. -/
theorem statement_of_addIndex {plan : Plan} {table : String} {index : Index} (state : σ)
    (hstep : .addIndex table index ∈ plan.steps)
    (h : Sql.ofStep (.addIndex table index) settings.limit = .ok [text]) :
    text ∈ (applyPlan client plan settings state).1.statements := by
  obtain ⟨report, hreport, hown⟩ := List.mem_map.1 ((map_step_runSteps client settings plan.steps state).symm ▸ hstep)
  obtain ⟨before, hevents, -⟩ := exists_runStep_of_mem hreport
  refine List.mem_flatMap.2 ⟨report, hreport, ?_⟩
  rw [StepReport.statements, hevents, hown, runStep_addIndex h]
  exact List.mem_singleton_self text

end Runs

/-- Colons in what goes out. For a compiled model, whatever is live, no statement, measuring query or update that can
be made for the plan has a colon if and only if the indexes of the plan are over columns without one; and so it is
with what a run records or sends, whatever the client answers and however the run is set. A column with a colon is
a token of an index line of the model. -/
theorem colonless_iff {sources : List Model.Source} {target : Database} (h : Model.CompiledFrom sources target)
    (actual : Database) :
    let plan := Plan.between target actual
    (∀ limit, (∀ text, Produced limit plan.steps text → Colonless text) ↔ IndexesColonless limit plan.steps)
    ∧ (∀ {σ : Type} (client : Client σ) (settings : Settings) (state : σ),
        (∀ text ∈ (applyPlan client plan settings state).1.statements
          ++ (applyPlan client.logged plan settings (state, [])).2.2.map Call.text, Colonless text) ↔
          IndexesColonless settings.limit plan.steps)
    ∧ ∀ table index, .addIndex table index ∈ plan.steps → ∀ column ∈ index.fields,
        Colonless column ∨ Model.TokenOf sources column := by
  intro plan
  refine ⟨fun limit => colonless_produced_iff h, fun client settings state => ⟨fun hrun => ?_, fun hindexes => ?_⟩, ?_⟩
  · intro table index name hstep hname
    obtain ⟨text, htext⟩ := ofStep_addIndex hname
    have hcolonless : Colonless text :=
      hrun text (List.mem_append_left _ (statement_of_addIndex state hstep htext))
    exact (Sql.colonless_ofStep_iff (namedColonless_of_step h.worded hstep) (List.forall_mem_nil _) htext).1
      (List.forall_mem_singleton.2 hcolonless) rfl index rfl
  · intro text hmem
    exact (colonless_produced_iff h).2 hindexes text (produced_of_run plan state text hmem)
  · intro table index hstep column hcolumn
    exact or_iff_not_imp_left.2 (tokenOf_of_colon h hstep hcolumn)

/-- Notes whose titles are cut, with a rank and an index over both. -/
def noteFiles : List Model.Source :=
  [{ name := "note.dmd"
     text := "model Note \x7b\n  string(20) Title @ReduceSize @AllowDataLoss\n  numeric(9,2) Rank\n"
       ++ "  index (Title, Rank) @unique\n\x7d\n" }]

/-- Notes with long titles. -/
def longTitles : Database where
  tables :=
    { items :=
        [{ name := "Note"
           fields := [{ name := "NoteID", type := { name := "integer" }, primaryKey := true, identity := true },
                      { name := "Title", type := { name := "varchar", precision := some 50 } }] }]
      distinct := by decide +kernel }

def notePlan : Plan := Plan.between (Model.compile {} noteFiles).schema longTitles

/-- A column is narrowed, one is added, and an index is created, without a colon in what any client gets. -/
theorem colonless_iff_note :
    Model.CompiledFrom noteFiles (Model.compile {} noteFiles).schema
    ∧ notePlan.steps.map (·.describe) =
      ["AlterColumn Note (Title)", "AddColumn Note (Rank)", "AddIndex Note (Title, Rank)"]
    ∧ ∀ {σ : Type} (client : Client σ) (settings : Settings) (state : σ),
      ∀ text ∈ (applyPlan client notePlan settings state).1.statements
        ++ (applyPlan client.logged notePlan settings (state, [])).2.2.map Call.text, Colonless text := by
  have hcompiled : Model.CompiledFrom noteFiles (Model.compile {} noteFiles).schema := .batch .empty noteFiles
  obtain ⟨hsteps, hindexes⟩ :
      notePlan.steps.map (·.describe) =
        ["AlterColumn Note (Title)", "AddColumn Note (Rank)", "AddIndex Note (Title, Rank)"]
        ∧ notePlan.steps.filterMap (·.index) = [{ fields := ["Title", "Rank"], unique := true }] := by
    decide +kernel
  have hcolonless (limit : Int) : IndexesColonless limit notePlan.steps := by
    intro table index name hstep _
    have hindex : index ∈ notePlan.steps.filterMap (·.index) := List.mem_filterMap.2 ⟨_, hstep, rfl⟩
    rw [hindexes, List.mem_singleton] at hindex
    rw [hindex]
    decide
  obtain ⟨-, hruns, -⟩ := colonless_iff hcompiled longTitles
  rw [← notePlan] at hruns
  exact ⟨hcompiled, hsteps, fun client settings state => (hruns client settings state).2 (hcolonless settings.limit)⟩

/-- An index over a token with a colon. -/
def colonFiles : List Model.Source :=
  [{ name := "note.dmd", text := "model T \x7b\n  string Note\n  index (Note :x)\n\x7d\n" }]

/-- The token of an index line is quoted as it stands, and `:x` is taken for a parameter. -/
theorem colon_in_index :
    let steps := (Plan.between (Model.compile {} colonFiles).schema {}).steps
    (Model.compile {} colonFiles).error = none
    ∧ Produced Sql.defaultLimit steps "CREATE INDEX \"IX_T_Note :x\" ON \"T\" (\"Note :x\")"
    ∧ ¬∀ text, Produced Sql.defaultLimit steps text → Colonless text := by
  intro steps
  obtain ⟨herror, hstep⟩ : (Model.compile {} colonFiles).error = none ∧
      .addIndex "T" { fields := ["Note :x"] } ∈ steps := by
    decide +kernel
  have hown : Sql.ofStep (.addIndex "T" { fields := ["Note :x"] }) Sql.defaultLimit =
      .ok ["CREATE INDEX \"IX_T_Note :x\" ON \"T\" (\"Note :x\")"] := by
    decide +kernel
  have hproduced := Produced.statement hstep hown (List.mem_singleton_self _)
  refine ⟨herror, hproduced, fun hall => ?_⟩
  have hcolon : ¬Colonless "CREATE INDEX \"IX_T_Note :x\" ON \"T\" (\"Note :x\")" := by decide
  exact hcolon (hall _ hproduced)

end SchemaMigrate
