import SchemaMigrate.Proofs.Model.Links
import SchemaMigrate.Proofs.Run.Colons
import SchemaMigrate.Proofs.Sql.Unqualified
import SchemaMigrate.Run.Migration

/-!
Where a migration acts. It reads the schema that is configured, but the texts that it sends name their tables by
themselves and select no schema. Main statement: whatever is configured, compiled, read and answered, what a migration
sends is confined to the configured schema exactly if it sends nothing or this schema is current from the first.

The parts of a migration are actions on a transcript that may end in an error. Each of them keeps what is known of
the transcript however it ends, and hands on what the next part needs: a compiled model, and fields that it can store.
Which schema is current is up to the server and the URL, so nothing is said about it.
-/

namespace SchemaMigrate

section Actions

variable {ε σ α β : Type}

/-- An action keeps a property of the state, however it ends, and the value that it may have has another one. -/
def Keeps (kept : σ → Prop) (action : ExceptT ε (StateM σ) α) (result : α → Prop) : Prop :=
  ∀ state, kept state →
    kept (action.run.run state).2 ∧ ∀ value, (action.run.run state).1 = .ok value → result value

variable {kept : σ → Prop} {result : α → Prop}

theorem keeps_pure {value : α} (h : result value) : Keeps kept (pure value : ExceptT ε (StateM σ) α) result := by
  intro state hstate
  refine ⟨hstate, fun other hother => ?_⟩
  cases hother
  exact h

theorem keeps_throw (error : ε) : Keeps kept (throw error : ExceptT ε (StateM σ) α) result :=
  fun _ hstate => ⟨hstate, nofun⟩

theorem keeps_modify {change : σ → σ} (h : ∀ state, kept state → kept (change state)) :
    Keeps kept (modify change : ExceptT ε (StateM σ) Unit) fun _ => True :=
  fun state hstate => ⟨h state hstate, fun _ _ => trivial⟩

theorem run_bind (first : ExceptT ε (StateM σ) α) (rest : α → ExceptT ε (StateM σ) β) (state : σ) :
    (first >>= rest).run.run state =
      match first.run.run state with
      | (.ok value, next) => (rest value).run.run next
      | (.error error, next) => (.error error, next) := by
  rw [ExceptT.run_bind, StateT.run_bind]
  rcases first.run.run state with ⟨_ | _, next⟩ <;> rfl

theorem Keeps.bind {first : ExceptT ε (StateM σ) α} {rest : α → ExceptT ε (StateM σ) β} {final : β → Prop}
    (hfirst : Keeps kept first result) (hrest : ∀ value, result value → Keeps kept (rest value) final) :
    Keeps kept (first >>= rest) final := by
  intro state hstate
  obtain ⟨hnext, hvalue⟩ := hfirst state hstate
  rw [run_bind]
  cases hrun : first.run.run state with
  | mk answer next =>
      rw [hrun] at hnext hvalue
      cases answer with
      | error error => exact ⟨hnext, nofun⟩
      | ok value => exact hrest value (hvalue value rfl) next hnext

theorem Keeps.mono {action : ExceptT ε (StateM σ) α} {other : α → Prop} (h : Keeps kept action result)
    (hother : ∀ value, result value → other value) : Keeps kept action other :=
  fun state hstate => ⟨(h state hstate).1, fun value hvalue => hother value ((h state hstate).2 value hvalue)⟩

end Actions

namespace Catalog

/-- The schema that a query is about. -/
def Query.schema : Query → String
  | .tables schema | .columns schema _ | .primaryKey schema _ | .foreignKeys schema _ | .indexes schema _ => schema

/-- All queries are about one schema. -/
def About (schema : String) (queries : List Query) : Prop := ∀ query ∈ queries, query.schema = schema

section Reading

variable {α : Type} {source : Source} {schema : String}

theorem keeps_ask {query : Query} (hquery : query.schema = schema) (answer : Except String α) :
    Keeps (About schema) (ask query answer) fun _ => True := by
  refine (keeps_modify fun queries hqueries => ?_).bind fun _ _ => ?_
  · exact List.forall_mem_append.2 ⟨hqueries, List.forall_mem_singleton.2 hquery⟩
  · cases answer with
    | error message => exact keeps_throw _
    | ok rows => exact keeps_pure trivial

theorem keeps_readTable (table : String) : Keeps (About schema) (readTable source schema table) fun _ => True := by
  unfold readTable
  refine Keeps.bind (keeps_ask (by rfl) _) fun columns _ => Keeps.bind (keeps_ask (by rfl) _) fun primaryKey _ => ?_
  exact Keeps.bind (keeps_ask (by rfl) _) fun foreignKeys _ => Keeps.bind (keeps_ask (by rfl) _) fun indexes _ =>
    keeps_pure trivial

theorem keeps_readTables (db : Database) (names : List String) :
    Keeps (About schema) (readTables source schema db names) fun _ => True := by
  induction names generalizing db with
  | nil => exact keeps_pure trivial
  | cons name names ih =>
      refine (keeps_readTable name).bind fun table _ => ?_
      cases db.addTable table with
      | error error => exact keeps_throw _
      | ok next => exact ih next

theorem keeps_tableNames : Keeps (About schema) (tableNames source schema) fun _ => True := by
  unfold tableNames
  exact Keeps.bind (keeps_ask (by rfl) _) fun names _ => keeps_pure trivial

/-- Introspection asks about no other schema. -/
theorem keeps_introspect : Keeps (About schema) (introspect source schema) fun _ => True := by
  unfold introspect
  exact Keeps.bind keeps_tableNames fun names _ => keeps_readTables {} names

/-- A visit makes the queries of its inquiry. -/
theorem query_mem_visit {url : String} {inquiry : Inquiry α} {query : Query} :
    .query query ∈ (visit url inquiry).2 ↔ query ∈ (inquiry.run.run []).2 := by
  change .query query ∈ VisitEvent.connect _ :: (inquiry.run.run []).2.map VisitEvent.query ++ [.close] ↔ _
  simp

theorem about_visit {url : String} {query : Query}
    (hmem : .query query ∈ (visit url (introspect source schema)).2) : query.schema = schema :=
  (keeps_introspect [] (List.forall_mem_nil _)).1 query (query_mem_visit.1 hmem)

end Reading

end Catalog

namespace Postgres

def SessionEvent.text? {ν : Type} : SessionEvent ν → Option String
  | .sql text _ => some text
  | .engine .. | .connect | .begin | .commit | .rollback | .close | .dispose => none

/-- The texts that a session has sent, in order. -/
def Session.texts {ν : Type} (session : Session ν) : List String := session.events.filterMap SessionEvent.text?

section Sessions

variable {ν : Type} (session : Session ν)

theorem texts_log (event : SessionEvent ν) : (session.log event).texts = session.texts ++ event.text?.toList := by
  rw [Session.texts, Session.log, List.filterMap_append]
  cases event <;> rfl

theorem texts_connected : session.connected.texts = session.texts := by
  unfold Session.connected
  split
  · rfl
  · exact (texts_log session .connect).trans (List.append_nil _)

theorem texts_close : session.close.texts = session.texts := by
  unfold Session.close
  split
  · exact (texts_log _ _).trans (List.append_nil _)
  · have hclosed : (session.log .close).texts = session.texts := (texts_log _ _).trans (List.append_nil _)
    exact (texts_log _ .dispose).trans ((List.append_nil _).trans hclosed)

theorem texts_run (respond : String → Except String Cell) (sql : String) (params : List (String × ν)) :
    (session.run respond sql params).2.texts = session.texts ++ [sql] := by
  have hsent : ((session.connected.log .begin).log (.sql sql params)).texts = session.texts ++ [sql] := by
    rw [texts_log, texts_log, texts_connected, SessionEvent.text?, SessionEvent.text?, Option.toList_none,
      List.append_nil, Option.toList_some]
  unfold Session.run
  dsimp only
  split <;> exact (texts_log _ _).trans ((List.append_nil _).trans hsent)

end Sessions

end Postgres

open Postgres (Session SessionEvent)

section Sessions

variable (respond : String → Except String Cell) (settings : Settings)

/-- A session sends what the events of a run ask. -/
theorem texts_replay (session : Session Empty) (events : List Event) :
    (replay (Session.client respond) settings session events).texts =
      session.texts ++ (events.filterMap (Event.call? settings.dryRun)).map Call.text := by
  induction events generalizing session with
  | nil => exact (List.append_nil _).symm
  | cons event events ih =>
      cases event with
      | lossAllowed table check => exact ih session
      | measured query =>
          rw [replay, ih, Session.client, Postgres.texts_run, List.append_assoc]
          rfl
      | recorded statement =>
          rw [replay, ih, perform]
          cases hdry : settings.dryRun with
          | true => rfl
          | false =>
              -- here the session does send the statement
              rw [if_neg Bool.false_ne_true]
              change (session.run respond statement []).2.texts ++ _ = _
              rw [Postgres.texts_run, List.append_assoc]
              rfl

/-- A session in which a plan is applied sends the calls of the run. -/
theorem texts_runSteps (plan : Plan) (session : Session Empty) :
    (runSteps (Session.client respond) settings plan.steps session).2.texts = session.texts ++
      (applyPlan (Session.client respond).logged plan settings (session, [])).2.2.map Call.text := by
  rw [runSteps_state, texts_replay, log_applyPlan]

end Sessions

section Plans

variable {target actual : Database} {step : Step} {steps : List Step} {limit : Int} {text : String}

/-- Only integers number themselves in a compiled model. -/
theorem integer_of_identity {db : Database} {table : Table} {field : Field} (h : Model.WellBuiltTable db table)
    (hfield : field ∈ table.fields) (hidentity : field.identity = true) : field.family? = some .integer := by
  obtain ⟨key, others, hkey⟩ := h.key
  -- besides its key a table has plain fields only, which do not number themselves
  have hprimary : field.primaryKey = true := by
    rcases List.mem_cons.1 (hkey.fields ▸ hfield) with rfl | hother
    · exact hkey.primaryKey
    · rw [(hkey.others field hother).2] at hidentity
      cases hidentity
  exact ((h.identity field hfield hprimary).1 hidentity).1

/-- The fields of a step are fields of a table of the model. -/
theorem Plan.field_of_step (hstep : step ∈ (Plan.between target actual).steps) :
    ∀ field ∈ step.fields, ∃ table ∈ target.tables.items, field ∈ table.fields := by
  cases Plan.mem_between_iff.1 hstep with
  | createTable htable => exact fun field hfield => ⟨_, htable, hfield⟩
  | addColumn htable _ hfield => exact List.forall_mem_singleton.2 ⟨_, htable, hfield⟩
  | alterColumn _ htable _ hfield => exact List.forall_mem_singleton.2 ⟨_, htable, hfield⟩
  | addForeignKey => exact List.forall_mem_nil _
  | addIndex => exact List.forall_mem_nil _

theorem storable_of_step (htarget : Model.Compiled target) (hstep : step ∈ (Plan.between target actual).steps) :
    ∀ field ∈ step.fields, Sql.Storable field := by
  intro field hfield
  obtain ⟨table, htable, hown⟩ := Plan.field_of_step hstep field hfield
  exact ⟨Plan.declarable_of_step htarget hstep field hfield,
    integer_of_identity (htarget.linked.tables table htable) hown⟩

/-- What can be sent for steps names tables, each by itself. -/
theorem bare_of_produced (hsteps : ∀ step ∈ steps, ∀ field ∈ step.fields, Sql.Storable field)
    (h : Produced limit steps text) : ∃ tables, tables ≠ [] ∧ Sql.Bare text tables := by
  cases h with
  | statement hstep htexts hmem => exact Sql.bare_ofStep (hsteps _ hstep) htexts text hmem
  | query _ _ htext => exact ⟨_, List.cons_ne_nil _ _, Sql.bare_measureQuery htext⟩
  | fixup _ _ hmem => exact ⟨_, List.cons_ne_nil _ _, Sql.bare_fixups text hmem⟩

end Plans

namespace Contact

/-- The text that is sent, if it is one. -/
def text? : Contact → Option String
  | .session event => event.text?
  | .catalog _ => none

/-- The schema that the catalog is asked about. -/
def schema? : Contact → Option String
  | .catalog (.query query) => some query.schema
  | .catalog (.connect _) | .catalog .close | .session _ => none

end Contact

namespace Transcript

/-- The texts that were sent in sessions, in order. -/
def sent (transcript : Transcript) : List String := transcript.contacts.filterMap Contact.text?

/-- The schemas that the catalog was asked about. -/
def schemasRead (transcript : Transcript) : List String := transcript.contacts.filterMap Contact.schema?

/-- One schema was read, and what was sent names tables, each by itself. -/
structure Placed (schema : String) (transcript : Transcript) : Prop where
  read : ∀ other ∈ transcript.schemasRead, other = schema
  sent : ∀ text ∈ transcript.sent, ∃ tables, tables ≠ [] ∧ Sql.Bare text tables

end Transcript

namespace Migrating

variable {schema : String} {α ε : Type}

theorem keeps_say (notices : List Notice) : Keeps (Transcript.Placed schema) (say notices) fun _ => True :=
  keeps_modify fun _ h => ⟨h.read, h.sent⟩

theorem keeps_record {contacts : List Contact} (h : Transcript.Placed schema { contacts }) :
    Keeps (Transcript.Placed schema) (record contacts) fun _ => True := by
  refine keeps_modify fun transcript htranscript => ⟨?_, ?_⟩
  · rw [Transcript.schemasRead, List.filterMap_append]
    exact List.forall_mem_append.2 ⟨htranscript.read, h.read⟩
  · rw [Transcript.sent, List.filterMap_append]
    exact List.forall_mem_append.2 ⟨htranscript.sent, h.sent⟩

theorem keeps_ofExcept {kept : Transcript → Prop} (cause : ε → MigrationError) (value : Except ε α) :
    Keeps kept (ofExcept cause value) fun result => value = .ok result := by
  cases value with
  | error error => exact keeps_throw _
  | ok value => exact keeps_pure rfl

end Migrating

namespace Surroundings

open Migrating Transcript

variable (around : Surroundings) {schema : String}

theorem keeps_choose (request : Request) :
    Keeps (Placed schema) (around.choose request) fun choice => Config.load around.tree request.config = .ok choice.1 :=
  (keeps_ofExcept _ _).bind fun _ hconfig => (keeps_ofExcept _ _).bind fun _ _ => keeps_pure hconfig

theorem compiled_of_load {tree : Tree} {paths : List String} {db : Database}
    (h : (Model.load tree paths).schema = .ok db) : Model.Compiled db := by
  -- a schema comes from one batch, after all files were found and read
  unfold Model.load at h
  split at h
  · cases h
  · split at h
    · cases h
    · dsimp only at h
      split at h
      · cases h
        exact .batch .empty _
      · cases h

theorem keeps_readModel (paths : List String) : Keeps (Placed schema) (around.readModel paths) Model.Compiled :=
  Keeps.bind (keeps_say _) fun _ _ => (keeps_ofExcept _ _).mono fun _ hload => compiled_of_load hload

theorem placed_visit (url : String) :
    Placed schema { contacts := (Catalog.visit url (Catalog.introspect around.catalog schema)).2.map .catalog } := by
  constructor
  · intro other hother
    simp only [schemasRead, List.filterMap_map, List.mem_filterMap] at hother
    obtain ⟨event, hevent, hschema⟩ := hother
    cases event with
    | connect url => cases hschema
    | close => cases hschema
    | query query =>
        cases hschema
        exact Catalog.about_visit hevent
  · intro text htext
    simp only [sent, List.filterMap_map, List.mem_filterMap] at htext
    obtain ⟨event, -, hnone⟩ := htext
    cases hnone

theorem keeps_readDatabase (url : String) :
    Keeps (Placed schema) (around.readDatabase url schema) fun _ => True :=
  Keeps.bind (keeps_record (around.placed_visit url)) fun _ _ => Keeps.bind (keeps_ofExcept _ _) fun _ _ =>
    Keeps.bind (keeps_say _) fun _ _ => keeps_pure trivial

/-- The steps of a plan are about fields that the model can store. -/
theorem keeps_plan (config : Config) (url : String) :
    Keeps (Placed config.schema.name) (around.plan config url) fun plan =>
      ∀ step ∈ plan.steps, ∀ field ∈ step.fields, Sql.Storable field :=
  Keeps.bind (around.keeps_readModel _) fun _ htarget => Keeps.bind (around.keeps_readDatabase url) fun _ _ =>
    Keeps.bind (keeps_say _) fun _ _ => keeps_pure fun _ hstep => storable_of_step htarget hstep

theorem placed_session {session : Session Empty}
    (h : ∀ text ∈ session.texts, ∃ tables, tables ≠ [] ∧ Sql.Bare text tables) :
    Placed schema { contacts := session.events.map .session } := by
  constructor
  · intro other hother
    simp only [schemasRead, List.filterMap_map, List.mem_filterMap] at hother
    obtain ⟨event, -, hnone⟩ := hother
    cases hnone
  · rw [sent, List.filterMap_map]
    exact h

theorem keeps_apply {plan : Plan} (h : ∀ step ∈ plan.steps, ∀ field ∈ step.fields, Sql.Storable field) (url : String)
    (settings : Settings) : Keeps (Placed schema) (around.apply plan url settings) fun _ => True := by
  refine Keeps.bind (keeps_say _) fun _ _ => Keeps.bind (keeps_record (placed_session fun text htext => ?_)) fun _ _ =>
    keeps_pure trivial
  rw [Postgres.texts_close, texts_runSteps] at htext
  exact bare_of_produced h (produced_of_run plan _ text (List.mem_append_right _ htext))

/-- A migration reads the schema that is configured, and what it sends names tables by themselves. -/
theorem keeps_migrate {request : Request} {config : Config} (h : Config.load around.tree request.config = .ok config)
    (dryRun : Bool) (allowLoss : Option Bool) :
    Keeps (Placed config.schema.name) (around.migrate request dryRun allowLoss) fun _ => True := by
  refine Keeps.bind (around.keeps_choose request) fun ⟨chosen, profile, url⟩ hchosen => ?_
  -- the configuration that the migration goes by is the one that was loaded
  obtain rfl : config = chosen := Except.ok.inj (h.symm.trans hchosen)
  refine Keeps.bind (keeps_say _) fun _ _ => Keeps.bind (around.keeps_plan config url) fun plan hplan => ?_
  exact Keeps.bind (around.keeps_apply hplan url _) fun _ _ => keeps_pure trivial

end Surroundings

/-- What is said and done in a migration. -/
def Surroundings.transcript (around : Surroundings) (request : Request) (dryRun : Bool) (allowLoss : Option Bool) :
    Transcript :=
  ((around.migrate request dryRun allowLoss).run.run {}).2

/-- Where a migration acts. For every configuration, model, catalog and answer, dry or not and whatever may be lost,
the catalog is asked about the configured schema alone. But what is sent is confined to this schema exactly if
nothing is sent or the schema is the one that is current when the session starts, as no text selects a schema or
names one with a table. -/
theorem confined_migrate_iff (around : Surroundings) (request : Request) (dryRun : Bool) (allowLoss : Option Bool)
    {config : Config} (h : Config.load around.tree request.config = .ok config) (current : String) :
    let transcript := around.transcript request dryRun allowLoss
    (∀ schema ∈ transcript.schemasRead, schema = config.schema.name)
    ∧ (Sql.Confined config.schema.name current transcript.sent ↔
        transcript.sent = [] ∨ current = config.schema.name) := by
  intro transcript
  have hempty : Transcript.Placed config.schema.name {} := ⟨List.forall_mem_nil _, List.forall_mem_nil _⟩
  have hplaced := (around.keeps_migrate h dryRun allowLoss {} hempty).1
  exact ⟨hplaced.read, Sql.confined_iff_of_bare hplaced.sent⟩

/-- A shop whose orders belong in a schema of their own, which has no tables yet. -/
def sales : Surroundings where
  tree :=
    { files :=
        [(["shift.toml"],
          ("[profiles.dev]\nurl = \"postgres://db/shop\"\n\n"
            ++ "[schema]\npaths = [\"order.dmd\"]\nname = \"sales\"\n").toUTF8),
         (["order.dmd"], "model Order \x7b\n  string Note\n\x7d\n".toUTF8)] }
  catalog :=
    { tables := fun _ => .ok [], columns := fun _ _ => .ok [], primaryKey := fun _ _ => .ok []
      foreignKeys := fun _ _ => .ok [], indexes := fun _ _ => .ok [] }
  respond _ := .ok .null

def salesConfig : Config where
  profiles := [("dev", { url := "postgres://db/shop" })]
  schema := { paths := ["order.dmd"], name := "sales" }

def salesRequest : Request where
  config := some "shift.toml"
  profile := some "dev"

theorem salesConfig_loaded : Config.load sales.tree salesRequest.config = .ok salesConfig :=
  Model.toOption_eq_some_iff.1 (by decide +kernel)

theorem sales_transcript :
    let transcript := sales.transcript salesRequest false none
    (transcript.schemasRead, transcript.sent) =
      (["sales"], ["CREATE TABLE \"Order\" (\n  \"OrderID\" integer GENERATED BY DEFAULT AS IDENTITY NOT NULL,\n"
        ++ "  \"Note\" varchar(255) NOT NULL,\n  CONSTRAINT \"PK_Order\" PRIMARY KEY (\"OrderID\")\n)"]) := by
  decide +kernel

theorem confined_migrate_iff_sales :
    let transcript := sales.transcript salesRequest false none
    Config.load sales.tree salesRequest.config = .ok salesConfig
    ∧ (∀ schema ∈ transcript.schemasRead, schema = "sales")
    ∧ (Sql.Confined "sales" "public" transcript.sent ↔ transcript.sent = [] ∨ "public" = "sales") :=
  ⟨salesConfig_loaded, confined_migrate_iff sales salesRequest false none salesConfig_loaded "public"⟩

/-- The tables of one schema are read, and the table that is missing from them is made in another one. -/
theorem sales_unconfined :
    let transcript := sales.transcript salesRequest false none
    Config.load sales.tree salesRequest.config = .ok salesConfig ∧ salesConfig.schema.name = "sales"
    ∧ transcript.schemasRead = ["sales"]
    ∧ transcript.sent ≠ []
    ∧ ¬Sql.Confined "sales" "public" transcript.sent := by
  obtain ⟨hread, hsent⟩ := Prod.mk.inj sales_transcript
  dsimp only
  rw [hread, hsent]
  exact ⟨salesConfig_loaded, rfl, rfl, List.cons_ne_nil _ _, by decide +kernel⟩

end SchemaMigrate
