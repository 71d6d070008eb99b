import SchemaMigrate.Proofs.Plan.Scope
import SchemaMigrate.Proofs.Sql.Statement

/-!
The names of the constraints and indexes that a model gets in an empty database. Names are joined from words
with underscores, and tables and columns may have underscores of their own, so a name does not tell which
index it is for. Main statement: if no name has to be cut, the constraints of a table have different names, and
two indexes have one name exactly if their marks and the words of their tables and columns are the same.
-/

namespace SchemaMigrate

/-- An index that a model asks for: a declared one, or one that supports a foreign key. -/
structure WantedIndex where
  table : String
  columns : List String
  unique : Bool := false
  alternateKey : Bool := false
  supports : Bool := false
deriving Repr, DecidableEq

namespace WantedIndex

def declared (table : String) (index : Index) : WantedIndex where
  table
  columns := index.fields
  unique := index.unique
  alternateKey := index.alternateKey

def supporting (table : String) (key : ForeignKey) : WantedIndex where
  table
  columns := [key.column]
  supports := true

/-- What the name of the index starts with. -/
def mark (index : WantedIndex) : String := if index.alternateKey then "AK" else "IX"

/-- What is joined behind the mark. -/
def path (index : WantedIndex) : List String :=
  index.table :: index.columns ++ (if index.supports then ["FK"] else [])

/-- The words of the path, which are all that is left of it in the name. -/
def words (index : WantedIndex) : List (List Char) := index.path.flatMap (·.toList.splitOn '_')

/-- The name of the index before it is cut. -/
def fullName (index : WantedIndex) : String := index.mark ++ "_" ++ Text.joinWith "_" index.path

/-- The index as it is created under its full name. -/
def created (index : WantedIndex) : Sql.NewIndex where
  name := index.fullName
  table := index.table
  columns := index.columns
  unique := index.unique
  supports := index.supports

end WantedIndex

/-- Two declared indexes of a table that are equal in fields and uniqueness. -/
def Sql.NewIndex.Repeats (left right : Sql.NewIndex) : Prop :=
  (left.supports = false ∧ right.supports = false) ∧ left.table = right.table ∧ left.unique = right.unique
    ∧ sameNames left.columns right.columns = true

instance (left right : Sql.NewIndex) : Decidable (left.Repeats right) := inferInstanceAs (Decidable (_ ∧ _))

/-- The foreign keys of a table whose targets are in the schema. -/
def Database.boundKeys (db : Database) (table : Table) : List ForeignKey :=
  table.foreignKeys.filter fun key => db.hasTable key.target

/-- The indexes of a schema, in the order in which they are created. -/
def Database.wantedIndexes (db : Database) : List WantedIndex :=
  (db.tables.items.flatMap fun table => (db.boundKeys table).map (.supporting table.name))
    ++ db.tables.items.flatMap fun table => table.indexes.map (.declared table.name)

namespace Sql

/-- The constraint that a statement makes, with its table. -/
def Statement.constraint? : Statement → Option (String × String)
  | .createTable table _ constraint => constraint.map (table, ·)
  | .addForeignKey table _ constraint => some (table, constraint)
  | .addColumn .. | .dropDefault .. | .alterType .. | .createIndex _ => none

/-- The index that a statement makes. -/
def Statement.index? : Statement → Option NewIndex
  | .createIndex index => some index
  | .createTable .. | .addColumn .. | .dropDefault .. | .alterType .. | .addForeignKey .. => none

/-- The names that were generated for a statement. -/
def Statement.generated (statement : Statement) : List String :=
  statement.constraint?.toList.map (·.2) ++ statement.index?.toList.map (·.name)

/-- The statements of a step with their names as they are before they are cut. -/
def uncut (step : Step) : List Statement :=
  match step.action with
  | .createTable => [.createTable step.table step.fields
      (if (step.fields.filter (·.primaryKey)).isEmpty then none else some ("PK_" ++ step.table))]
  | .addColumn => step.fields.flatMap (columnStatements step.table)
  | .alterColumn => step.fields.map (.alterType step.table)
  | .addForeignKey => step.foreignKey.toList.flatMap fun key =>
      [.addForeignKey step.table key ("FK_" ++ step.table ++ "_" ++ key.column),
       .createIndex (WantedIndex.supporting step.table key).created]
  | .addIndex => step.index.toList.map fun index => .createIndex (WantedIndex.declared step.table index).created

end Sql

section Words

theorem splitOn_joinWith {texts : List String} (hne : texts ≠ []) :
    (Text.joinWith "_" texts).toList.splitOn '_' = texts.flatMap (·.toList.splitOn '_') := by
  induction texts with
  | nil => exact absurd rfl hne
  | cons text rest ih =>
      cases rest with
      | nil => exact (List.append_nil _).symm
      | cons next others =>
          have hjoin : (Text.joinWith "_" (text :: next :: others)).toList =
              text.toList ++ '_' :: (Text.joinWith "_" (next :: others)).toList := by
            simp [Text.joinWith, String.toList_append]
          rw [hjoin, List.flatMap_cons, ← ih (List.cons_ne_nil _ _)]
          exact List.splitOnP_append_cons _ _ (beq_self_eq_true '_')

/-- Joined texts are the same exactly if their words are. -/
theorem joinWith_eq_iff {first second : List String} (hfirst : first ≠ []) (hsecond : second ≠ []) :
    Text.joinWith "_" first = Text.joinWith "_" second
      ↔ first.flatMap (·.toList.splitOn '_') = second.flatMap (·.toList.splitOn '_') := by
  rw [← splitOn_joinWith hfirst, ← splitOn_joinWith hsecond]
  constructor
  · exact fun h => congrArg (·.toList.splitOn '_') h
  · intro h
    have hback := congrArg (List.intercalate ['_']) h
    rw [List.intercalate_splitOn, List.intercalate_splitOn] at hback
    exact String.toList_inj.1 hback

variable {left right : WantedIndex}

theorem WantedIndex.path_ne_nil (index : WantedIndex) : index.path ≠ [] := List.cons_ne_nil _ _

/-- The name of an index tells its mark and the words of its path, and nothing more. -/
theorem WantedIndex.fullName_eq_iff :
    left.fullName = right.fullName ↔ left.mark = right.mark ∧ left.words = right.words := by
  have hlength (index : WantedIndex) : index.mark.toList.length = 2 := by
    unfold WantedIndex.mark
    cases index.alternateKey <;> rfl
  rw [WantedIndex.words, WantedIndex.words, ← joinWith_eq_iff left.path_ne_nil right.path_ne_nil]
  constructor
  · intro h
    have hlists := congrArg String.toList h
    simp only [WantedIndex.fullName, String.toList_append, List.append_assoc] at hlists
    obtain ⟨hmark, hrest⟩ := List.append_inj hlists ((hlength left).trans (hlength right).symm)
    exact ⟨String.toList_inj.1 hmark, String.toList_inj.1 (List.append_cancel_left hrest)⟩
  · rintro ⟨hmark, hpath⟩
    rw [WantedIndex.fullName, WantedIndex.fullName, hmark, hpath]

end Words

namespace Sql

section Names

variable {step : Step} {limit : Int} {name : String}

theorem fit_of_le (h : (name.length : Int) ≤ limit) : fit name limit = .ok name := if_pos h

theorem fullName_supporting (table : String) (key : ForeignKey) :
    (WantedIndex.supporting table key).fullName = "IX_" ++ table ++ "_" ++ key.column ++ "_FK" := by
  apply String.toList_inj.1
  simp [WantedIndex.fullName, WantedIndex.supporting, WantedIndex.mark, WantedIndex.path, Text.joinWith]

theorem fullName_declared (table : String) {index : Index} (hfields : index.fields ≠ []) :
    (WantedIndex.declared table index).fullName =
      (if index.alternateKey then "AK" else "IX") ++ "_" ++ table ++ "_" ++ Text.joinWith "_" index.fields := by
  obtain ⟨field, fields, hcons⟩ := List.exists_cons_of_ne_nil hfields
  simp [WantedIndex.fullName, WantedIndex.declared, WantedIndex.mark, WantedIndex.path, Text.joinWith, hcons,
    String.append_assoc]

/-- Names that fit are not cut. -/
theorem statementsOf_uncut (hkey : step.action = .addForeignKey → step.foreignKey.isSome)
    (hindex : step.action = .addIndex → ∃ index, step.index = some index ∧ index.fields ≠ [])
    (hfit : ∀ statement ∈ uncut step, ∀ name ∈ statement.generated, (name.length : Int) ≤ limit) :
    statementsOf step limit = .ok (uncut step) := by
  unfold uncut at hfit ⊢
  unfold statementsOf
  cases haction : step.action with
  | createTable =>
      simp only [haction, List.forall_mem_singleton] at hfit
      simp only [tableStatement]
      cases hkeys : (step.fields.filter (·.primaryKey)).isEmpty with
      | true => rfl
      | false =>
          have hname : (("PK_" ++ step.table).length : Int) ≤ limit := by
            refine hfit _ ?_
            rw [hkeys]
            exact List.mem_singleton_self _
          simp only [primaryKeyName, fit_of_le hname]
          rfl
  | addColumn => rfl
  | alterColumn => rfl
  | addForeignKey =>
      obtain ⟨key, hsome⟩ := Option.isSome_iff_exists.1 (hkey haction)
      simp only [haction, hsome, Option.toList_some, List.flatMap_singleton, List.forall_mem_cons] at hfit
      have hconstraint := hfit.1 _ (List.mem_singleton_self _)
      have hname : ((WantedIndex.supporting step.table key).fullName.length : Int) ≤ limit :=
        hfit.2.1 _ (List.mem_singleton_self _)
      simp only [hsome, keyStatements, foreignKeyName, fit_of_le hconstraint, foreignKeyIndexName,
        ← fullName_supporting, fit_of_le hname]
      rfl
  | addIndex =>
      obtain ⟨index, hsome, hfields⟩ := hindex haction
      simp only [haction, hsome, Option.toList_some, List.map_singleton, List.forall_mem_singleton] at hfit
      have hname : ((WantedIndex.declared step.table index).fullName.length : Int) ≤ limit :=
        hfit _ (List.mem_singleton_self _)
      simp only [hsome, indexStatement, indexName, ← fullName_declared step.table hfields, fit_of_le hname]
      rfl

theorem statementsOfSteps_uncut {steps : List Step} (h : ∀ step ∈ steps, statementsOf step limit = .ok (uncut step)) :
    statementsOfSteps steps limit = .ok (steps.flatMap uncut) := by
  induction steps with
  | nil => rfl
  | cons step steps ih =>
      have hfirst := h step List.mem_cons_self
      have hothers := ih fun other hother => h other (List.mem_cons_of_mem _ hother)
      rw [statementsOfSteps, hfirst, hothers]
      rfl

end Names

end Sql

namespace Plan

variable {target : Database}

section Empty

theorem tableSteps_empty (target : Database) : tableSteps target {} = target.tables.items.map Step.createTable := by
  rw [tableSteps_eq, missingTables, List.filter_eq_self.2]
  intro table _
  rfl

theorem columnSteps_empty (target : Database) : columnSteps target {} = [] := by
  rw [columnSteps_eq, List.flatMap_eq_nil_iff]
  intro table _
  rfl

theorem foreignKeySteps_empty (target : Database) : foreignKeySteps target {} =
    target.tables.items.flatMap fun table => (target.boundKeys table).map (.addForeignKey table.name) := by
  rw [foreignKeySteps_eq]
  refine List.flatMap_congr fun table _ => ?_
  have hstep (key : ForeignKey) : (decideKey target (liveKeys {} table) key).step? table.name key =
      if target.hasTable key.target then some (.addForeignKey table.name key) else none := by
    change (if target.hasTable key.target then KeyDecision.add else .dangling).step? table.name key = _
    cases target.hasTable key.target <;> rfl
  rw [foreignKeyStepsOf, Database.boundKeys]
  simp only [hstep]
  induction table.foreignKeys with
  | nil => rfl
  | cons key keys ih =>
      rw [List.filterMap_cons, List.filter_cons, ih]
      cases target.hasTable key.target <;> rfl

theorem indexSteps_empty (target : Database) : indexSteps target {} =
    target.tables.items.flatMap fun table => table.indexes.map (.addIndex table.name) := by
  rw [indexSteps_eq]
  refine List.flatMap_congr fun table _ => ?_
  exact congrFun List.filterMap_eq_map _

/-- The steps of a model in an empty database. -/
theorem steps_empty (target : Database) : (between target {}).steps =
    target.tables.items.map Step.createTable
      ++ (target.tables.items.flatMap fun table => (target.boundKeys table).map (.addForeignKey table.name))
      ++ target.tables.items.flatMap fun table => table.indexes.map (.addIndex table.name) := by
  rw [between, tableSteps_empty, columnSteps_empty, foreignKeySteps_empty, indexSteps_empty, List.append_nil]

end Empty

section Distinct

theorem statements_empty (htarget : Model.WellBuilt target) {limit : Int}
    (hfit : ∀ step ∈ (between target {}).steps, ∀ statement ∈ Sql.uncut step,
      ∀ name ∈ statement.generated, (name.length : Int) ≤ limit) :
    Sql.statementsOfSteps (between target {}).steps limit = .ok ((between target {}).steps.flatMap Sql.uncut) := by
  refine Sql.statementsOfSteps_uncut fun step hstep => ?_
  have hnames := hfit step hstep
  rw [steps_empty, List.mem_append, List.mem_append] at hstep
  rcases hstep with (hstep | hstep) | hstep
  · obtain ⟨table, -, rfl⟩ := List.mem_map.1 hstep
    exact Sql.statementsOf_uncut (fun h => by cases h) (fun h => by cases h) hnames
  · obtain ⟨table, -, hstep⟩ := List.mem_flatMap.1 hstep
    obtain ⟨key, -, rfl⟩ := List.mem_map.1 hstep
    exact Sql.statementsOf_uncut (fun _ => rfl) (fun h => by cases h) hnames
  · obtain ⟨table, htable, hstep⟩ := List.mem_flatMap.1 hstep
    obtain ⟨index, hindex, rfl⟩ := List.mem_map.1 hstep
    have hfields := ((htarget.tables table htable).indexes index hindex).fields
    exact Sql.statementsOf_uncut (fun h => by cases h) (fun _ => ⟨index, rfl, hfields⟩) hnames

/-- The indexes that a model gets in an empty database. -/
theorem indexes_empty (target : Database) :
    ((between target {}).steps.flatMap Sql.uncut).filterMap Sql.Statement.index? =
      target.wantedIndexes.map WantedIndex.created := by
  have htables : (target.tables.items.map Step.createTable).flatMap (fun step =>
      (Sql.uncut step).filterMap Sql.Statement.index?) = [] := by
    rw [List.flatMap_map, List.flatMap_eq_nil_iff]
    intro table _
    rfl
  rw [steps_empty, List.filterMap_flatMap, List.flatMap_append, List.flatMap_append, htables, List.nil_append,
    Database.wantedIndexes, List.map_append]
  simp only [List.flatMap_assoc, List.flatMap_map, List.map_flatMap, List.map_map]
  congr 1
  · refine List.flatMap_congr fun table _ => ?_
    rw [List.map_eq_flatMap]
    rfl
  · refine List.flatMap_congr fun table _ => ?_
    rw [List.map_eq_flatMap]
    rfl

/-- The constraints that a model gets in an empty database. -/
theorem constraints_empty (htarget : Model.WellBuilt target) :
    ((between target {}).steps.flatMap Sql.uncut).filterMap Sql.Statement.constraint? =
      (target.tables.items.map fun table => (table.name, "PK_" ++ table.name))
        ++ target.tables.items.flatMap fun table => (target.boundKeys table).map fun key =>
          (table.name, "FK_" ++ table.name ++ "_" ++ key.column) := by
  have hindexes : (target.tables.items.flatMap fun table => table.indexes.map (Step.addIndex table.name)).flatMap
      (fun step => (Sql.uncut step).filterMap Sql.Statement.constraint?) = [] := by
    simp only [List.flatMap_assoc, List.flatMap_map]
    refine List.flatMap_eq_nil_iff.2 fun table _ => List.flatMap_eq_nil_iff.2 fun index _ => rfl
  have hkeyed : ∀ table ∈ target.tables.items, (Sql.uncut (.createTable table)).filterMap Sql.Statement.constraint? =
      [(table.name, "PK_" ++ table.name)] := by
    intro table htable
    obtain ⟨key, others, hkey⟩ := (htarget.tables table htable).key
    have hempty : (table.fields.filter (·.primaryKey)).isEmpty = false := by
      rw [hkey.fields, List.filter_cons_of_pos hkey.primaryKey]
      rfl
    simp [Sql.uncut, Step.createTable, hempty, Sql.Statement.constraint?]
  rw [steps_empty, List.filterMap_flatMap, List.flatMap_append, List.flatMap_append, hindexes, List.append_nil]
  congr 1
  · rw [List.flatMap_map, List.map_eq_flatMap]
    exact List.flatMap_congr hkeyed
  · simp only [List.flatMap_assoc, List.flatMap_map]
    refine List.flatMap_congr fun table _ => ?_
    rw [List.map_eq_flatMap]
    rfl

theorem nodup_constraints (htarget : Model.WellBuilt target) :
    ((target.tables.items.map fun table => (table.name, "PK_" ++ table.name))
        ++ target.tables.items.flatMap fun table => (target.boundKeys table).map fun key =>
          (table.name, "FK_" ++ table.name ++ "_" ++ key.column)).Nodup := by
  have hnames : target.tables.items.Pairwise fun left right => left.name ≠ right.name :=
    (List.pairwise_map.1 target.tables.distinct).imp fun hapart hname => hapart (congrArg nameKey hname)
  rw [List.nodup_append']
  refine ⟨?_, ?_, ?_⟩
  · exact List.pairwise_map.2 (hnames.imp fun hapart hsame => hapart (congrArg Prod.fst hsame))
  · rw [List.nodup_flatMap]
    refine ⟨fun table htable => ?_, hnames.imp fun hapart => ?_⟩
    · have hcolumns := (htarget.tables table htable).fitting.columnsDistinct
      refine List.pairwise_map.2 (((List.pairwise_map.1 hcolumns).sublist List.filter_sublist).imp ?_)
      intro left right hapart hsame
      have hcolumn := congrArg (fun constraint : String × String => constraint.2.toList) hsame
      simp only [String.toList_append, List.append_cancel_left_eq] at hcolumn
      exact hapart (congrArg nameKey (String.toList_inj.1 hcolumn))
    · intro constraint hleft hright
      obtain ⟨first, -, rfl⟩ := List.mem_map.1 hleft
      obtain ⟨second, -, hsame⟩ := List.mem_map.1 hright
      exact hapart (congrArg Prod.fst hsame).symm
  · intro constraint hprimary hforeign
    obtain ⟨table, -, rfl⟩ := List.mem_map.1 hprimary
    obtain ⟨other, -, hforeign⟩ := List.mem_flatMap.1 hforeign
    obtain ⟨key, -, hsame⟩ := List.mem_map.1 hforeign
    -- the marks differ in their first letter
    have hhead := congrArg (fun constraint : String × String => constraint.2.toList.head?) hsame
    simp [String.toList_append] at hhead

/-- If no name of a compiled model has to be cut, its constraints and indexes are created in an empty database under
their full names. The constraints of a table have different names. Two indexes that are no repetition of each other
have different names exactly if no two of them are marked alike and have the same words. -/
theorem names_distinct_iff (htarget : Model.Compiled target)
    (hfit : ∀ step ∈ (between target {}).steps, ∀ statement ∈ Sql.uncut step,
      ∀ name ∈ statement.generated, (name.length : Int) ≤ Sql.defaultLimit) :
    ∃ statements, Sql.statementsOfSteps (between target {}).steps Sql.defaultLimit = .ok statements
      ∧ Sql.ofPlan (between target {}) Sql.defaultLimit = .ok (statements.map Sql.Statement.text)
      ∧ (statements.filterMap Sql.Statement.constraint?).Nodup
      ∧ ((statements.filterMap Sql.Statement.index?).Pairwise
          (fun left right => left.name = right.name → left.Repeats right)
        ↔ target.wantedIndexes.Pairwise fun left right =>
          left.mark = right.mark → left.words = right.words → left.created.Repeats right.created) := by
  have hdb := htarget.linked.toWellBuilt
  have hstatements := statements_empty hdb hfit
  refine ⟨_, hstatements, ?_, ?_, ?_⟩
  · rw [Sql.ofPlan, ← Sql.text_statementsOfSteps, hstatements]
    rfl
  · rw [constraints_empty hdb]
    exact nodup_constraints hdb
  · rw [indexes_empty, List.pairwise_map]
    have hnames (left right : WantedIndex) : left.created.name = right.created.name ↔
        left.mark = right.mark ∧ left.words = right.words := WantedIndex.fullName_eq_iff
    simp only [hnames, and_imp]

/-- An index over a foreign key and a column that is called like the end of the name of the supporting index. -/
def orderFiles : List Model.Source :=
  [{ name := "order.dmd"
     text := "model Client \x7b\x7d\nmodel Order \x7b\n  model Client\n  int FK\n  index (Client, FK)\n\x7d\n" }]

/-- What the files say. -/
def orderModel : Database where
  tables :=
    { items :=
        [{ name := "Client"
           fields := [{ name := "ClientID", type := { name := "integer" }, primaryKey := true, identity := true }] },
         { name := "Order"
           fields := [{ name := "OrderID", type := { name := "integer" }, primaryKey := true, identity := true },
                      { name := "ClientID", type := { name := "integer" } },
                      { name := "FK", type := { name := "integer" } }]
           foreignKeys := [{ column := "ClientID", target := "Client", targetColumn := "ClientID"
                             relationship := .oneToOne }]
           indexes := [{ fields := ["ClientID", "FK"] }] }]
      distinct := by decide }

theorem compiled_orderModel : Model.Compiled orderModel := by
  have hschema : (Model.compile {} orderFiles).schema = orderModel := by decide +kernel
  rw [← hschema]
  exact .batch .empty orderFiles

theorem orderModel_fits : ∀ step ∈ (between orderModel {}).steps, ∀ statement ∈ Sql.uncut step,
    ∀ name ∈ statement.generated, (name.length : Int) ≤ Sql.defaultLimit := by decide +kernel

theorem names_distinct_iff_order :
    Model.Compiled orderModel
      ∧ (∀ step ∈ (between orderModel {}).steps, ∀ statement ∈ Sql.uncut step,
        ∀ name ∈ statement.generated, (name.length : Int) ≤ Sql.defaultLimit)
      ∧ ∃ statements, Sql.statementsOfSteps (between orderModel {}).steps Sql.defaultLimit = .ok statements
        ∧ Sql.ofPlan (between orderModel {}) Sql.defaultLimit = .ok (statements.map Sql.Statement.text)
        ∧ (statements.filterMap Sql.Statement.constraint?).Nodup
        ∧ ((statements.filterMap Sql.Statement.index?).Pairwise
            (fun left right => left.name = right.name → left.Repeats right)
          ↔ orderModel.wantedIndexes.Pairwise fun left right =>
            left.mark = right.mark → left.words = right.words → left.created.Repeats right.created) :=
  ⟨compiled_orderModel, orderModel_fits, names_distinct_iff compiled_orderModel orderModel_fits⟩

/-- The declared index gets the name of the one that supports the foreign key. -/
theorem names_clash :
    let statements := (between orderModel {}).steps.flatMap Sql.uncut
    Model.Compiled orderModel
      ∧ (∀ step ∈ (between orderModel {}).steps, ∀ statement ∈ Sql.uncut step,
        ∀ name ∈ statement.generated, (name.length : Int) ≤ Sql.defaultLimit)
      ∧ Sql.statementsOfSteps (between orderModel {}).steps Sql.defaultLimit = .ok statements
      ∧ (statements.filterMap Sql.Statement.index?).map (·.name) = ["IX_Order_ClientID_FK", "IX_Order_ClientID_FK"]
      ∧ ¬ (statements.filterMap Sql.Statement.index?).Pairwise
        (fun left right => left.name = right.name → left.Repeats right) :=
  ⟨compiled_orderModel, orderModel_fits, by decide +kernel, by decide +kernel, by decide +kernel⟩

end Distinct

end Plan

end SchemaMigrate
