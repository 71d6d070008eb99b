import SchemaMigrate.Plan.Basic
import SchemaMigrate.Proofs.NameMap

/-!
What the steps of a plan do to a schema. A step creates a table or changes the one table it names, so
a run of steps splits into one run for each table.
-/

namespace SchemaMigrate

/-- Gives the type of a field to the first of the fields that bears its name. -/
def resizeFirst (sized : Field) : List Field → List Field
  | [] => []
  | field :: fields =>
      if sameName field.name sized.name then { field with type := sized.type } :: fields
      else field :: resizeFirst sized fields

/-- What a step makes of the table that it names. -/
def Table.after (table : Table) (step : Step) : Table :=
  match step.action with
  | .createTable => table
  | .addColumn => { table with fields := table.fields ++ step.fields }
  | .alterColumn =>
      { table with fields := step.fields.foldl (fun fields sized => resizeFirst sized fields) table.fields }
  | .addForeignKey =>
      match step.foreignKey with
      | none => table
      | some key =>
          { table with
            foreignKeys := table.foreignKeys ++ [key]
            indexes := table.indexes ++ [Plan.supportIndex key] }
  | .addIndex =>
      match step.index with
      | none => table
      | some index => { table with indexes := table.indexes ++ [index] }

/-- A table as it is created, without foreign keys and indexes. -/
def Step.bareTable (step : Step) : Table := { name := step.table, fields := step.fields }

namespace Database

/-- The schema after a step. A step that changes a table does nothing where there is no such table. -/
def after (db : Database) (step : Step) : Database :=
  match step.action with
  | .createTable => db.putTable step.bareTable
  | _ =>
      match db.table? step.table with
      | none => db
      | some table => db.putTable (table.after step)

/-- The schema after several steps, taken in order. -/
def afterAll (db : Database) (steps : List Step) : Database := steps.foldl after db

end Database

@[simp] theorem Table.name_after (table : Table) (step : Step) :
    (table.after step).name = table.name := by
  unfold Table.after
  split <;> (try split) <;> rfl

@[simp] theorem Table.name_afterAll (table : Table) (steps : List Step) :
    (steps.foldl Table.after table).name = table.name := by
  induction steps generalizing table with
  | nil => rfl
  | cons step steps ih => rw [List.foldl_cons, ih, Table.name_after]

section Changes

variable (table : Table) (name : String)

@[simp] theorem Table.after_addColumn (field : Field) :
    table.after (.addColumn name field) = { table with fields := table.fields ++ [field] } := rfl

@[simp] theorem Table.after_alterColumn (field : Field) (widening : Bool) :
    table.after (.alterColumn name field widening) =
      { table with fields := resizeFirst field table.fields } := rfl

@[simp] theorem Table.after_addForeignKey (key : ForeignKey) :
    table.after (.addForeignKey name key) =
      { table with
        foreignKeys := table.foreignKeys ++ [key]
        indexes := table.indexes ++ [Plan.supportIndex key] } := rfl

@[simp] theorem Table.after_addIndex (index : Index) :
    table.after (.addIndex name index) = { table with indexes := table.indexes ++ [index] } := rfl

end Changes

namespace Database

@[simp] theorem afterAll_nil (db : Database) : db.afterAll [] = db := rfl

@[simp] theorem afterAll_cons (db : Database) (step : Step) (steps : List Step) :
    db.afterAll (step :: steps) = (db.after step).afterAll steps := rfl

theorem afterAll_append (db : Database) (first second : List Step) :
    db.afterAll (first ++ second) = (db.afterAll first).afterAll second :=
  List.foldl_append

/-- A table of a new name is created at the end. -/
theorem items_after_create {db : Database} {step : Step} (haction : step.action = .createTable)
    (hnew : db.hasTable step.table = false) :
    (db.after step).tables.items = db.tables.items ++ [step.bareTable] := by
  simp only [after, haction]
  exact NameMap.items_put_new hnew

/-- A step that creates no table changes the table of its name and leaves every other as it is. -/
theorem items_after_change {db : Database} {step : Step} (haction : step.action ≠ .createTable) :
    (db.after step).tables.items =
      db.tables.items.map fun table =>
        if sameName step.table table.name then table.after step else table := by
  have hafter : db.after step = match db.table? step.table with
      | none => db
      | some table => db.putTable (table.after step) := by
    unfold after
    split
    · contradiction
    · rfl
  rw [hafter]
  cases hfound : db.table? step.table with
  | none =>
      have hnone := NameMap.get?_eq_none_iff.1 hfound
      show db.tables.items = _
      conv_lhs => rw [← List.map_id db.tables.items]
      apply List.map_congr_left
      intro table hmem
      have hother : sameName step.table table.name = false := by
        rw [sameName_comm]
        exact hnone table hmem
      simp [hother]
  | some table =>
      have hname : Named.name (table.after step) = Named.name table := Table.name_after table step
      simp only [sameName_comm step.table]
      exact NameMap.items_put_change (fun old : Table => old.after step) hfound hname

/-- Steps that create no table act on each table by the steps that name it. -/
theorem items_afterAll_changes {db : Database} {steps : List Step}
    (hchanges : ∀ step ∈ steps, step.action ≠ .createTable) :
    (db.afterAll steps).tables.items =
      db.tables.items.map fun table =>
        (steps.filter fun step => sameName step.table table.name).foldl Table.after table := by
  induction steps generalizing db with
  | nil => simp
  | cons step steps ih =>
      have hstep : step.action ≠ .createTable := hchanges step (by simp)
      have hrest : ∀ other ∈ steps, other.action ≠ .createTable := by
        intro other hmem
        exact hchanges other (List.mem_cons_of_mem _ hmem)
      rw [afterAll_cons, ih hrest, items_after_change hstep, List.map_map]
      apply List.map_congr_left
      intro table _
      by_cases hnames : sameName step.table table.name = true
      · simp [hnames]
      · simp [hnames]

/-- Tables of new and distinct names are created at the end, in order. -/
theorem items_afterAll_creates {db : Database} {steps : List Step}
    (hcreates : ∀ step ∈ steps, step.action = .createTable)
    (hnew : ∀ step ∈ steps, db.hasTable step.table = false)
    (hdistinct : (steps.map fun step => nameKey step.table).Nodup) :
    (db.afterAll steps).tables.items = db.tables.items ++ steps.map Step.bareTable := by
  induction steps generalizing db with
  | nil => simp
  | cons step steps ih =>
      rw [List.map_cons, List.nodup_cons] at hdistinct
      have hitems := items_after_create (hcreates step (by simp)) (hnew step (by simp))
      have hnewRest : ∀ other ∈ steps, (db.after step).hasTable other.table = false := by
        intro other hmem
        rw [Bool.eq_false_iff]
        intro hcontains
        obtain ⟨table, htable, hsame⟩ := NameMap.contains_iff.1 hcontains
        rw [hitems, List.mem_append, List.mem_singleton] at htable
        rcases htable with hold | rfl
        · have hfalse := hnew other (List.mem_cons_of_mem _ hmem)
          rw [hasTable, NameMap.contains_iff.2 ⟨table, hold, hsame⟩] at hfalse
          contradiction
        · exact hdistinct.1 (List.mem_map.2 ⟨other, hmem, (sameName_iff.1 hsame).symm⟩)
      have hcreatesRest : ∀ other ∈ steps, other.action = .createTable := by
        intro other hmem
        exact hcreates other (List.mem_cons_of_mem _ hmem)
      rw [afterAll_cons, ih hcreatesRest hnewRest hdistinct.2, hitems]
      simp

end Database

end SchemaMigrate
