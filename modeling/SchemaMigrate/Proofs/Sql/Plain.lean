import SchemaMigrate.Proofs.ColumnType.Writing
import SchemaMigrate.Proofs.Model.Types
import SchemaMigrate.Proofs.Sql.Statement

/-!
What stands between the quoted names of a statement: words, numbers and the marks of the language, and no
double quote. Main statement: so it is in every statement of steps whose fields have types that a model can
declare.
-/

namespace SchemaMigrate.Sql

open Model (Declarable ofDeclared_name)
open Text (isWord)

/-- A character that stands between quoted names. -/
def isPlain (c : Char) : Bool := isWord c || " \n(),'-".toList.contains c

/-- A text without quoted names. -/
def IsPlain (text : String) : Prop := ∀ c ∈ text.toList, isPlain c = true

instance (text : String) : Decidable (IsPlain text) :=
  decidable_of_iff (text.toList.all isPlain = true) List.all_eq_true

/-- The parts of a statement that are not names are plain. -/
def PlainParts (parts : List Part) : Prop := ∀ text, Part.plain text ∈ parts → IsPlain text

theorem quote_not_mem {text : String} (h : IsPlain text) : '"' ∉ text.toList := by
  have hquote : isPlain '"' = false := by decide
  intro hmem
  rw [h _ hmem] at hquote
  cases hquote

section Texts

variable {first second : String}

theorem isPlain_append (hfirst : IsPlain first) (hsecond : IsPlain second) : IsPlain (first ++ second) := by
  intro c hc
  rw [String.toList_append, List.mem_append] at hc
  exact hc.elim (hfirst c) (hsecond c)

theorem isPlain_of_isWordy (h : Model.IsWordy first) : IsPlain first := by
  intro c hc
  rw [isPlain, h c hc, Bool.true_or]

theorem isPlain_int (number : Int) : IsPlain (toString number) := by
  obtain ⟨digits, htext | htext⟩ := toString_int_cases number
  · rw [htext]
    exact isPlain_of_isWordy (Model.isWordy_nat digits)
  · rw [htext]
    exact isPlain_append (by decide) (isPlain_of_isWordy (Model.isWordy_nat digits))

end Texts

section Types

variable {type : ColumnType} {field : Field}

theorem isPlain_sizedName {base : String} (hbase : IsPlain base) (policy : Option SizePolicy)
    (precision scale : Option Int) : IsPlain (sizedName base policy precision scale "") := by
  rcases sizedName_cases base policy precision scale with hwritten | ⟨size, hwritten⟩ | ⟨size, digits, hwritten⟩
  · rwa [hwritten]
  · rw [hwritten]
    exact isPlain_append (isPlain_append (isPlain_append hbase (by decide)) (isPlain_int size)) (by decide)
  · rw [hwritten]
    exact isPlain_append (isPlain_append (isPlain_append (isPlain_append (isPlain_append hbase (by decide))
      (isPlain_int size)) (by decide)) (isPlain_int digits)) (by decide)

/-- A declared type is written under a name of word characters or under the code of a type of the database. -/
theorem exists_sizedName (h : Declarable type) : ∃ base policy precision scale,
    type.sql = sizedName base policy precision scale "" ∧
      (Model.IsWordy base ∨ ∃ storage ∈ storageTypes, base = storage.code) := by
  have hstorage : ∀ known ∈ modelTypes, ∃ storage ∈ storageTypes, known.storage = storage.code := by decide +kernel
  have htarget : ∀ storage ∈ storageTypes, ∀ target, storage.convertsTo = some target →
      ∃ other ∈ storageTypes, target.name = other.code := by
    decide +kernel
  obtain ⟨declared, hwordy, hstored⟩ := h
  have hname : Model.IsWordy type.name ∨ ∃ storage ∈ storageTypes, type.name = storage.code := by
    rcases ofDeclared_name hstored with ⟨-, rfl⟩ | ⟨known, hmem, -, hknown⟩
    · exact .inl hwordy
    · rw [hknown]
      exact .inr (hstorage known hmem)
  have hresolved : Model.IsWordy type.resolved.name ∨ ∃ storage ∈ storageTypes, type.resolved.name = storage.code := by
    cases hstorageType : storageType? type.name with
    | none => rwa [resolved_of_unknown hstorageType]
    | some storage =>
        rw [resolved_of_storage hstorageType]
        cases hconverts : storage.convertsTo with
        | none => exact hname
        | some target => exact .inr (htarget storage (List.mem_of_find?_eq_some hstorageType) target hconverts)
  cases hknown : storageType? type.resolved.name with
  | none => exact ⟨_, _, _, _, sql_of_unknown hknown, hresolved⟩
  | some storage =>
      obtain ⟨precision, scale, hsql⟩ := sql_of_storage hknown
      exact ⟨_, _, precision, scale, hsql, .inr ⟨storage, List.mem_of_find?_eq_some hknown, rfl⟩⟩

theorem isPlain_sql (h : Declarable type) : IsPlain type.sql := by
  have hcodes : ∀ storage ∈ storageTypes, IsPlain storage.code := by decide +kernel
  obtain ⟨base, policy, precision, scale, hsql, hbase⟩ := exists_sizedName h
  rw [hsql]
  refine isPlain_sizedName ?_ policy precision scale
  rcases hbase with hwordy | ⟨storage, hmem, rfl⟩
  · exact isPlain_of_isWordy hwordy
  · exact hcodes storage hmem

theorem isPlain_backfill {value : String} (h : backfill? field = some value) : IsPlain value := by
  have hnumber (flag : Bool) : IsPlain (if flag then "1" else "0") := by cases flag <;> decide
  unfold backfill? at h
  split at h
  case h_10 => cases h
  all_goals
    rw [Option.some.injEq] at h
    subst h
  case h_1 | h_2 | h_3 => exact hnumber _
  all_goals decide

theorem isPlain_definitionTail (h : Declarable field.type) (default : Option String)
    (hdefault : ∀ value, default = some value → IsPlain value) : IsPlain (definitionTail field default) := by
  have hoption : IsPlain (columnOption field default) := by
    unfold columnOption
    split
    · decide
    · cases default with
      | none => decide
      | some value => exact isPlain_append (by decide) (hdefault value rfl)
  have hnull : IsPlain (if field.nullable then "" else " NOT NULL") := by cases field.nullable <;> decide
  exact isPlain_append (isPlain_append (isPlain_append (by decide) (isPlain_sql h)) hoption) hnull

end Types

section Parts

variable {first second : List Part} {part : Part}

theorem plainParts_append (hfirst : PlainParts first) (hsecond : PlainParts second) : PlainParts (first ++ second) := by
  intro text hmem
  exact (List.mem_append.1 hmem).elim (hfirst text) (hsecond text)

@[simp] theorem plainParts_nil : PlainParts [] := fun _ hmem => by cases hmem

@[simp] theorem plainParts_cons_iff :
    PlainParts (part :: second) ↔ (∀ text, part = .plain text → IsPlain text) ∧ PlainParts second := by
  simp only [PlainParts, List.mem_cons, or_imp, forall_and, eq_comm]

theorem plainParts_joinParts {separator : String} (hseparator : IsPlain separator) {stretches : List (List Part)}
    (h : ∀ parts ∈ stretches, PlainParts parts) : PlainParts (joinParts separator stretches) := by
  induction stretches with
  | nil => exact plainParts_nil
  | cons parts rest ih =>
      have hparts := h parts List.mem_cons_self
      have hrest := ih fun other hother => h other (List.mem_cons_of_mem _ hother)
      cases rest with
      | nil => exact hparts
      | cons next others =>
          refine plainParts_append hparts (plainParts_cons_iff.2 ⟨fun text htext => ?_, hrest⟩)
          cases htext
          exact hseparator

theorem plainParts_columnList (table : String) (columns : List String) : PlainParts (columnList table columns) := by
  refine plainParts_joinParts (by decide) fun parts hparts => ?_
  obtain ⟨column, -, rfl⟩ := List.mem_map.1 hparts
  simp

end Parts

section Statements

variable {table : String} {field : Field} {step : Step} {limit : Int} {own statements : List Statement}
  {statement : Statement}

theorem plainParts_createTable {fields : List Field} (hfields : ∀ field ∈ fields, Declarable field.type)
    (constraint : Option String) : PlainParts (Statement.createTable table fields constraint).parts := by
  have hcolumn (field : Field) (hfield : Declarable field.type) :
      PlainParts [.plain "  ", .newColumn table field.name, .plain (definitionTail field none)] := by
    have htail := isPlain_definitionTail hfield none fun _ h => by cases h
    simpa using And.intro (by decide : IsPlain "  ") htail
  have hkey : ∀ parts ∈ keyLine table fields constraint, PlainParts parts := by
    intro parts hparts
    cases constraint with
    | none => cases hparts
    | some name =>
        rw [List.mem_singleton.1 hparts]
        refine plainParts_append (plainParts_append ?_ (plainParts_columnList _ _)) ?_
        · simpa using (by decide : IsPlain "  CONSTRAINT " ∧ IsPlain " PRIMARY KEY (")
        · simpa using (by decide : IsPlain ")")
  refine plainParts_append (plainParts_append ?_ (plainParts_joinParts (by decide) fun parts hparts => ?_)) ?_
  · simpa using (by decide : IsPlain "CREATE TABLE " ∧ IsPlain " (\n")
  · rcases List.mem_append.1 hparts with hparts | hparts
    · obtain ⟨field, hfield, rfl⟩ := List.mem_map.1 hparts
      exact hcolumn field (hfields field hfield)
    · exact hkey parts hparts
  · simpa using (by decide : IsPlain "\n)")

theorem plainParts_columnStatements (hfield : Declarable field.type) :
    ∀ statement ∈ columnStatements table field, PlainParts statement.parts := by
  have hadd (default : Option String) (hdefault : ∀ value, default = some value → IsPlain value) :
      PlainParts (Statement.addColumn table field default).parts := by
    have htail := isPlain_definitionTail hfield default hdefault
    simpa [Statement.parts] using
      And.intro (by decide : IsPlain "ALTER TABLE ") (And.intro (by decide : IsPlain " ADD COLUMN ") htail)
  have hdrop : PlainParts (Statement.dropDefault table field.name).parts := by
    simpa [Statement.parts] using
      (by decide : IsPlain "ALTER TABLE " ∧ IsPlain " ALTER COLUMN " ∧ IsPlain " DROP DEFAULT")
  have hnone : ∀ value, (none : Option String) = some value → IsPlain value := fun _ h => by cases h
  unfold columnStatements
  split
  · exact List.forall_mem_singleton.2 (hadd none hnone)
  · cases hvalue : backfill? field with
    | none => exact List.forall_mem_singleton.2 (hadd none hnone)
    | some value =>
        refine List.forall_mem_cons.2 ⟨hadd (some value) fun other hother => ?_, List.forall_mem_singleton.2 hdrop⟩
        exact isPlain_backfill (hvalue.trans hother)

theorem plainParts_alterType (hfield : Declarable field.type) : PlainParts (Statement.alterType table field).parts := by
  have htype : IsPlain (" TYPE " ++ field.type.sql) := isPlain_append (by decide) (isPlain_sql hfield)
  simpa [Statement.parts] using
    And.intro (by decide : IsPlain "ALTER TABLE ") (And.intro (by decide : IsPlain " ALTER COLUMN ") htype)

theorem plainParts_addForeignKey (key : ForeignKey) (constraint : String) :
    PlainParts (Statement.addForeignKey table key constraint).parts := by
  simpa [Statement.parts] using (by decide : IsPlain "ALTER TABLE " ∧ IsPlain " ADD CONSTRAINT "
    ∧ IsPlain " FOREIGN KEY (" ∧ IsPlain ") REFERENCES " ∧ IsPlain " (" ∧ IsPlain ")")

theorem plainParts_createIndex (index : NewIndex) : PlainParts (Statement.createIndex index).parts := by
  have hstart : IsPlain ("CREATE " ++ (if index.unique then "UNIQUE " else "") ++ "INDEX "
      ++ (if index.supports then "IF NOT EXISTS " else "")) := by
    cases index.unique <;> cases index.supports <;> decide
  refine plainParts_append (plainParts_append ?_ (plainParts_columnList _ _)) ?_
  · simpa using And.intro hstart (by decide : IsPlain " ON " ∧ IsPlain " (")
  · simpa using (by decide : IsPlain ")")

theorem plainParts_statementsOf (hfields : ∀ field ∈ step.fields, Declarable field.type)
    (h : statementsOf step limit = .ok own) : ∀ statement ∈ own, PlainParts statement.parts := by
  cases written_of_statementsOf h with
  | createTable _ constraint => exact List.forall_mem_singleton.2 (plainParts_createTable hfields constraint)
  | addColumn =>
      intro statement hmem
      obtain ⟨field, hfield, hmem⟩ := List.mem_flatMap.1 hmem
      exact plainParts_columnStatements (hfields field hfield) statement hmem
  | alterColumn =>
      intro statement hmem
      obtain ⟨field, hfield, rfl⟩ := List.mem_map.1 hmem
      exact plainParts_alterType (hfields field hfield)
  | addForeignKey _ key constraint name =>
      exact List.forall_mem_cons.2 ⟨plainParts_addForeignKey key constraint,
        List.forall_mem_singleton.2 (plainParts_createIndex _)⟩
  | addIndex _ index => exact List.forall_mem_singleton.2 (plainParts_createIndex index)

/-- What stands between the names in the statements of some steps is plain if their fields have types that a model
can declare. -/
theorem plainParts_statementsOfSteps {steps : List Step}
    (hfields : ∀ step ∈ steps, ∀ field ∈ step.fields, Declarable field.type)
    (h : statementsOfSteps steps limit = .ok statements) : ∀ statement ∈ statements, PlainParts statement.parts := by
  intro statement hmem
  obtain ⟨step, hstep, own, hown, hmem⟩ := mem_statementsOfSteps h hmem
  exact plainParts_statementsOf (hfields step hstep) hown statement hmem

end Statements

end SchemaMigrate.Sql
