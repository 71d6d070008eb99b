import SchemaMigrate.Proofs.Sql.Plain
import SchemaMigrate.Sql.Narrowing

/-!
Colons in statements. Where statements pass through a layer that takes `:name` for a parameter, none may have a
colon. The words and numbers of a statement have none, and quoting and cutting a name brings none in. Main
statement: if the names of tables, fields and foreign keys have no colon, then a step has one in its statements
exactly if it adds an index over a column with a colon.
-/

namespace SchemaMigrate.Sql

/-- A text without a colon. -/
def Colonless (text : String) : Prop := ':' ∉ text.toList

instance (text : String) : Decidable (Colonless text) := inferInstanceAs (Decidable (':' ∉ text.toList))

/-- What a part quotes. -/
def Part.name? : Part → Option String
  | .plain _ => none
  | .newTable name | .newColumn _ name | .newConstraint _ name | .newIndex name => some name
  | .table name | .column _ name => some name

/-- The names that a statement quotes. -/
def Statement.names (statement : Statement) : List String := statement.parts.filterMap Part.name?

/-- A step whose names have no colon, the columns of an index aside. -/
structure NamedColonless (step : Step) : Prop where
  table : Colonless step.table
  fields : ∀ field ∈ step.fields, Colonless field.name
  foreignKey : ∀ key, step.foreignKey = some key →
    Colonless key.column ∧ Colonless key.target ∧ Colonless key.targetColumn

section Texts

variable {text first second name : String} {texts : List String} {limit : Int}

@[simp] theorem colonless_append_iff : Colonless (first ++ second) ↔ Colonless first ∧ Colonless second := by
  simp only [Colonless, String.toList_append, List.mem_append, not_or]

theorem colonless_of_isPlain (h : IsPlain text) : Colonless text := by
  have hcolon : isPlain ':' = false := by decide
  intro hmem
  rw [h _ hmem] at hcolon
  cases hcolon

theorem colonless_of_isWordy (h : Model.IsWordy text) : Colonless text := colonless_of_isPlain (isPlain_of_isWordy h)

theorem colonless_int (number : Int) : Colonless (toString number) := colonless_of_isPlain (isPlain_int number)

theorem mem_doubleQuotes_iff {c : Char} {letters : List Char} : c ∈ doubleQuotes letters ↔ c ∈ letters := by
  induction letters with
  | nil => rfl
  | cons first letters ih =>
      rw [doubleQuotes]
      split
      · next hquote => simp [hquote, ih]
      · simp [ih]

@[simp] theorem colonless_quote_iff : Colonless (quote name) ↔ Colonless name := by
  simp [Colonless, quote, mem_doubleQuotes_iff]

theorem colonless_joinWith_iff {separator : String} (hseparator : Colonless separator) :
    Colonless (Text.joinWith separator texts) ↔ ∀ text ∈ texts, Colonless text := by
  induction texts with
  | nil => exact iff_of_true List.not_mem_nil (List.forall_mem_nil _)
  | cons text texts ih =>
      cases texts with
      | nil => exact List.forall_mem_singleton.symm
      | cons next others =>
          have hjoin : Text.joinWith separator (text :: next :: others) =
              text ++ separator ++ Text.joinWith separator (next :: others) := rfl
          rw [hjoin, colonless_append_iff, colonless_append_iff, ih, and_iff_left hseparator]
          exact List.forall_mem_cons.symm

theorem colon_not_mem_hexDigits {width value : Nat} : ':' ∉ Text.hexDigits width value := by
  have hdigit : ∀ digit < 16, Text.hexDigit digit ≠ ':' := by decide
  induction width generalizing value with
  | zero => exact List.not_mem_nil
  | succ width ih =>
      rw [Text.hexDigits, List.mem_append, List.mem_singleton, not_or]
      exact ⟨ih, fun hcolon => hdigit _ (Nat.mod_lt _ (by decide)) hcolon.symm⟩

/-- A name that is cut gets digits, and no colon. -/
theorem colonless_fit {fitted : String} (h : fit name limit = .ok fitted) (hname : Colonless name) :
    Colonless fitted := by
  unfold fit at h
  split at h
  · cases h
    exact hname
  · split at h
    · cases h
    · cases h
      rw [Colonless, String.toList_ofList, List.mem_append, List.mem_cons, not_or, not_or]
      refine ⟨fun hkept => hname (List.mem_of_mem_take hkept), by decide, fun hdigit => ?_⟩
      obtain ⟨word, -, hdigit⟩ := List.mem_flatMap.1 (List.mem_of_mem_take hdigit)
      exact colon_not_mem_hexDigits hdigit

end Texts

section Parts

variable {parts : List Part} {statement : Statement}

theorem colonless_textOf_iff : Colonless (textOf parts) ↔ ∀ part ∈ parts, Colonless part.text := by
  induction parts with
  | nil => exact ⟨fun _ => List.forall_mem_nil _, fun _ => by decide⟩
  | cons part parts ih => rw [textOf, colonless_append_iff, ih, List.forall_mem_cons]

theorem text_of_name? {part : Part} {name : String} (h : part.name? = some name) : part.text = quote name := by
  cases part <;> cases h <;> rfl

theorem eq_plain_of_name? {part : Part} (h : part.name? = none) : ∃ text, part = .plain text := by
  cases part with
  | plain text => exact ⟨text, rfl⟩
  | _ => cases h

/-- A statement has a colon exactly if one of the names in it has. -/
theorem colonless_text_iff (h : PlainParts statement.parts) :
    Colonless statement.text ↔ ∀ name ∈ statement.names, Colonless name := by
  rw [Statement.text, colonless_textOf_iff, Statement.names, List.forall_mem_filterMap]
  refine forall₂_congr fun part hpart => ?_
  cases hname : part.name? with
  | none =>
      obtain ⟨text, rfl⟩ := eq_plain_of_name? hname
      exact iff_of_true (colonless_of_isPlain (h text hpart)) fun name hsome => by cases hsome
  | some name => simp [text_of_name? hname]

end Parts

section Statements

variable {table : String} {limit : Int} {step : Step} {own : List Statement} {statement : Statement}

theorem names_createTable (table : String) (fields : List Field) (constraint : Option String) :
    (Statement.createTable table fields constraint).names =
      table :: fields.map (·.name) ++ constraint.toList.flatMap fun name =>
        name :: (fields.filter (·.primaryKey)).map (·.name) := by
  rw [Statement.names, filterMap_createTable Part.name? fun _ => rfl]
  simp [Part.name?, List.filterMap_eq_map']

theorem names_createIndex (index : NewIndex) :
    (Statement.createIndex index).names = index.name :: index.table :: index.columns := by
  rw [Statement.names, Statement.parts, List.filterMap_append, List.filterMap_append,
    filterMap_columnList Part.name? fun _ => rfl]
  simp [filterMap_part_cons, Part.name?]

theorem names_addColumn (table : String) (field : Field) (default : Option String) :
    (Statement.addColumn table field default).names = [table, field.name] := rfl

theorem names_alterType (table : String) (field : Field) :
    (Statement.alterType table field).names = [table, field.name] := rfl

theorem names_addForeignKey (table : String) (key : ForeignKey) (constraint : String) :
    (Statement.addForeignKey table key constraint).names =
      [table, constraint, key.column, key.target, key.targetColumn] := rfl

theorem colonless_tableStatement {fields : List Field} (htable : Colonless table)
    (hfields : ∀ field ∈ fields, Colonless field.name) (h : tableStatement table limit fields = .ok statement) :
    ∀ name ∈ statement.names, Colonless name := by
  have hcolumns : ∀ name ∈ table :: fields.map (·.name), Colonless name :=
    List.forall_mem_cons.2 ⟨htable, List.forall_mem_map.2 hfields⟩
  unfold tableStatement at h
  split at h
  · cases h
    rw [names_createTable]
    simpa using hcolumns
  · obtain ⟨name, hname, rfl⟩ := map_eq_ok h
    have hconstraint : Colonless name :=
      colonless_fit hname (colonless_append_iff.2 ⟨by decide, htable⟩)
    rw [names_createTable]
    refine List.forall_mem_append.2 ⟨hcolumns, ?_⟩
    rw [Option.toList_some, List.flatMap_singleton]
    exact List.forall_mem_cons.2 ⟨hconstraint, List.forall_mem_map.2 fun field hfield =>
      hfields field (List.mem_of_mem_filter hfield)⟩

theorem colonless_columnStatements {field : Field} (htable : Colonless table) (hfield : Colonless field.name) :
    ∀ statement ∈ columnStatements table field, ∀ name ∈ statement.names, Colonless name := by
  have hboth : ∀ name ∈ [table, field.name], Colonless name :=
    List.forall_mem_cons.2 ⟨htable, List.forall_mem_singleton.2 hfield⟩
  have hadd (default : Option String) : ∀ name ∈ (Statement.addColumn table field default).names, Colonless name :=
    names_addColumn table field default ▸ hboth
  -- the default is dropped under the names under which the column was added
  have hdrop : ∀ name ∈ (Statement.dropDefault table field.name).names, Colonless name := hboth
  unfold columnStatements
  split
  · exact List.forall_mem_singleton.2 (hadd none)
  · cases backfill? field with
    | none => exact List.forall_mem_singleton.2 (hadd none)
    | some value => exact List.forall_mem_cons.2 ⟨hadd (some value), List.forall_mem_singleton.2 hdrop⟩

theorem colonless_keyStatements {key : ForeignKey} (htable : Colonless table)
    (hkey : Colonless key.column ∧ Colonless key.target ∧ Colonless key.targetColumn)
    (h : keyStatements table limit key = .ok own) :
    ∀ statement ∈ own, ∀ name ∈ statement.names, Colonless name := by
  obtain ⟨hcolumn, htarget, htargetColumn⟩ := hkey
  obtain ⟨constraint, hconstraint, h⟩ := bind_eq_ok h
  obtain ⟨support, hsupport, h⟩ := bind_eq_ok h
  cases h
  have hconstraint : Colonless constraint := colonless_fit hconstraint (by
    simpa [htable, hcolumn] using (by decide : Colonless "FK_" ∧ Colonless "_"))
  have hsupport : Colonless support := colonless_fit hsupport (by
    simpa [htable, hcolumn] using (by decide : (Colonless "IX_" ∧ Colonless "_") ∧ Colonless "_FK"))
  refine List.forall_mem_cons.2 ⟨?_, List.forall_mem_singleton.2 ?_⟩
  · simp [names_addForeignKey, htable, hconstraint, hcolumn, htarget, htargetColumn]
  · simp [names_createIndex, htable, hsupport, hcolumn]

/-- Of the names that an index is created with, only its columns can bring in a colon. -/
theorem colonless_indexStatement_iff {index : Index} (htable : Colonless table)
    (h : indexStatement table limit index = .ok statement) :
    (∀ name ∈ statement.names, Colonless name) ↔ ∀ column ∈ index.fields, Colonless column := by
  obtain ⟨name, hname, h⟩ := bind_eq_ok h
  cases h
  rw [names_createIndex]
  constructor
  · intro hnames column hcolumn
    exact hnames column (List.mem_cons_of_mem _ (List.mem_cons_of_mem _ hcolumn))
  · intro hcolumns
    have hkind : Colonless (if index.alternateKey then "AK" else "IX") := by cases index.alternateKey <;> decide
    have hseparator : Colonless "_" := by decide
    have hwhole : Colonless name := by
      refine colonless_fit hname ?_
      simp only [colonless_append_iff, colonless_joinWith_iff hseparator]
      exact ⟨⟨⟨⟨hkind, hseparator⟩, htable⟩, hseparator⟩, hcolumns⟩
    exact List.forall_mem_cons.2 ⟨hwhole, List.forall_mem_cons.2 ⟨htable, hcolumns⟩⟩

theorem colonless_names_iff (hstep : NamedColonless step) (h : statementsOf step limit = .ok own) :
    (∀ statement ∈ own, ∀ name ∈ statement.names, Colonless name) ↔
      (step.action = .addIndex → ∀ index, step.index = some index → ∀ column ∈ index.fields, Colonless column) := by
  rcases statementsOf_cases h with ⟨haction, statement, hstatement, rfl⟩ | ⟨haction, rfl⟩ | ⟨haction, rfl⟩ |
    ⟨haction, key, hkey, hstatements⟩ | ⟨haction, index, hindex, statement, hstatement, rfl⟩
  · have hnames := colonless_tableStatement hstep.table hstep.fields hstatement
    exact iff_of_true (List.forall_mem_singleton.2 hnames) (by simp [haction])
  · refine iff_of_true (fun statement hmem => ?_) (by simp [haction])
    obtain ⟨field, hfield, hmem⟩ := List.mem_flatMap.1 hmem
    exact colonless_columnStatements hstep.table (hstep.fields field hfield) statement hmem
  · refine iff_of_true (List.forall_mem_map.2 fun field hfield => ?_) (by simp [haction])
    simp [names_alterType, hstep.table, hstep.fields field hfield]
  · exact iff_of_true (colonless_keyStatements hstep.table (hstep.foreignKey key hkey) hstatements) (by simp [haction])
  · rw [List.forall_mem_singleton, colonless_indexStatement_iff hstep.table hstatement]
    simp [haction, hindex]

/-- The statements of a step have a colon exactly if the step adds an index over a column that has one. -/
theorem colonless_ofStep_iff {texts : List String} (hstep : NamedColonless step)
    (htypes : ∀ field ∈ step.fields, Model.Declarable field.type) (h : ofStep step limit = .ok texts) :
    (∀ text ∈ texts, Colonless text) ↔
      (step.action = .addIndex → ∀ index, step.index = some index → ∀ column ∈ index.fields, Colonless column) := by
  rw [← text_statementsOf] at h
  obtain ⟨own, hown, rfl⟩ := map_eq_ok h
  rw [List.forall_mem_map, ← colonless_names_iff hstep hown]
  exact forall₂_congr fun statement hmem => colonless_text_iff (plainParts_statementsOf htypes hown statement hmem)

end Statements

section Narrowings

variable {table : String} {field : Field}

theorem colonless_repeated {digit : Char} (h : digit ≠ ':') (count : Int) : Colonless (repeated digit count) := by
  rw [Colonless, repeated, String.toList_ofList]
  exact fun hmem => h (List.eq_of_mem_replicate hmem).symm

theorem colonless_integerLimit (precision scale : Int) : Colonless (integerLimit precision scale) :=
  colonless_append_iff.2 ⟨by decide, colonless_repeated (by decide) _⟩

theorem colonless_greatestValue (precision scale : Int) : Colonless (greatestValue precision scale) := by
  have hwhole : Colonless (if 0 < precision - scale then repeated '9' (precision - scale) else "0") := by
    split
    · exact colonless_repeated (by decide) _
    · decide
  unfold greatestValue
  dsimp only
  split
  · exact hwhole
  · exact colonless_append_iff.2 ⟨colonless_append_iff.2 ⟨hwhole, by decide⟩, colonless_repeated (by decide) _⟩

/-- The query that measures a column has no colon but those of its names. -/
theorem colonless_measureQuery {query : String} (htable : Colonless table) (hfield : Colonless field.name)
    (h : measureQuery? table field = some query) : Colonless query := by
  unfold measureQuery? at h
  cases hbound : boundOf field <;> rw [hbound] at h <;> cases h
  case characters => simp +decide only [colonless_append_iff, colonless_quote_iff, htable, hfield, and_self]
  case bytes => simp +decide only [colonless_append_iff, colonless_quote_iff, htable, hfield, and_self]
  case digits precision scale =>
    simp +decide only [colonless_append_iff, colonless_quote_iff, htable, hfield, colonless_int,
      colonless_integerLimit, and_self]

/-- The updates that make the data of a column fit have no colon but those of its names. -/
theorem colonless_fixups (htable : Colonless table) (hfield : Colonless field.name) :
    ∀ text ∈ fixups table field, Colonless text := by
  unfold fixups
  cases boundOf field with
  | unbounded => exact List.forall_mem_nil _
  | characters limit =>
      simp +decide only [List.forall_mem_singleton, colonless_append_iff, colonless_quote_iff, htable, hfield,
        colonless_int, and_self]
  | bytes limit =>
      simp +decide only [List.forall_mem_singleton, colonless_append_iff, colonless_quote_iff, htable, hfield,
        colonless_int, and_self]
  | digits precision scale =>
      simp +decide only [List.forall_mem_cons, colonless_append_iff, colonless_quote_iff, htable, hfield, colonless_int,
        colonless_greatestValue, and_self]

end Narrowings

end SchemaMigrate.Sql
