import SchemaMigrate.Proofs.Model.KeyTypes
import SchemaMigrate.Proofs.Sql.Relation
import SchemaMigrate.Sql.Narrowing

/-!
The tables that statements and queries name. A statement names the tables among its parts, whatever its columns are
called: a quoted name is one lexeme, and types, defaults and numbers hold no word behind which a table is named. Main
statement: the statements for fields that a model can store, the queries that measure a column and the updates that
make data fit name the tables that they are about and no others, each by itself, and they select no schema.

The proofs spell a text as segments: plain words, quoted names, and texts of their own, such as types and numbers,
that name no table. What the segments ask for is then computed, whatever the names are.
-/

namespace SchemaMigrate.Sql

section Types

variable {type : ColumnType} {field : Field}

theorem idle_int (number : Int) : Idle (toString number) := by
  obtain ⟨digits, htext | htext⟩ := toString_int_cases number
  · rw [htext]
    exact idle_of_isWordy (Model.isWordy_nat digits)
  · rw [htext]
    exact idle_spell [.plain "-", .idle (toString digits)] rfl rfl
      (List.forall_mem_singleton.2 (idle_of_isWordy (Model.isWordy_nat digits)))

theorem idle_sizedName {base : String} (hbase : Idle base) (policy : Option SizePolicy)
    (precision scale : Option Int) : Idle (sizedName base policy precision scale "") := by
  have hsized (size : Int) : Idle (base ++ ("(" ++ (toString size ++ ")"))) :=
    idle_spell [.idle base, .plain "(", .idle (toString size), .plain ")"] rfl rfl
      (List.forall_mem_cons.2 ⟨hbase, List.forall_mem_singleton.2 (idle_int size)⟩)
  have hscaled (size digits : Int) : Idle (base ++ ("(" ++ (toString size ++ ("," ++ (toString digits ++ ")"))))) :=
    idle_spell [.idle base, .plain "(", .idle (toString size), .plain ",", .idle (toString digits), .plain ")"] rfl rfl
      (List.forall_mem_cons.2 ⟨hbase,
        List.forall_mem_cons.2 ⟨idle_int size, List.forall_mem_singleton.2 (idle_int digits)⟩⟩)
  rcases sizedName_cases base policy precision scale with hwritten | ⟨size, hwritten⟩ | ⟨size, digits, hwritten⟩
  · rwa [hwritten]
  · simpa only [hwritten, String.append_assoc] using hsized size
  · simpa only [hwritten, String.append_assoc] using hscaled size digits

theorem idle_sql (h : Model.Declarable type) : Idle type.sql := by
  have hcodes : ∀ storage ∈ storageTypes, Idle storage.code := by decide +kernel
  obtain ⟨base, policy, precision, scale, hsql, hbase⟩ := exists_sizedName h
  rw [hsql]
  refine idle_sizedName ?_ policy precision scale
  rcases hbase with hwordy | ⟨storage, hmem, rfl⟩
  · exact idle_of_isWordy hwordy
  · exact hcodes storage hmem

/-- The integer types are written without a size. -/
theorem sql_of_integer (h : typeFamily? type.name = some .integer) : type.sql ∈ ["integer", "bigint"] := by
  have hintegers : ∀ storage ∈ storageTypes, storage.family = .integer →
      storage.convertsTo = none ∧ storage.policy = .none ∧ storage.code ∈ ["integer", "bigint"] := by
    decide
  obtain ⟨storage, hstorage, hfamily⟩ := Option.map_eq_some_iff.1 h
  obtain ⟨hconverts, hpolicy, hcode⟩ := hintegers storage (List.mem_of_find?_eq_some hstorage) hfamily
  have hresolved : type.resolved = type := by rw [resolved_of_storage hstorage, hconverts, Option.getD_none]
  obtain ⟨precision, scale, hsql⟩ := sql_of_storage (hresolved ▸ hstorage)
  rw [hsql]
  unfold sizedName
  rwa [if_pos (congrArg some hpolicy)]

/-- A field that a model can store: its type is declared, and only integers number themselves. -/
structure Storable (field : Field) : Prop where
  declarable : Model.Declarable field.type
  numbers : field.identity = true → field.family? = some .integer

theorem idle_backfill {value : String} (h : backfill? field = some value) : Idle value := by
  have hnumber (flag : Bool) : Idle (if flag then "1" else "0") := by cases flag <;> decide
  unfold backfill? at h
  cases hfamily : field.family? with
  | none =>
      rw [hfamily] at h
      cases h
  | some family =>
      rw [hfamily] at h
      cases family with
      | integer | decimal | float =>
          rw [← Option.some.inj h]
          exact hnumber _
      | boolean | timestamp | date | uuid | string | binary =>
          cases h
          decide

/-- How a column is stored: its type, its option, and whether it holds a value. -/
def columnStorage (field : Field) (default : Option String) : String :=
  field.type.sql ++ columnOption field default ++ (if field.nullable then "" else " NOT NULL")

theorem definitionTail_eq (field : Field) (default : Option String) :
    definitionTail field default = " " ++ columnStorage field default := by
  rw [definitionTail, columnStorage, String.append_assoc, String.append_assoc, String.append_assoc]

theorem idle_columnStorage (h : Storable field) {default : Option String}
    (hdefault : default = none ∨ default = backfill? field) : Idle (columnStorage field default) := by
  have hnull {text : String} (htext : Idle text) : Idle (text ++ if field.nullable then "" else " NOT NULL") := by
    cases field.nullable with
    | true =>
        rw [if_pos rfl, String.append_empty]
        exact htext
    | false => exact idle_spell [.idle text, .plain " NOT NULL"] rfl rfl (List.forall_mem_singleton.2 htext)
  refine hnull ?_
  unfold columnOption
  cases hidentity : field.identity with
  | true =>
      -- the word behind the type is not reserved, but no integer type is a word behind which a table is named
      have hidle : ∀ name ∈ ["integer", "bigint"], Idle (name ++ " GENERATED BY DEFAULT AS IDENTITY") := by
        decide
      exact hidle _ (sql_of_integer (h.numbers hidentity))
  | false =>
      have htype := idle_sql h.declarable
      cases default with
      | none =>
          rw [if_neg Bool.false_ne_true, String.append_empty]
          exact htype
      | some value =>
          have hvalue := idle_backfill (hdefault.resolve_left (Option.some_ne_none value)).symm
          rw [if_neg Bool.false_ne_true]
          exact idle_spell [.idle field.type.sql, .plain " DEFAULT ", .idle value] rfl rfl
            (List.forall_mem_cons.2 ⟨htype, List.forall_mem_singleton.2 hvalue⟩)

end Types

section Statements

variable {table : String} {field : Field} {fields : List Field} {statement : Statement}

/-- The table that a part names, where it is made or referred to. -/
def Part.table? : Part → Option String
  | .newTable name | .table name => some name
  | .plain _ | .newColumn _ _ | .newConstraint _ _ | .newIndex _ | .column _ _ => none

/-- The tables that a statement is about. -/
def Statement.tables (statement : Statement) : List String := statement.parts.filterMap Part.table?

theorem tables_createTable (constraint : Option String) :
    (Statement.createTable table fields constraint).tables = [table] := by
  rw [Statement.tables, filterMap_createTable Part.table? fun _ => rfl]
  cases constraint <;> simp [Part.table?]

theorem tables_createIndex (index : NewIndex) : (Statement.createIndex index).tables = [index.table] := by
  rw [Statement.tables, Statement.parts, List.filterMap_append, List.filterMap_append,
    filterMap_columnList Part.table? fun _ => rfl]
  simp [filterMap_part_cons, Part.table?]

theorem idle_columns (names : List String) : Idle (Text.joinWith ", " (names.map quote)) :=
  idle_joinWith (fun _ _ => rfl) (List.forall_mem_map.2 fun name _ => idle_quote name)

theorem idle_columnLine (h : Storable field) : Idle ("  " ++ columnDefinition field none) := by
  have hline : columnDefinition field none = quote field.name ++ (" " ++ columnStorage field none) := by
    simp only [columnDefinition, columnStorage, String.append_assoc]
  rw [hline]
  exact idle_spell [.plain "  ", .name field.name, .plain " ", .idle (columnStorage field none)] rfl rfl
    (List.forall_mem_singleton.2 (idle_columnStorage h (.inl rfl)))

theorem idle_keyLine (constraint : Option String) :
    ∀ line ∈ (keyLine table fields constraint).map textOf, Idle line := by
  cases constraint with
  | none => exact List.forall_mem_nil _
  | some name =>
      refine List.forall_mem_singleton.2 ?_
      rw [textOf_append, textOf_append, textOf_columnList]
      simp only [textOf, Part.text, String.append_empty, String.append_assoc]
      exact idle_spell [.plain "  CONSTRAINT ", .name name, .plain " PRIMARY KEY (", .idle _, .plain ")"] rfl rfl
        (List.forall_mem_singleton.2 (idle_columns _))

theorem bare_createTable (hfields : ∀ field ∈ fields, Storable field) (constraint : Option String) :
    Bare (Statement.createTable table fields constraint).text [table] := by
  have hlines : Idle (Text.joinWith ",\n" (fields.map (fun field => "  " ++ columnDefinition field none)
      ++ (keyLine table fields constraint).map textOf)) := by
    refine idle_joinWith (fun _ _ => rfl) (List.forall_mem_append.2 ⟨?_, idle_keyLine constraint⟩)
    exact List.forall_mem_map.2 fun field hfield => idle_columnLine (hfields field hfield)
  rw [text_createTable]
  simp only [String.append_assoc]
  exact bare_spell [.plain "CREATE TABLE ", .name table, .plain " (\n", .idle _, .plain "\n)"] rfl
    (List.forall_mem_singleton.2 hlines)

theorem bare_addColumn (h : Storable field) {default : Option String}
    (hdefault : default = none ∨ default = backfill? field) :
    Bare (Statement.addColumn table field default).text [table] := by
  simp only [Statement.text, Statement.parts, textOf, Part.text, String.append_empty, definitionTail_eq]
  exact bare_spell
    [.plain "ALTER TABLE ", .name table, .plain " ADD COLUMN ", .name field.name, .plain " ",
     .idle (columnStorage field default)] rfl (List.forall_mem_singleton.2 (idle_columnStorage h hdefault))

theorem bare_dropDefault (column : String) : Bare (Statement.dropDefault table column).text [table] := by
  simp only [Statement.text, Statement.parts, textOf, Part.text, String.append_empty]
  exact bare_spell
    [.plain "ALTER TABLE ", .name table, .plain " ALTER COLUMN ", .name column, .plain " DROP DEFAULT"] rfl
    (List.forall_mem_nil _)

theorem bare_alterType (h : Storable field) : Bare (Statement.alterType table field).text [table] := by
  simp only [Statement.text, Statement.parts, textOf, Part.text, String.append_empty]
  exact bare_spell
    [.plain "ALTER TABLE ", .name table, .plain " ALTER COLUMN ", .name field.name, .plain " TYPE ",
     .idle field.type.sql] rfl (List.forall_mem_singleton.2 (idle_sql h.declarable))

theorem bare_addForeignKey (key : ForeignKey) (constraint : String) :
    Bare (Statement.addForeignKey table key constraint).text [table, key.target] := by
  simp only [Statement.text, Statement.parts, textOf, Part.text, String.append_empty]
  exact bare_spell
    [.plain "ALTER TABLE ", .name table, .plain " ADD CONSTRAINT ", .name constraint, .plain " FOREIGN KEY (",
     .name key.column, .plain ") REFERENCES ", .name key.target, .plain " (", .name key.targetColumn, .plain ")"] rfl
    (List.forall_mem_nil _)

theorem bare_createIndex (index : NewIndex) : Bare (Statement.createIndex index).text [index.table] := by
  have hcolumns := idle_columns index.columns
  rw [Statement.text, Statement.parts, textOf_append, textOf_append, textOf_columnList]
  simp only [textOf, Part.text, String.append_empty, String.append_assoc]
  cases index.unique <;> cases index.supports <;>
    exact bare_spell
      [.plain "CREATE ", .plain _, .plain "INDEX ", .plain _, .name index.name, .plain " ON ", .name index.table,
       .plain " (", .idle _, .plain ")"] rfl (List.forall_mem_singleton.2 hcolumns)

theorem bare_columnStatements (h : Storable field) :
    ∀ statement ∈ columnStatements table field, Bare statement.text statement.tables := by
  unfold columnStatements
  split
  · exact List.forall_mem_singleton.2 (bare_addColumn h (.inl rfl))
  · cases hvalue : backfill? field with
    | none => exact List.forall_mem_singleton.2 (bare_addColumn h (.inl rfl))
    | some value =>
        exact List.forall_mem_cons.2 ⟨bare_addColumn h (.inr hvalue.symm),
          List.forall_mem_singleton.2 (bare_dropDefault _)⟩

variable {step : Step} {limit : Int}

/-- The statements of a step name the tables that they are about. -/
theorem bare_statementsOf {own : List Statement} (hfields : ∀ field ∈ step.fields, Storable field)
    (h : statementsOf step limit = .ok own) : ∀ statement ∈ own, Bare statement.text statement.tables := by
  have hindex (index : NewIndex) : Bare (Statement.createIndex index).text (Statement.createIndex index).tables :=
    tables_createIndex index ▸ bare_createIndex index
  cases written_of_statementsOf h with
  | createTable _ constraint =>
      exact List.forall_mem_singleton.2 (tables_createTable constraint ▸ bare_createTable hfields constraint)
  | addColumn =>
      intro statement hmem
      obtain ⟨field, hfield, hmem⟩ := List.mem_flatMap.1 hmem
      exact bare_columnStatements (hfields field hfield) statement hmem
  | alterColumn => exact List.forall_mem_map.2 fun field hfield => bare_alterType (hfields field hfield)
  | addForeignKey _ key constraint =>
      exact List.forall_mem_cons.2 ⟨bare_addForeignKey key constraint, List.forall_mem_singleton.2 (hindex _)⟩
  | addIndex _ index => exact List.forall_mem_singleton.2 (hindex index)

/-- Every statement is about some table. -/
theorem tables_ne_nil (statement : Statement) : statement.tables ≠ [] := by
  cases statement with
  | createTable table fields constraint => rw [tables_createTable]; exact List.cons_ne_nil _ _
  | createIndex index => rw [tables_createIndex]; exact List.cons_ne_nil _ _
  | addColumn => exact List.cons_ne_nil _ _
  | dropDefault => exact List.cons_ne_nil _ _
  | alterType => exact List.cons_ne_nil _ _
  | addForeignKey => exact List.cons_ne_nil _ _

theorem bare_ofStep {texts : List String} (hfields : ∀ field ∈ step.fields, Storable field)
    (h : ofStep step limit = .ok texts) : ∀ text ∈ texts, ∃ tables, tables ≠ [] ∧ Bare text tables := by
  rw [← text_statementsOf] at h
  obtain ⟨own, hown, rfl⟩ := map_eq_ok h
  exact List.forall_mem_map.2 fun statement hmem =>
    ⟨statement.tables, tables_ne_nil statement, bare_statementsOf hfields hown statement hmem⟩

end Statements

section Narrowing

variable {table text rest tail : String} {field : Field}

theorem isWordy_repeated {digit : Char} (h : Text.isWord digit = true) (count : Int) :
    Model.IsWordy (repeated digit count) := by
  intro c hc
  rw [repeated, String.toList_ofList] at hc
  exact List.eq_of_mem_replicate hc ▸ h

theorem idle_integerLimit (precision scale : Int) : Idle (integerLimit precision scale) := by
  refine idle_of_isWordy fun c hc => ?_
  rw [integerLimit, String.toList_append] at hc
  rcases List.mem_append.1 hc with hc | hc
  · rw [List.mem_singleton.1 hc]
    decide
  · exact isWordy_repeated (by decide) _ c hc

theorem idle_fraction {whole part : String} (hwhole : Model.IsWordy whole) (hpart : Model.IsWordy part) :
    Idle (whole ++ ("." ++ part)) := by
  obtain ⟨hsettled, hlexemes⟩ := lexemes_of_isWordy hwhole
  have hdot : Idle ("." ++ part) :=
    idle_spell [.plain ".", .idle part] rfl rfl (List.forall_mem_singleton.2 (idle_of_isWordy hpart))
  have hapart : standsApart ("." ++ part) = true := standsApart_append (by decide) (by decide)
  refine ⟨isSettled_append_apart hsettled hapart hdot.settled, ?_⟩
  rw [relations, lexemes_append_apart hsettled hapart]
  rcases hlexemes with hnone | ⟨letters, hword⟩
  · rw [hnone]
    exact hdot.names
  · have hnone : relationAt? (lexemes ("." ++ part)) = none := by
      rw [lexemes_append_of_closed (by decide)]
      rfl
    have hnames : relationsIn (lexemes ("." ++ part)) = [] := hdot.names
    rw [hword, List.singleton_append, relationsIn, hnone, hnames, Option.toList_none, ite_self]
    rfl

theorem idle_greatestValue (precision scale : Int) : Idle (greatestValue precision scale) := by
  have hwhole : Model.IsWordy (if 0 < precision - scale then repeated '9' (precision - scale) else "0") := by
    split
    · exact isWordy_repeated (by decide) _
    · intro c hc
      rw [List.mem_singleton.1 hc]
      decide
  unfold greatestValue
  dsimp only
  split
  · exact idle_of_isWordy hwhole
  · rw [String.append_assoc]
    exact idle_fraction hwhole (isWordy_repeated (by decide) _)

/-- A column, rounded. -/
def roundedColumn (name : String) (scale : Int) : List Segment :=
  [.plain "round(", .name name, .plain ", ", .idle (toString scale), .plain ")"]

/-- The front of an update of a column. -/
def updateFront (table name : String) : List Segment :=
  [.plain "UPDATE ", .name table, .plain " SET ", .name name, .plain " = "]

/-- The query that measures a column names its table. -/
theorem bare_measureQuery (h : measureQuery? table field = some text) : Bare text [table] := by
  unfold measureQuery? at h
  split at h
  · cases h
  · cases h
    simp only [String.append_assoc]
    exact bare_spell [.plain "SELECT MAX(char_length(", .name field.name, .plain ")) FROM ", .name table] rfl
      (List.forall_mem_nil _)
  · cases h
    simp only [String.append_assoc]
    exact bare_spell [.plain "SELECT MAX(octet_length(", .name field.name, .plain ")) FROM ", .name table] rfl
      (List.forall_mem_nil _)
  · next precision scale _ =>
      have hscale := idle_int scale
      have hlimit := idle_integerLimit precision scale
      cases h
      simp only [String.append_assoc]
      refine bare_spell
        ([.plain "SELECT COUNT(*) FROM ", .name table, .plain " WHERE abs("] ++ roundedColumn field.name scale
          ++ [.plain ") >= ", .idle (integerLimit precision scale), .plain " OR ", .name field.name, .plain " <> "]
          ++ roundedColumn field.name scale) rfl ?_
      exact List.forall_mem_cons.2 ⟨hscale, List.forall_mem_cons.2 ⟨hlimit, List.forall_mem_singleton.2 hscale⟩⟩

/-- The updates that make the data of a column fit name its table. -/
theorem bare_fixups : ∀ text ∈ fixups table field, Bare text [table] := by
  unfold fixups
  dsimp only
  split
  · exact List.forall_mem_nil _
  · next limit _ =>
      have hlimit := idle_int limit
      simp only [String.append_assoc]
      refine List.forall_mem_singleton.2 ?_
      refine bare_spell
        (updateFront table field.name
          ++ [.plain "left(", .name field.name, .plain ", ", .idle (toString limit), .plain ") WHERE char_length(",
            .name field.name, .plain ") > ", .idle (toString limit)]) rfl ?_
      exact List.forall_mem_cons.2 ⟨hlimit, List.forall_mem_singleton.2 hlimit⟩
  · next limit _ =>
      have hlimit := idle_int limit
      simp only [String.append_assoc]
      refine List.forall_mem_singleton.2 ?_
      refine bare_spell
        (updateFront table field.name
          ++ [.plain "substring(", .name field.name, .plain " from 1 for ", .idle (toString limit),
            .plain ") WHERE octet_length(", .name field.name, .plain ") > ", .idle (toString limit)]) rfl ?_
      exact List.forall_mem_cons.2 ⟨hlimit, List.forall_mem_singleton.2 hlimit⟩
  · next precision scale _ =>
      have hscale := idle_int scale
      have hgreatest := idle_greatestValue precision scale
      simp only [String.append_assoc]
      refine List.forall_mem_cons.2 ⟨?_, List.forall_mem_singleton.2 ?_⟩
      · refine bare_spell
          (updateFront table field.name ++ roundedColumn field.name scale
            ++ [.plain " WHERE ", .name field.name, .plain " <> "] ++ roundedColumn field.name scale) rfl ?_
        exact List.forall_mem_cons.2 ⟨hscale, List.forall_mem_singleton.2 hscale⟩
      · refine bare_spell
          (updateFront table field.name
            ++ [.plain "sign(", .name field.name, .plain ") * ", .idle (greatestValue precision scale),
              .plain " WHERE abs(", .name field.name, .plain ") > ", .idle (greatestValue precision scale)]) rfl ?_
        exact List.forall_mem_cons.2 ⟨hgreatest, List.forall_mem_singleton.2 hgreatest⟩

end Narrowing

end SchemaMigrate.Sql
