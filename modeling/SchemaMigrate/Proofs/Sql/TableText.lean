import SchemaMigrate.Proofs.Model.KeyTypes
import SchemaMigrate.Proofs.Sql.Statement
import SchemaMigrate.Proofs.Sql.Token

/-!
The text that creates a table, and a reader for it. The reader knows the layout of the text and how a name ends:
at the first double quote that is not doubled. It looks for no separator and no word inside of names.

Main statement: the reader finds the name of the table, every column with its name, its type and its options, and
the columns of the key. So the text determines them, whatever the names contain.
-/

namespace SchemaMigrate.Sql

/-- What the text says of a column. -/
structure ColumnText where
  name : String
  type : String
  identity : Bool
  notNull : Bool
deriving Repr, DecidableEq

/-- What the text says of a table: its name, its columns and the columns of its key, in order. -/
structure TableText where
  name : String
  columns : List ColumnText
  key : List String
deriving Repr, DecidableEq

def ColumnText.of (field : Field) : ColumnText where
  name := field.name
  type := field.type.sql
  identity := field.identity
  notNull := !field.nullable

def TableText.of (table : String) (fields : List Field) : TableText where
  name := table
  columns := fields.map .of
  key := (fields.filter (·.primaryKey)).map (·.name)

section Reader

/-- Takes off a text at the front, which must be there. -/
def skip? (front : String) (text : List Char) : Option (List Char) := front.toList.isPrefixOf? text

/-- Takes off a text at the end, and tells whether it was there. -/
def takeOff (ending : String) (text : List Char) : Bool × List Char :=
  if ending.toList.isSuffixOf text then (true, text.take (text.length - ending.toList.length)) else (false, text)

/-- The name in double quotes at the front of a text, and what comes behind it. -/
def readQuoted? : List Char → Option (String × List Char)
  | '"' :: rest => (readName rest).map fun (name, after) => (String.ofList name, after)
  | _ => none

theorem length_skip?_le {front : String} {text rest : List Char} (h : skip? front text = some rest) :
    rest.length ≤ text.length := by
  have happend : front.toList ++ rest = text := List.isPrefixOf?_eq_some_iff_append_eq.1 h
  rw [← happend, List.length_append]
  omega

theorem length_readName_lt {text name rest : List Char} (h : readName text = some (name, rest)) :
    rest.length < text.length := by
  fun_induction readName text generalizing name rest with
  | case1 tail ih =>
      obtain ⟨⟨before, after⟩, hread, hname⟩ := Option.map_eq_some_iff.1 h
      cases hname
      have hshorter := ih hread
      simp only [List.length_cons]
      omega
  | case2 tail =>
      cases h
      exact Nat.lt_succ_self _
  | case3 c tail _ _ ih =>
      obtain ⟨⟨before, after⟩, hread, hname⟩ := Option.map_eq_some_iff.1 h
      cases hname
      have hshorter := ih hread
      simp only [List.length_cons]
      omega
  | case4 => cases h

theorem length_readQuoted?_lt {text : List Char} {name : String} {rest : List Char}
    (h : readQuoted? text = some (name, rest)) : rest.length < text.length := by
  unfold readQuoted? at h
  split at h
  · obtain ⟨⟨before, after⟩, hread, hname⟩ := Option.map_eq_some_iff.1 h
    cases hname
    exact Nat.lt_succ_of_lt (length_readName_lt hread)
  · cases h

/-- Names in double quotes up to the parenthesis that closes their list, and what comes behind it. -/
def readQuotedNames? (text : List Char) : Option (List String × List Char) :=
  match _ : readQuoted? text with
  | none => none
  | some (name, rest) =>
      match _ : skip? ", " rest with
      | some more => (readQuotedNames? more).map fun (names, after) => (name :: names, after)
      | none => (skip? ")" rest).map fun after => ([name], after)
termination_by text.length
decreasing_by
  have hname : readQuoted? text = some (name, rest) := ‹_›
  have hmore : skip? ", " rest = some more := ‹_›
  exact Nat.lt_of_le_of_lt (length_skip?_le hmore) (length_readQuoted?_lt hname)

/-- The type and the options of a column. -/
def readOptions? (line : List Char) : Option (String × Bool × Bool) := do
  let (notNull, line) := takeOff " NOT NULL" line
  let (identity, line) := takeOff " GENERATED BY DEFAULT AS IDENTITY" line
  let type ← skip? " " line
  some (String.ofList type, identity, notNull)

/-- The column on the line at the front of a text, whether a comma ends the line, and what comes behind it. -/
def readColumn? (text : List Char) : Option (ColumnText × Bool × List Char) := do
  let text ← skip? "  " text
  let (name, text) ← readQuoted? text
  let (goesOn, line) := takeOff "," (text.takeWhile (· ≠ '\n'))
  let (type, identity, notNull) ← readOptions? line
  some ({ name, type, identity, notNull }, goesOn, text.dropWhile (· ≠ '\n'))

theorem length_readColumn?_lt {text : List Char} {column : ColumnText} {goesOn : Bool} {rest : List Char}
    (h : readColumn? text = some (column, goesOn, rest)) : rest.length < text.length := by
  simp only [readColumn?, bind, Option.bind_eq_some_iff] at h
  obtain ⟨inside, hinside, ⟨name, after⟩, hname, options, -, hcolumn⟩ := h
  cases hcolumn
  calc (after.dropWhile (· ≠ '\n')).length
    _ ≤ after.length := (List.dropWhile_suffix _).length_le
    _ < inside.length := length_readQuoted?_lt hname
    _ ≤ text.length := length_skip?_le hinside

/-- What closes the list of columns. -/
def bodyEnd : List Char := "\n)".toList

/-- The columns of the key, on the last line. -/
def readKey? (text : List Char) : Option (List String) := do
  let text ← skip? "  CONSTRAINT " text
  let (_, text) ← readQuoted? text
  let text ← skip? " PRIMARY KEY (" text
  let (names, text) ← readQuotedNames? text
  if text = bodyEnd then some names else none

/-- The columns of a table and those of its key. -/
def readBody? (text : List Char) : Option (List ColumnText × List String) :=
  match readKey? text with
  | some key => some ([], key)
  | none =>
      match _ : readColumn? text with
      | none => if text = bodyEnd then some ([], []) else none
      | some (column, false, rest) => if rest = bodyEnd then some ([column], []) else none
      | some (column, true, rest) =>
          match _ : skip? "\n" rest with
          | none => none
          | some more => (readBody? more).map fun (columns, key) => (column :: columns, key)
termination_by text.length
decreasing_by
  have hcolumn : readColumn? text = some (column, true, rest) := ‹_›
  have hmore : skip? "\n" rest = some more := ‹_›
  exact Nat.lt_of_le_of_lt (length_skip?_le hmore) (length_readColumn?_lt hcolumn)

/-- The table that a text creates. -/
def readTable? (text : String) : Option TableText := do
  let rest ← skip? "CREATE TABLE " text.toList
  let (name, rest) ← readQuoted? rest
  let rest ← skip? " (\n" rest
  let (columns, key) ← readBody? rest
  some { name, columns, key }

end Reader

section Parts

variable {rest : List Char}

theorem skip?_append (front : String) (rest : List Char) : skip? front (front.toList ++ rest) = some rest :=
  List.isPrefixOf?_eq_some_iff_append_eq.2 rfl

theorem takeOff_append (front : List Char) (ending : String) :
    takeOff ending (front ++ ending.toList) = (true, front) := by
  have hsuffix : ending.toList.isSuffixOf (front ++ ending.toList) = true :=
    List.isSuffixOf_iff_suffix.2 (List.suffix_append _ _)
  rw [takeOff, if_pos hsuffix, List.length_append, Nat.add_sub_cancel, List.take_left]

/-- A text with another last character does not have the ending. -/
theorem takeOff_of_getLast? {ending : String} {text : List Char} (hending : ending.toList ≠ [])
    (h : text.getLast? ≠ ending.toList.getLast?) : takeOff ending text = (false, text) := by
  refine if_neg fun hsuffix => h ?_
  obtain ⟨front, rfl⟩ := List.isSuffixOf_iff_suffix.1 hsuffix
  rw [List.getLast?_append_of_ne_nil _ hending]

/-- An ending, or nothing. -/
def optional (ending : String) (present : Bool) : List Char := if present then ending.toList else []

theorem takeOff_optional {ending : String} {front : List Char} (hending : ending.toList ≠ [])
    (h : front.getLast? ≠ ending.toList.getLast?) (present : Bool) :
    takeOff ending (front ++ optional ending present) = (present, front) := by
  cases present with
  | true => exact takeOff_append front ending
  | false =>
      have hnone : front ++ optional ending false = front := List.append_nil front
      rw [hnone, takeOff_of_getLast? hending h]

theorem getLast?_optional {ending : String} {front : List Char} {c : Char} {present : Bool}
    (h : (front ++ optional ending present).getLast? = some c) :
    ending.toList.getLast? = some c ∨ front.getLast? = some c := by
  rw [List.getLast?_append, Option.or_eq_some_iff] at h
  rcases h with h | ⟨-, h⟩
  · cases present with
    | true => exact .inl h
    | false => cases h
  · exact .inr h

/-- A name ends its quotation where the quotation ends. -/
theorem readQuoted?_quote (name : String) (h : rest.head? ≠ some '"') :
    readQuoted? ((quote name).toList ++ rest) = some (name, rest) := by
  rw [toList_quote_append, readQuoted?, readName_doubleQuotes h]
  simp

theorem readQuotedNames?_last {text : List Char} {name : String} (hname : readQuoted? text = some (name, rest))
    (hcomma : skip? ", " rest = none) :
    readQuotedNames? text = (skip? ")" rest).map fun after => ([name], after) := by
  rw [readQuotedNames?]
  split
  · simp_all
  · rename_i hfound
    rw [hname] at hfound
    cases hfound
    split
    · simp_all
    · rfl

theorem readQuotedNames?_next {text more : List Char} {name : String} (hname : readQuoted? text = some (name, rest))
    (hmore : skip? ", " rest = some more) :
    readQuotedNames? text = (readQuotedNames? more).map fun (names, after) => (name :: names, after) := by
  rw [readQuotedNames?]
  split
  · simp_all
  · rename_i hfound
    rw [hname] at hfound
    cases hfound
    split
    · rename_i hfound
      rw [hmore] at hfound
      cases hfound
      rfl
    · simp_all

theorem readQuotedNames?_joinWith {names : List String} (hne : names ≠ []) (rest : List Char) :
    readQuotedNames? ((Text.joinWith ", " (names.map quote)).toList ++ ')' :: rest) = some (names, rest) := by
  induction names with
  | nil => exact absurd rfl hne
  | cons name names ih =>
      cases names with
      | nil =>
          have hname : readQuoted? ((Text.joinWith ", " ([name].map quote)).toList ++ ')' :: rest) =
              some (name, ')' :: rest) := readQuoted?_quote name (by simp)
          have hclose : skip? ")" (')' :: rest) = some rest := skip?_append ")" rest
          rw [readQuotedNames?_last hname rfl, hclose, Option.map_some]
      | cons next others =>
          have htext : (Text.joinWith ", " ((name :: next :: others).map quote)).toList ++ ')' :: rest =
              (quote name).toList ++ (", ".toList ++
                ((Text.joinWith ", " ((next :: others).map quote)).toList ++ ')' :: rest)) := by
            simp [Text.joinWith]
          rw [htext, readQuotedNames?_next (readQuoted?_quote name (by simp)) (skip?_append ", " _),
            ih (List.cons_ne_nil _ _), Option.map_some]

end Parts

section Types

variable {field : Field} {type : ColumnType}

/-- A text that stays on its line and ends neither in a comma nor like an option of a column. -/
def StaysApart (text : String) : Prop :=
  '\n' ∉ text.toList ∧ ∀ c ∈ text.toList.getLast?, c ∉ [',', 'L', 'Y']

instance (text : String) : Decidable (StaysApart text) :=
  decidable_of_iff ('\n' ∉ text.toList ∧ text.toList.getLast? ∉ [some ',', some 'L', some 'Y'])
    (and_congr_right fun _ => by cases text.toList.getLast? <;> simp)

theorem newline_not_mem_int (number : Int) : '\n' ∉ (toString number).toList := by
  have hnat (digits : Nat) : '\n' ∉ (toString digits).toList := fun hmem => by
    cases Model.isWordy_nat digits _ hmem
  obtain ⟨digits, htext | htext⟩ := toString_int_cases number
  · rw [htext]
    exact hnat digits
  · rw [htext, String.toList_append, List.mem_append, not_or]
    exact ⟨by decide, hnat digits⟩

theorem staysApart_sizedName {base : String} (hbase : StaysApart base) (policy : Option SizePolicy)
    (precision scale : Option Int) : StaysApart (sizedName base policy precision scale "") := by
  have hsized (inside : String) (hinside : '\n' ∉ inside.toList) : StaysApart (base ++ "(" ++ inside ++ ")") := by
    have hlast : (base ++ "(" ++ inside ++ ")").toList.getLast? = some ')' := by
      rw [String.toList_append, List.getLast?_append_of_ne_nil _ (by decide)]
      rfl
    refine ⟨by simp [hbase.1, hinside], fun c hc => ?_⟩
    cases hlast.symm.trans hc
    decide
  rcases sizedName_cases base policy precision scale with hwritten | ⟨size, hwritten⟩ | ⟨size, digits, hwritten⟩
  · rwa [hwritten]
  · rw [hwritten]
    exact hsized _ (newline_not_mem_int size)
  · have hinside : '\n' ∉ (toString size ++ "," ++ toString digits).toList := by
      simp only [String.toList_append, List.mem_append, not_or]
      exact ⟨⟨newline_not_mem_int size, by decide⟩, newline_not_mem_int digits⟩
    have hboth := hsized _ hinside
    rwa [← String.append_assoc, ← String.append_assoc, ← hwritten] at hboth

theorem staysApart_sql (h : (storageType? type.name).isSome = true) : StaysApart type.sql := by
  have hcodes : ∀ storage ∈ storageTypes, StaysApart storage.code := by decide +kernel
  obtain ⟨storage, hstorage⟩ := Option.isSome_iff_exists.1 (isSome_resolved h)
  obtain ⟨precision, scale, hsql⟩ := sql_of_storage hstorage
  rw [hsql]
  exact staysApart_sizedName (hcodes storage (List.mem_of_find?_eq_some hstorage)) _ _ _

theorem toList_definitionTail (field : Field) :
    (definitionTail field none).toList =
      ' ' :: field.type.sql.toList ++ optional " GENERATED BY DEFAULT AS IDENTITY" field.identity
        ++ optional " NOT NULL" (!field.nullable) := by
  unfold definitionTail columnOption
  cases field.identity <;> cases field.nullable <;> simp [optional]

/-- A type with a space before it does not end like what may come behind it. -/
theorem getLast?_type (h : StaysApart type.sql) {c : Char} (hc : (' ' :: type.sql.toList).getLast? = some c) :
    c ∉ [',', 'L', 'Y'] := by
  rw [List.getLast?_cons, Option.some.injEq] at hc
  cases hlast : type.sql.toList.getLast? with
  | none =>
      rw [hlast] at hc
      subst hc
      decide
  | some d =>
      rw [hlast] at hc
      subst hc
      exact h.2 d hlast

/-- The options of a column are read off the end of its line, and the rest is its type. -/
theorem readOptions?_definitionTail (h : StaysApart field.type.sql) :
    readOptions? (definitionTail field none).toList = some (field.type.sql, field.identity, !field.nullable) := by
  have hidentity : (' ' :: field.type.sql.toList).getLast? ≠
      " GENERATED BY DEFAULT AS IDENTITY".toList.getLast? := fun hlast => getLast?_type h hlast (by decide)
  have hnull :
      (' ' :: field.type.sql.toList ++ optional " GENERATED BY DEFAULT AS IDENTITY" field.identity).getLast? ≠
        " NOT NULL".toList.getLast? := by
    intro hlast
    rcases getLast?_optional hlast with hlast | hlast
    · revert hlast
      decide
    · exact getLast?_type h hlast (by decide)
  have htype : skip? " " (' ' :: field.type.sql.toList) = some field.type.sql.toList := skip?_append " " _
  rw [readOptions?, toList_definitionTail, takeOff_optional (by decide) hnull]
  dsimp only
  rw [takeOff_optional (by decide) hidentity]
  simp [htype]

/-- The definition of a column stays on its line and does not end in a comma. -/
theorem definitionTail_apart (h : StaysApart field.type.sql) :
    '\n' ∉ (definitionTail field none).toList ∧ (definitionTail field none).toList.getLast? ≠ some ',' := by
  have hoptional (ending : String) (hending : '\n' ∉ ending.toList) (present : Bool) :
      '\n' ∉ optional ending present := by
    cases present with
    | true => exact hending
    | false => exact List.not_mem_nil
  rw [toList_definitionTail]
  constructor
  · simp only [List.mem_append, List.mem_cons, not_or]
    exact ⟨⟨⟨by decide, h.1⟩, hoptional _ (by decide) _⟩, hoptional _ (by decide) _⟩
  · intro hlast
    rcases getLast?_optional hlast with hlast | hlast
    · revert hlast
      decide
    · rcases getLast?_optional hlast with hlast | hlast
      · revert hlast
        decide
      · exact getLast?_type h hlast (by decide)

end Types

section Columns

variable {field : Field} {rest : List Char}

/-- The line of a column in the text. -/
def columnLine (field : Field) : String := "  " ++ columnDefinition field none

theorem columnLine_append (field : Field) (rest : List Char) :
    (columnLine field).toList ++ rest =
      "  ".toList ++ ((quote field.name).toList ++ ((definitionTail field none).toList ++ rest)) := by
  simp [columnLine, columnDefinition, definitionTail]

theorem readColumn?_columnLine (h : StaysApart field.type.sql) (goesOn : Bool) (rest : List Char) :
    readColumn? ((columnLine field).toList ++ (optional "," goesOn ++ '\n' :: rest)) =
      some (.of field, goesOn, '\n' :: rest) := by
  obtain ⟨hline, hlast⟩ := definitionTail_apart h
  have hname : readQuoted? ((quote field.name).toList ++ ((definitionTail field none).toList ++
      (optional "," goesOn ++ '\n' :: rest))) =
      some (field.name, (definitionTail field none).toList ++ (optional "," goesOn ++ '\n' :: rest)) := by
    refine readQuoted?_quote _ ?_
    rw [toList_definitionTail]
    simp
  have hall : ∀ c ∈ (definitionTail field none).toList ++ optional "," goesOn, decide (c ≠ '\n') = true := by
    intro c hc
    rw [decide_eq_true_eq]
    rintro rfl
    rcases List.mem_append.1 hc with hc | hc
    · exact hline hc
    · cases goesOn with
      | true =>
          revert hc
          decide
      | false => cases hc
  have hspan : ((definitionTail field none).toList ++ (optional "," goesOn ++ '\n' :: rest)).takeWhile (· ≠ '\n') =
        (definitionTail field none).toList ++ optional "," goesOn
      ∧ ((definitionTail field none).toList ++ (optional "," goesOn ++ '\n' :: rest)).dropWhile (· ≠ '\n') =
        '\n' :: rest := by
    rw [← List.append_assoc, List.takeWhile_append_of_pos hall, List.dropWhile_append_of_pos hall]
    simp
  have hcomma : takeOff "," ((definitionTail field none).toList ++ optional "," goesOn) =
      (goesOn, (definitionTail field none).toList) := takeOff_optional (by decide) hlast goesOn
  rw [columnLine_append, readColumn?]
  simp only [skip?_append, hname, hspan.1, hspan.2, hcomma, readOptions?_definitionTail h, Option.bind_eq_bind,
    Option.bind_some]
  rfl

theorem readKey?_columnLine (field : Field) (rest : List Char) :
    readKey? ((columnLine field).toList ++ rest) = none := by
  rw [columnLine_append, toList_quote_append]
  rfl

end Columns

section Bodies

variable {text rest more : List Char} {column : ColumnText} {key clause : List String} {fields : List Field}

/-- The line of the key in the text. -/
def keyText (constraint : String) (key : List String) : String :=
  "  CONSTRAINT " ++ quote constraint ++ " PRIMARY KEY (" ++ Text.joinWith ", " (key.map quote) ++ ")"

/-- The lines behind the columns: that of the key, if there is one. -/
inductive KeyClause : List String → List String → Prop
  | none : KeyClause [] []
  | some (constraint : String) {key : List String} (hne : key ≠ []) : KeyClause [keyText constraint key] key

theorem readKey?_keyText (constraint : String) (hne : key ≠ []) :
    readKey? ((keyText constraint key).toList ++ bodyEnd) = some key := by
  have htext : (keyText constraint key).toList ++ bodyEnd =
      "  CONSTRAINT ".toList ++ ((quote constraint).toList ++ (" PRIMARY KEY (".toList ++
        ((Text.joinWith ", " (key.map quote)).toList ++ ')' :: bodyEnd))) := by
    unfold keyText
    simp only [String.toList_append, List.append_assoc]
    rfl
  have hname (rest : List Char) : readQuoted? ((quote constraint).toList ++ (" PRIMARY KEY (".toList ++ rest)) =
      some (constraint, " PRIMARY KEY (".toList ++ rest) := readQuoted?_quote constraint (by simp)
  rw [htext, readKey?]
  simp only [skip?_append, hname, readQuotedNames?_joinWith hne, Option.bind_eq_bind, Option.bind_some, if_true]

theorem readBody?_key (h : readKey? text = some key) : readBody? text = some ([], key) := by
  rw [readBody?, h]

theorem readBody?_last (hkey : readKey? text = none) (h : readColumn? text = some (column, false, bodyEnd)) :
    readBody? text = some ([column], []) := by
  rw [readBody?, hkey]
  dsimp only
  split
  · simp_all
  · rename_i hfound
    rw [h] at hfound
    cases hfound
    exact if_pos rfl
  · simp_all

theorem readBody?_next (hkey : readKey? text = none) (h : readColumn? text = some (column, true, rest))
    (hmore : skip? "\n" rest = some more) :
    readBody? text = (readBody? more).map fun (columns, key) => (column :: columns, key) := by
  rw [readBody?, hkey]
  dsimp only
  split
  · simp_all
  · simp_all
  · rename_i hfound
    rw [h] at hfound
    cases hfound
    split
    · simp_all
    · rename_i hfound
      rw [hmore] at hfound
      cases hfound
      rfl

/-- The lines of a table are read back, column by column. -/
theorem readBody?_lines (hclause : KeyClause clause key) (h : ∀ field ∈ fields, StaysApart field.type.sql) :
    readBody? ((Text.joinWith ",\n" (fields.map columnLine ++ clause)).toList ++ bodyEnd) =
      some (fields.map .of, key) := by
  induction fields with
  | nil =>
      cases hclause with
      | none =>
          have hend : readBody? bodyEnd = some ([], []) := by
            rw [readBody?]
            rfl
          exact hend
      | some constraint hne => exact readBody?_key (readKey?_keyText constraint hne)
  | cons field fields ih =>
      obtain ⟨hfield, hfields⟩ := List.forall_mem_cons.1 h
      rw [List.map_cons, List.map_cons, List.cons_append]
      cases hlines : fields.map columnLine ++ clause with
      | nil =>
          obtain ⟨hnone, rfl⟩ := List.append_eq_nil_iff.1 hlines
          obtain rfl : fields = [] := List.map_eq_nil_iff.1 hnone
          cases hclause
          have hcolumn := readColumn?_columnLine hfield false [')']
          exact readBody?_last (readKey?_columnLine field _) hcolumn
      | cons line lines =>
          have htext : (Text.joinWith ",\n" (columnLine field :: line :: lines)).toList ++ bodyEnd =
              (columnLine field).toList ++ (optional "," true ++ '\n' ::
                ((Text.joinWith ",\n" (line :: lines)).toList ++ bodyEnd)) := by
            simp [Text.joinWith, optional]
          have hmore (more : List Char) : skip? "\n" ('\n' :: more) = some more := skip?_append "\n" more
          rw [htext, readBody?_next (readKey?_columnLine field _) (readColumn?_columnLine hfield true _) (hmore _),
            ← hlines, ih hfields, Option.map_some]

end Bodies

section Tables

variable {table : String} {fields : List Field} {limit : Int} {text : String}

/-- The names of the key columns. -/
def keyNames (fields : List Field) : List String := (fields.filter (·.primaryKey)).map (·.name)

theorem keyClause_of_ok {clause : List String} (h : primaryKeyClause table fields limit = .ok clause) :
    KeyClause clause (keyNames fields) := by
  unfold primaryKeyClause at h
  unfold keyNames
  split at h
  · rename_i hnone
    cases h
    rw [hnone]
    exact .none
  · rename_i hkeys
    obtain ⟨constraint, -, hclause⟩ := bind_eq_ok h
    cases hclause
    have hquoted : (fields.filter (·.primaryKey)).map (quote ·.name) =
        ((fields.filter (·.primaryKey)).map (·.name)).map quote := by
      rw [List.map_map]
      rfl
    rw [hquoted]
    exact .some constraint (by simpa using hkeys)

/-- A name can be fitted into every limit that leaves room for more than the digest. -/
theorem exists_fit (name : String) (h : (suffixLength : Int) < limit) : ∃ fitted, fit name limit = .ok fitted := by
  unfold fit
  split
  · exact ⟨_, rfl⟩
  · rw [if_neg (by omega)]
    exact ⟨_, rfl⟩

theorem exists_createTable (table : String) (fields : List Field) (h : (suffixLength : Int) < limit) :
    ∃ text, createTable table fields limit = .ok text := by
  have hclause : ∃ clause, primaryKeyClause table fields limit = .ok clause := by
    unfold primaryKeyClause
    split
    · exact ⟨_, rfl⟩
    · obtain ⟨constraint, hconstraint⟩ := exists_fit ("PK_" ++ table) h
      rw [primaryKeyName, hconstraint]
      exact ⟨_, rfl⟩
  obtain ⟨clause, hclause⟩ := hclause
  rw [createTable, hclause]
  exact ⟨_, rfl⟩

/-- A text that creates a table is read back. -/
theorem readTable?_createTable (hstored : ∀ field ∈ fields, (storageType? field.type.name).isSome = true)
    (h : createTable table fields limit = .ok text) : readTable? text = some (.of table fields) := by
  obtain ⟨clause, hclause, htext⟩ := bind_eq_ok h
  cases htext
  have happend : ("CREATE TABLE " ++ quote table ++ " (\n" ++ Text.joinWith ",\n" (fields.map columnLine ++ clause)
      ++ "\n)").toList =
      "CREATE TABLE ".toList ++ ((quote table).toList ++ (" (\n".toList ++
        ((Text.joinWith ",\n" (fields.map columnLine ++ clause)).toList ++ bodyEnd))) := by
    simp [bodyEnd]
  have hname (rest : List Char) : readQuoted? ((quote table).toList ++ (" (\n".toList ++ rest)) =
      some (table, " (\n".toList ++ rest) := readQuoted?_quote table (by simp)
  have hbody := readBody?_lines (keyClause_of_ok hclause) fun field hfield => staysApart_sql (hstored field hfield)
  change readTable? ("CREATE TABLE " ++ quote table ++ " (\n" ++ Text.joinWith ",\n" (fields.map columnLine ++ clause)
      ++ "\n)") = _
  rw [readTable?, happend]
  simp only [skip?_append, hname, hbody, Option.bind_eq_bind, Option.bind_some]
  rfl

/-- The text that creates a table determines the table: it exists, it is read back, it is the text of no other
table, and no name in it ends its own quotation. -/
theorem createTable_determines (table : String) (fields : List Field)
    (hstored : ∀ field ∈ fields, (storageType? field.type.name).isSome = true) :
    (∀ limit : Int, suffixLength < limit → ∃ text, createTable table fields limit = .ok text)
      ∧ (∀ limit text, createTable table fields limit = .ok text → readTable? text = some (.of table fields))
      ∧ (∀ limit text (other : String) (others : List Field) otherLimit,
        (∀ field ∈ others, (storageType? field.type.name).isSome = true) →
        createTable table fields limit = .ok text → createTable other others otherLimit = .ok text →
        TableText.of other others = TableText.of table fields)
      ∧ ∀ (name : String) (rest : List Char), rest.head? ≠ some '"' →
        readQuoted? ((quote name).toList ++ rest) = some (name, rest) := by
  refine ⟨fun limit => exists_createTable table fields, fun limit text => readTable?_createTable hstored,
    fun limit text other others otherLimit hothers hown hother => ?_, fun name rest => readQuoted?_quote name⟩
  have hread := readTable?_createTable hstored hown
  rw [readTable?_createTable hothers hother] at hread
  exact Option.some.inj hread

/-- Columns whose names look like the end of their line, like a key and like two columns. -/
def oddFields : List Field :=
  [{ name := "a\" bigint,\n", type := ⟨"numeric", some 10, some 2⟩, primaryKey := true },
   { name := "CONSTRAINT", type := { name := "float8" }, nullable := true },
   { name := "b\", \"c", type := { name := "integer" }, identity := true, primaryKey := true }]

def oddText : String :=
  "CREATE TABLE \"T\"\" (\" (\n"
    ++ "  \"a\"\" bigint,\n\" numeric(10,2) NOT NULL,\n"
    ++ "  \"CONSTRAINT\" double precision,\n"
    ++ "  \"b\"\", \"\"c\" integer GENERATED BY DEFAULT AS IDENTITY NOT NULL,\n"
    ++ "  CONSTRAINT \"PK_T\"\" (\" PRIMARY KEY (\"a\"\" bigint,\n\", \"b\"\", \"\"c\")\n)"

theorem createTable_determines_odd :
    (∀ field ∈ oddFields, (storageType? field.type.name).isSome = true)
      ∧ createTable "T\" (" oddFields defaultLimit = .ok oddText
      ∧ readTable? oddText = some
        { name := "T\" ("
          columns :=
            [{ name := "a\" bigint,\n", type := "numeric(10,2)", identity := false, notNull := true },
             { name := "CONSTRAINT", type := "double precision", identity := false, notNull := false },
             { name := "b\", \"c", type := "integer", identity := true, notNull := true }]
          key := ["a\" bigint,\n", "b\", \"c"] } := by
  have hnames : oddFields.map (fun field => field.type.name) = ["numeric", "float8", "integer"] := rfl
  have hstored : ∀ name ∈ ["numeric", "float8", "integer"], (storageType? name).isSome = true := by decide +kernel
  rw [← hnames, List.forall_mem_map] at hstored
  have htext : createTable "T\" (" oddFields defaultLimit = .ok oddText := by decide +kernel
  have hread := (createTable_determines "T\" (" oddFields hstored).2.1 defaultLimit oddText htext
  refine ⟨hstored, htext, hread.trans ?_⟩
  decide +kernel

end Tables

end SchemaMigrate.Sql
