import SchemaMigrate.Proofs.Sql.Lexeme

/-!
The tables that a text is about, and where a server looks for them. A table is named directly behind one of a few
words, with its schema and a dot before it or by itself; by itself it is looked for in the current schema, which some
commands select.

A text that is put together names what its parts name, as long as no name is broken off or goes on where they meet.
So a text with names that vary is spelled as segments, and which of the names are those of tables is computed.
Main statement: texts that name their tables by themselves and select no schema are about tables of one schema alone
exactly if it is current from the first.
-/

namespace SchemaMigrate.Sql

/-- A table as it is named, by itself or with a schema. -/
structure Relation where
  schema : Option String := none
  name : String
deriving Repr, DecidableEq

/-- The schema in which a server looks for a table. -/
def Relation.home (relation : Relation) (current : String) : String := relation.schema.getD current

/-- The words behind which a table is named. -/
def tableWords : List String := ["from", "into", "join", "on", "references", "table", "update"]

/-- The words that name no table unless they are quoted. -/
def reservedWords : List String :=
  ["all", "analyse", "analyze", "and", "any", "array", "as", "asc", "asymmetric", "authorization", "binary", "both",
   "case", "cast", "check", "collate", "collation", "column", "concurrently", "constraint", "create", "cross",
   "current_catalog", "current_date", "current_role", "current_schema", "current_time", "current_timestamp",
   "current_user", "default", "deferrable", "desc", "distinct", "do", "else", "end", "except", "false", "fetch", "for",
   "foreign", "freeze", "from", "full", "grant", "group", "having", "ilike", "in", "initially", "inner", "intersect",
   "into", "is", "isnull", "join", "lateral", "leading", "left", "like", "limit", "localtime", "localtimestamp",
   "natural", "not", "notnull", "null", "offset", "on", "only", "or", "order", "outer", "overlaps", "placing",
   "primary", "references", "returning", "right", "select", "session_user", "similar", "some", "symmetric",
   "system_user", "table", "tablesample", "then", "to", "trailing", "true", "union", "unique", "user", "using",
   "variadic", "verbose", "when", "where", "window", "with"]

namespace Lexeme

/-- Whether a table is named next. -/
def introduces : Lexeme → Bool
  | .word letters => tableWords.contains letters
  | .quoted _ _ | .mark _ => false

/-- The name that a lexeme is, if it is one. Numerals and reserved words are none. -/
def identifier? : Lexeme → Option String
  | .quoted .name text => some text
  | .word letters =>
      if reservedWords.contains letters || letters.toList.head?.any Char.isDigit then none else some letters
  | .quoted .constant _ | .mark _ => none

/-- The text of a value. -/
def value? : Lexeme → Option String
  | .quoted _ text | .word text => some text
  | .mark _ => none

/-- Whether a lexeme is neither a name nor the dot between two. -/
def divides (lexeme : Lexeme) : Bool := lexeme.identifier?.isNone && lexeme != .mark '.'

end Lexeme

/-- The table that is named at the front of some lexemes. A dot makes the name the one of its schema. -/
def relationAt? (lexemes : List Lexeme) : Option Relation := do
  let first ← lexemes.head?.bind Lexeme.identifier?
  if lexemes[1]? = some (.mark '.') then
    let name ← lexemes[2]?.bind Lexeme.identifier?
    some { schema := some first, name }
  else some { name := first }

/-- The tables that lexemes name, in order. -/
def relationsIn : List Lexeme → List Relation
  | [] => []
  | lexeme :: rest => (if lexeme.introduces then (relationAt? rest).toList else []) ++ relationsIn rest

/-- The tables that a text names. -/
def relations (text : String) : List Relation := relationsIn (lexemes text)

/-- The schema that a command makes the current one, the first of a path. One that is selected for a transaction is
not current behind it, and every text has a transaction of its own. -/
def selectionIn? : List Lexeme → Option String
  | .word "set" :: .word "search_path" :: _ :: schema :: _ => schema.value?
  | .word "set" :: .word "session" :: .word "search_path" :: _ :: schema :: _ => schema.value?
  | .word "set" :: .word "schema" :: schema :: _ => schema.value?
  | .word "select" :: .word "set_config" :: .mark '(' :: .quoted .constant "search_path" :: .mark ',' :: schema :: _ =>
      schema.value?
  | _ => none

/-- The schema that a text selects, if it does. -/
def selection? (text : String) : Option String := selectionIn? (lexemes text)

/-- Texts that are sent one after the other are about tables of one schema alone, where some schema is current at first.
A text may select another one for those behind it. -/
def Confined (schema : String) : String → List String → Prop
  | _, [] => True
  | current, text :: texts =>
      (∀ relation ∈ relations text, relation.home current = schema)
        ∧ Confined schema ((selection? text).getD current) texts

instance decidableConfined (schema : String) : (current : String) → (texts : List String) →
    Decidable (Confined schema current texts)
  | _, [] => inferInstanceAs (Decidable True)
  | current, text :: texts =>
      have := decidableConfined schema ((selection? text).getD current) texts
      inferInstanceAs (Decidable (_ ∧ _))

/-- A text names these tables, each by itself, and selects no schema. -/
structure Bare (text : String) (tables : List String) : Prop where
  relations : relations text = tables.map fun name => { name }
  selection : selection? text = none

/-- Texts that name some tables, each by itself, are about tables of the schema that is current when they are sent. -/
theorem confined_iff_of_bare {schema current : String} {texts : List String}
    (h : ∀ text ∈ texts, ∃ tables, tables ≠ [] ∧ Bare text tables) :
    Confined schema current texts ↔ texts = [] ∨ current = schema := by
  induction texts with
  | nil => exact iff_of_true trivial (.inl rfl)
  | cons text texts ih =>
      obtain ⟨⟨tables, hne, hbare⟩, hothers⟩ := List.forall_mem_cons.1 h
      rw [Confined, hbare.selection, Option.getD_none, ih hothers, hbare.relations, List.forall_mem_map]
      obtain ⟨table, others, rfl⟩ := List.exists_cons_of_ne_nil hne
      constructor
      · rintro ⟨hhome, -⟩
        exact .inr (hhome table List.mem_cons_self)
      · rintro (hempty | rfl)
        · cases hempty
        · exact ⟨fun _ _ => rfl, .inr rfl⟩

/-- Texts that name the schema are confined to it, and so are those behind one that selects it. -/
example : Confined "sales" "public"
    ["CREATE TABLE \"sales\".\"Order\" (\"OrderID\" integer)", "SET search_path TO sales, public",
     "ALTER TABLE \"Order\" ADD COLUMN \"Note\" text"] := by
  decide +kernel

section Reading

variable {first second : List Lexeme}

/-- Whether no lexeme asks for a table that the next one could name. -/
def isMute : List Lexeme → Bool
  | [] => true
  | lexeme :: rest => (!lexeme.introduces || rest.head?.any (·.identifier?.isNone)) && isMute rest

/-- Whether the last lexeme, but none before it, asks for a table. -/
def isNaming (lexemes : List Lexeme) : Bool := isMute lexemes.dropLast && lexemes.getLast?.any (·.introduces)

theorem relationAt?_append (h : ∀ lexeme ∈ second.head?, lexeme.divides = true) :
    relationAt? (first ++ second) = relationAt? first := by
  have hname : second.head?.bind Lexeme.identifier? = none := by
    cases hhead : second.head? with
    | none => rfl
    | some lexeme =>
        have hdivides := h lexeme hhead
        rw [Lexeme.divides, Bool.and_eq_true] at hdivides
        exact Option.isNone_iff_eq_none.1 hdivides.1
  have hdot : second.head? ≠ some (.mark '.') := fun hdot => by cases h _ hdot
  -- the name of a table is told from three lexemes at most
  match first with
  | [] => simp [relationAt?, hname]
  | [lexeme] => simp [relationAt?, ← List.head?_eq_getElem?, hdot]
  | [lexeme, next] => simp [relationAt?, ← List.head?_eq_getElem?, hname]
  | lexeme :: next :: other :: rest => rfl

/-- What comes behind lexemes names tables of its own if it begins neither with a name nor with a dot. -/
theorem relationsIn_append (h : ∀ lexeme ∈ second.head?, lexeme.divides = true) :
    relationsIn (first ++ second) = relationsIn first ++ relationsIn second := by
  induction first with
  | nil => rfl
  | cons lexeme rest ih =>
      rw [List.cons_append, relationsIn, relationsIn, ih, relationAt?_append h, List.append_assoc]

theorem relationsIn_mute (h : isMute first = true) : relationsIn (first ++ second) = relationsIn second := by
  induction first with
  | nil => rfl
  | cons lexeme rest ih =>
      rw [isMute, Bool.and_eq_true] at h
      have hnone : (if lexeme.introduces then (relationAt? (rest ++ second)).toList else []) = [] := by
        cases hword : lexeme.introduces with
        | false => rfl
        | true =>
            rw [hword] at h
            cases rest with
            | nil => cases h.1
            | cons next others =>
                have hname : next.identifier? = none := Option.isNone_iff_eq_none.1 h.1
                simp [relationAt?, hname]
      rw [List.cons_append, relationsIn, hnone, List.nil_append, ih h.2]

theorem relationsIn_naming {name : String} (h : isNaming first = true) (hrest : second.head? ≠ some (.mark '.')) :
    relationsIn (first ++ .quoted .name name :: second) = { name } :: relationsIn second := by
  rw [isNaming, Bool.and_eq_true] at h
  cases hword : first.getLast? with
  | none =>
      rw [hword] at h
      cases h.2
  | some word =>
      rw [hword] at h
      have hsplit : first.dropLast ++ [word] = first := List.dropLast_append_getLast? word hword
      have hname : relationAt? (.quoted .name name :: second) = some { name } := by
        simp [relationAt?, Lexeme.identifier?, ← List.head?_eq_getElem?, hrest]
      have hasked : word.introduces = true := h.2
      rw [← hsplit, List.append_assoc, List.singleton_append, relationsIn_mute h.1, relationsIn, hasked, if_pos rfl,
        hname]
      rfl

end Reading

/-- A text that names no table, if what follows is divided from it. -/
structure Idle (text : String) : Prop where
  settled : (openEnd text).isSettled = true
  names : relations text = []

instance (text : String) : Decidable (Idle text) :=
  decidable_of_iff ((openEnd text).isSettled = true ∧ relations text = [])
    ⟨fun ⟨hsettled, hnames⟩ => ⟨hsettled, hnames⟩, fun ⟨hsettled, hnames⟩ => ⟨hsettled, hnames⟩⟩

/-- A part of a text: plain words and marks, a quoted name, or a text that names no table. -/
inductive Segment where
  | plain (text : String)
  | name (text : String)
  | idle (text : String)

namespace Segment

@[reducible] def text : Segment → String
  | .plain text | .idle text => text
  | .name text => quote text

def name? : Segment → Option String
  | .name text => some text
  | .plain _ | .idle _ => none

def idle? : Segment → Option String
  | .idle text => some text
  | .plain _ | .name _ => none

/-- Whether a table is named next. -/
def asks : Segment → Bool
  | .plain text => isNaming (lexemes text)
  | .name _ | .idle _ => false

/-- Whether a segment ends what is before it. -/
def isApart : Segment → Bool
  | .plain text => text ≠ "" && standsApart text
  | .name _ | .idle _ => false

/-- Whether a segment goes on with a lexeme of some kind. -/
def goesOn (kind : Lexeme → Bool) : Segment → Bool
  | .plain text => (lexemes text).head?.any kind
  | .name _ | .idle _ => false

/-- Whether a segment may stand before others. Plain text is whole, except at the end, and asks for a table only where
a name follows that has no dot behind it. Behind a text that names no table there is neither a name nor a dot. -/
def joins : Segment → List Segment → Bool
  | .plain text, [] => (openEnd text).isSettled && isMute (lexemes text)
  | .plain text, next :: rest =>
      openEnd text = .between
        && if isNaming (lexemes text) then next.name?.isSome && rest.head?.all (goesOn (· != .mark '.'))
          else isMute (lexemes text)
  | .name _, rest => rest.head?.all isApart
  | .idle _, rest => rest.head?.all fun next => next.isApart && next.goesOn (·.divides)

end Segment

/-- Whether segments may stand one behind the other. -/
def joined : List Segment → Bool
  | [] => true
  | segment :: rest => segment.joins rest && joined rest

/-- The text of some segments. It unfolds by itself, so that a text is recognised as the one that segments spell. -/
@[reducible] def spell : List Segment → String
  | [] => ""
  | [segment] => segment.text
  | segment :: rest => segment.text ++ spell rest

/-- The names that segments ask for. -/
def asked : List Segment → List String
  | [] => []
  | segment :: rest => (if segment.asks then (rest.head?.bind Segment.name?).toList else []) ++ asked rest

/-- Whether lexemes begin a command that selects no schema. -/
def isOrdinary : List Lexeme → Bool
  | .word command :: rest => command ≠ "set" && (command ≠ "select" || rest.head?.any (· ≠ .word "set_config"))
  | _ => false

/-- Whether segments make a command that selects no schema. -/
def isStatement : List Segment → Bool
  | .plain text :: rest => isOrdinary (lexemes text) && joined (.plain text :: rest)
  | _ => false

section Texts

variable {front text name : String}

theorem relations_mute (hclosed : openEnd front = .between) (h : isMute (lexemes front) = true) :
    relations (front ++ text) = relations text := by
  rw [relations, lexemes_append_of_closed hclosed, relationsIn_mute h]
  rfl

theorem relations_quote (h : standsApart text = true) : relations (quote name ++ text) = relations text := by
  rw [relations, lexemes_quote_append name h]
  rfl

theorem relations_naming (hclosed : openEnd front = .between) (h : isNaming (lexemes front) = true)
    (hapart : standsApart text = true) (hdot : (lexemes text).head?.all (· != .mark '.') = true) :
    relations (front ++ (quote name ++ text)) = { name } :: relations text := by
  rw [relations, lexemes_append_of_closed hclosed, lexemes_quote_append name hapart]
  refine relationsIn_naming h fun hmark => ?_
  rw [hmark] at hdot
  cases hdot

theorem relations_idle (h : Idle front) (hapart : standsApart text = true)
    (hdivides : (lexemes text).head?.all (·.divides) = true) : relations (front ++ text) = relations text := by
  have hnames : relationsIn (lexemes front) = [] := h.names
  rw [relations, lexemes_append_apart h.settled hapart, relationsIn_append, hnames]
  · rfl
  · intro lexeme hmem
    rw [Option.mem_def.1 hmem] at hdivides
    exact hdivides

end Texts

section Segments

variable {segments rest : List Segment} {text separator : String} {texts : List String} {kind : Lexeme → Bool}

theorem spell_cons (segment : Segment) (rest : List Segment) :
    spell (segment :: rest) = segment.text ++ spell rest := by
  cases rest with
  | nil => exact String.append_empty.symm
  | cons next others => rfl

theorem closed_of_joined {next : Segment} (h : joined (.plain text :: next :: rest) = true) :
    openEnd text = .between := by
  rw [joined, Segment.joins, Bool.and_eq_true, Bool.and_eq_true, decide_eq_true_eq] at h
  exact h.1.1

theorem lexemes_plain (h : joined (.plain text :: rest) = true) :
    lexemes (spell (.plain text :: rest)) = lexemes text ++ lexemes (spell rest) := by
  cases rest with
  | nil => exact (List.append_nil _).symm
  | cons next others => exact lexemes_append_of_closed (closed_of_joined h)

/-- Segments end what is before them if the first of them does. -/
theorem standsApart_spell (h : rest.head?.all Segment.isApart = true) : standsApart (spell rest) = true := by
  cases rest with
  | nil => rfl
  | cons segment others =>
      cases segment with
      | name name => cases h
      | idle text => cases h
      | plain text =>
          have happart : text ≠ "" ∧ standsApart text = true := by simpa [Segment.isApart] using h
          rw [spell_cons]
          exact standsApart_append happart.2 happart.1

theorem head_spell (hjoined : joined rest = true) (h : rest.head?.all (Segment.goesOn kind) = true) :
    (lexemes (spell rest)).head?.all kind = true := by
  cases rest with
  | nil => rfl
  | cons segment others =>
      cases segment with
      | name name => cases h
      | idle text => cases h
      | plain text =>
          have hhead : (lexemes text).head?.any kind = true := h
          rw [lexemes_plain hjoined]
          cases hlexemes : lexemes text with
          | nil =>
              rw [hlexemes] at hhead
              cases hhead
          | cons lexeme more =>
              rw [hlexemes] at hhead
              exact hhead

/-- Segments name the tables that they ask for, and break nothing off. -/
def Reads (segments : List Segment) : Prop :=
  (openEnd (spell segments)).isSettled = true
    ∧ relations (spell segments) = (asked segments).map fun name => { name }

theorem reads_name {name : String} (hjoined : joined (.name name :: rest) = true) (hrest : Reads rest) :
    Reads (.name name :: rest) := by
  have hapart := standsApart_spell (Bool.and_eq_true_iff.1 hjoined).1
  rw [Reads, spell_cons]
  exact ⟨isSettled_append_apart (isSettled_quote name) hapart hrest.1, (relations_quote hapart).trans hrest.2⟩

theorem reads_idle (htext : Idle text) (hjoined : joined (.idle text :: rest) = true) (hrest : Reads rest) :
    Reads (.idle text :: rest) := by
  obtain ⟨hjoins, hothers⟩ := Bool.and_eq_true_iff.1 hjoined
  have hends : rest.head?.all Segment.isApart = true ∧ rest.head?.all (Segment.goesOn (·.divides)) = true := by
    cases rest with
    | nil => exact ⟨rfl, rfl⟩
    | cons next others => exact Bool.and_eq_true_iff.1 hjoins
  have hapart := standsApart_spell hends.1
  rw [Reads, spell_cons]
  exact ⟨isSettled_append_apart htext.settled hapart hrest.1,
    (relations_idle htext hapart (head_spell hothers hends.2)).trans hrest.2⟩

theorem reads_plain (hjoined : joined (.plain text :: rest) = true) (hrest : Reads rest) :
    Reads (.plain text :: rest) := by
  obtain ⟨hjoins, hothers⟩ := Bool.and_eq_true_iff.1 hjoined
  have hasked : asked (.plain text :: rest) =
      (if isNaming (lexemes text) then (rest.head?.bind Segment.name?).toList else []) ++ asked rest := rfl
  cases rest with
  | nil =>
      obtain ⟨hsettled, hmute⟩ := Bool.and_eq_true_iff.1 hjoins
      have hnone : relations text = [] := by
        rw [relations, ← List.append_nil (lexemes text), relationsIn_mute hmute]
        rfl
      refine ⟨hsettled, hnone.trans ?_⟩
      rw [hasked]
      cases isNaming (lexemes text) <;> rfl
  | cons next others =>
      have hclosed := closed_of_joined hjoined
      rw [Reads, spell_cons, Segment.text, openEnd_append_of_closed hclosed, hasked]
      refine ⟨hrest.1, ?_⟩
      cases hasks : isNaming (lexemes text) with
      | false =>
          have hmute : isMute (lexemes text) = true := by simpa [Segment.joins, hasks, hclosed] using hjoins
          exact (relations_mute hclosed hmute).trans hrest.2
      | true =>
          have hname : next.name?.isSome = true ∧ others.head?.all (Segment.goesOn (· != .mark '.')) = true := by
            simpa [Segment.joins, hasks, hclosed] using hjoins
          cases next with
          | plain text => cases hname.1
          | idle text => cases hname.1
          | name name =>
              obtain ⟨hapart, hlast⟩ := Bool.and_eq_true_iff.1 hothers
              have happart := standsApart_spell hapart
              have hnames := hrest.2
              rw [spell_cons, Segment.text] at hnames ⊢
              rw [relations_naming hclosed hasks happart (head_spell hlast hname.2), ← relations_quote happart, hnames]
              rfl

theorem reads_of_joined (hjoined : joined segments = true)
    (hidle : ∀ text ∈ segments.filterMap Segment.idle?, Idle text) : Reads segments := by
  induction segments with
  | nil => exact ⟨rfl, rfl⟩
  | cons segment rest ih =>
      have hrest := (Bool.and_eq_true_iff.1 hjoined).2
      cases segment with
      | plain text => exact reads_plain hjoined (ih hrest hidle)
      | name name => exact reads_name hjoined (ih hrest hidle)
      | idle text =>
          obtain ⟨htext, hothers⟩ := List.forall_mem_cons.1 hidle
          exact reads_idle htext hjoined (ih hrest hothers)

/-- Segments that ask for no table name none. -/
theorem idle_spell (segments : List Segment) (hjoined : joined segments = true) (hasked : asked segments = [])
    (hidle : ∀ text ∈ segments.filterMap Segment.idle?, Idle text) : Idle (spell segments) := by
  obtain ⟨hsettled, hnames⟩ := reads_of_joined hjoined hidle
  exact ⟨hsettled, by rw [hnames, hasked]; rfl⟩

theorem idle_quote (name : String) : Idle (quote name) := idle_spell [.name name] rfl rfl (List.forall_mem_nil _)

theorem idle_joinWith
    (hjoined : ∀ first second, joined [.idle first, .plain separator, .idle second] = true)
    (h : ∀ text ∈ texts, Idle text) : Idle (Text.joinWith separator texts) := by
  induction texts with
  | nil => exact ⟨rfl, rfl⟩
  | cons text texts ih =>
      obtain ⟨htext, htexts⟩ := List.forall_mem_cons.1 h
      cases texts with
      | nil => exact htext
      | cons next others =>
          have hjoin : Text.joinWith separator (text :: next :: others) =
              text ++ (separator ++ Text.joinWith separator (next :: others)) := String.append_assoc ..
          rw [hjoin]
          exact idle_spell [.idle text, .plain separator, .idle (Text.joinWith separator (next :: others))]
            (hjoined _ _) (by simp [asked, Segment.name?])
            (List.forall_mem_cons.2 ⟨htext, List.forall_mem_singleton.2 (ih htexts)⟩)

theorem selectionIn?_ordinary {first second : List Lexeme} (h : isOrdinary first = true) :
    selectionIn? (first ++ second) = none := by
  match first with
  | [] => cases h
  | .quoted _ _ :: _ => cases h
  | .mark _ :: _ => cases h
  | .word command :: rest =>
      obtain ⟨hset, hselect⟩ := Bool.and_eq_true_iff.1 h
      have hset : command ≠ "set" := of_decide_eq_true hset
      have hselect : command = "select" → ∀ more, rest ++ second ≠ .word "set_config" :: more := by
        rintro rfl more hmore
        cases rest with
        | nil => cases hselect
        | cons next others =>
            cases hmore
            cases hselect
      rw [List.cons_append]
      unfold selectionIn?
      split
      · next heq => exact absurd (Lexeme.word.inj (List.cons.inj heq).1) hset
      · next heq => exact absurd (Lexeme.word.inj (List.cons.inj heq).1) hset
      · next heq => exact absurd (Lexeme.word.inj (List.cons.inj heq).1) hset
      · next heq =>
          obtain ⟨hcommand, hmore⟩ := List.cons.inj heq
          exact absurd hmore (hselect (Lexeme.word.inj hcommand) _)
      · rfl

/-- A command of segments names the tables that they ask for. -/
theorem bare_spell (segments : List Segment) (h : isStatement segments = true)
    (hidle : ∀ text ∈ segments.filterMap Segment.idle?, Idle text) : Bare (spell segments) (asked segments) := by
  match segments with
  | [] => cases h
  | .name _ :: _ => cases h
  | .idle _ :: _ => cases h
  | .plain text :: rest =>
      obtain ⟨hordinary, hjoined⟩ := Bool.and_eq_true_iff.1 h
      refine ⟨(reads_of_joined hjoined hidle).2, ?_⟩
      rw [selection?, lexemes_plain hjoined]
      exact selectionIn?_ordinary hordinary

end Segments

/-- A text of word characters is one word, which names nothing as nothing follows. -/
theorem idle_of_isWordy {text : String} (h : Model.IsWordy text) : Idle text := by
  obtain ⟨hsettled, hnone | ⟨letters, hword⟩⟩ := lexemes_of_isWordy h
  · exact ⟨hsettled, by rw [relations, hnone]; rfl⟩
  · refine ⟨hsettled, ?_⟩
    have hend : (relationAt? []).toList = [] := rfl
    rw [relations, hword, relationsIn, hend, ite_self]
    rfl

end SchemaMigrate.Sql
