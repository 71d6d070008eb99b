import SchemaMigrate.Proofs.Model.Origins
import SchemaMigrate.Proofs.Model.Sizes

/-!
Lines that start with the keyword of relationships. Main statement: such a line fails at a place or adds one
integer column with its foreign key, unless it is misread. A line is misread if it has parameters or a
question mark right behind the keyword, or marks at its end: then it is no relationship, and the reader of
fields takes it for a field whose type is called like the keyword. Such fields get into a schema in this
way, and through headers that ask for a key of that type, and in no other.
-/

namespace SchemaMigrate.Model

open Text (isBlank isNameStart isWord spanName? spanWord trimLeft)

/-- The words with which relationships are declared. -/
def IsKeyword (word : String) : Prop := word = "model" ∨ word = "models"

/-- A line starts with such a word, behind a mark if there is one. -/
def StartsWithKeyword (text : List Char) : Prop :=
  IsKeyword (String.ofList (spanWord (trimLeft (skipMark '!' text).2)).1)

instance : DecidablePred IsKeyword := fun _ => instDecidableOr

instance : DecidablePred StartsWithKeyword := fun _ => instDecidableOr

/-- A line with the keyword is read as a field of a type of that name: it has parameters or a question mark at
the keyword, or marks at its end, so that it is no relationship. -/
structure MisreadAs (line : Line) (field : FieldLine) : Prop where
  read : readField? line.text = some (.field field)
  keyword : IsKeyword field.type.code
  more : field.type.params.isSome = true ∨ field.nullable = true ∨ field.marks ≠ []

section Readers

variable {text name rest : List Char}

/-- A name is the first word of its text. -/
theorem spanWord_of_spanName? (h : spanName? text = some (name, rest)) :
    spanWord text = (name, rest) ∧ ∃ c tail, text = c :: tail ∧ isNameStart c = true := by
  cases text with
  | nil => cases h
  | cons c tail =>
      rw [spanName?] at h
      split at h
      · rename_i hc
        cases h
        have hword := Text.isWord_of_isNameStart hc
        refine ⟨?_, c, tail, rfl, hc⟩
        rw [spanWord, List.takeWhile_cons_of_pos hword, List.dropWhile_cons_of_pos hword]
        rfl
      · cases h

theorem skipMark_of_ne {mark c : Char} (h : c ≠ mark) : skipMark mark (c :: rest) = (false, c :: rest) := if_neg h

theorem isBlank_ne_of {c mark : Char} (h : isBlank c = true) (hmark : isBlank mark = false) : c ≠ mark := by
  rintro rfl
  rw [hmark] at h
  cases h

/-- Blanks are skipped if there is one. -/
theorem skipBlanks?_eq_some_iff {after : List Char} :
    skipBlanks? text = some after ↔ startsBlank text = true ∧ after = trimLeft text := by
  cases text with
  | nil => simp [skipBlanks?, startsBlank]
  | cons c rest =>
      rw [skipBlanks?, startsBlank]
      cases hc : isBlank c with
      | false => simp
      | true =>
          rw [if_pos rfl, trimLeft, trimLeft, List.dropWhile_cons_of_pos hc]
          simp [eq_comm]

/-- Nothing stands in the way of blanks. -/
theorem of_startsBlank (h : startsBlank text = true) :
    spanParams text = (none, text) ∧ ∀ mark, isBlank mark = false → skipMark mark text = (false, text) := by
  cases text with
  | nil => cases h
  | cons c rest =>
      have hc : isBlank c = true := h
      refine ⟨?_, fun mark hmark => skipMark_of_ne (isBlank_ne_of hc hmark)⟩
      rw [spanParams, spanParens?, if_neg (isBlank_ne_of hc rfl)]

/-- Marks that are read start with a blank and the sign of marks, if there are any. -/
theorem readMarks?_cases {marks : List String} (h : readMarks? true text = some marks) :
    text = [] ∧ marks = [] ∨
      startsBlank text = true ∧ (∃ rest, trimLeft text = '@' :: rest) ∧ marks ≠ [] := by
  rw [readMarks?] at h
  split at h
  · rename_i hempty
    cases h
    exact .inl ⟨List.isEmpty_iff.1 hempty, rfl⟩
  · split at h
    · cases h
    · rename_i hblank
      split at h
      · cases h
      · rename_i mark rest htrim
        split at h
        · rename_i hmark
          dsimp only at h
          split at h
          · cases h
          · obtain ⟨others, -, rfl⟩ := Option.map_eq_some_iff.1 h
            refine .inr ⟨by simpa using hblank, ⟨rest, hmark ▸ htrim⟩, List.cons_ne_nil _ _⟩
        · cases h

theorem spanParams_of_none (h : (spanParams text).1 = none) : (spanParams text).2 = text := by
  unfold spanParams at h ⊢
  split at h
  · rfl
  · cases h

theorem skipMark_of_false {mark : Char} (h : (skipMark mark text).1 = false) : (skipMark mark text).2 = text := by
  cases text with
  | nil => rfl
  | cons c rest =>
      by_cases hc : c = mark
      · rw [hc, skipMark, if_pos rfl] at h
        cases h
      · rw [skipMark_of_ne hc]

/-- Marks are no role. -/
theorem readRole?_of_marks (hblank : startsBlank text = true) (hmark : trimLeft text = '@' :: rest) :
    readRole? text = none := by
  have hempty : text.isEmpty = false := by
    cases text with
    | nil => cases hblank
    | cons => rfl
  have hskip : skipBlanks? text = some ('@' :: rest) := skipBlanks?_eq_some_iff.2 ⟨hblank, hmark.symm⟩
  have hword : skipWord? "as" ('@' :: rest) = none := if_neg (by simp [spanWord, isWord])
  simp [readRole?, hempty, hskip, hword]

end Readers

section Lines

variable {text : List Char} {field : FieldLine}

/-- What is read of a line behind the keyword: a target, and a role if anything follows. -/
theorem readRelationship?_isSome_iff {code rest : List Char} (hname : spanName? text = some (code, rest))
    (hkeyword : IsKeyword (String.ofList code)) :
    (readRelationship? text).isSome = true ↔ startsBlank rest = true ∧ ∃ target tail,
      spanName? (trimLeft rest) = some (target, tail) ∧ (readRole? (skipMark '?' tail).2).isSome = true := by
  obtain ⟨hword, c, tail, rfl, hc⟩ := spanWord_of_spanName? hname
  have hmark : skipMark '!' (c :: tail) = (false, c :: tail) :=
    skipMark_of_ne (Text.ne_of_isWord (Text.isWord_of_isNameStart hc) rfl)
  have hread (member : List Char × List Char → Option String × Bool → Member) :
      ((skipBlanks? rest).bind fun after => (spanName? after).bind fun target =>
        (readRole? (skipMark '?' target.2).2).bind fun role => some (member target role)).isSome = true ↔
      startsBlank rest = true ∧ ∃ target tail, spanName? (trimLeft rest) = some (target, tail) ∧
        (readRole? (skipMark '?' tail).2).isSome = true := by
    cases hskip : skipBlanks? rest with
    | none =>
        refine iff_of_false (by simp) fun h => ?_
        rw [skipBlanks?_eq_some_iff.2 ⟨h.1, rfl⟩] at hskip
        cases hskip
    | some after =>
        obtain ⟨hblank, rfl⟩ := skipBlanks?_eq_some_iff.1 hskip
        cases htarget : spanName? (trimLeft rest) with
        | none => simp [htarget]
        | some target =>
            obtain ⟨name, tail⟩ := target
            cases hrole : readRole? (skipMark '?' tail).2 <;> simp [htarget, hrole, hblank]
  rcases hkeyword with h | h
  · have hcode := congrArg String.toList h
    rw [String.toList_ofList] at hcode
    rw [readRelationship?]
    simp only [hmark, hword, hcode, if_true]
    exact hread _
  · have hcode := congrArg String.toList h
    rw [String.toList_ofList] at hcode
    have hother : ¬"models".toList = "model".toList := by decide
    rw [readRelationship?]
    simp only [hmark, hword, hcode, hother, if_false, if_true]
    exact hread _

/-- A line with the keyword that reads as a field is no relationship exactly if it has more than a keyword and a
name. -/
theorem readRelationship?_eq_none_iff (h : readField? text = some (.field field))
    (hkeyword : IsKeyword field.type.code) :
    readRelationship? text = none ↔
      field.type.params.isSome = true ∨ field.nullable = true ∨ field.marks ≠ [] := by
  simp only [readField?, bind, Option.bind_eq_some_iff] at h
  obtain ⟨⟨code, rest⟩, hname, after, hafter, ⟨name, tail⟩, htarget, marks, hmarks, hfield⟩ := h
  cases hfield
  dsimp only at hkeyword htarget hmarks hafter ⊢
  rw [Option.isSome_map, ← Option.not_isSome_iff_eq_none, readRelationship?_isSome_iff hname hkeyword]
  constructor
  · intro hrelationship
    by_contra hmore
    simp only [not_or, Bool.not_eq_true, Option.isSome_eq_false_iff, Option.isNone_iff_eq_none, not_not] at hmore
    obtain ⟨hparams, hnullable, rfl⟩ := hmore
    rw [skipMark_of_false hnullable, spanParams_of_none hparams] at hafter
    obtain ⟨hblank, rfl⟩ := skipBlanks?_eq_some_iff.1 hafter
    rcases readMarks?_cases hmarks with ⟨rfl, -⟩ | ⟨-, -, hmarked⟩
    · exact hrelationship ⟨hblank, name, [], htarget, rfl⟩
    · exact hmarked rfl
  · rintro hmore ⟨hblank, target, tail', htarget', hrole⟩
    obtain ⟨hparams, hmark⟩ := of_startsBlank hblank
    rw [hparams, hmark '?' rfl] at hafter hmore
    obtain ⟨-, rfl⟩ := skipBlanks?_eq_some_iff.1 hafter
    rw [htarget] at htarget'
    cases htarget'
    rcases hmore with hmore | hmore | hmore
    · cases hmore
    · cases hmore
    · rcases readMarks?_cases hmarks with ⟨-, hnone⟩ | ⟨hblank', ⟨marked, hsign⟩, -⟩
      · exact hmore hnone
      · rw [(of_startsBlank hblank').2 '?' rfl, readRole?_of_marks hblank' hsign] at hrole
        cases hrole

/-- What a line can start with whose first word is the keyword. -/
theorem first_of_keyword (h : StartsWithKeyword text) :
    ∃ c rest, text = c :: rest ∧ (c = '!' ∨ isBlank c = true ∨ c = 'm') := by
  cases text with
  | nil => exact absurd h (by decide)
  | cons c rest =>
      refine ⟨c, rest, rfl, ?_⟩
      by_contra hother
      simp only [not_or, Bool.not_eq_true] at hother
      obtain ⟨hmark, hblank, hm⟩ := hother
      rw [StartsWithKeyword, skipMark_of_ne hmark, trimLeft, List.dropWhile_cons_of_neg (by simpa using hblank)] at h
      have hfirst : (spanWord (c :: rest)).1.head? = some 'm' := by
        rcases h with h | h
        · rw [← String.toList_ofList (l := (spanWord (c :: rest)).1), h]
          rfl
        · rw [← String.toList_ofList (l := (spanWord (c :: rest)).1), h]
          rfl
      cases hword : isWord c with
      | true =>
          rw [spanWord, List.takeWhile_cons_of_pos hword] at hfirst
          exact hm (Option.some.inj hfirst)
      | false =>
          rw [spanWord, List.takeWhile_cons_of_neg (by simpa using hword)] at hfirst
          cases hfirst

/-- A line that starts with the keyword is a relationship, or else a field, or nothing. -/
theorem member_of_keyword (h : StartsWithKeyword text) :
    Member.of? text = (readRelationship? text).or (readField? text) := by
  obtain ⟨c, rest, rfl, hc⟩ := first_of_keyword h
  have hne : c ≠ 'i' ∧ c ≠ '@' := by
    rcases hc with rfl | hblank | rfl
    · decide
    · exact ⟨isBlank_ne_of hblank rfl, isBlank_ne_of hblank rfl⟩
    · decide
  have hindex : readIndex? (c :: rest) = none := by
    have hprefix : "index".toList.isPrefixOf? (c :: rest) = none := by
      have hfirst : ('i' == c) = false := beq_eq_false_iff_ne.2 hne.1.symm
      simp [List.isPrefixOf?, hfirst]
    rw [readIndex?, hprefix]
    rfl
  have hattribute : readAttribute? (c :: rest) = none := by
    simp [readAttribute?, hne.2]
  simp [Member.of?, hindex, hattribute]

/-- A field line starts with the keyword exactly if that is the code of its type. -/
theorem startsWithKeyword_iff (h : readField? text = some (.field field)) :
    StartsWithKeyword text ↔ IsKeyword field.type.code := by
  simp only [readField?, bind, Option.bind_eq_some_iff] at h
  obtain ⟨⟨code, rest⟩, hname, after, hafter, ⟨name, tail⟩, htarget, marks, hmarks, hfield⟩ := h
  cases hfield
  obtain ⟨hword, c, tail, rfl, hc⟩ := spanWord_of_spanName? hname
  have hfirst := Text.isWord_of_isNameStart hc
  have hblank : ¬isBlank c = true := by
    rw [Text.isBlank_of_isWord hfirst]
    decide
  rw [StartsWithKeyword, skipMark_of_ne (Text.ne_of_isWord hfirst rfl), trimLeft,
    List.dropWhile_cons_of_neg hblank, hword]

/-- A line is misread if it is a field and its type is called like the keyword. -/
theorem misreadAs_iff {line : Line} :
    MisreadAs line field ↔ Member.of? line.text = some (.field field) ∧ IsKeyword field.type.code := by
  constructor
  · rintro ⟨hread, hkeyword, hmore⟩
    refine ⟨?_, hkeyword⟩
    rw [member_of_keyword ((startsWithKeyword_iff hread).2 hkeyword),
      (readRelationship?_eq_none_iff hread hkeyword).2 hmore, Option.none_or, hread]
  · rintro ⟨hmember, hkeyword⟩
    have hread := readField?_of_member hmember
    refine ⟨hread, hkeyword, (readRelationship?_eq_none_iff hread hkeyword).1 ?_⟩
    rw [member_of_keyword ((startsWithKeyword_iff hread).2 hkeyword)] at hmember
    cases hrelationship : readRelationship? line.text with
    | none => rfl
    | some member =>
        obtain ⟨relationship, rfl⟩ := readRelationship?_eq_some hrelationship
        rw [hrelationship] at hmember
        cases hmember

end Lines

section Types

variable {type : DeclaredType} {place : Fault → Failure} {stored : ColumnType}

theorem modelType?_of_keyword {code : String} (h : IsKeyword code) : modelType? code = none := by
  rcases h with rfl | rfl
  · decide +kernel
  · decide +kernel

theorem not_isKeyword_storage : ∀ known ∈ modelTypes, ¬IsKeyword known.storage := by decide

/-- A type that is called like the keyword is not known and stays as it is. -/
theorem columnType_of_keyword {precision scale : Option Int} (h : IsKeyword type.code)
    (hsize : type.size = .ok (precision, scale)) :
    type.columnType place = .ok { name := type.code, precision, scale } := by
  have hstored : ColumnType.ofDeclared { name := type.code, precision, scale } =
      .ok { name := type.code, precision, scale } := by
    simp [ColumnType.ofDeclared, modelType?_of_keyword h]
  exact columnType_eq_ok_iff.2 ⟨precision, scale, hsize, hstored⟩

/-- A column has a type of that name if it is declared with it. -/
theorem isKeyword_columnType (h : type.columnType place = .ok stored) :
    IsKeyword stored.name ↔ IsKeyword type.code := by
  obtain ⟨precision, scale, hsize, hstored⟩ := columnType_eq_ok_iff.1 h
  constructor
  · intro hname
    rcases ofDeclared_name hstored with ⟨-, rfl⟩ | ⟨known, hknown, -, hstorage⟩
    · exact hname
    · rw [hstorage] at hname
      exact absurd hname (not_isKeyword_storage known hknown)
  · intro hcode
    rw [columnType_of_keyword hcode hsize] at h
    cases h
    exact hcode

theorem isKeyword_keyField {header : ModelHeader} {key : Field} (h : header.keyField place = .ok key) :
    IsKeyword key.type.name ↔ ∃ type, header.keyType = some type ∧ IsKeyword type.code := by
  obtain ⟨stored, hstored, hkey⟩ := bind_eq_ok h
  cases hkey
  rw [isKeyword_columnType hstored]
  cases header.keyType with
  | none => simp [IsKeyword]
  | some type => simp

end Types

section Additions

variable {line : Line} {added : Additions}

/-- The types of a line that is in order are called like the keyword exactly if the line is misread. -/
theorem isKeyword_of_line (h : line.additions? = some added) :
    (∃ type ∈ typesOf added.fields, IsKeyword type.name) ↔ ∃ field, MisreadAs line field := by
  simp only [misreadAs_iff]
  cases adds_of_additions? h with
  | index hmember => simp [hmember, typesOf]
  | flag hmember => simp [hmember, typesOf]
  | relationship hmember => simp [hmember, typesOf, RelationshipLine.field, IsKeyword]
  | field hmember hfield =>
      obtain ⟨stored, hstored, hresult⟩ := bind_eq_ok hfield
      cases hresult
      simp [hmember, typesOf, isKeyword_columnType hstored]

/-- What a relationship adds: an integer column, named after its role and its target, and a foreign key on it. -/
def RelationshipLine.additions (line : RelationshipLine) : Additions where
  fields := [line.field]
  foreignKeys := [line.foreignKey]

/-- A line fails at a place, or it is a relationship and adds its column and its foreign key and nothing else,
whatever table or mixin it stands in. -/
structure Relates (line : Line) : Prop where
  table : ∀ block table, (∃ failure, addToTable block table line = .error (.located failure)) ∨
    ∃ relationship, Member.of? line.text = some (.relationship relationship) ∧
      addToTable block table line = .ok (withAdditions table relationship.additions)
  mixin : ∀ block mixin, (∃ failure, addToMixin block mixin line = .error (.located failure)) ∨
    ∃ relationship, Member.of? line.text = some (.relationship relationship) ∧
      addToMixin block mixin line = .ok (mixinAdditions mixin relationship.additions)

/-- A line with the keyword that is not misread adds what a relationship adds. -/
theorem additions_of_keyword (hline : StartsWithKeyword line.text)
    (hsize : ∀ field, MisreadAs line field → field.type.size = .error .malformed) (h : line.additions? = some added) :
    ∃ relationship, Member.of? line.text = some (.relationship relationship) ∧ added = relationship.additions := by
  obtain ⟨member, hmember, hadded⟩ := Option.bind_eq_some_iff.1 h
  have hread := hmember
  rw [member_of_keyword hline, Option.or_eq_some_iff] at hread
  rcases hread with hread | ⟨-, hread⟩
  · obtain ⟨relationship, rfl⟩ := readRelationship?_eq_some hread
    cases hadded
    exact ⟨relationship, hmember, rfl⟩
  · obtain ⟨fieldLine, rfl⟩ := readField?_eq_some hread
    obtain ⟨field, hfield, rfl⟩ := Option.map_eq_some_iff.1 hadded
    have hmalformed := hsize fieldLine (misreadAs_iff.2 ⟨hmember, (startsWithKeyword_iff hread).1 hline⟩)
    obtain ⟨stored, hstored, -⟩ := bind_eq_ok (toOption_eq_some_iff.1 hfield)
    rw [columnType_of_size_error hmalformed] at hstored
    cases hstored

/-- Such a line has no size that is no numeral. -/
theorem not_unreadable_of_keyword (hline : StartsWithKeyword line.text)
    (hsize : ∀ field, MisreadAs line field → field.type.size = .error .malformed) : ¬UnreadableLine line := by
  rintro ⟨field, hmember, hunreadable⟩
  have hkeyword := (startsWithKeyword_iff (readField?_of_member hmember)).1 hline
  obtain ⟨numeral, hnumeral⟩ := size_numeral_iff.2 hunreadable
  rw [hsize field (misreadAs_iff.2 ⟨hmember, hkeyword⟩)] at hnumeral
  cases hnumeral

/-- A misread line breaks the law in a table without fields, unless its size is refused. -/
theorem malformed_of_relates (h : Relates line) {field : FieldLine} (hmisread : MisreadAs line field) :
    field.type.size = .error .malformed := by
  obtain ⟨hmember, hkeyword⟩ := misreadAs_iff.1 hmisread
  let block : Block := { kind := .model, header := [], source := "", lineNumber := 0 }
  have hlaw := h.table block { name := "" }
  cases hsize : field.type.size with
  | error error =>
      cases error with
      | malformed => rfl
      | numeral numeral =>
          have hunreadable : UnreadableLine line := ⟨field, hmember, size_numeral_iff.1 ⟨numeral, hsize⟩⟩
          obtain ⟨other, hother⟩ := addToTable_unreadable hunreadable block { name := "" }
          rw [hother] at hlaw
          rcases hlaw with ⟨failure, hfailure⟩ | ⟨relationship, -, hok⟩
          · cases hfailure
          · cases hok
  | ok size =>
      have hstored (place : Fault → Failure) : field.type.columnType place =
          .ok { name := field.type.code, precision := size.1, scale := size.2 } :=
        columnType_of_keyword hkeyword hsize
      obtain ⟨result, hresult⟩ : ∃ result, field.field? = some result := by
        simp [FieldLine.field?, FieldLine.field, hstored, bind, Except.bind, Except.toOption]
      have hadded : line.additions? = some { fields := [result] } := by
        simp [Line.additions?, hmember, Member.additions?, hresult]
      have hfresh : Fresh [] [result] := fresh_singleton_iff.2 rfl
      rw [addToTable_eq_ok_iff.2 ⟨_, hadded, hfresh, rfl⟩] at hlaw
      rcases hlaw with ⟨failure, hfailure⟩ | ⟨relationship, hrelationship, -⟩
      · cases hfailure
      · rw [hmember] at hrelationship
        cases hrelationship

/-- A line with the keyword keeps to the law exactly if it is not misread, or if its size is refused then. -/
theorem relates_iff (hline : StartsWithKeyword line.text) :
    Relates line ↔ ∀ field, MisreadAs line field → field.type.size = .error .malformed := by
  refine ⟨fun h field hmisread => malformed_of_relates h hmisread, fun hsize => ?_⟩
  refine ⟨fun block table => ?_, fun block mixin => ?_⟩
  · cases hresult : addToTable block table line with
    | error error =>
        rcases addToTable_errsAt hresult with ⟨failure, rfl, -⟩ | ⟨-, hunreadable⟩
        · exact .inl ⟨failure, rfl⟩
        · exact absurd hunreadable (not_unreadable_of_keyword hline hsize)
    | ok result =>
        obtain ⟨added, hadded, -, rfl⟩ := addToTable_eq_ok_iff.1 hresult
        obtain ⟨relationship, hmember, rfl⟩ := additions_of_keyword hline hsize hadded
        exact .inr ⟨relationship, hmember, rfl⟩
  · cases hresult : addToMixin block mixin line with
    | error error =>
        rcases addToMixin_errsAt hresult with ⟨failure, rfl, -⟩ | ⟨-, hunreadable⟩
        · exact .inl ⟨failure, rfl⟩
        · exact absurd hunreadable (not_unreadable_of_keyword hline hsize)
    | ok result =>
        obtain ⟨added, hadded, -, -, rfl⟩ := addToMixin_eq_ok_iff.1 hresult
        obtain ⟨relationship, hmember, rfl⟩ := additions_of_keyword hline hsize hadded
        exact .inr ⟨relationship, hmember, rfl⟩

end Additions

section Blocks

variable {block : Block}

/-- The header of a model asks for a key whose type is called like the keyword. -/
def KeyedByKeyword (block : Block) : Prop :=
  block.kind = .model ∧ ∃ header type, ModelHeader.of? block.header = some header ∧ header.keyType = some type ∧
    IsKeyword type.code

theorem additions_of_mem {lines : List Line} {added : Additions} (h : additionsOf? lines = some added) :
    ∀ line ∈ lines, ∃ own, line.additions? = some own := by
  induction lines generalizing added with
  | nil => exact List.forall_mem_nil _
  | cons line lines ih =>
      obtain ⟨own, hown, others, hothers, -⟩ := additionsOf?_cons_iff.1 h
      exact List.forall_mem_cons.2 ⟨⟨own, hown⟩, ih hothers⟩

/-- A block that is in order brings a type of that name with a misread line or with its key. -/
theorem brings_keyword_iff (h : InOrder block) :
    (∃ type, Brings block type ∧ IsKeyword type.name) ↔
      (∃ line ∈ block.body, ∃ field, MisreadAs line field) ∨ KeyedByKeyword block := by
  constructor
  · rintro ⟨type, hbrings, hkeyword⟩
    cases hbrings with
    | key hkind hheader hkey htype =>
        rw [← htype] at hkeyword
        obtain ⟨declared, hdeclared, hcode⟩ := (isKeyword_keyField hkey).1 hkeyword
        exact .inr ⟨hkind, _, declared, hheader, hdeclared, hcode⟩
    | line hline hadded htype => exact .inl ⟨_, hline, (isKeyword_of_line hadded).1 ⟨type, htype, hkeyword⟩⟩
  · rintro (⟨line, hline, hmisread⟩ | ⟨hkind, header, declared, hheader, hdeclared, hcode⟩)
    · obtain ⟨added, hadded⟩ := h.lines
      obtain ⟨own, hown⟩ := additions_of_mem hadded line hline
      obtain ⟨type, htype, hkeyword⟩ := (isKeyword_of_line hown).2 hmisread
      exact ⟨type, .line hline hown htype, hkeyword⟩
    · obtain ⟨other, key, hother, hkey⟩ := h.key hkind
      rw [hheader] at hother
      cases hother
      exact ⟨key.type, .key hkind hheader hkey rfl, (isKeyword_keyField hkey).2 ⟨declared, hdeclared, hcode⟩⟩

end Blocks

/-- Relationship lines. A line with the keyword fails at a place or adds an integer column with its foreign key,
in whatever table or mixin it stands, exactly if it is not misread with a size that is not refused. A schema
that was compiled block by block has a field whose type is called like the keyword exactly if a line of a
block is misread or the header of a model asks for such a key. -/
theorem relationships_kept_iff {line : Line} (hline : StartsWithKeyword line.text) {blocks : List Block} {db : Database}
    (hdb : Reaches {} blocks db) :
    (Relates line ↔ ∀ field, MisreadAs line field → field.type.size = .error .malformed)
    ∧ ((∃ type, HasType db type ∧ IsKeyword type.name) ↔
        ∃ block ∈ blocks, (∃ line ∈ block.body, ∃ field, MisreadAs line field) ∨ KeyedByKeyword block) := by
  refine ⟨relates_iff hline, ?_⟩
  have hblocks (block : Block) (hmem : block ∈ blocks) := brings_keyword_iff (hdb.inOrder block hmem)
  constructor
  · rintro ⟨type, htype, hkeyword⟩
    obtain ⟨block, hmem, hbrings⟩ := (hasType_iff_brings hdb).1 htype
    exact ⟨block, hmem, (hblocks block hmem).1 ⟨type, hbrings, hkeyword⟩⟩
  · rintro ⟨block, hmem, hmisread⟩
    obtain ⟨type, hbrings, hkeyword⟩ := (hblocks block hmem).2 hmisread
    exact ⟨type, (hasType_iff_brings hdb).2 ⟨block, hmem, hbrings⟩, hkeyword⟩

/-- A table with a relationship. -/
def ticketText : List Source :=
  [{ name := "ticket.dmd", text := "model Ticket \x7b\n  !models Agent? as Second\n\x7d\n" }]

theorem relationships_kept_iff_ticket :
    let line : Line := { number := 2, text := "!models Agent? as Second".toList }
    let db := (compile {} ticketText).schema
    StartsWithKeyword line.text ∧ ∃ blocks, Reaches {} blocks db
      ∧ (Relates line ↔ ∀ field, MisreadAs line field → field.type.size = .error .malformed)
      ∧ ((∃ type, HasType db type ∧ IsKeyword type.name) ↔
          ∃ block ∈ blocks, (∃ line ∈ block.body, ∃ field, MisreadAs line field) ∨ KeyedByKeyword block) := by
  intro line db
  have hline : StartsWithKeyword line.text := by decide +kernel
  obtain ⟨blocks, hblocks⟩ : ∃ blocks, Reaches {} blocks db := (Compiled.batch .empty ticketText).exists_reaches
  exact ⟨hline, blocks, hblocks, relationships_kept_iff hline hblocks⟩

/-- A relationship with a mark behind it. -/
def markedText : List Source :=
  [{ name := "m.dmd", text := "model A \x7b\n  model Client @Unique\n\x7d\n" }]

/-- It compiles to a column of the type `model`, without a foreign key. -/
theorem relationship_misread :
    StartsWithKeyword "model Client @Unique".toList ∧ (compile {} markedText).error = none
      ∧ ((compile {} markedText).schema.tables.items.map fun table =>
          (table.fields.map fun field => (field.name, field.type.name), table.foreignKeys)) =
        [([("AID", "integer"), ("Client", "model")], [])] := by
  decide +kernel

end SchemaMigrate.Model
