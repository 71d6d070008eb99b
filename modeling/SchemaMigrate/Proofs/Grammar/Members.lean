import Mathlib.Data.List.Basic
import SchemaMigrate.Proofs.Grammar.Expansion
import SchemaMigrate.Proofs.Grammar.Reading

/-!
Each printed member and header is read back. A line is tried as an index, an attribute, a relationship and
a field in turn, so for the later kinds it is also shown that the earlier readers refuse it.
-/

namespace SchemaMigrate.Grammar

open Model
open Text (isWord isBlank isNameStart spanWord spanName? trim trimLeft)

/-- The type as the reader of lines gives it. -/
def TypeTerm.declared (type : TypeTerm) : DeclaredType where
  code := type.code.text
  params := type.size.params?

def FieldTerm.line (term : FieldTerm) : FieldLine where
  type := term.type.declared
  nullable := term.nullable
  name := term.name.text
  marks := term.marks.map (·.text)

def RelationshipTerm.line (term : RelationshipTerm) : RelationshipLine where
  optional := term.optional
  many := term.many
  target := term.target.text
  nullable := term.isNullable
  role := term.role.map (·.1.text)

def MemberTerm.line : MemberTerm → Member
  | .field term => .field term.line
  | .relationship term => .relationship term.line
  | .index term => .index term.tokens (term.marks.map (·.text))
  | .attribute mark => .attribute mark.text

section Fields

/-- What follows the type in the line of a field. -/
def FieldTerm.tail (term : FieldTerm) : List Char :=
  flag '?' term.nullable ++ ' ' :: (term.name.chars ++ marksChars term.marks)

/-- What follows the code of the type. -/
def FieldTerm.rest (term : FieldTerm) : List Char := term.type.size.chars ++ term.tail

theorem FieldTerm.chars_eq (term : FieldTerm) : term.chars = term.type.code.chars ++ term.rest := by
  simp [FieldTerm.chars, FieldTerm.rest, FieldTerm.tail, TypeTerm.chars]

theorem FieldTerm.stops_tail (term : FieldTerm) {p : Char → Bool} (hmark : p '?' = false)
    (hspace : p ' ' = false) : Stops p term.tail :=
  stops_append (stops_flag hmark _) (stops_cons.2 hspace)

theorem FieldTerm.stops_rest (term : FieldTerm) : Stops isWord term.rest :=
  stops_size rfl _ (term.stops_tail rfl rfl)

/-- The parameters of a size start with no blank. -/
theorem Size.trimLeft_params {size : Size} {params : List Char} (h : size.params? = some params) :
    trimLeft params = params := by
  apply Text.trimLeft_eq_self
  intro c hc
  have hdigits : ∀ number rest, (Nat.toDigits 10 number ++ rest).head? = some c → isBlank c = false := by
    intro number rest hc
    have hmem : c ∈ Nat.toDigits 10 number := by
      cases hcase : Nat.toDigits 10 number with
      | nil => exact absurd hcase Nat.toDigits_ne_nil
      | cons first others =>
          rw [hcase] at hc
          cases hc
          exact List.mem_cons_self
    exact Text.isBlank_of_isWord (Text.isWord_of_mem_toDigits hmem)
  cases size with
  | unsized => cases h
  | precision digits =>
      cases h
      exact hdigits digits [] (by simpa using hc)
  | scaled digits places =>
      cases h
      exact hdigits digits _ hc
  | unbounded =>
      cases h
      cases hc
      decide

theorem readField?_chars (term : FieldTerm) : readField? term.chars = some (.field term.line) := by
  have hspace : Stops isBlank (term.name.chars ++ marksChars term.marks) :=
    term.name.stops (fun _ => isBlank_of_isNameStart) _
  have hparams : term.type.size.params?.map trimLeft = term.type.size.params? := by
    cases h : term.type.size.params? with
    | none => rfl
    | some params => exact congrArg some (Size.trimLeft_params h)
  rw [term.chars_eq, readField?, spanName?_append_rest _ term.stops_rest]
  simp only [Option.bind_eq_bind, Option.bind_some, FieldTerm.rest]
  rw [spanParams_size _ (term.stops_tail rfl rfl)]
  simp only [FieldTerm.tail]
  rw [skipMark_flag _ (stops_cons.2 rfl)]
  simp only [skipBlanks?_space hspace, Option.bind_some]
  rw [spanName?_append_rest _ (stops_marksChars rfl _)]
  simp only [Option.bind_some, readMarks?_marksChars, hparams, ofList_chars]
  rfl

/-- A text that starts with something else than a mark has no marks. -/
theorem readMarks?_eq_none {text : List Char} {c : Char} {rest : List Char} (htext : trimLeft text = c :: rest)
    (hc : c ≠ '@') : readMarks? false text = none := by
  have hne : text.isEmpty = false := by
    cases text with
    | nil => cases htext
    | cons d others => rfl
  rw [readMarks?]
  simp only [hne, Bool.false_and, Bool.false_eq_true, if_false]
  split
  · rfl
  · rename_i first others hfirst
    rw [htext] at hfirst
    obtain ⟨rfl, rfl⟩ := List.cons.inj hfirst
    exact if_neg hc

/-- What follows the type of a field starts, blanks aside, with the mark of nullability or a name. -/
theorem FieldTerm.trimLeft_tail (term : FieldTerm) :
    ∃ c rest, trimLeft term.tail = c :: rest ∧ c ≠ '@' ∧ c ≠ '(' := by
  unfold FieldTerm.tail
  cases term.nullable with
  | true => exact ⟨'?', _, Text.trimLeft_eq_self (stops_cons.2 rfl), by decide, by decide⟩
  | false =>
      obtain ⟨c, tail, hchars, hstart⟩ := term.name.chars_eq_cons
      have hword := Text.isWord_of_isNameStart hstart
      have hblank : isBlank ' ' = true := rfl
      refine ⟨c, tail ++ marksChars term.marks, ?_, Text.ne_of_isWord hword rfl,
        Text.ne_of_isWord hword rfl⟩
      rw [flag, if_neg (by decide), List.nil_append, trimLeft, List.dropWhile_cons_of_pos hblank, hchars]
      exact Text.dropWhile_eq_self (stops_cons.2 (isBlank_of_isNameStart hstart))

/-- A word that a field starts with ends inside the code of its type, for what follows the code is no
part of a word. -/
theorem FieldTerm.append_eq_chars {term : FieldTerm} {word after : List Char} (hword : word.all isWord = true)
    (h : word ++ after = term.chars) : ∃ more, term.type.code.chars = word ++ more ∧ after = more ++ term.rest := by
  rw [term.chars_eq] at h
  rcases List.append_eq_append_iff.1 h with ⟨more, hcode, hafter⟩ | ⟨more, hsplit, hrest⟩
  · exact ⟨more, hcode, hafter⟩
  · cases more with
    | nil => exact ⟨[], by simpa using hsplit.symm, by simpa using hrest.symm⟩
    | cons c more =>
        have hmem : c ∈ word := by
          rw [hsplit]
          exact List.mem_append_right _ List.mem_cons_self
        have hstop := term.stops_rest c (by rw [hrest]; rfl)
        rw [List.all_eq_true.1 hword c hmem] at hstop
        cases hstop

/-- A field is not read as an index. Only one whose type starts with that word comes close. -/
theorem readIndex?_field (term : FieldTerm) : readIndex? term.chars = none := by
  unfold readIndex?
  cases hprefix : "index".toList.isPrefixOf? term.chars with
  | none => rfl
  | some after =>
      obtain ⟨more, hmore, rfl⟩ := FieldTerm.append_eq_chars rfl (List.isPrefixOf?_eq_some_iff_append_eq.1 hprefix)
      simp only [Option.bind_eq_bind, Option.bind_some]
      cases more with
      | cons c more =>
          have hword : isWord c = true := by
            apply term.type.code.isWord c
            rw [hmore]
            exact List.mem_append_right _ List.mem_cons_self
          have htrim : trimLeft (c :: more ++ term.rest) = c :: (more ++ term.rest) :=
            Text.trimLeft_eq_self (stops_cons.2 (Text.isBlank_of_isWord hword))
          rw [htrim, spanParens?, if_neg (Text.ne_of_isWord hword rfl)]
          rfl
      | nil =>
          obtain ⟨c, rest, htail, hmark, hparen⟩ := term.trimLeft_tail
          rw [List.nil_append, FieldTerm.rest]
          cases hsize : term.type.size.params? with
          | some params =>
              have hchars : term.type.size.chars ++ term.tail = '(' :: params ++ ')' :: term.tail := by
                simp [Size.chars, hsize]
              have hspan : spanParens? ('(' :: params ++ ')' :: term.tail) = some (params, term.tail) :=
                spanParens?_append (Size.params_ne hsize)
              have htrim : trimLeft ('(' :: params ++ ')' :: term.tail) = '(' :: params ++ ')' :: term.tail :=
                Text.trimLeft_eq_self (stops_cons.2 rfl)
              rw [hchars, htrim, hspan]
              simp only [Option.bind_some, readMarks?_eq_none htail hmark]
              rfl
          | none =>
              have hchars : term.type.size.chars ++ term.tail = term.tail := by simp [Size.chars, hsize]
              rw [hchars, htail, spanParens?, if_neg hparen]
              rfl

theorem readAttribute?_of_ne {text : List Char} (h : Stops (· == '@') text) : readAttribute? text = none := by
  cases text with
  | nil => rfl
  | cons c rest =>
      have hc : (c == '@') = false := h c rfl
      rw [readAttribute?, if_neg]
      simp only [beq_eq_false_iff_ne] at hc
      simp [hc]

theorem readRelationship?_field (term : FieldTerm) : readRelationship? term.chars = none := by
  have hmark : Stops (· == '!') term.chars := by
    rw [term.chars_eq]
    exact term.type.code.stops (fun _ => beq_of_isNameStart rfl) _
  have hskip : skipMark '!' term.chars = (false, term.chars) := skipMark_flag false hmark
  have hspan : spanWord term.chars = (term.type.code.chars, term.rest) := by
    rw [term.chars_eq, spanWord_append_rest term.type.code.isWord term.stops_rest]
  have hmodel : term.type.code.chars ≠ "model".toList := fun h =>
    term.plain.1 (String.toList_inj.1 h)
  have hmodels : term.type.code.chars ≠ "models".toList := fun h =>
    term.plain.2 (String.toList_inj.1 h)
  simp only [readRelationship?, hskip, hspan, if_neg hmodel, if_neg hmodels]
  rfl

end Fields

theorem Member.of?_field (term : FieldTerm) : Member.of? term.chars = some (.field term.line) := by
  have hattribute : readAttribute? term.chars = none := by
    apply readAttribute?_of_ne
    rw [term.chars_eq]
    exact term.type.code.stops (fun _ => beq_of_isNameStart rfl) _
  rw [Member.of?, readIndex?_field, hattribute, readRelationship?_field, readField?_chars]
  rfl

section Relationships

theorem skipWord?_append {word : String} {rest : List Char} (hword : ∀ c ∈ word.toList, isWord c = true)
    (hrest : Stops isWord rest) : skipWord? word (word.toList ++ rest) = some rest := by
  rw [skipWord?, spanWord_append_rest hword hrest, if_pos rfl]

theorem readRole?_roleChars (role : Option (Identifier × Bool)) :
    readRole? (roleChars role) = some (role.map (·.1.text), role.elim false (·.2)) := by
  cases role with
  | none => rfl
  | some role =>
      obtain ⟨name, nullable⟩ := role
      have hchars : roleChars (some (name, nullable)) =
          ' ' :: ("as".toList ++ ' ' :: (name.chars ++ flag '?' nullable)) := by simp [roleChars]
      have has : Stops isBlank ("as".toList ++ ' ' :: (name.chars ++ flag '?' nullable)) :=
        stops_cons.2 rfl
      have hword : skipWord? "as" ("as".toList ++ ' ' :: (name.chars ++ flag '?' nullable)) =
          some (' ' :: (name.chars ++ flag '?' nullable)) :=
        skipWord?_append (List.all_eq_true.1 rfl) (stops_cons.2 rfl)
      have hname : Stops isBlank (name.chars ++ flag '?' nullable) :=
        name.stops (fun _ => isBlank_of_isNameStart) _
      have hmark : skipMark '?' (flag '?' nullable) = (nullable, []) := by
        rw [← List.append_nil (flag '?' nullable)]
        exact skipMark_flag nullable stops_nil
      rw [hchars, readRole?]
      simp only [List.isEmpty_cons, Bool.false_eq_true, if_false, Option.bind_eq_bind,
        skipBlanks?_space has, Option.bind_some, hword, skipBlanks?_space hname]
      rw [spanName?_append_rest name (stops_flag rfl _)]
      simp only [Option.bind_some, hmark, List.isEmpty_nil, if_true, ofList_chars]
      rfl

/-- What follows the target in the line of a relationship. -/
def RelationshipTerm.rest (term : RelationshipTerm) : List Char :=
  flag '?' term.nullable ++ roleChars term.role

theorem readRelationship?_chars (term : RelationshipTerm) :
    readRelationship? term.chars = some (.relationship term.line) := by
  have hchars : term.chars =
      flag '!' term.optional ++ (relationshipWord term.many ++ ' ' :: (term.target.chars ++ term.rest)) := by
    simp [RelationshipTerm.chars, RelationshipTerm.rest]
  have hoptional : Stops (· == '!') (relationshipWord term.many ++ ' ' :: (term.target.chars ++ term.rest)) := by
    cases term.many <;> exact stops_cons.2 rfl
  have hwords : ∀ c ∈ relationshipWord term.many, isWord c = true := by
    cases term.many <;> exact List.all_eq_true.1 rfl
  have hspan : spanWord (relationshipWord term.many ++ ' ' :: (term.target.chars ++ term.rest)) =
      (relationshipWord term.many, ' ' :: (term.target.chars ++ term.rest)) :=
    spanWord_append_rest hwords (stops_cons.2 rfl)
  have htarget : Stops isBlank (term.target.chars ++ term.rest) :=
    term.target.stops (fun _ => isBlank_of_isNameStart) _
  have hname : spanName? (term.target.chars ++ term.rest) = some (term.target.chars, term.rest) :=
    spanName?_append_rest term.target (stops_append (stops_flag rfl _) (stops_roleChars rfl _))
  have hmark : skipMark '?' term.rest = (term.nullable, roleChars term.role) :=
    skipMark_flag term.nullable (stops_roleChars rfl term.role)
  simp only [readRelationship?, hchars, skipMark_flag _ hoptional, hspan]
  cases hmany : term.many with
  | false =>
      simp only [relationshipWord, Bool.false_eq_true, if_false, if_true, Option.bind_eq_bind,
        Option.bind_some, skipBlanks?_space htarget, hname, hmark, readRole?_roleChars, ofList_chars]
      rw [RelationshipTerm.line, hmany]
      rfl
  | true =>
      have hne : "models".toList ≠ "model".toList := by decide
      simp only [relationshipWord, if_true, if_neg hne, Option.bind_eq_bind, Option.bind_some,
        skipBlanks?_space htarget, hname, hmark, readRole?_roleChars, ofList_chars]
      rw [RelationshipTerm.line, hmany]
      rfl

theorem Member.of?_relationship (term : RelationshipTerm) :
    Member.of? term.chars = some (.relationship term.line) := by
  have hread := readRelationship?_chars term
  have hindex : readIndex? term.chars = none := by
    rw [RelationshipTerm.chars]
    cases term.optional <;> cases term.many <;> rfl
  have hattribute : readAttribute? term.chars = none := by
    apply readAttribute?_of_ne
    rw [RelationshipTerm.chars]
    cases term.optional <;> cases term.many <;> exact stops_cons.2 rfl
  rw [Member.of?, hindex, hattribute, hread]
  rfl

end Relationships

/-- No list of names holds a closing parenthesis. -/
theorem namesChars_ne (first : Identifier) (others : List Identifier) :
    ∀ c ∈ namesChars first others, c ≠ ')' := by
  have hname (name : Identifier) : ∀ c ∈ name.chars, c ≠ ')' := fun c hc =>
    Text.ne_of_isWord (name.isWord c hc) rfl
  intro c hc
  rcases List.mem_append.1 hc with hc | hc
  · exact hname first c hc
  · obtain ⟨name, -, hc⟩ := List.mem_flatMap.1 hc
    rcases List.mem_cons.1 hc with rfl | hc
    · decide
    · rcases List.mem_cons.1 hc with rfl | hc
      · decide
      · exact hname name c hc

theorem Member.of?_index (term : IndexTerm) :
    Member.of? term.chars = some (.index term.tokens (term.marks.map (·.text))) := by
  have hchars : term.chars = "index".toList ++
      ' ' :: ('(' :: namesChars term.first term.others ++ ')' :: marksChars term.marks) :=
    List.append_assoc _ _ _
  have hprefix : "index".toList.isPrefixOf? term.chars =
      some (' ' :: ('(' :: namesChars term.first term.others ++ ')' :: marksChars term.marks)) :=
    List.isPrefixOf?_eq_some_iff_append_eq.2 hchars.symm
  have hblank : isBlank ' ' = true := rfl
  have htrim : trimLeft (' ' :: ('(' :: namesChars term.first term.others ++ ')' :: marksChars term.marks)) =
      '(' :: namesChars term.first term.others ++ ')' :: marksChars term.marks := by
    rw [trimLeft, List.dropWhile_cons_of_pos hblank]
    exact Text.dropWhile_eq_self (stops_cons.2 rfl)
  have hread : readIndex? term.chars = some (.index term.tokens (term.marks.map (·.text))) := by
    rw [readIndex?, hprefix]
    simp only [Option.bind_eq_bind, Option.bind_some]
    rw [htrim, spanParens?_append (namesChars_ne _ _)]
    simp only [Option.bind_some, readMarks?_marksChars, tokensOf_namesChars]
    rfl
  rw [Member.of?, hread]
  rfl

theorem Member.of?_attribute (mark : Mark) : Member.of? ('@' :: mark.chars) = some (.attribute mark.text) := by
  have hword : mark.chars.all isWord = true := List.all_eq_true.2 mark.isWord
  have hsome : mark.chars.isEmpty = false := by
    rw [List.isEmpty_eq_false_iff]
    exact mark.chars_ne_nil
  have hread : readAttribute? ('@' :: mark.chars) = some (.attribute mark.text) := by
    rw [readAttribute?, if_pos (by simp [hword, hsome]), ofList_markChars]
  have hindex : readIndex? ('@' :: mark.chars) = none := rfl
  rw [Member.of?, hindex, hread]
  rfl

/-- Every printed member is read back. -/
theorem Member.of?_chars : ∀ member : MemberTerm, Member.of? member.chars = some member.line
  | .field term => Member.of?_field term
  | .relationship term => Member.of?_relationship term
  | .index term => Member.of?_index term
  | .attribute mark => Member.of?_attribute mark

section Headers

theorem readName?_chars (name : Identifier) : readName? name.chars = some name.text := by
  have hspan := spanName?_append_rest name stops_nil
  rw [List.append_nil] at hspan
  simp [readName?, hspan]

/-- The header of a model as it is read. -/
def ModelTerm.line (term : ModelTerm) : ModelHeader where
  name := term.name.text
  keyType := term.key.map (·.type.declared)
  mixins := term.mixins.map (·.text)

theorem mixinsChars_cons (first : Identifier) (others : List Identifier) :
    mixinsChars (first :: others) = ' ' :: ("with".toList ++ ' ' :: namesChars first others) := by
  simp [mixinsChars]

theorem stops_mixinsChars {p : Char → Bool} (hspace : p ' ' = false) (mixins : List Identifier) :
    Stops p (mixinsChars mixins) := by
  cases mixins with
  | nil => exact stops_nil
  | cons first others => exact stops_cons.2 hspace

theorem readMixins?_mixinsChars (mixins : List Identifier) :
    readMixins? (mixinsChars mixins) = some (mixins.map (·.text)) := by
  cases mixins with
  | nil => rfl
  | cons first others =>
      have hwith : Stops isBlank ("with".toList ++ ' ' :: namesChars first others) := stops_cons.2 rfl
      have hword : skipWord? "with" ("with".toList ++ ' ' :: namesChars first others) =
          some (' ' :: namesChars first others) :=
        skipWord?_append (List.all_eq_true.1 rfl) (stops_cons.2 rfl)
      have hnames : Stops isBlank (namesChars first others) :=
        first.stops (fun _ => isBlank_of_isNameStart) _
      rw [mixinsChars_cons, readMixins?]
      simp only [List.isEmpty_cons, Bool.false_eq_true, if_false, Option.bind_eq_bind,
        skipBlanks?_space hwith, Option.bind_some, hword, skipBlanks?_space hnames, readNames?_namesChars]

theorem spanKeyType_key (key : KeyTerm) {rest : List Char} (hword : Stops isWord rest)
    (hparen : Stops (· == '(') rest) :
    spanKeyType (' ' :: (key.type.code.chars ++ (key.type.size.chars ++ rest))) =
      (some key.type.declared, rest) := by
  have hblank : Stops isBlank (key.type.code.chars ++ (key.type.size.chars ++ rest)) :=
    key.type.code.stops (fun _ => isBlank_of_isNameStart) _
  have hplain : key.type.code.chars ≠ "with".toList := fun h => key.plain (String.toList_inj.1 h)
  have hspan := spanName?_append_rest key.type.code (stops_size rfl key.type.size hword)
  rw [spanKeyType, skipBlanks?_space hblank]
  simp only [Option.bind_some, hspan, if_neg hplain, spanParams_size _ hparen, ofList_chars]
  rfl

/-- Where no key is declared, the word `with` is not taken for one. -/
theorem spanKeyType_mixinsChars (mixins : List Identifier) :
    spanKeyType (mixinsChars mixins) = (none, mixinsChars mixins) := by
  cases mixins with
  | nil => rfl
  | cons first others =>
      have hwith : Stops isBlank ("with".toList ++ ' ' :: namesChars first others) := stops_cons.2 rfl
      let word : Identifier := { text := "with", valid := rfl }
      have hspan : spanName? ("with".toList ++ ' ' :: namesChars first others) =
          some ("with".toList, ' ' :: namesChars first others) :=
        spanName?_append_rest word (stops_cons.2 rfl)
      rw [mixinsChars_cons, spanKeyType, skipBlanks?_space hwith]
      simp only [Option.bind_some, hspan, if_true]

theorem ModelHeader.of?_header (term : ModelTerm) :
    ModelHeader.of? (BlockTerm.model term).header = some term.line := by
  cases hkey : term.key with
  | none =>
      have hchars : (BlockTerm.model term).header = term.name.chars ++ mixinsChars term.mixins := by
        simp [BlockTerm.header, hkey]
      rw [hchars, ModelHeader.of?, spanName?_append_rest _ (stops_mixinsChars rfl _)]
      simp only [Option.bind_eq_bind, Option.bind_some, spanKeyType_mixinsChars, readMixins?_mixinsChars,
        ofList_chars, ModelTerm.line, hkey]
      rfl
  | some key =>
      have hchars : (BlockTerm.model term).header =
          term.name.chars ++ ' ' :: (key.type.code.chars ++ (key.type.size.chars ++ mixinsChars term.mixins)) := by
        simp [BlockTerm.header, hkey, TypeTerm.chars]
      have hspan := spanKeyType_key key (stops_mixinsChars rfl term.mixins)
        (stops_mixinsChars rfl term.mixins)
      rw [hchars, ModelHeader.of?, spanName?_append_rest _ (stops_cons.2 rfl)]
      simp only [Option.bind_eq_bind, Option.bind_some, hspan, readMixins?_mixinsChars, ofList_chars,
        ModelTerm.line, hkey]
      rfl

end Headers

end SchemaMigrate.Grammar
