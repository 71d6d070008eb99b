import SchemaMigrate.Model.Column
import SchemaMigrate.Proofs.Grammar.Syntax
import SchemaMigrate.Proofs.Text.Classes

/-!
Printed lines are read as what they were printed from. Each reader is shown to take its part of a line and
to leave the rest, for every rest that does not go on in the same way.
-/

namespace SchemaMigrate.Grammar

open Model
open Text (isWord isBlank isNameStart spanWord spanName? trim trimLeft)

/-- A rest of a line that does not start with a character of the class. -/
def Stops (p : Char → Bool) (rest : List Char) : Prop := ∀ c, rest.head? = some c → p c = false

section Stops

variable {p : Char → Bool}

@[simp] theorem stops_nil : Stops p [] := fun _ h => by cases h

@[simp] theorem stops_cons {c : Char} {rest : List Char} : Stops p (c :: rest) ↔ p c = false := by
  simp [Stops]

theorem stops_append {first second : List Char} (hfirst : Stops p first) (hsecond : Stops p second) :
    Stops p (first ++ second) := by
  cases first with
  | nil => exact hsecond
  | cons c first => exact fun d hd => hfirst d hd

theorem stops_flag {mark : Char} (hmark : p mark = false) (present : Bool) : Stops p (flag mark present) := by
  cases present with
  | false => exact stops_nil
  | true => exact stops_cons.2 hmark

theorem stops_marksChars (hspace : p ' ' = false) (marks : List Mark) : Stops p (marksChars marks) := by
  cases marks with
  | nil => exact stops_nil
  | cons mark marks => exact stops_cons.2 hspace

theorem stops_roleChars (hspace : p ' ' = false) (role : Option (Identifier × Bool)) :
    Stops p (roleChars role) := by
  cases role with
  | none => exact stops_nil
  | some role => exact stops_cons.2 hspace

end Stops

section Names

theorem isWord_of_isName {text : List Char} (h : isName text = true) : ∀ c ∈ text, isWord c = true := by
  cases text with
  | nil => cases h
  | cons first rest =>
      rw [isName, Bool.and_eq_true, List.all_eq_true] at h
      intro c hc
      rcases List.mem_cons.1 hc with rfl | hc
      · exact Text.isWord_of_isNameStart h.1
      · exact h.2 c hc

theorem Identifier.isWord (name : Identifier) : ∀ c ∈ name.chars, isWord c = true :=
  isWord_of_isName name.valid

/-- A name starts with a letter or an underscore. -/
theorem Identifier.chars_eq_cons (name : Identifier) :
    ∃ c rest, name.chars = c :: rest ∧ isNameStart c = true := by
  have hvalid := name.valid
  unfold Identifier.chars
  cases htext : name.text.toList with
  | nil =>
      rw [htext] at hvalid
      cases hvalid
  | cons c rest =>
      rw [htext, isName, Bool.and_eq_true] at hvalid
      exact ⟨c, rest, rfl, hvalid.1⟩

theorem Mark.isWord (mark : Mark) : ∀ c ∈ mark.chars, isWord c = true := by
  have hvalid := mark.valid
  rw [Bool.and_eq_true, List.all_eq_true] at hvalid
  exact hvalid.2

theorem Mark.chars_ne_nil (mark : Mark) : mark.chars ≠ [] := by
  have hvalid := mark.valid
  rw [Bool.and_eq_true] at hvalid
  intro hnil
  rw [Mark.chars] at hnil
  rw [hnil] at hvalid
  cases hvalid.1

@[simp] theorem ofList_chars (name : Identifier) : String.ofList name.chars = name.text :=
  String.ofList_toList

@[simp] theorem ofList_markChars (mark : Mark) : String.ofList mark.chars = mark.text :=
  String.ofList_toList

/-- The run of word characters ends where the word ends. -/
theorem spanWord_append_rest {word rest : List Char} (hword : ∀ c ∈ word, isWord c = true)
    (hrest : Stops isWord rest) : spanWord (word ++ rest) = (word, rest) := by
  have hstop : rest.takeWhile isWord = [] := by
    cases rest with
    | nil => rfl
    | cons c rest => exact List.takeWhile_cons_of_neg (by simpa using hrest)
  rw [spanWord, List.takeWhile_append_of_pos hword, List.dropWhile_append_of_pos hword, hstop,
    List.append_nil, Text.dropWhile_eq_self hrest]

theorem spanName?_append_rest (name : Identifier) {rest : List Char} (hrest : Stops isWord rest) :
    spanName? (name.chars ++ rest) = some (name.chars, rest) := by
  obtain ⟨c, tail, hchars, hstart⟩ := name.chars_eq_cons
  have htail : ∀ d ∈ tail, isWord d = true := fun d hd =>
    name.isWord d (by rw [hchars]; exact List.mem_cons_of_mem _ hd)
  rw [hchars, List.cons_append, spanName?, if_pos hstart, spanWord_append_rest htail hrest]

/-- A name starts with nothing that is not part of names. -/
theorem Identifier.stops (name : Identifier) {p : Char → Bool} (hp : ∀ c, isNameStart c = true → p c = false)
    (rest : List Char) : Stops p (name.chars ++ rest) := by
  obtain ⟨c, tail, hchars, hstart⟩ := name.chars_eq_cons
  rw [hchars]
  exact stops_cons.2 (hp c hstart)

theorem isBlank_of_isNameStart {c : Char} (h : isNameStart c = true) : isBlank c = false :=
  Text.isBlank_of_isWord (Text.isWord_of_isNameStart h)

theorem beq_of_isNameStart {mark : Char} (hmark : isWord mark = false) {c : Char}
    (h : isNameStart c = true) : (c == mark) = false := by
  rw [beq_eq_false_iff_ne]
  exact Text.ne_of_isWord (Text.isWord_of_isNameStart h) hmark

end Names

section Parts

theorem skipMark_flag {mark : Char} {rest : List Char} (present : Bool)
    (hrest : Stops (· == mark) rest) : skipMark mark (flag mark present ++ rest) = (present, rest) := by
  cases present with
  | true => exact if_pos rfl
  | false =>
      cases rest with
      | nil => rfl
      | cons c rest => exact if_neg (by simpa using hrest)

/-- One space is skipped, and no more. -/
theorem skipBlanks?_space {rest : List Char} (hrest : Stops isBlank rest) :
    skipBlanks? (' ' :: rest) = some rest := by
  have hspace : isBlank ' ' = true := rfl
  rw [skipBlanks?, if_pos hspace, Text.trimLeft_eq_self hrest]

theorem spanParens?_append {inside rest : List Char} (hinside : ∀ c ∈ inside, c ≠ ')') :
    spanParens? ('(' :: inside ++ ')' :: rest) = some (inside, rest) := by
  have hopen : ∀ c ∈ inside, decide (c ≠ ')') = true := by simpa using hinside
  have hclose : (')' :: rest).dropWhile (· ≠ ')') = ')' :: rest := Text.dropWhile_eq_self (by simp)
  have hnone : (')' :: rest).takeWhile (· ≠ ')') = [] := by simp
  rw [List.cons_append, spanParens?, if_pos rfl, List.dropWhile_append_of_pos hopen, hclose,
    List.takeWhile_append_of_pos hopen, hnone, List.append_nil]

/-- No size holds a closing parenthesis. -/
theorem Size.params_ne {size : Size} {params : List Char} (h : size.params? = some params) :
    ∀ c ∈ params, c ≠ ')' := by
  intro c hc
  cases size with
  | unsized => cases h
  | precision digits =>
      cases h
      exact Text.ne_of_isWord (Text.isWord_of_mem_toDigits hc) rfl
  | scaled digits places =>
      cases h
      rcases List.mem_append.1 hc with hc | hc
      · exact Text.ne_of_isWord (Text.isWord_of_mem_toDigits hc) rfl
      · rcases List.mem_cons.1 hc with rfl | hc
        · decide
        · exact Text.ne_of_isWord (Text.isWord_of_mem_toDigits hc) rfl
  | unbounded =>
      cases h
      have hword : "max".toList.all isWord = true := rfl
      exact Text.ne_of_isWord (List.all_eq_true.1 hword c hc) rfl

theorem spanParams_size (size : Size) {rest : List Char} (hrest : Stops (· == '(') rest) :
    spanParams (size.chars ++ rest) = (size.params?, rest) := by
  unfold Size.chars
  cases hparams : size.params? with
  | none =>
      have hnone : spanParens? rest = none := by
        cases rest with
        | nil => rfl
        | cons c rest => exact if_neg (by simpa using hrest)
      rw [List.nil_append, spanParams, hnone]
  | some params =>
      have hspan : spanParens? ('(' :: params ++ ')' :: rest) = some (params, rest) :=
        spanParens?_append (Size.params_ne hparams)
      simp only [List.cons_append, List.append_assoc, List.nil_append] at hspan ⊢
      rw [spanParams, hspan]

theorem stops_size {p : Char → Bool} (hparen : p '(' = false) (size : Size) {rest : List Char}
    (hrest : Stops p rest) : Stops p (size.chars ++ rest) := by
  refine stops_append ?_ hrest
  unfold Size.chars
  split
  · exact stops_nil
  · exact stops_cons.2 hparen

end Parts

section Lists

theorem readMarks?_cons (spaced : Bool) (mark : Mark) {rest : List Char} (hrest : Stops isWord rest) :
    readMarks? spaced (' ' :: '@' :: (mark.chars ++ rest)) =
      (readMarks? spaced rest).map (mark.text :: ·) := by
  have hblank : isBlank ' ' = true := rfl
  have htrim : trimLeft (' ' :: '@' :: (mark.chars ++ rest)) = '@' :: (mark.chars ++ rest) := by
    rw [trimLeft, List.dropWhile_cons_of_pos hblank]
    exact Text.dropWhile_eq_self (stops_cons.2 rfl)
  have hword : mark.chars.isEmpty = false := by
    rw [List.isEmpty_eq_false_iff]
    exact mark.chars_ne_nil
  rw [readMarks?]
  simp only [List.isEmpty_cons, startsBlank, hblank, Bool.not_true, Bool.and_false, Bool.false_eq_true,
    if_false]
  split
  · rename_i hnil
    rw [htrim] at hnil
    cases hnil
  · rename_i first others hcons
    rw [htrim] at hcons
    obtain ⟨rfl, rfl⟩ := List.cons.inj hcons
    rw [if_pos rfl, spanWord_append_rest mark.isWord hrest]
    simp only [hword, Bool.false_eq_true, if_false, ofList_markChars]

theorem readMarks?_marksChars (spaced : Bool) (marks : List Mark) :
    readMarks? spaced (marksChars marks) = some (marks.map (·.text)) := by
  induction marks with
  | nil =>
      rw [readMarks?]
      rfl
  | cons mark marks ih =>
      have hchars : marksChars (mark :: marks) = ' ' :: '@' :: (mark.chars ++ marksChars marks) := rfl
      rw [hchars, readMarks?_cons spaced mark (stops_marksChars rfl marks), ih]
      rfl

section Names

variable {text name rest more : List Char}

/-- A name at the end of the line is the last one. -/
theorem readNames?_last (hspan : spanName? text = some (name, [])) : readNames? text = some [String.ofList name] := by
  rw [readNames?]
  split
  · rename_i hnone
    rw [hspan] at hnone
    cases hnone
  · rename_i found others hfound
    rw [hspan] at hfound
    cases hfound
    simp

/-- Behind a name and a comma the names go on. -/
theorem readNames?_comma (hspan : spanName? text = some (name, rest)) (hrest : rest ≠ [])
    (hcomma : trimLeft rest = ',' :: more) :
    readNames? text = (readNames? (trimLeft more)).map (String.ofList name :: ·) := by
  rw [readNames?]
  split
  · rename_i hnone
    rw [hspan] at hnone
    cases hnone
  · rename_i found others hfound
    rw [hspan] at hfound
    cases hfound
    rw [if_neg (by simpa using hrest)]
    split
    · rename_i hnil
      rw [hcomma] at hnil
      cases hnil
    · rename_i comma others hmore
      rw [hcomma] at hmore
      cases hmore
      exact if_pos rfl

end Names

theorem readNames?_namesChars (first : Identifier) (others : List Identifier) :
    readNames? (namesChars first others) = some ((first :: others).map (·.text)) := by
  induction others generalizing first with
  | nil =>
      have hspan := spanName?_append_rest first stops_nil
      rw [namesChars, List.flatMap_nil, readNames?_last hspan, ofList_chars]
      rfl
  | cons second others ih =>
      have hchars : namesChars first (second :: others) =
          first.chars ++ ',' :: ' ' :: namesChars second others := by
        simp [namesChars]
      have hcomma : Stops isWord (',' :: ' ' :: namesChars second others) := stops_cons.2 rfl
      have hspan := spanName?_append_rest first hcomma
      have htrim : trimLeft (',' :: ' ' :: namesChars second others) =
          ',' :: ' ' :: namesChars second others := Text.trimLeft_eq_self (stops_cons.2 rfl)
      have hspace : trimLeft (' ' :: namesChars second others) = namesChars second others := by
        have hblank : isBlank ' ' = true := rfl
        rw [trimLeft, List.dropWhile_cons_of_pos hblank]
        exact Text.dropWhile_eq_self (second.stops (fun _ => isBlank_of_isNameStart) _)
      rw [hchars, readNames?_comma hspan (List.cons_ne_nil _ _) htrim, hspace, ih, ofList_chars]
      rfl

theorem splitOnChar_of_not_mem {separator : Char} {text : List Char} (h : ∀ c ∈ text, c ≠ separator) :
    Text.splitOnChar separator text = [text] := by
  induction text with
  | nil => rfl
  | cons c rest ih =>
      have hrest := ih fun d hd => h d (List.mem_cons_of_mem _ hd)
      rw [Text.splitOnChar, if_neg (h c List.mem_cons_self), hrest, Text.consLine]

theorem splitOnChar_append {separator : Char} {text rest : List Char} (h : ∀ c ∈ text, c ≠ separator) :
    Text.splitOnChar separator (text ++ separator :: rest) =
      text :: Text.splitOnChar separator rest := by
  induction text with
  | nil => exact if_pos rfl
  | cons c text ih =>
      have hrest := ih fun d hd => h d (List.mem_cons_of_mem _ hd)
      rw [List.cons_append, Text.splitOnChar, if_neg (h c List.mem_cons_self), hrest, Text.consLine]

/-- The tokens of printed names are the names. -/
theorem tokensOf_namesChars (first : Identifier) (others : List Identifier) :
    tokensOf (namesChars first others) = (first :: others).map (·.text) := by
  have hcomma (name : Identifier) : ∀ c ∈ name.chars, c ≠ ',' := fun c hc =>
    Text.ne_of_isWord (name.isWord c hc) rfl
  have htrim (name : Identifier) : trim name.chars = name.chars := Text.trim_of_isWord name.isWord
  have hspace (name : Identifier) : trim (' ' :: name.chars) = name.chars := by
    have hblank : isBlank ' ' = true := rfl
    rw [trim, trimLeft, List.dropWhile_cons_of_pos hblank]
    exact htrim name
  -- behind a comma a name has a space in front of it, so the first name stands apart
  have hothers : ∀ (front : List Char) (others : List Identifier), (∀ c ∈ front, c ≠ ',') →
      (Text.splitOnChar ',' (front ++ others.flatMap fun name => ',' :: ' ' :: name.chars)).map trim =
        trim front :: others.map Identifier.chars := by
    intro front others hfront
    induction others generalizing front with
    | nil => rw [List.flatMap_nil, List.append_nil, splitOnChar_of_not_mem hfront]; rfl
    | cons name others ih =>
        have hname : ∀ c ∈ ' ' :: name.chars, c ≠ ',' := by
          intro c hc
          rcases List.mem_cons.1 hc with rfl | hc
          · decide
          · exact hcomma name c hc
        rw [List.flatMap_cons, List.cons_append, splitOnChar_append hfront, List.map_cons,
          ih (' ' :: name.chars) hname, hspace, List.map_cons]
  have htexts := congrArg (List.map String.ofList) (hothers first.chars others (hcomma first))
  rw [List.map_map, htrim] at htexts
  rw [tokensOf, namesChars]
  refine htexts.trans ?_
  simp [Function.comp_def]

end Lists

end SchemaMigrate.Grammar
