import SchemaMigrate.Proofs.Grammar.Blocks
import SchemaMigrate.Proofs.Grammar.Types
import SchemaMigrate.Proofs.Model.Blocks

/-!
Each block compiles to what it means. For every reader of a line and every compiler of a block there is
the exact condition under which it succeeds, and the definition that it then gives.
-/

namespace SchemaMigrate.Grammar

open Model

attribute [local irreducible] nameKey

/-- The names of the fields are distinct. -/
def Distinct (fields : List Field) : Prop := (fields.map keyOf).Nodup

/-- A member is accepted, and its size is short enough to be read. -/
def MemberTerm.Compiles (member : MemberTerm) : Prop :=
  member.Accepted ∧ ∀ type ∈ member.types, ∀ number ∈ type.size.numbers, ReadableNumber number

section Fields

theorem distinct_append {fields : List Field} {field : Field} (h : Distinct fields) :
    Distinct (fields ++ [field]) ↔ hasName (fields.map (·.name)) field.name = false := by
  have hkeys : (fields.map (·.name)).map nameKey = fields.map keyOf := List.map_map
  have hnodup : (fields.map keyOf).Nodup := h
  rw [Distinct, List.map_append, List.map_singleton, List.nodup_append_comm, List.singleton_append,
    List.nodup_cons, and_iff_left hnodup, Bool.eq_false_iff, ne_eq, hasName_iff, hkeys]
  rfl

theorem distinct_nil : Distinct [] := List.nodup_nil

theorem distinct_singleton (field : Field) : Distinct [field] := List.nodup_singleton _

theorem Distinct.of_append {first second : List Field} (h : Distinct (first ++ second)) : Distinct first := by
  rw [Distinct, List.map_append] at h
  exact List.Nodup.of_append_left h

theorem yields_appendField (owner : String) {fields : List Field} (field : Field) (place : Fault → Failure)
    (h : Distinct fields) :
    Yields (appendField owner fields field place) (Distinct (fields ++ [field])) (· = fields ++ [field]) := by
  unfold appendField
  cases hname : hasName (fields.map (·.name)) field.name with
  | true =>
      refine Yields.error fun hdistinct => ?_
      rw [(distinct_append h).1 hdistinct] at hname
      cases hname
  | false => exact Yields.ok ((distinct_append h).2 hname) rfl

/-- A field is added and its owner goes on with the new fields. -/
theorem yields_addField {owner : String} {fields : List Field} {place : Fault → Failure} {β : Type}
    (field : Field) (h : Distinct fields) (whole : List Field → β) :
    Yields (appendField owner fields field place >>= fun fields => .ok (whole fields))
      (Distinct (fields ++ [field])) (· = whole (fields ++ [field])) := by
  refine ((yields_appendField owner field place h).bind fun added _ hadded => Yields.ok trivial ?_).congr
    (and_iff_left trivial)
  rw [hadded]

theorem yields_field (term : FieldTerm) (place : Fault → Failure) :
    Yields (term.line.field place) (MemberTerm.field term).Compiles (· = term.field) := by
  have hcompiles : term.type.Compiles ↔ (MemberTerm.field term).Compiles := by
    simp [TypeTerm.Compiles, MemberTerm.Compiles, MemberTerm.Accepted, MemberTerm.types]
  have hmarks : term.line.marks.map (·, true) = term.marks.map fun mark => (mark.text, true) := List.map_map
  refine ((yields_columnType term.type place).bind fun type _ htype => Yields.ok trivial ?_).congr
    ((and_iff_left trivial).trans hcompiles)
  rw [htype, hmarks]
  rfl

theorem field_relationship (term : RelationshipTerm) : term.line.field = term.field := by
  unfold RelationshipLine.field RelationshipTerm.field RelationshipLine.column RelationshipTerm.column
  cases hrole : term.role <;> simp [RelationshipTerm.line, hrole]

theorem foreignKey_relationship (term : RelationshipTerm) : term.line.foreignKey = term.foreignKey := by
  unfold RelationshipLine.foreignKey RelationshipTerm.foreignKey RelationshipLine.column RelationshipTerm.column
  cases hrole : term.role <;> simp [RelationshipTerm.line, hrole]

/-- Only known marks make an index. -/
theorem yields_index (term : IndexTerm) :
    Yields (indexOf term.tokens (term.marks.map (·.text))) (MemberTerm.index term).Compiles (· = term.index) := by
  have htokens : term.tokens.any (·.isEmpty) = false := by
    rw [List.any_eq_false]
    intro token htoken
    obtain ⟨name, -, rfl⟩ := List.mem_map.1 htoken
    intro hempty
    apply name.chars_ne_nil
    rw [String.isEmpty_iff] at hempty
    rw [Identifier.chars, hempty]
    rfl
  have hmark (key : String) : ((term.marks.map (·.text)).map nameKey).contains key = term.hasMark [key] := by
    rw [Bool.eq_iff_iff]
    simp [IndexTerm.hasMark]
  have hunknown : ((term.marks.map (·.text)).map nameKey).filter (fun key => !indexAttributes.contains key) = [] ↔
      (MemberTerm.index term).Compiles := by
    simp [MemberTerm.Compiles, MemberTerm.Accepted, MemberTerm.types, List.filter_eq_nil_iff]
  unfold indexOf
  rw [htokens, if_neg (by decide)]
  dsimp only
  split
  · rename_i first others hcase
    refine Yields.error fun hcompiles => ?_
    rw [hunknown.2 hcompiles] at hcase
    cases hcase
  · rename_i hcase
    refine Yields.ok (hunknown.1 hcase) ?_
    have hunique : term.hasMark ["unique", "alternatekey", "ak"] =
        (term.hasMark ["unique"] || (term.hasMark ["alternatekey"] || term.hasMark ["ak"])) := by
      rw [Bool.eq_iff_iff]
      simp [IndexTerm.hasMark]
      grind
    have halternate : term.hasMark ["alternatekey", "ak"] =
        (term.hasMark ["alternatekey"] || term.hasMark ["ak"]) := by
      rw [Bool.eq_iff_iff]
      simp [IndexTerm.hasMark]
      grind
    simp only [hmark, IndexTerm.index, hunique, halternate]

end Fields

section Lines

/-- A mixin with further members. -/
def mixinWith (mixin : Mixin) (members : List MemberTerm) : Mixin :=
  { mixin with
    fields := mixin.fields ++ members.filterMap (·.field?)
    foreignKeys := mixin.foreignKeys ++ members.filterMap (·.foreignKey?) }

theorem withMembers_field (table : Table) (term : FieldTerm) :
    withMembers table [.field term] = { table with fields := table.fields ++ [term.field] } := by
  simp [withMembers, MemberTerm.field?, MemberTerm.foreignKey?, MemberTerm.index?, MemberTerm.attribute?]

theorem withMembers_relationship (table : Table) (term : RelationshipTerm) :
    withMembers table [.relationship term] =
      { table with
        fields := table.fields ++ [term.field]
        foreignKeys := table.foreignKeys ++ [term.foreignKey] } := by
  simp [withMembers, MemberTerm.field?, MemberTerm.foreignKey?, MemberTerm.index?, MemberTerm.attribute?]

theorem withMembers_index (table : Table) (term : IndexTerm) :
    withMembers table [.index term] = { table with indexes := table.indexes ++ [term.index] } := by
  simp [withMembers, MemberTerm.field?, MemberTerm.foreignKey?, MemberTerm.index?, MemberTerm.attribute?]

theorem withMembers_attribute (table : Table) (mark : Mark) :
    withMembers table [.attribute mark] = { table with attributes := table.attributes.set mark.text true } := by
  simp [withMembers, MemberTerm.field?, MemberTerm.foreignKey?, MemberTerm.index?, MemberTerm.attribute?]

theorem withMembers_withMembers (table : Table) (first second : List MemberTerm) :
    withMembers (withMembers table first) second = withMembers table (first ++ second) := by
  simp [withMembers, List.append_assoc]

/-- Members are added one after the other. -/
theorem foldl_withMembers (table : Table) (members : List MemberTerm) :
    members.foldl (fun table member => withMembers table [member]) table = withMembers table members := by
  induction members generalizing table with
  | nil => simp [withMembers]
  | cons member members ih => rw [List.foldl_cons, ih, withMembers_withMembers, List.singleton_append]

theorem yields_addToTable (block : Block) {table : Table} {line : Line} {member : MemberTerm}
    (hline : line.text = member.chars) (h : Distinct table.fields) :
    Yields (addToTable block table line) (member.Compiles ∧ Distinct (withMembers table [member]).fields)
      (· = withMembers table [member]) := by
  unfold addToTable
  rw [hline, Member.of?_chars]
  cases member with
  | field term =>
      rw [withMembers_field]
      refine (yields_field term _).bind fun field _ hfield => ?_
      rw [hfield]
      exact yields_addField term.field h fun fields => { table with fields }
  | relationship term =>
      rw [withMembers_relationship]
      simp only [MemberTerm.line, field_relationship, foreignKey_relationship]
      refine (yields_addField term.field h fun fields =>
        { table with fields, foreignKeys := table.foreignKeys ++ [term.foreignKey] }).congr ?_
      simp [MemberTerm.Compiles, MemberTerm.Accepted, MemberTerm.types]
  | index term =>
      rw [withMembers_index]
      have hindex := yields_index term
      simp only [MemberTerm.line]
      split
      · rename_i fault hfault
        refine Yields.error fun hcompiles => ?_
        obtain ⟨index, hok⟩ := hindex.succeeds hcompiles.1
        rw [hfault] at hok
        cases hok
      · rename_i index hok
        refine Yields.ok ⟨hindex.needs index hok, h⟩ ?_
        rw [hindex.result index hok]
  | «attribute» mark =>
      rw [withMembers_attribute]
      refine Yields.ok ⟨?_, h⟩ rfl
      simp [MemberTerm.Compiles, MemberTerm.Accepted, MemberTerm.types]

theorem foldl_mixinWith (mixin : Mixin) (members : List MemberTerm) :
    members.foldl (fun mixin member => mixinWith mixin [member]) mixin = mixinWith mixin members := by
  induction members generalizing mixin with
  | nil => simp [mixinWith]
  | cons member members ih =>
      rw [List.foldl_cons, ih]
      simp [mixinWith, List.filterMap_cons, List.append_assoc]
      cases member.field? <;> cases member.foreignKey? <;> simp

/-- A mixin takes fields and relationships. -/
theorem yields_addToMixin (block : Block) {mixin : Mixin} {line : Line} {member : MemberTerm}
    (hline : line.text = member.chars) (h : Distinct mixin.fields) :
    Yields (addToMixin block mixin line)
      ((member.Compiles ∧ member.field?.isSome) ∧ Distinct (mixinWith mixin [member]).fields)
      (· = mixinWith mixin [member]) := by
  unfold addToMixin
  rw [hline, Member.of?_chars]
  cases member with
  | field term =>
      have hmixin : mixinWith mixin [.field term] = { mixin with fields := mixin.fields ++ [term.field] } := by
        simp [mixinWith, MemberTerm.field?, MemberTerm.foreignKey?]
      rw [hmixin]
      refine Yields.congr ((yields_field term _).bind fun field _ hfield => ?_)
        (and_congr_left' (and_iff_left rfl).symm)
      rw [hfield]
      exact yields_addField term.field h fun fields => { mixin with fields }
  | relationship term =>
      have hmixin : mixinWith mixin [.relationship term] =
          { mixin with
            fields := mixin.fields ++ [term.field]
            foreignKeys := mixin.foreignKeys ++ [term.foreignKey] } := by
        simp [mixinWith, MemberTerm.field?, MemberTerm.foreignKey?]
      rw [hmixin]
      simp only [MemberTerm.line, field_relationship, foreignKey_relationship]
      refine (yields_addField term.field h fun fields =>
        { mixin with fields, foreignKeys := mixin.foreignKeys ++ [term.foreignKey] }).congr ?_
      simp [MemberTerm.Compiles, MemberTerm.Accepted, MemberTerm.types, MemberTerm.field?]
  | index term => exact Yields.error (by simp [MemberTerm.field?])
  | «attribute» mark => exact Yields.error (by simp [MemberTerm.field?])

/-- The lines of a block stand for its members. -/
theorem Reads.lines {block : Block} {term : BlockTerm} (h : Reads block term) :
    List.Forall₂ (fun line member => line.text = member.chars) block.body term.members := by
  have hbody := h.body
  rw [← List.forall₂_eq_eq_eq, List.forall₂_map_left_iff, List.forall₂_map_right_iff] at hbody
  exact hbody

/-- A table with its members is compiled line by line. -/
theorem yields_tableLines {block : Block} {term : BlockTerm} (hreads : Reads block term) (table : Table)
    (h : Distinct table.fields) :
    Yields (block.body.foldlM (addToTable block) table)
      ((∀ member ∈ term.members, member.Compiles) ∧ Distinct (withMembers table term.members).fields)
      (· = withMembers table term.members) := by
  rw [← foldl_withMembers]
  refine Yields.foldlM_eq (fun table member => withMembers table [member]) MemberTerm.Compiles
    (fun table => Distinct table.fields) ?_ ?_ hreads.lines h
  · exact yields_addToTable block
  · exact Distinct.of_append

theorem yields_mixinLines {block : Block} {term : BlockTerm} (hreads : Reads block term) {mixin : Mixin}
    (h : Distinct mixin.fields) :
    Yields (block.body.foldlM (addToMixin block) mixin)
      ((∀ member ∈ term.members, member.Compiles ∧ member.field?.isSome)
        ∧ Distinct (mixinWith mixin term.members).fields)
      (· = mixinWith mixin term.members) := by
  rw [← foldl_mixinWith]
  refine Yields.foldlM_eq (fun mixin member => mixinWith mixin [member])
    (fun member => member.Compiles ∧ member.field?.isSome) (fun mixin => Distinct mixin.fields) ?_ ?_
    hreads.lines h
  · exact yields_addToMixin block
  · exact Distinct.of_append

end Lines

section Mixins

/-- A table with the fields and foreign keys of a mixin that it does not have yet. -/
def withMixin (table : Table) (mixin : Mixin) : Table :=
  if hasName table.mixins mixin.name then table
  else
    { table with
      fields := table.fields ++ mixin.fields
      foreignKeys := table.foreignKeys ++ mixin.foreignKeys
      mixins := table.mixins ++ [mixin.name] }

theorem distinct_of_withMixin {table : Table} {mixin : Mixin} (h : Distinct (withMixin table mixin).fields) :
    Distinct table.fields := by
  unfold withMixin at h
  split at h
  · exact h
  · exact h.of_append

theorem foldl_concat {α γ : Type} (f : γ → α) (items : List α) (terms : List γ) :
    terms.foldl (fun items term => items ++ [f term]) items = items ++ terms.map f := by
  rw [List.foldl_append_eq_append, ← List.flatMap_def, ← List.map_eq_flatMap]

/-- Fields are added one after the other. -/
theorem yields_fields (owner : String) (place : Fault → Failure) {fields : List Field} (added : List Field)
    (h : Distinct fields) :
    Yields (added.foldlM (fun fields field => appendField owner fields field place) fields)
      (Distinct (fields ++ added)) (· = fields ++ added) := by
  have hfold := foldl_concat (fun field : Field => field) fields added
  rw [List.map_id'] at hfold
  rw [← hfold]
  have hsame : List.Forall₂ (fun item field : Field => item = field) added added :=
    List.forall₂_same.2 fun _ _ => rfl
  refine (Yields.foldlM_eq (fun fields field => fields ++ [field]) (fun _ => True) Distinct ?_ ?_ hsame h).congr
    (and_iff_right fun _ _ => trivial)
  · intro fields item field hitem hfields
    rw [hitem]
    exact (yields_appendField owner field place hfields).congr (and_iff_right trivial).symm
  · exact Distinct.of_append

theorem yields_applyMixin (block : Block) {table : Table} (mixin : Mixin) (h : Distinct table.fields) :
    Yields (applyMixin block table mixin) (Distinct (withMixin table mixin).fields)
      (· = withMixin table mixin) := by
  unfold applyMixin withMixin
  cases hknown : hasName table.mixins mixin.name with
  | true => exact Yields.ok h rfl
  | false =>
      refine ((yields_fields table.name block.failure mixin.fields h).bind
        fun fields _ hfields => Yields.ok trivial ?_).congr (and_iff_left trivial)
      rw [hfields]
      rfl

theorem yields_applyMixins (block : Block) {table : Table} (mixins : List Mixin) (h : Distinct table.fields) :
    Yields (mixins.foldlM (applyMixin block) table) (Distinct (mixins.foldl withMixin table).fields)
      (· = mixins.foldl withMixin table) := by
  have hsame : List.Forall₂ (fun item mixin : Mixin => item = mixin) mixins mixins :=
    List.forall₂_same.2 fun _ _ => rfl
  refine (Yields.foldlM_eq withMixin (fun _ => True) (fun table => Distinct table.fields) ?_ ?_ hsame h).congr
    (and_iff_right fun _ _ => trivial)
  · intro table item mixin hitem hfields
    rw [hitem]
    exact (yields_applyMixin block mixin hfields).congr (and_iff_right trivial).symm
  · exact distinct_of_withMixin

/-- Mixins applied one after the other are those that the table does not have, each once. -/
theorem foldl_withMixin (table : Table) (mixins : List Mixin) :
    mixins.foldl withMixin table =
      let added := eachOnce (mixins.filter fun mixin => !hasName table.mixins mixin.name)
      { table with
        fields := table.fields ++ added.flatMap (·.fields)
        foreignKeys := table.foreignKeys ++ added.flatMap (·.foreignKeys)
        mixins := table.mixins ++ added.map (·.name) } := by
  induction mixins generalizing table with
  | nil => simp [eachOnce]
  | cons mixin mixins ih =>
      rw [List.foldl_cons, ih, withMixin]
      cases hknown : hasName table.mixins mixin.name with
      | true => simp [hknown]
      | false =>
          have hlater : (mixins.filter fun other => !hasName table.mixins other.name).filter
                (fun other => sameName mixin.name other.name = false) =
              mixins.filter fun other => !hasName (table.mixins ++ [mixin.name]) other.name := by
            rw [List.filter_filter]
            refine List.filter_congr fun other _ => ?_
            rw [Bool.eq_iff_iff]
            simp [hasName]
            grind
          simp only [Bool.false_eq_true, if_false, List.filter_cons, hknown, Bool.not_false, if_true, eachOnce,
            List.eraseDupsBy_cons, hlater]
          simp [List.append_assoc]

/-- For a table without mixins that is its direct expansion. -/
theorem foldl_withMixin_eq {table : Table} (h : table.mixins = []) (mixins : List Mixin) :
    mixins.foldl withMixin table = withMixins table mixins := by
  rw [foldl_withMixin]
  simp [withMixins, h, hasName]

end Mixins

section Settling

/-- The column of the last foreign key is what a search through all of them leaves. -/
theorem indexColumn_eq (table : Table) (token : String) :
    table.indexColumn token = columnFor table.foreignKeys token := by
  have hfold : ∀ (keys : List ForeignKey) (column : String),
      keys.foldl (fun column key => if sameName key.target token then key.column else column) column =
        ((keys.filter fun key => sameName key.target token).getLast?.map (·.column)).getD column := by
    intro keys
    induction keys with
    | nil => exact fun _ => rfl
    | cons key keys ih =>
        intro column
        rw [List.foldl_cons, ih, List.filter_cons]
        cases hsame : sameName key.target token with
        | false => rfl
        | true =>
            rw [if_pos rfl, if_pos rfl, List.getLast?_cons]
            cases (keys.filter fun key => sameName key.target token).getLast? <;> rfl
  exact hfold table.foreignKeys token

theorem finishTable_eq (table : Table) : finishTable table = settled table := by
  have hindex (fields : List Field) : Table.resolveIndex { table with fields } =
      fun index => { index with fields := index.fields.map (columnFor table.foreignKeys) } := by
    funext index
    rw [Table.resolveIndex, funext (indexColumn_eq { table with fields })]
  have hfields : (if table.hasAttribute noIdentity then
        table.fields.map fun field => if field.primaryKey then { field with identity := false } else field
      else table.fields) = table.fields.map fun field =>
        { field with identity := field.identity && !(field.primaryKey && table.hasAttribute noIdentity) } :=
    fields_finishTable table
  unfold finishTable
  simp only [hfields, Table.resolveIndexes, hindex]
  rfl

theorem keys_settled (table : Table) : (settled table).fields.map keyOf = table.fields.map keyOf :=
  List.map_map

theorem distinct_settled (table : Table) : Distinct (settled table).fields ↔ Distinct table.fields := by
  rw [Distinct, Distinct, keys_settled]

end Settling

section Compilers

/-- The types of the key and of the members are accepted and can be read. -/
theorem yields_keyField (term : ModelTerm) (place : Fault → Failure) :
    Yields (term.line.keyField place) term.keyType.Compiles (· = term.keyField) := by
  have htype : term.line.keyType.getD { code := "int" } = term.keyType.declared := by
    unfold ModelTerm.line ModelTerm.keyType
    cases term.key <;> rfl
  unfold ModelHeader.keyField
  rw [htype]
  refine ((yields_columnType term.keyType place).bind fun type _ hstored => Yields.ok trivial ?_).congr
    (and_iff_left trivial)
  rw [hstored]
  rfl

/-- A mixin compiles if its name is new, its members may stand in a mixin, and its fields are distinct. -/
theorem yields_compileMixin (db : Database) {block : Block} {term : MixinTerm}
    (hreads : Reads block (.mixin term)) :
    Yields (compileMixin db block)
      (nameKey term.name.text ∉ db.mixins.items.map keyOf ∧
        (∀ member ∈ term.members, member.Compiles ∧ member.field?.isSome) ∧ Distinct term.mixin.fields)
      (· = term.mixin) := by
  have hname : readName? block.header = some term.name.text := by
    rw [hreads.header]
    exact readName?_chars term.name
  have hmixin : mixinWith { name := term.name.text } term.members = term.mixin := rfl
  unfold compileMixin
  simp only [hname]
  cases hknown : (db.mixin? term.name.text).isSome with
  | true =>
      refine Yields.error fun hcondition => hcondition.1 ?_
      obtain ⟨mixin, hmem, hsame⟩ := NameMap.contains_iff.1 hknown
      exact List.mem_map.2 ⟨mixin, hmem, sameName_iff.1 hsame⟩
  | false =>
      have hnew := NameMap.not_mem_keys_of_contains_eq_false hknown
      rw [if_neg (by decide), ← hmixin]
      exact (yields_mixinLines hreads distinct_nil).congr (and_iff_right hnew).symm

/-- All the mixins of a model are found if their names are known. -/
theorem yields_findMixins (db : Database) (block : Block) (names : List Identifier) :
    Yields (findMixins db block (names.map (·.text)))
      (∀ name ∈ names, nameKey name.text ∈ db.mixins.items.map keyOf)
      (· = names.filterMap fun name => findNamed? db.mixins.items name.text) := by
  induction names with
  | nil => exact Yields.ok (by simp) rfl
  | cons name names ih =>
      rw [List.map_cons, findMixins]
      cases hfound : db.mixin? name.text with
      | none =>
          refine Yields.error fun hcondition => ?_
          obtain ⟨mixin, hmem, hkey⟩ := List.mem_map.1 (hcondition name List.mem_cons_self)
          have hother := NameMap.get?_eq_none_iff.1 hfound mixin hmem
          rw [sameName_iff.2 hkey] at hother
          cases hother
      | some mixin =>
          have hkey : nameKey name.text ∈ db.mixins.items.map keyOf :=
            List.mem_map.2 ⟨mixin, NameMap.mem_of_get? hfound, sameName_iff.1 (NameMap.sameName_of_get? hfound)⟩
          have hfirst : findNamed? db.mixins.items name.text = some mixin := hfound
          refine (ih.bind fun mixins _ hmixins => Yields.ok trivial ?_).congr ?_
          · rw [hmixins, List.filterMap_cons, hfirst]
          · rw [List.forall_mem_cons, and_iff_left trivial, and_iff_right hkey]

/-- The lines of a model and then its mixins go into the table, which starts with its key. -/
theorem yields_modelBody {block : Block} {term : ModelTerm} (hreads : Reads block (.model term)) (key : Field)
    (mixins : List Mixin) :
    Yields (do
        let table ← block.body.foldlM (addToTable block) { name := term.name.text, fields := [key] }
        let table ← mixins.foldlM (applyMixin block) table
        .ok (finishTable table) : Except CompileError Table)
      ((∀ member ∈ term.members, member.Compiles) ∧ Distinct (settled (withMixins
        (withMembers { name := term.name.text, fields := [key] } term.members) mixins)).fields)
      (· = settled (withMixins (withMembers { name := term.name.text, fields := [key] } term.members) mixins)) := by
  let start : Table := { name := term.name.text, fields := [key] }
  let own := withMembers start term.members
  have hown := yields_tableLines hreads start (distinct_singleton key)
  have hwhole : mixins.foldl withMixin own = withMixins own mixins := foldl_withMixin_eq rfl mixins
  have hrest : ∀ table, (∀ member ∈ term.members, member.Compiles) ∧ Distinct own.fields → table = own →
      Yields (mixins.foldlM (applyMixin block) table >>= fun table => .ok (finishTable table))
        (Distinct (withMixins own mixins).fields) (· = settled (withMixins own mixins)) := by
    intro table hcondition htable
    rw [htable, ← hwhole]
    refine ((yields_applyMixins block mixins hcondition.2).bind fun whole _ hresult =>
      Yields.ok trivial ?_).congr (and_iff_left trivial)
    rw [hresult, finishTable_eq]
  refine (hown.bind hrest).congr ?_
  rw [distinct_settled, and_assoc]
  exact and_congr_right fun _ => and_iff_right_of_imp Distinct.of_append

/-- A model compiles if its name is new, its mixins are known, its types and marks are accepted, and its
fields are distinct with those of its mixins. -/
theorem yields_compileModel (db : Database) {block : Block} {term : ModelTerm}
    (hreads : Reads block (.model term)) :
    Yields (compileModel db block)
      (nameKey term.name.text ∉ db.tables.items.map keyOf ∧
        (∀ name ∈ term.mixins, nameKey name.text ∈ db.mixins.items.map keyOf) ∧
        term.keyType.Compiles ∧ (∀ member ∈ term.members, member.Compiles) ∧
        Distinct (term.table db.mixins.items).fields)
      (· = term.table db.mixins.items) := by
  have hheader : ModelHeader.of? block.header = some term.line := by
    rw [hreads.header]
    exact ModelHeader.of?_header term
  unfold compileModel
  simp only [hheader]
  cases hknown : db.hasTable term.line.name with
  | true =>
      refine Yields.error fun hcondition => hcondition.1 ?_
      obtain ⟨table, hmem, hsame⟩ := NameMap.contains_iff.1 hknown
      exact List.mem_map.2 ⟨table, hmem, sameName_iff.1 hsame⟩
  | false =>
      have hnew : nameKey term.name.text ∉ db.tables.items.map keyOf :=
        NameMap.not_mem_keys_of_contains_eq_false hknown
      rw [if_neg (by decide)]
      refine Yields.congr ?_ (and_iff_right hnew).symm
      refine (yields_findMixins db block term.mixins).bind fun mixins _ hmixins => ?_
      refine (yields_keyField term block.failure).bind fun key _ hkey => ?_
      rw [hmixins, hkey]
      exact yields_modelBody hreads term.keyField _

/-- The base of an extension must be known. -/
theorem compileExtension_unknown {db : Database} {block : Block} {term : ExtensionTerm}
    (hreads : Reads block (.extension term)) (hbase : db.table? term.base.text = none) :
    ∃ error, compileExtension db block = .error error := by
  have hname : readName? block.header = some term.base.text := by
    rw [hreads.header]
    exact readName?_chars term.base
  unfold compileExtension
  simp only [hname, hbase]
  exact ⟨_, rfl⟩

/-- An extension compiles if its base is known, its members are accepted, and its fields are new. -/
theorem yields_compileExtension (db : Database) {block : Block} {term : ExtensionTerm} {base : Table}
    (hreads : Reads block (.extension term)) (hbase : db.table? term.base.text = some base)
    (hdistinct : Distinct base.fields) :
    Yields (compileExtension db block)
      ((∀ member ∈ term.members, member.Compiles) ∧ Distinct (withMembers base term.members).fields)
      (· = settled (withMembers base term.members)) := by
  have hname : readName? block.header = some term.base.text := by
    rw [hreads.header]
    exact readName?_chars term.base
  unfold compileExtension
  simp only [hname, hbase]
  refine ((yields_tableLines hreads base hdistinct).bind fun table _ htable => Yields.ok trivial ?_).congr
    (and_iff_left trivial)
  rw [htable, finishTable_eq]
  rfl

end Compilers

end SchemaMigrate.Grammar
