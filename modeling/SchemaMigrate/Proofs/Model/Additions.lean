import SchemaMigrate.Proofs.Model.Types

/-!
What the lines of a block add. A line that is in order adds fields, foreign keys, indexes and attributes
that do not depend on its table. A table takes the additions of its lines exactly if their fields have
names of their own that are not taken, and then holds them behind its own.
-/

namespace SchemaMigrate.Model

/-- What some lines add to their table or mixin. -/
structure Additions where
  fields : List Field := []
  foreignKeys : List ForeignKey := []
  indexes : List Index := []
  attributes : List String := []

/-- What some lines add and then some others. -/
def Additions.append (first second : Additions) : Additions where
  fields := first.fields ++ second.fields
  foreignKeys := first.foreignKeys ++ second.foreignKeys
  indexes := first.indexes ++ second.indexes
  attributes := first.attributes ++ second.attributes

/-- The field that a line declares, if it is in order. Its place bears on failures alone. -/
def FieldLine.field? (line : FieldLine) : Option Field :=
  (line.field fun fault => { fault, source := "", lineNumber := 0, line := "" }).toOption

def Member.additions? : Member → Option Additions
  | .index tokens marks => (indexOf tokens marks).toOption.map fun index => { indexes := [index] }
  | .attribute name => some { attributes := [name] }
  | .relationship line => some { fields := [line.field], foreignKeys := [line.foreignKey] }
  | .field line => line.field?.map fun field => { fields := [field] }

def Line.additions? (line : Line) : Option Additions := (Member.of? line.text).bind Member.additions?

/-- What the lines of a body add, if all of them are in order. -/
def additionsOf? : List Line → Option Additions
  | [] => some {}
  | line :: lines => do
      let first ← line.additions?
      let others ← additionsOf? lines
      some (first.append others)

/-- What a line adds that is in order, by what the line is. -/
inductive Adds (line : Line) : Additions → Prop
  | index {tokens marks : List String} {index : Index} (hmember : Member.of? line.text = some (.index tokens marks))
      (hindex : indexOf tokens marks = .ok index) : Adds line { indexes := [index] }
  | flag {name : String} (hmember : Member.of? line.text = some (.attribute name)) :
      Adds line { attributes := [name] }
  | relationship {reference : RelationshipLine} (hmember : Member.of? line.text = some (.relationship reference)) :
      Adds line { fields := [reference.field], foreignKeys := [reference.foreignKey] }
  | field {declared : FieldLine} {field : Field} {place : Fault → Failure}
      (hmember : Member.of? line.text = some (.field declared)) (hfield : declared.field place = .ok field) :
      Adds line { fields := [field] }

/-- Fields that can be added: their names are distinct and not taken. -/
structure Fresh (fields added : List Field) : Prop where
  distinct : (added.map keyOf).Nodup
  apart : (fields.map keyOf).Disjoint (added.map keyOf)

/-- A table with additions behind what it has. -/
def withAdditions (table : Table) (added : Additions) : Table :=
  { table with
    fields := table.fields ++ added.fields
    foreignKeys := table.foreignKeys ++ added.foreignKeys
    indexes := table.indexes ++ added.indexes
    attributes := added.attributes.foldl (fun flags name => flags.set name true) table.attributes }

/-- A mixin with additions behind what it has. It takes fields and foreign keys only. -/
def mixinAdditions (mixin : Mixin) (added : Additions) : Mixin :=
  { mixin with
    fields := mixin.fields ++ added.fields
    foreignKeys := mixin.foreignKeys ++ added.foreignKeys }

section Fields

variable {owner : String} {place : Fault → Failure} {fields added result : List Field} {field : Field}

theorem fresh_nil : Fresh fields [] := ⟨List.nodup_nil, by simp⟩

theorem fresh_singleton_iff : Fresh fields [field] ↔ hasName (fields.map (·.name)) field.name = false := by
  have hkeys : (fields.map (·.name)).map nameKey = fields.map keyOf := List.map_map
  rw [Bool.eq_false_iff, ne_eq, hasName_iff, hkeys]
  constructor
  · intro h hmem
    exact h.apart hmem (List.mem_singleton_self _)
  · intro h
    refine ⟨List.nodup_singleton _, fun key hkey hother => ?_⟩
    rw [List.map_singleton, List.mem_singleton] at hother
    rw [hother] at hkey
    exact h hkey

/-- Fields are added one after the other. -/
theorem fresh_append_iff {first second : List Field} :
    Fresh fields (first ++ second) ↔ Fresh fields first ∧ Fresh (fields ++ first) second := by
  constructor
  · rintro ⟨hdistinct, hapart⟩
    rw [List.map_append, List.nodup_append'] at hdistinct
    rw [List.map_append, List.disjoint_append_right] at hapart
    refine ⟨⟨hdistinct.1, hapart.1⟩, hdistinct.2.1, ?_⟩
    rw [List.map_append, List.disjoint_append_left]
    exact ⟨hapart.2, hdistinct.2.2⟩
  · rintro ⟨⟨hfirst, hfields⟩, hsecond, hapart⟩
    rw [List.map_append, List.disjoint_append_left] at hapart
    constructor
    · rw [List.map_append, List.nodup_append']
      exact ⟨hfirst, hsecond, hapart.2⟩
    · rw [List.map_append, List.disjoint_append_right]
      exact ⟨hfields, hapart.1⟩

/-- Whether fields are new depends on the names that are taken, not on their order. -/
theorem Fresh.of_perm {others : List Field} (h : Fresh fields added)
    (hperm : (fields.map keyOf).Perm (others.map keyOf)) : Fresh others added :=
  ⟨h.distinct, fun _ hother hadded => h.apart (hperm.mem_iff.2 hother) hadded⟩

theorem Fresh.swap {first second : List Field} (h : Fresh fields (first ++ second)) :
    Fresh fields (second ++ first) := by
  have hperm : ((first ++ second).map keyOf).Perm ((second ++ first).map keyOf) := List.perm_append_comm.map keyOf
  exact ⟨hperm.nodup_iff.1 h.distinct, fun _ hfield hadded => h.apart hfield (hperm.mem_iff.2 hadded)⟩

theorem appendField_eq_ok_iff :
    appendField owner fields field place = .ok result ↔ Fresh fields [field] ∧ result = fields ++ [field] := by
  rw [fresh_singleton_iff, appendField]
  cases hasName (fields.map (·.name)) field.name with
  | true => simp [failed]
  | false => simp [eq_comm]

theorem appendFields_eq_ok_iff :
    added.foldlM (fun fields field => appendField owner fields field place) fields = .ok result ↔
      Fresh fields added ∧ result = fields ++ added := by
  induction added generalizing fields with
  | nil =>
      rw [List.foldlM_nil, List.append_nil, and_iff_right fresh_nil]
      exact ok_eq_ok_iff
  | cons field added ih =>
      rw [List.foldlM_cons, bind_eq_ok_iff, ← List.singleton_append, fresh_append_iff, ← List.append_assoc]
      simp only [appendField_eq_ok_iff, ih]
      constructor
      · rintro ⟨_, ⟨hfield, rfl⟩, hadded, hresult⟩
        exact ⟨⟨hfield, hadded⟩, hresult⟩
      · rintro ⟨⟨hfield, hadded⟩, hresult⟩
        exact ⟨_, ⟨hfield, rfl⟩, hadded, hresult⟩

/-- A field is added and its owner goes on with the new fields. -/
theorem addField_eq_ok_iff {β : Type} (whole : List Field → β) {result : β} :
    (appendField owner fields field place >>= fun fields => .ok (whole fields)) = .ok result ↔
      Fresh fields [field] ∧ result = whole (fields ++ [field]) := by
  simp only [bind_eq_ok_iff, appendField_eq_ok_iff, ok_eq_ok_iff]
  constructor
  · rintro ⟨_, ⟨hfield, rfl⟩, hresult⟩
    exact ⟨hfield, hresult⟩
  · rintro ⟨hfield, hresult⟩
    exact ⟨_, ⟨hfield, rfl⟩, hresult⟩

end Fields

section Lines

theorem field_eq_ok_of {line : FieldLine} {place other : Fault → Failure} {field : Field}
    (h : line.field place = .ok field) : line.field other = .ok field := by
  obtain ⟨type, htype, hfield⟩ := bind_eq_ok h
  exact bind_eq_ok_iff.2 ⟨type, columnType_eq_ok_of htype, hfield⟩

theorem toOption_eq_some_iff {ε α : Type} {course : Except ε α} {value : α} :
    course.toOption = some value ↔ course = .ok value := by
  cases course <;> simp [Except.toOption]

theorem field_eq_ok_iff {line : FieldLine} {place : Fault → Failure} {field : Field} :
    line.field place = .ok field ↔ line.field? = some field := by
  rw [FieldLine.field?, toOption_eq_some_iff]
  exact ⟨field_eq_ok_of, field_eq_ok_of⟩

variable {block : Block} {table : Table} {mixin : Mixin} {line : Line} {lines : List Line}

/-- A line goes into a table if it is in order and its field is new. -/
theorem addToTable_eq_ok_iff {result : Table} :
    addToTable block table line = .ok result ↔
      ∃ added, line.additions? = some added ∧ Fresh table.fields added.fields ∧
        result = withAdditions table added := by
  unfold addToTable Line.additions?
  cases hmember : Member.of? line.text with
  | none => exact ⟨fun h => (by cases h), fun ⟨_, h, _⟩ => (by cases h)⟩
  | some member =>
      rw [Option.bind_some]
      cases member with
      | index tokens marks =>
          rw [Member.additions?]
          dsimp only
          cases hindex : indexOf tokens marks with
          | error fault => exact ⟨fun h => (by cases h), fun ⟨_, h, _⟩ => (by cases h)⟩
          | ok index =>
              rw [ok_eq_ok_iff]
              simp [Except.toOption, withAdditions, fresh_nil]
      | «attribute» name =>
          rw [ok_eq_ok_iff]
          simp [Member.additions?, withAdditions, fresh_nil]
      | relationship relationship =>
          rw [addField_eq_ok_iff]
          simp [Member.additions?, withAdditions]
      | field fieldLine =>
          rw [bind_eq_ok_iff]
          simp only [field_eq_ok_iff, Member.additions?]
          cases fieldLine.field? with
          | none => simp
          | some field =>
              simp only [Option.some.injEq, exists_eq_left']
              rw [addField_eq_ok_iff]
              simp [withAdditions]

/-- A line goes into a mixin if it is in order, its field is new, and it adds nothing else than a field
and its foreign key. -/
theorem addToMixin_eq_ok_iff {result : Mixin} :
    addToMixin block mixin line = .ok result ↔
      ∃ added, line.additions? = some added ∧ (added.indexes = [] ∧ added.attributes = []) ∧
        Fresh mixin.fields added.fields ∧ result = mixinAdditions mixin added := by
  unfold addToMixin Line.additions?
  cases hmember : Member.of? line.text with
  | none => exact ⟨fun h => (by cases h), fun ⟨_, h, _⟩ => (by cases h)⟩
  | some member =>
      rw [Option.bind_some]
      cases member with
      | index tokens marks =>
          rw [Member.additions?]
          cases indexOf tokens marks with
          | error fault => exact ⟨fun h => (by cases h), fun ⟨_, h, _⟩ => (by cases h)⟩
          | ok index => simp [Except.toOption, failed]
      | «attribute» name => simp [Member.additions?, failed]
      | relationship relationship =>
          rw [addField_eq_ok_iff]
          simp [Member.additions?, mixinAdditions]
      | field fieldLine =>
          rw [bind_eq_ok_iff]
          simp only [field_eq_ok_iff, Member.additions?]
          cases fieldLine.field? with
          | none => simp
          | some field =>
              simp only [Option.some.injEq, exists_eq_left']
              rw [addField_eq_ok_iff]
              simp [mixinAdditions]

/-- A line that is in order adds one thing. -/
theorem adds_of_additions? {added : Additions} (h : line.additions? = some added) : Adds line added := by
  obtain ⟨member, hmember, hadded⟩ := Option.bind_eq_some_iff.1 h
  cases member with
  | index tokens marks =>
      obtain ⟨index, hindex, rfl⟩ := Option.map_eq_some_iff.1 hadded
      exact .index hmember (toOption_eq_some_iff.1 hindex)
  | «attribute» name =>
      cases hadded
      exact .flag hmember
  | relationship reference =>
      cases hadded
      exact .relationship hmember
  | field declared =>
      obtain ⟨field, hfield, rfl⟩ := Option.map_eq_some_iff.1 hadded
      exact .field hmember (toOption_eq_some_iff.1 hfield)

end Lines

section Bodies

variable {block : Block} {line : Line} {lines : List Line} {added : Additions}

theorem additionsOf?_cons_iff :
    additionsOf? (line :: lines) = some added ↔
      ∃ first, line.additions? = some first ∧ ∃ others, additionsOf? lines = some others ∧
        first.append others = added := by
  simp only [additionsOf?, bind, Option.bind_eq_some_iff, Option.some.injEq]

/-- What holds of no additions, of those of each line, and of two in a row holds of those of a body. -/
theorem additionsOf?_invariant {P : Additions → Prop} (hempty : P {})
    (happend : ∀ {first second}, P first → P second → P (first.append second))
    (hlines : ∀ line ∈ lines, ∀ own, line.additions? = some own → P own) (h : additionsOf? lines = some added) :
    P added := by
  induction lines generalizing added with
  | nil =>
      cases h
      exact hempty
  | cons line lines ih =>
      obtain ⟨first, hfirst, others, hothers, rfl⟩ := additionsOf?_cons_iff.1 h
      obtain ⟨hline, hlines⟩ := List.forall_mem_cons.1 hlines
      exact happend (hline first hfirst) (ih hlines hothers)

/-- How the lines of a body go into a table or a mixin, if it is known of one line. `Takes` says which additions it
takes as it stands, and `grow` puts them behind what it has. -/
theorem lines_eq_ok_iff {σ : Type} (step : σ → Line → Except CompileError σ) (Takes : σ → Additions → Prop)
    (grow : σ → Additions → σ)
    (hstep : ∀ state line result, step state line = .ok result ↔
      ∃ added, line.additions? = some added ∧ Takes state added ∧ result = grow state added)
    (hempty : ∀ state, Takes state {} ∧ grow state {} = state)
    (htakes : ∀ state first second, Takes state (Additions.append first second) ↔
      Takes state first ∧ Takes (grow state first) second)
    (hgrow : ∀ state first second, grow (grow state first) second = grow state (first.append second))
    {state result : σ} :
    lines.foldlM step state = .ok result ↔
      ∃ added, additionsOf? lines = some added ∧ Takes state added ∧ result = grow state added := by
  induction lines generalizing state with
  | nil =>
      rw [List.foldlM_nil]
      refine ok_eq_ok_iff.trans ?_
      simp [additionsOf?, hempty]
  | cons line lines ih =>
      rw [List.foldlM_cons, bind_eq_ok_iff]
      simp only [hstep, ih, additionsOf?_cons_iff]
      constructor
      · rintro ⟨_, ⟨first, hfirst, hone, rfl⟩, others, hothers, hmore, hresult⟩
        refine ⟨first.append others, ⟨first, hfirst, others, hothers, rfl⟩, (htakes _ _ _).2 ⟨hone, hmore⟩, ?_⟩
        rw [hresult, hgrow]
      · rintro ⟨_, ⟨first, hfirst, others, hothers, rfl⟩, hboth, hresult⟩
        obtain ⟨hone, hmore⟩ := (htakes _ _ _).1 hboth
        refine ⟨_, ⟨first, hfirst, hone, rfl⟩, others, hothers, hmore, ?_⟩
        rw [hresult, hgrow]

theorem withAdditions_append (table : Table) (first second : Additions) :
    withAdditions (withAdditions table first) second = withAdditions table (first.append second) := by
  simp [withAdditions, Additions.append, List.append_assoc]

theorem mixinAdditions_append (mixin : Mixin) (first second : Additions) :
    mixinAdditions (mixinAdditions mixin first) second = mixinAdditions mixin (first.append second) := by
  simp [mixinAdditions, Additions.append, List.append_assoc]

/-- A table takes lines if they are in order and their fields are new. -/
theorem tableLines_eq_ok_iff {table result : Table} :
    lines.foldlM (addToTable block) table = .ok result ↔
      ∃ added, additionsOf? lines = some added ∧ Fresh table.fields added.fields ∧
        result = withAdditions table added :=
  lines_eq_ok_iff (addToTable block) (fun table added => Fresh table.fields added.fields) withAdditions
    (fun _ _ _ => addToTable_eq_ok_iff) (fun table => ⟨fresh_nil, by simp [withAdditions]⟩)
    (fun _ _ _ => fresh_append_iff) withAdditions_append

/-- A mixin takes lines if they are in order, add fields and foreign keys only, and their fields are new. -/
theorem mixinLines_eq_ok_iff {mixin result : Mixin} :
    lines.foldlM (addToMixin block) mixin = .ok result ↔
      ∃ added, additionsOf? lines = some added ∧ (added.indexes = [] ∧ added.attributes = []) ∧
        Fresh mixin.fields added.fields ∧ result = mixinAdditions mixin added := by
  let Takes (mixin : Mixin) (added : Additions) : Prop :=
    (added.indexes = [] ∧ added.attributes = []) ∧ Fresh mixin.fields added.fields
  have hstep (mixin : Mixin) (line : Line) (result : Mixin) : addToMixin block mixin line = .ok result ↔
      ∃ added, line.additions? = some added ∧ Takes mixin added ∧ result = mixinAdditions mixin added := by
    simp only [addToMixin_eq_ok_iff, Takes, and_assoc]
  have htakes (mixin : Mixin) (first second : Additions) : Takes mixin (first.append second) ↔
      Takes mixin first ∧ Takes (mixinAdditions mixin first) second := by
    simp only [Takes, Additions.append, mixinAdditions, List.append_eq_nil_iff, fresh_append_iff]
    grind
  have hempty (mixin : Mixin) : Takes mixin {} ∧ mixinAdditions mixin {} = mixin :=
    ⟨⟨⟨rfl, rfl⟩, fresh_nil⟩, by simp [mixinAdditions]⟩
  rw [lines_eq_ok_iff _ Takes mixinAdditions hstep hempty htakes mixinAdditions_append]
  simp only [Takes, and_assoc]

end Bodies

end SchemaMigrate.Model
