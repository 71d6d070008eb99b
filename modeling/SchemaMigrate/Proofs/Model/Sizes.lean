import SchemaMigrate.Proofs.Model.Rejections
import SchemaMigrate.Proofs.Text.Digits

/-!
Errors of a block and where they are placed. An error names the header of the block or one of its lines,
with one exception: a size that is made of digits, but is not a numeral, is an error without a place. When
exactly a block stops at such a size can be read off its header and its lines.
-/

namespace SchemaMigrate.Model

open Text (IsNumeral isDigits splitOnChar trim)

/-- Parameters in the form of a size, one or two texts of digits, of which one is not a numeral. -/
structure UnreadableSize (params : List Char) : Prop where
  count : ((splitOnChar ',' params).map trim).length ≤ 2
  digits : ∀ part ∈ (splitOnChar ',' params).map trim, isDigits part = true
  unreadable : ∃ part ∈ (splitOnChar ',' params).map trim, ¬IsNumeral part

/-- A declared type with such a size. -/
def Unreadable (type : DeclaredType) : Prop := ∃ params, type.params = some params ∧ UnreadableSize params

/-- A line that declares a field with such a size. -/
def UnreadableLine (line : Line) : Prop :=
  ∃ field, Member.of? line.text = some (.field field) ∧ Unreadable field.type

/-- An error is placed, or it has no place for the reason given. -/
def ErrsAt (place : Failure → Prop) (reason : Prop) (error : CompileError) : Prop :=
  (∃ failure, error = .located failure ∧ place failure) ∨ (∃ numeral, error = .numeral numeral) ∧ reason

section Sizes

variable {digits params : List Char}

theorem readSize_cases (h : isDigits digits = true) :
    (∃ value, readSize digits = .ok value) ∧ IsNumeral digits ∨
      (∃ error, readSize digits = .error (.numeral error)) ∧ ¬IsNumeral digits := by
  have hnumeral := Text.readInteger_of_isDigits h
  unfold readSize
  cases hread : Text.readInteger (String.ofList digits) with
  | ok value => exact .inl ⟨⟨value, rfl⟩, hnumeral.1 ⟨value, hread⟩⟩
  | error error =>
      refine .inr ⟨⟨error, rfl⟩, fun hdigits => ?_⟩
      obtain ⟨value, hvalue⟩ := hnumeral.2 hdigits
      rw [hread] at hvalue
      cases hvalue

theorem isDigit_eq_false_of_toLower {c : Char} (h : c.toLower = 'm') : Text.isDigit c = false := by
  have hascii : c.toNat < 128 := by
    have hlower := h
    unfold Char.toLower at hlower
    split at hlower
    · rename_i hupper
      have hlast := hupper.2
      simp only [UInt32.le_iff_toNat_le] at hlast
      exact Nat.lt_of_le_of_lt hlast (by decide)
    · rw [hlower]
      decide
  revert h
  exact Text.forall_ascii (P := fun c => c.toLower = 'm' → Text.isDigit c = false) (by decide +kernel) hascii

/-- Digits are not taken for the word `max`. -/
theorem map_toLower_isDigits_ne (h : isDigits digits = true) : digits.map Char.toLower ≠ "max".toList := by
  intro hmax
  have hmem : 'm' ∈ digits.map Char.toLower := by
    rw [hmax]
    decide
  obtain ⟨c, hc, hlower⟩ := List.mem_map.1 hmem
  rw [isDigits, Bool.and_eq_true, List.all_eq_true] at h
  have hdigit := h.2 c hc
  rw [isDigit_eq_false_of_toLower hlower] at hdigit
  cases hdigit

/-- Reading two numbers stops at the first that is no numeral. -/
theorem readSizes_numeral_iff {first second : List Char} (hfirst : isDigits first = true)
    (hsecond : isDigits second = true) :
    (∃ error, (do
      let precision ← readSize first
      let scale ← readSize second
      .ok (some precision, some scale) : Except SizeError (Option Int × Option Int)) =
        .error (.numeral error)) ↔ ¬IsNumeral first ∨ ¬IsNumeral second := by
  rcases readSize_cases hfirst with ⟨⟨precision, hprecision⟩, hnumeral⟩ | ⟨⟨error, herror⟩, hnumeral⟩
  · rcases readSize_cases hsecond with ⟨⟨scale, hscale⟩, hnumeral'⟩ | ⟨⟨error, herror⟩, hnumeral'⟩
    · simp [hprecision, hscale, hnumeral, hnumeral', bind, Except.bind]
    · simp [hprecision, herror, hnumeral', bind, Except.bind]
  · simp [herror, hnumeral, bind, Except.bind]

theorem sizeOf_numeral_iff : (∃ error, sizeOf params = .error (.numeral error)) ↔ UnreadableSize params := by
  have hform : UnreadableSize params ↔ ((splitOnChar ',' params).map trim).length ≤ 2 ∧
      (∀ part ∈ (splitOnChar ',' params).map trim, isDigits part = true) ∧
      ∃ part ∈ (splitOnChar ',' params).map trim, ¬IsNumeral part :=
    ⟨fun h => ⟨h.count, h.digits, h.unreadable⟩, fun h => ⟨h.1, h.2.1, h.2.2⟩⟩
  rw [hform]
  unfold sizeOf
  split
  · rename_i only hparts
    rw [hparts]
    by_cases hdigits : isDigits only = true
    · rw [if_neg (map_toLower_isDigits_ne hdigits), if_pos hdigits]
      rcases readSize_cases hdigits with ⟨⟨precision, hprecision⟩, hnumeral⟩ | ⟨⟨error, herror⟩, hnumeral⟩
      · simp [hprecision, hnumeral, bind, Except.bind]
      · simp [herror, hnumeral, hdigits, bind, Except.bind]
    · rw [if_neg hdigits]
      refine iff_of_false ?_ fun h => hdigits (h.2.1 only List.mem_cons_self)
      rintro ⟨error, herror⟩
      split at herror <;> cases herror
  · rename_i first second hparts
    rw [hparts]
    by_cases hdigits : isDigits first = true ∧ isDigits second = true
    · rw [if_pos (Bool.and_eq_true_iff.2 hdigits), readSizes_numeral_iff hdigits.1 hdigits.2]
      simp [hdigits]
    · rw [if_neg fun h => hdigits (Bool.and_eq_true_iff.1 h)]
      refine iff_of_false (fun h => ?_) fun h => hdigits ?_
      · obtain ⟨error, herror⟩ := h
        cases herror
      · exact ⟨h.2.1 first List.mem_cons_self, h.2.1 second (List.mem_cons_of_mem _ List.mem_cons_self)⟩
  · rename_i hone htwo
    refine iff_of_false (fun h => ?_) fun h => ?_
    · obtain ⟨error, herror⟩ := h
      cases herror
    · -- no part at all, or more than two
      obtain ⟨hcount, -, part, hpart, -⟩ := h
      generalize (splitOnChar ',' params).map trim = parts at hone htwo hcount hpart
      match parts with
      | [] => cases hpart
      | [only] => exact hone only rfl
      | [first, second] => exact htwo first second rfl
      | _ :: _ :: _ :: _ => simp at hcount

end Sizes

section Columns

variable {type : DeclaredType} {place : Fault → Failure} {error : CompileError}

theorem size_numeral_iff : (∃ numeral, type.size = .error (.numeral numeral)) ↔ Unreadable type := by
  unfold DeclaredType.size Unreadable
  cases type.params with
  | none => simp
  | some params => simp [sizeOf_numeral_iff]

theorem columnType_unreadable (h : Unreadable type) (place : Fault → Failure) :
    ∃ numeral, type.columnType place = .error (.numeral numeral) := by
  obtain ⟨numeral, hsize⟩ := size_numeral_iff.2 h
  exact ⟨numeral, columnType_of_size_error hsize place⟩

/-- The error of a type is placed where the caller says, unless its size is unreadable. -/
theorem columnType_errsAt (h : type.columnType place = .error error) :
    ErrsAt (fun failure => ∃ fault, failure = place fault) (Unreadable type) error := by
  rw [columnType_eq] at h
  rcases bind_eq_error_iff.1 h with h | ⟨size, -, h⟩
  · obtain ⟨sizeError, hsize, rfl⟩ := mapError_eq_error_iff.1 h
    cases sizeError with
    | malformed => exact .inl ⟨_, rfl, _, rfl⟩
    | numeral numeral => exact .inr ⟨⟨numeral, rfl⟩, size_numeral_iff.1 ⟨numeral, hsize⟩⟩
  · obtain ⟨storeError, -, rfl⟩ := mapError_eq_error_iff.1 h
    exact .inl ⟨_, rfl, _, rfl⟩

theorem field_errsAt {line : FieldLine} (h : line.field place = .error error) :
    ErrsAt (fun failure => ∃ fault, failure = place fault) (Unreadable line.type) error := by
  rcases bind_eq_error_iff.1 h with h | ⟨_, -, h⟩
  · exact columnType_errsAt h
  · cases h

theorem field_unreadable {line : FieldLine} (h : Unreadable line.type) (place : Fault → Failure) :
    ∃ numeral, line.field place = .error (.numeral numeral) := by
  obtain ⟨numeral, htype⟩ := columnType_unreadable h place
  exact ⟨numeral, bind_eq_error_iff.2 (.inl htype)⟩

theorem keyField_errsAt {header : ModelHeader} (h : header.keyField place = .error error) :
    ErrsAt (fun failure => ∃ fault, failure = place fault) (∃ type, header.keyType = some type ∧ Unreadable type)
      error := by
  rcases bind_eq_error_iff.1 h with h | ⟨_, -, h⟩
  · cases hkey : header.keyType with
    | none =>
        rw [hkey, Option.getD_none] at h
        exact (columnType_errsAt h).imp_right fun ⟨_, _, hparams, _⟩ => by cases hparams
    | some type =>
        rw [hkey, Option.getD_some] at h
        exact (columnType_errsAt h).imp_right fun ⟨hnumeral, htype⟩ => ⟨hnumeral, type, rfl, htype⟩
  · cases h

theorem keyField_unreadable {header : ModelHeader} {type : DeclaredType} (hkey : header.keyType = some type)
    (h : Unreadable type) (place : Fault → Failure) :
    ∃ numeral, header.keyField place = .error (.numeral numeral) := by
  obtain ⟨numeral, htype⟩ := columnType_unreadable h place
  refine ⟨numeral, bind_eq_error_iff.2 (.inl ?_)⟩
  rw [hkey]
  exact htype

end Columns

section Lines

variable {block : Block} {line : Line} {table : Table} {mixin : Mixin} {error : CompileError}

/-- The places of the faults of a line. -/
def AtLine (block : Block) (line : Line) (failure : Failure) : Prop := ∃ fault, failure = block.failureAt line fault

theorem appendField_error {owner : String} {fields : List Field} {field : Field} {place : Fault → Failure}
    (h : appendField owner fields field place = .error error) : ∃ fault, error = .located (place fault) := by
  unfold appendField at h
  split at h
  · cases h
    exact ⟨_, rfl⟩
  · cases h

/-- A field that cannot be added is a fault with a place. -/
theorem addField_errsAt {β : Type} {owner : String} {fields : List Field} {field : Field} {place : Fault → Failure}
    {whole : List Field → β} {reason : Prop}
    (h : (appendField owner fields field place >>= fun fields => .ok (whole fields)) = .error error) :
    ErrsAt (fun failure => ∃ fault, failure = place fault) reason error := by
  rcases bind_eq_error_iff.1 h with h | ⟨_, -, h⟩
  · obtain ⟨fault, rfl⟩ := appendField_error h
    exact .inl ⟨_, rfl, fault, rfl⟩
  · cases h

theorem addToTable_errsAt (h : addToTable block table line = .error error) :
    ErrsAt (AtLine block line) (UnreadableLine line) error := by
  unfold addToTable at h
  split at h
  · cases h
    exact .inl ⟨_, rfl, _, rfl⟩
  · split at h
    · cases h
      exact .inl ⟨_, rfl, _, rfl⟩
    · cases h
  · cases h
  · exact addField_errsAt h
  · rename_i field hmember
    rcases bind_eq_error_iff.1 h with h | ⟨_, -, h⟩
    · exact (field_errsAt h).imp_right fun ⟨hnumeral, htype⟩ => ⟨hnumeral, field, hmember, htype⟩
    · exact addField_errsAt h

theorem addToTable_unreadable (h : UnreadableLine line) (block : Block) (table : Table) :
    ∃ numeral, addToTable block table line = .error (.numeral numeral) := by
  obtain ⟨field, hmember, htype⟩ := h
  obtain ⟨numeral, hfield⟩ := field_unreadable htype (block.failureAt line)
  refine ⟨numeral, ?_⟩
  unfold addToTable
  rw [hmember]
  exact bind_eq_error_iff.2 (.inl hfield)

theorem addToMixin_errsAt (h : addToMixin block mixin line = .error error) :
    ErrsAt (AtLine block line) (UnreadableLine line) error := by
  unfold addToMixin at h
  split at h
  · cases h
    exact .inl ⟨_, rfl, _, rfl⟩
  · cases h
    exact .inl ⟨_, rfl, _, rfl⟩
  · cases h
    exact .inl ⟨_, rfl, _, rfl⟩
  · exact addField_errsAt h
  · rename_i field hmember
    rcases bind_eq_error_iff.1 h with h | ⟨_, -, h⟩
    · exact (field_errsAt h).imp_right fun ⟨hnumeral, htype⟩ => ⟨hnumeral, field, hmember, htype⟩
    · exact addField_errsAt h

theorem addToMixin_unreadable (h : UnreadableLine line) (block : Block) (mixin : Mixin) :
    ∃ numeral, addToMixin block mixin line = .error (.numeral numeral) := by
  obtain ⟨field, hmember, htype⟩ := h
  obtain ⟨numeral, hfield⟩ := field_unreadable htype (block.failureAt line)
  refine ⟨numeral, ?_⟩
  unfold addToMixin
  rw [hmember]
  exact bind_eq_error_iff.2 (.inl hfield)

theorem applyMixin_error (h : applyMixin block table mixin = .error error) :
    ∃ fault, error = .located (block.failure fault) := by
  unfold applyMixin at h
  split at h
  · cases h
  · rcases bind_eq_error_iff.1 h with h | ⟨_, -, h⟩
    · obtain ⟨_, _, _, -, _, -, hrefused⟩ := foldlM_eq_error_iff.1 h
      exact appendField_error hrefused
    · cases h

end Lines

/-- Lines are taken one after the other up to one with an unreadable size. -/
def StopsAtLine {β : Type} (step : β → Line → Except CompileError β) (start : β) (lines : List Line) : Prop :=
  ∃ before line after, lines = before ++ line :: after ∧ (∃ taken, before.foldlM step start = .ok taken) ∧
    UnreadableLine line

/-- A block goes well, the schema being as it stands, up to a size that is unreadable: that of its key or that
of a field. -/
inductive StopsAtSize (db : Database) (block : Block) : Prop
  | key {header : ModelHeader} {type : DeclaredType} (hkind : block.kind = .model)
      (hheader : ModelHeader.of? block.header = some header) (hfree : db.hasTable header.name = false)
      (hknown : ∀ name ∈ header.mixins, (db.mixin? name).isSome = true) (hkey : header.keyType = some type)
      (h : Unreadable type)
  | model {header : ModelHeader} {key : Field} (hkind : block.kind = .model)
      (hheader : ModelHeader.of? block.header = some header) (hfree : db.hasTable header.name = false)
      (hknown : ∀ name ∈ header.mixins, (db.mixin? name).isSome = true)
      (hkey : header.keyField block.failure = .ok key)
      (h : StopsAtLine (addToTable block) (header.start key) block.body)
  | mixin {name : String} (hkind : block.kind = .mixin) (hname : readName? block.header = some name)
      (hfree : db.mixin? name = none) (h : StopsAtLine (addToMixin block) { name } block.body)
  | extension {name : String} {base : Table} (hkind : block.kind = .extension)
      (hname : readName? block.header = some name) (hbase : db.table? name = some base)
      (h : StopsAtLine (addToTable block) base block.body)

/-- The places of the faults of a block: its header and its lines. -/
def InBlock (block : Block) (failure : Failure) : Prop :=
  (∃ fault, failure = block.failure fault) ∨ ∃ line ∈ block.body, AtLine block line failure

section Blocks

variable {db : Database} {block : Block} {error : CompileError}

/-- A fold over lines whose errors are those of the lines. -/
theorem refusedAt_errsAt {β : Type} {step : β → Line → Except CompileError β} {start : β}
    (hstep : ∀ state line error, step state line = .error error →
      ErrsAt (AtLine block line) (UnreadableLine line) error)
    (h : RefusedAt step start block.body error) :
    ErrsAt (InBlock block) (StopsAtLine step start block.body) error := by
  obtain ⟨before, line, after, hbody, taken, htaken, hrefused⟩ := h
  rcases hstep taken line error hrefused with ⟨failure, rfl, hplace⟩ | ⟨hnumeral, hline⟩
  · refine .inl ⟨failure, rfl, .inr ⟨line, ?_, hplace⟩⟩
    rw [hbody]
    exact List.mem_append_right _ List.mem_cons_self
  · exact .inr ⟨hnumeral, before, line, after, hbody, ⟨taken, htaken⟩, hline⟩

theorem refusedAt_of_stopsAtLine {β : Type} {step : β → Line → Except CompileError β} {start : β} {lines : List Line}
    (hstep : ∀ state line, UnreadableLine line → ∃ numeral, step state line = .error (.numeral numeral))
    (h : StopsAtLine step start lines) : ∃ numeral, RefusedAt step start lines (.numeral numeral) := by
  obtain ⟨before, line, after, hlines, ⟨taken, htaken⟩, hline⟩ := h
  obtain ⟨numeral, hnumeral⟩ := hstep taken line hline
  exact ⟨numeral, before, line, after, hlines, taken, htaken, hnumeral⟩

/-- The errors of a block are placed in it, unless it stops at an unreadable size. -/
theorem rejected_errsAt (h : Rejected db block error) : ErrsAt (InBlock block) (StopsAtSize db block) error := by
  unfold Rejected at h
  cases hkind : block.kind with
  | mixin =>
      rw [hkind] at h
      cases h with
      | header => exact .inl ⟨_, rfl, .inl ⟨_, rfl⟩⟩
      | taken => exact .inl ⟨_, rfl, .inl ⟨_, rfl⟩⟩
      | line hname hfree h =>
          exact (refusedAt_errsAt (fun _ _ _ => addToMixin_errsAt) h).imp_right
            fun ⟨hnumeral, hstops⟩ => ⟨hnumeral, .mixin hkind hname hfree hstops⟩
  | model =>
      rw [hkind] at h
      cases h with
      | header => exact .inl ⟨_, rfl, .inl ⟨_, rfl⟩⟩
      | taken => exact .inl ⟨_, rfl, .inl ⟨_, rfl⟩⟩
      | unknownMixin => exact .inl ⟨_, rfl, .inl ⟨_, rfl⟩⟩
      | key hheader hfree hknown h =>
          rcases keyField_errsAt h with ⟨failure, rfl, hplace⟩ | ⟨hnumeral, type, hkey, htype⟩
          · exact .inl ⟨failure, rfl, .inl hplace⟩
          · exact .inr ⟨hnumeral, .key hkind hheader hfree hknown hkey htype⟩
      | line hheader hfree hknown hkey h =>
          exact (refusedAt_errsAt (fun _ _ _ => addToTable_errsAt) h).imp_right
            fun ⟨hnumeral, hstops⟩ => ⟨hnumeral, .model hkind hheader hfree hknown hkey hstops⟩
      | application _ _ _ _ _ h =>
          obtain ⟨_, _, _, -, _, -, hrefused⟩ := h
          obtain ⟨fault, rfl⟩ := applyMixin_error hrefused
          exact .inl ⟨_, rfl, .inl ⟨fault, rfl⟩⟩
  | extension =>
      rw [hkind] at h
      cases h with
      | header => exact .inl ⟨_, rfl, .inl ⟨_, rfl⟩⟩
      | unknownBase => exact .inl ⟨_, rfl, .inl ⟨_, rfl⟩⟩
      | line hname hbase h =>
          exact (refusedAt_errsAt (fun _ _ _ => addToTable_errsAt) h).imp_right
            fun ⟨hnumeral, hstops⟩ => ⟨hnumeral, .extension hkind hname hbase hstops⟩

/-- A block that stops at an unreadable size is rejected without a place. -/
theorem rejected_of_stopsAtSize (h : StopsAtSize db block) : ∃ numeral, Rejected db block (.numeral numeral) := by
  unfold Rejected
  cases h with
  | key hkind hheader hfree hknown hkey h =>
      obtain ⟨numeral, hfield⟩ := keyField_unreadable hkey h block.failure
      rw [hkind]
      exact ⟨numeral, .key hheader hfree hknown hfield⟩
  | model hkind hheader hfree hknown hkey h =>
      obtain ⟨numeral, hline⟩ := refusedAt_of_stopsAtLine (fun _ _ hline => addToTable_unreadable hline block _) h
      rw [hkind]
      exact ⟨numeral, .line hheader hfree hknown hkey hline⟩
  | mixin hkind hname hfree h =>
      obtain ⟨numeral, hline⟩ := refusedAt_of_stopsAtLine (fun _ _ hline => addToMixin_unreadable hline block _) h
      rw [hkind]
      exact ⟨numeral, .line hname hfree hline⟩
  | extension hkind hname hbase h =>
      obtain ⟨numeral, hline⟩ := refusedAt_of_stopsAtLine (fun _ _ hline => addToTable_unreadable hline block _) h
      rw [hkind]
      exact ⟨numeral, .line hname hbase hline⟩

end Blocks

end SchemaMigrate.Model
