import SchemaMigrate.Proofs.Sql.Mending

/-!
The updates of a bound, run on the rows of a table. An update assigns to a column where its condition holds; elsewhere
it could as well, since a column keeps what it has. Main statement: the updates are carried out exactly if each value
of the column can be taken through what they assign, and then they have replaced it by what comes out.
-/

namespace SchemaMigrate.Sql

/-- A column of some rows that holds nothing but values of a type. -/
def HoldsLive (live : LiveType) (column : String) (rows : List Row) : Prop :=
  ∀ row ∈ rows, ∃ value, row column = some value ∧ live.Keeps value

/-- A row, and the row with the value in a column taken through a relation. -/
def Replaced (column : String) (R : Value → Value → Prop) (before after : Row) : Prop :=
  ∃ value stored, before column = some value ∧ R value stored ∧ after = Function.update before column (some stored)

/-- Rows with what a column holds of its mended values. -/
def settleRows (bound : Bound) (live : LiveType) (column : String) (rows : List Row) : List Row :=
  rows.map fun row => Function.update row column (some (bound.settle live (held column row)))

section Rows

variable {rows : List Row} {row mended : Row} {table column : String} {value : Value} {live : LiveType}

theorem HoldsLive.holdsKind (h : HoldsLive live column rows) : HoldsKind (some live.family) column rows := by
  intro row hrow
  obtain ⟨value, hvalue, hkeeps⟩ := h row hrow
  exact ⟨value, hvalue, hkeeps.family⟩

theorem assignColumn_eq_ok_iff :
    assignColumn live column value row = .ok mended ↔
      ∃ stored, live.assign value = .ok stored ∧ mended = Function.update row column (some stored) := by
  rw [assignColumn, map_eq_ok_iff]
  exact exists_congr fun stored => and_congr_right fun _ => eq_comm

/-- What is there already is assigned without a change. -/
theorem assignColumn_held (hrow : row column = some value) (hkeeps : live.Keeps value) :
    assignColumn live column value row = .ok row := by
  have hsame : Function.update row column (some value) = row := by rw [← hrow, Function.update_eq_self]
  rw [assignColumn, hkeeps]
  exact congrArg Except.ok hsame

/-- An update assigns where its condition holds, and elsewhere it could as well. -/
theorem mend_eq {update : Update} {f : Value → Value} {truth : Option Bool} (hrow : row update.column = some value)
    (hkeeps : live.Keeps value) (hcondition : update.condition.eval row = .ok truth)
    (hvalue : truth = some true → update.value.eval row = .ok (f value))
    (hkeep : truth ≠ some true → f value = value) :
    update.mend live row = assignColumn live update.column (f value) row := by
  rw [Update.mend, holds_of_eval hcondition]
  by_cases htruth : truth = some true
  · rw [hvalue htruth, htruth]
    rfl
  · have hflag : (truth == some true) = false := beq_eq_false_iff_ne.2 htruth
    rw [hkeep htruth, assignColumn_held hrow hkeeps, hflag]
    rfl

theorem mend_cutUpdate {unit : LengthUnit} {limit : ℕ} (hrow : row column = some value) (hkeeps : live.Keeps value)
    (hkind : value = .null ∨ value.family? = (unit.bound limit).family?) :
    (cutUpdate table column unit limit).mend live row =
      assignColumn live column ((unit.bound limit).mend value) row := by
  have hcolumn := eval_column hrow
  have hlength : (Term.apply (.length unit) (.column column)).eval row =
      .ok (value.length?.elim .null fun length => .number length) := by
    rw [eval_apply _ hcolumn]
    rcases hkind with rfl | hkind
    · rfl
    · rw [Operation.apply, measure_eq (.inr hkind)]
      · rfl
      · rintro rfl
        cases unit <;> cases hkind
  have hcut : (unit.cut limit).apply value = .ok ((unit.bound limit).mend value) := by
    rcases hkind with rfl | hkind
    · cases unit <;> rfl
    · revert hkind
      cases unit <;> cases value <;>
        simp [LengthUnit.bound, Bound.family?, Value.family?, LengthUnit.cut, Operation.apply, Bound.mend]
  have hcondition : (cutUpdate table column unit limit).condition.eval row =
      .ok (value.length?.map fun length => decide (limit < length)) := by
    rw [cutUpdate, eval_compare _ hlength (eval_literal row limit)]
    cases value.length? with
    | none => rfl
    | some length => simp [Comparison.apply, Comparison.test]
  refine mend_eq hrow hkeeps hcondition (fun _ => (eval_apply _ hcolumn).trans hcut) fun htruth => ?_
  refine mend_of_not_violatedBy ((not_violatedBy_length_iff hkind).2 fun length hsome => ?_)
  rw [hsome] at htruth
  simpa using htruth

theorem mend_roundUpdate {places : ℕ} (hrow : row column = some value) (hkeeps : live.Keeps value)
    (hkind : value = .null ∨ value.family? = some .decimal) :
    (roundUpdate table column places).mend live row =
      assignColumn live column (value.mapNumber (roundAway places)) row := by
  have hcolumn := eval_column hrow
  rcases number_cases hkind with rfl | ⟨number, rfl⟩
  · have hround := eval_apply (.round places) hcolumn
    exact mend_eq hrow hkeeps (eval_compare .differs hcolumn hround) nofun fun _ => rfl
  · have hround := eval_apply (.round places) hcolumn
    refine mend_eq hrow hkeeps (eval_compare .differs hcolumn hround) (fun _ => hround) fun htruth => ?_
    have heq : number = roundAway places number := by simpa [Comparison.test] using htruth
    exact congrArg Value.number heq.symm

theorem mend_clampUpdate {greatest : ℚ} (hrow : row column = some value) (hkeeps : live.Keeps value)
    (hkind : value = .null ∨ value.family? = some .decimal) :
    (clampUpdate table column greatest).mend live row =
      assignColumn live column (value.mapNumber (clamp greatest)) row := by
  have hcolumn := eval_column hrow
  have hliteral := eval_literal row greatest
  rcases number_cases hkind with rfl | ⟨number, rfl⟩
  · have habs := eval_apply .abs hcolumn
    exact mend_eq hrow hkeeps (eval_compare .greater habs hliteral) nofun fun _ => rfl
  · have habs := eval_apply .abs hcolumn
    refine mend_eq hrow hkeeps (eval_compare .greater habs hliteral) (fun htruth => ?_) fun htruth => ?_
    · have hlarge : greatest < |number| := by simpa [Comparison.test] using htruth
      rw [clampUpdate, Value.mapNumber, clamp, if_pos hlarge, Term.eval, eval_apply _ hcolumn]
      rfl
    · have hsmall : ¬greatest < |number| := by simpa [Comparison.test] using htruth
      rw [Value.mapNumber, clamp, if_neg hsmall]

end Rows

section Runs

variable {rows mended : List Row} {table column : String} {store after : Store} {bound : Bound} {live : LiveType}
  {types : LiveTypes}

/-- An update is carried out if each row can be mended. -/
theorem run_eq_ok_iff {update : Update} (htypes : types update.table update.column = some live)
    (htable : store update.table = some rows) :
    update.run types store = .ok after ↔
      ∃ mended, List.Forall₂ (fun row result => update.mend live row = .ok result) rows mended
        ∧ after = Function.update store update.table (some mended) := by
  have hrun : update.run types store =
      (fun mended => Function.update store update.table (some mended)) <$> rows.mapM (update.mend live) := by
    rw [Update.run, rows_of_eq htable, htypes]
    rfl
  rw [hrun, map_eq_ok_iff]
  exact exists_congr fun mended => and_congr mapM_eq_ok_iff eq_comm

/-- What replaces a value is there afterwards. -/
theorem HoldsLive.of_replaced {R : Value → Value → Prop} (hkeeps : ∀ value stored, R value stored → live.Keeps stored)
    (h : List.Forall₂ (Replaced column R) rows mended) : HoldsLive live column mended := by
  induction h with
  | nil => exact fun row hrow => absurd hrow List.not_mem_nil
  | cons hfirst _ ih =>
      obtain ⟨value, stored, -, hstored, rfl⟩ := hfirst
      exact List.forall_mem_cons.2 ⟨⟨stored, Function.update_self .., hkeeps value stored hstored⟩, ih⟩

/-- An update that mends each row by an assignment. -/
theorem run_assigns_iff (update : Update) {f : Value → Value} (htypes : types update.table update.column = some live)
    (htable : store update.table = some rows) (hrows : HoldsLive live update.column rows)
    (hmend : ∀ row value, row update.column = some value → live.Keeps value →
      update.mend live row = assignColumn live update.column (f value) row) :
    update.run types store = .ok after ↔
      ∃ mended, List.Forall₂ (Replaced update.column fun value stored => live.assign (f value) = .ok stored) rows mended
        ∧ after = Function.update store update.table (some mended) := by
  rw [run_eq_ok_iff htypes htable]
  refine exists_congr fun mended => and_congr_left fun _ => ?_
  rw [List.forall₂_iff_zip, List.forall₂_iff_zip]
  refine and_congr_right fun _ => forall₂_congr fun row result => forall_congr' fun hmem => ?_
  obtain ⟨value, hvalue, hkeeps⟩ := hrows row (List.of_mem_zip hmem).1
  rw [hmend row value hvalue hkeeps, assignColumn_eq_ok_iff]
  constructor
  · rintro ⟨stored, hassign, hresult⟩
    exact ⟨value, stored, hvalue, hassign, hresult⟩
  · rintro ⟨other, stored, hother, hassign, hresult⟩
    cases hvalue.symm.trans hother
    exact ⟨stored, hassign, hresult⟩

/-- Values that settled without a violation could be taken. -/
theorem forall_takes_of_settles (hrows : HoldsLive live column rows)
    (hmended : List.Forall₂ (Replaced column (bound.Settles live)) rows mended)
    (hsafe : ∀ row ∈ mended, bound.violatedBy (held column row) = false) :
    ∀ row ∈ rows, live.Takes bound (held column row) := by
  induction hmended with
  | nil => exact fun row hrow => absurd hrow List.not_mem_nil
  | cons hfirst _ ih =>
      obtain ⟨value, stored, hvalue, hsettles, rfl⟩ := hfirst
      obtain ⟨⟨value', hvalue', hkeeps⟩, hrest⟩ := List.forall_mem_cons.1 hrows
      cases hvalue.symm.trans hvalue'
      obtain ⟨hstored, hothers⟩ := List.forall_mem_cons.1 hsafe
      rw [held_of_eq (Function.update_self ..)] at hstored
      refine List.forall_mem_cons.2 ⟨?_, ih hrest hothers⟩
      rw [held_of_eq hvalue]
      exact takes_of_settles hkeeps hsettles hstored

theorem not_violatedBy_settleRows (hproper : bound.Proper) (live : LiveType) (column : String) (rows : List Row) :
    ∀ row ∈ settleRows bound live column rows, bound.violatedBy (held column row) = false := by
  refine List.forall_mem_map.2 fun row hrow => ?_
  rw [held_of_eq (Function.update_self ..)]
  exact violatedBy_settle hproper live _

theorem forall_takes_of_not_violatedBy (hrows : HoldsLive live column rows)
    (hsafe : ∀ row ∈ rows, bound.violatedBy (held column row) = false) :
    ∀ row ∈ rows, live.Takes bound (held column row) := by
  intro row hrow
  obtain ⟨value, hvalue, hkeeps⟩ := hrows row hrow
  have hpasses := hsafe row hrow
  rw [held_of_eq hvalue] at hpasses ⊢
  exact takes_of_not_violatedBy hkeeps hpasses

/-- Values that can be taken settle. -/
theorem replaced_settleRows (hrows : HoldsLive live column rows) (hfamily : bound.family? = some live.family)
    (htakes : ∀ row ∈ rows, live.Takes bound (held column row)) :
    List.Forall₂ (Replaced column (bound.Settles live)) rows (settleRows bound live column rows) := by
  rw [settleRows, List.forall₂_map_right_iff, List.forall₂_same]
  intro row hrow
  obtain ⟨value, hvalue, hkeeps⟩ := hrows row hrow
  have htakes := htakes row hrow
  rw [held_of_eq hvalue] at htakes ⊢
  exact ⟨value, _, hvalue, settles_settle hkeeps hfamily htakes, rfl⟩

/-- Rows without a violation settle as they are. -/
theorem settleRows_of_not_violatedBy (hrows : HoldsLive live column rows)
    (hsafe : ∀ row ∈ rows, bound.violatedBy (held column row) = false) :
    settleRows bound live column rows = rows := by
  refine (List.map_congr_left fun row hrow => ?_).trans (List.map_id rows)
  obtain ⟨value, hvalue, hkeeps⟩ := hrows row hrow
  have hsafe := hsafe row hrow
  rw [held_of_eq hvalue] at hsafe ⊢
  rw [settle_of_not_violatedBy hkeeps hsafe, ← hvalue, Function.update_eq_self]
  rfl

/-- A value that is replaced twice. -/
theorem exists_replaced_replaced_iff {R S : Value → Value → Prop} {before after : Row} :
    (∃ middle, Replaced column R before middle ∧ Replaced column S middle after) ↔
      Replaced column (fun value stored => ∃ between, R value between ∧ S between stored) before after := by
  constructor
  · rintro ⟨_, ⟨value, between, hvalue, hfirst, rfl⟩, other, stored, hother, hsecond, rfl⟩
    rw [Function.update_self] at hother
    cases hother
    exact ⟨value, stored, hvalue, ⟨between, hfirst, hsecond⟩, Function.update_idem ..⟩
  · rintro ⟨value, stored, hvalue, ⟨between, hfirst, hsecond⟩, rfl⟩
    refine ⟨_, ⟨value, between, hvalue, hfirst, rfl⟩, between, stored, Function.update_self .., hsecond, ?_⟩
    exact (Function.update_idem ..).symm

/-- Updates one after the other. -/
def runUpdates (updates : List Update) (types : LiveTypes) (store : Store) : Except Refusal Store :=
  updates.foldlM (fun store update => update.run types store) store

theorem runUpdates_single (update : Update) (types : LiveTypes) (store : Store) :
    runUpdates [update] types store = update.run types store := by
  rw [runUpdates, List.foldlM_cons]
  exact bind_pure _

theorem runUpdates_cons_eq_ok_iff {update : Update} {updates : List Update} :
    runUpdates (update :: updates) types store = .ok after ↔
      ∃ next, update.run types store = .ok next ∧ runUpdates updates types next = .ok after := by
  rw [runUpdates, List.foldlM_cons, bind_eq_ok_iff]
  rfl

variable (htypes : types table column = some live) (htable : store table = some rows)
  (hrows : HoldsLive live column rows)
include htypes htable hrows

theorem run_cutUpdate_iff (unit : LengthUnit) {limit : ℕ} (hfamily : (unit.bound limit).family? = some live.family) :
    (cutUpdate table column unit limit).run types store = .ok after ↔
      ∃ mended, List.Forall₂ (Replaced column fun value stored =>
          live.assign ((unit.bound limit).mend value) = .ok stored) rows mended
        ∧ after = Function.update store table (some mended) := by
  refine run_assigns_iff (cutUpdate table column unit limit) htypes htable hrows fun row value hvalue hkeeps => ?_
  apply mend_cutUpdate hvalue hkeeps
  rw [hfamily]
  exact hkeeps.family

theorem run_roundUpdate_iff (hdecimal : live.family = .decimal) (places : ℕ) :
    (roundUpdate table column places).run types store = .ok after ↔
      ∃ mended, List.Forall₂ (Replaced column fun value stored =>
          live.assign (value.mapNumber (roundAway places)) = .ok stored) rows mended
        ∧ after = Function.update store table (some mended) := by
  refine run_assigns_iff (roundUpdate table column places) htypes htable hrows fun row value hvalue hkeeps => ?_
  apply mend_roundUpdate hvalue hkeeps
  rw [← hdecimal]
  exact hkeeps.family

theorem run_clampUpdate_iff (hdecimal : live.family = .decimal) (greatest : ℚ) :
    (clampUpdate table column greatest).run types store = .ok after ↔
      ∃ mended, List.Forall₂ (Replaced column fun value stored =>
          live.assign (value.mapNumber (clamp greatest)) = .ok stored) rows mended
        ∧ after = Function.update store table (some mended) := by
  refine run_assigns_iff (clampUpdate table column greatest) htypes htable hrows fun row value hvalue hkeeps => ?_
  apply mend_clampUpdate hvalue hkeeps
  rw [← hdecimal]
  exact hkeeps.family

/-- Numbers that are rounded and then clamped. -/
theorem run_both_iff (hdecimal : live.family = .decimal) (places : ℕ) (greatest : ℚ) :
    runUpdates [roundUpdate table column places, clampUpdate table column greatest] types store = .ok after ↔
      ∃ mended, List.Forall₂ (Replaced column fun value stored =>
          ∃ rounded, live.assign (value.mapNumber (roundAway places)) = .ok rounded
            ∧ live.assign (rounded.mapNumber (clamp greatest)) = .ok stored) rows mended
        ∧ after = Function.update store table (some mended) := by
  have hself (middle : List Row) := Function.update_self table (some middle) store
  rw [runUpdates_cons_eq_ok_iff]
  simp only [runUpdates_single, run_roundUpdate_iff htypes htable hrows hdecimal]
  constructor
  · rintro ⟨_, ⟨middle, hmiddle, rfl⟩, hafter⟩
    have hheld := HoldsLive.of_replaced (fun _ _ => LiveType.keeps_of_assign) hmiddle
    obtain ⟨mended, hmended, rfl⟩ := (run_clampUpdate_iff htypes (hself middle) hheld hdecimal greatest).1 hafter
    refine ⟨mended, ?_, Function.update_idem ..⟩
    exact (forall₂_comp_iff.1 ⟨middle, hmiddle, hmended⟩).imp fun _ _ => exists_replaced_replaced_iff.1
  · rintro ⟨mended, hmended, rfl⟩
    obtain ⟨middle, hmiddle, hclamped⟩ := forall₂_comp_iff.2 (hmended.imp fun _ _ => exists_replaced_replaced_iff.2)
    have hheld := HoldsLive.of_replaced (fun _ _ => LiveType.keeps_of_assign) hmiddle
    refine ⟨_, ⟨middle, hmiddle, rfl⟩, ?_⟩
    refine (run_clampUpdate_iff htypes (hself middle) hheld hdecimal greatest).2 ⟨mended, hclamped, ?_⟩
    exact (Function.update_idem ..).symm

/-- The updates of a bound are carried out if each value can be stored. -/
theorem runUpdates_eq_ok_iff (hproper : bound.Proper) (hfamily : bound.family? = some live.family) :
    runUpdates (bound.updates table column) types store = .ok after ↔
      ∃ mended, List.Forall₂ (Replaced column (bound.Settles live)) rows mended
        ∧ after = Function.update store table (some mended) := by
  cases bound with
  | unbounded => cases hfamily
  | characters limit =>
      obtain ⟨limit, rfl⟩ := Int.eq_ofNat_of_zero_le hproper
      rw [Bound.updates, runUpdates_single]
      exact run_cutUpdate_iff htypes htable hrows .characters hfamily
  | bytes limit =>
      obtain ⟨limit, rfl⟩ := Int.eq_ofNat_of_zero_le hproper
      rw [Bound.updates, runUpdates_single]
      exact run_cutUpdate_iff htypes htable hrows .octets hfamily
  | digits precision scale => exact run_both_iff htypes htable hrows (Option.some.inj hfamily.symm) _ _

end Runs

end SchemaMigrate.Sql
