import SchemaMigrate.Proofs.Sql.Narrowing

/-!
A column of a table, measured against a bound. Main statement: the query of a bound finds that a column is safe exactly
if none of its values violates the bound. What a value is mended to violates nothing, and a value that violates nothing
is mended to itself.
-/

namespace SchemaMigrate.Sql

/-- The value in a column of a row; null if there is no such column. -/
def held (column : String) (row : Row) : Value := (row column).getD .null

/-- The kind of the values that a bound is about. -/
def Bound.family? : Bound → Option TypeFamily
  | .unbounded => none
  | .characters _ => some .string
  | .bytes _ => some .binary
  | .digits _ _ => some .decimal

/-- A column of some rows that holds nothing but nulls and values of one kind. -/
def HoldsKind (family : Option TypeFamily) (column : String) (rows : List Row) : Prop :=
  ∀ row ∈ rows, ∃ value, row column = some value ∧ (value = .null ∨ value.family? = family)

/-- Whether measuring finds fault with a value. -/
def Bound.violatedBy : Bound → Value → Bool
  | .characters limit, .text value => limit < value.length
  | .bytes limit, .bytes value => limit < value.length
  | .digits precision scale, .number value =>
      (10 ^ (precision - scale).toNat : ℚ) ≤ |roundAway scale.toNat value| || value ≠ roundAway scale.toNat value
  | _, _ => false

/-- Whether what was measured is within a bound. -/
def Bound.accepts : Bound → Int → Bool
  | .unbounded, _ => true
  | .characters limit, observed | .bytes limit, observed => observed ≤ limit
  | .digits _ _, observed => observed == 0

/-- A number held to a greatest magnitude. -/
def clamp (greatest value : ℚ) : ℚ := if greatest < |value| then SignType.sign value * greatest else value

/-- The length of a value that has one. -/
def Value.length? : Value → Option ℕ
  | .text value => some value.length
  | .bytes value => some value.length
  | .null | .number _ => none

/-- The bound that limits a length. -/
def LengthUnit.bound (limit : Int) : LengthUnit → Bound
  | .characters => .characters limit
  | .octets => .bytes limit

def Value.mapNumber (f : ℚ → ℚ) : Value → Value
  | .number value => .number (f value)
  | value => value

/-- What becomes of a value when its column is mended. -/
def Bound.mend : Bound → Value → Value
  | .characters limit, .text value => .text (value.take limit.toNat)
  | .bytes limit, .bytes value => .bytes (value.take limit.toNat)
  | .digits precision scale, .number value =>
      .number (clamp (greatestBelow (precision - scale).toNat scale.toNat) (roundAway scale.toNat value))
  | _, value => value

section Values

variable {places : ℕ} {value : ℚ}

/-- A number passes if it has no more places and is below the power of ten. -/
theorem not_violatedBy_digits_iff {precision scale : ℤ} :
    (Bound.digits precision scale).violatedBy (.number value) = false ↔
      HasPlaces scale.toNat value ∧ |value| < 10 ^ (precision - scale).toNat := by
  simp only [Bound.violatedBy, Bool.or_eq_false_iff, decide_eq_false_iff_not, not_le, not_not]
  rw [← roundAway_eq_self_iff]
  constructor
  · rintro ⟨hlt, heq⟩
    exact ⟨heq.symm, by rwa [← heq] at hlt⟩
  · rintro ⟨heq, hlt⟩
    exact ⟨by rwa [heq], heq.symm⟩

theorem hasPlaces_clamp {greatest : ℚ} (hgreatest : HasPlaces places greatest) (hvalue : HasPlaces places value) :
    HasPlaces places (clamp greatest value) := by
  unfold clamp
  split
  · exact hgreatest.sign_mul _
  · exact hvalue

/-- A number beyond the greatest magnitude is given that magnitude. -/
theorem abs_clamp_of_lt {greatest : ℚ} (hgreatest : 0 ≤ greatest) (h : greatest < |value|) :
    |clamp greatest value| = greatest := by
  rw [clamp, if_pos h]
  rcases lt_trichotomy value 0 with hneg | rfl | hpos
  · simp [sign_neg hneg, abs_of_nonneg hgreatest]
  · rw [abs_zero] at h
    exact absurd hgreatest (not_le.2 h)
  · simp [sign_pos hpos, abs_of_nonneg hgreatest]

theorem abs_clamp_le {greatest : ℚ} (hgreatest : 0 ≤ greatest) : |clamp greatest value| ≤ greatest := by
  by_cases h : greatest < |value|
  · exact (abs_clamp_of_lt hgreatest h).le
  · rw [clamp, if_neg h]
    exact not_lt.1 h

/-- Clamping keeps the sign, or makes a number zero. -/
theorem sign_clamp {greatest : ℚ} (hgreatest : 0 ≤ greatest) (value : ℚ) :
    clamp greatest value = 0 ∨ SignType.sign (clamp greatest value) = SignType.sign value := by
  unfold clamp
  split
  · exact sign_mul_of_nonneg _ hgreatest
  · exact .inr rfl

variable {bound : Bound}

/-- What is mended violates nothing. -/
theorem violatedBy_mend (hproper : bound.Proper) (value : Value) : bound.violatedBy (bound.mend value) = false := by
  cases bound with
  | unbounded => rfl
  | characters limit =>
      obtain ⟨limit, rfl⟩ := Int.eq_ofNat_of_zero_le hproper
      cases value <;> simp [Bound.mend, Bound.violatedBy]
  | bytes limit =>
      obtain ⟨limit, rfl⟩ := Int.eq_ofNat_of_zero_le hproper
      cases value <;> simp [Bound.mend, Bound.violatedBy]
  | digits precision scale =>
      cases value with
      | number value =>
          have hplaces := hasPlaces_clamp (hasPlaces_greatestBelow (precision - scale).toNat scale.toNat)
            (hasPlaces_roundAway scale.toNat value)
          exact not_violatedBy_digits_iff.2
            ⟨hplaces, hplaces.abs_lt_iff.2 (abs_clamp_le (greatestBelow_nonneg _ _))⟩
      | null | text _ | bytes _ => rfl

/-- What violates nothing is mended to itself. -/
theorem mend_of_not_violatedBy {value : Value} (h : bound.violatedBy value = false) : bound.mend value = value := by
  cases bound with
  | unbounded => rfl
  | characters limit =>
      cases value with
      | text value =>
          have hle : (value.length : ℤ) ≤ limit := by simpa [Bound.violatedBy] using h
          exact congrArg Value.text (List.take_of_length_le (by omega))
      | null | bytes _ | number _ => rfl
  | bytes limit =>
      cases value with
      | bytes value =>
          have hle : (value.length : ℤ) ≤ limit := by simpa [Bound.violatedBy] using h
          exact congrArg Value.bytes (List.take_of_length_le (by omega))
      | null | text _ | number _ => rfl
  | digits precision scale =>
      cases value with
      | number value =>
          obtain ⟨hplaces, hlt⟩ := not_violatedBy_digits_iff.1 h
          have hle := hplaces.abs_lt_iff.1 hlt
          rw [Bound.mend, roundAway_eq_self_iff.2 hplaces, clamp, if_neg (not_lt.2 hle)]
      | null | text _ | bytes _ => rfl

end Values

section Measuring

variable {rows : List Row} {row : Row} {column : String} {value : Value} {bound : Bound}

theorem held_of_eq (h : row column = some value) : held column row = value := by rw [held, h]; rfl

theorem eval_column (h : row column = some value) : (Term.column column).eval row = .ok value := by
  rw [Term.eval, h]
  rfl

theorem eval_literal (row : Row) (number : ℚ) : (Term.literal number).eval row = .ok (.number number) := rfl

theorem eval_apply (operation : Operation) {argument : Term} (h : argument.eval row = .ok value) :
    (Term.apply operation argument).eval row = operation.apply value := by
  rw [Term.eval, h]
  rfl

theorem eval_compare (comparison : Comparison) {first second : Term} {other : Value}
    (hfirst : first.eval row = .ok value) (hsecond : second.eval row = .ok other) :
    (Condition.compare comparison first second).eval row = comparison.apply value other := by
  rw [Condition.eval, hfirst, hsecond]
  rfl

theorem eval_either {first second : Condition} {truth other : Option Bool} (hfirst : first.eval row = .ok truth)
    (hsecond : second.eval row = .ok other) :
    (Condition.either first second).eval row = .ok (eitherTruth truth other) := by
  rw [Condition.eval, hfirst, hsecond]
  rfl

theorem holds_of_eval {condition : Condition} {truth : Option Bool} (h : condition.eval row = .ok truth) :
    condition.holds row = .ok (truth == some true) := by
  rw [Condition.holds, h]
  rfl

/-- Whether a number of characters or bytes, as it was measured, is within a limit. -/
theorem greatestLength_le_iff (lengths : List (Option ℕ)) {limit : ℤ} (hlimit : 0 ≤ limit) :
    ∃ observed, (greatestLength lengths).count = .ok observed
      ∧ (observed ≤ limit ↔ ∀ length, some length ∈ lengths → (length : ℤ) ≤ limit) := by
  have hmem (length : ℕ) : length ∈ lengths.filterMap id ↔ some length ∈ lengths := by simp
  unfold greatestLength
  cases hmax : (lengths.filterMap id).max? with
  | none =>
      rw [List.max?_eq_none_iff] at hmax
      refine ⟨0, rfl, iff_of_true hlimit fun length hlength => ?_⟩
      rw [← hmem, hmax] at hlength
      cases hlength
  | some greatest =>
      obtain ⟨hgreatest, hle⟩ := List.max?_eq_some_iff.1 hmax
      refine ⟨greatest, rfl, fun h length hlength => ?_, fun h => h greatest ((hmem greatest).1 hgreatest)⟩
      have := hle length ((hmem length).2 hlength)
      omega

theorem measure_eq {unit : LengthUnit} {limit : ℤ} (h : value = .null ∨ value.family? = (unit.bound limit).family?) :
    unit.measure value = .ok value.length? := by
  rcases h with rfl | h
  · cases unit <;> rfl
  · cases unit <;> cases value <;> first | rfl | cases h

theorem not_violatedBy_length_iff {unit : LengthUnit} {limit : ℤ}
    (h : value = .null ∨ value.family? = (unit.bound limit).family?) :
    (unit.bound limit).violatedBy value = false ↔ ∀ length, value.length? = some length → (length : ℤ) ≤ limit := by
  rcases h with rfl | h
  · cases unit <;> simp [LengthUnit.bound, Bound.violatedBy, Value.length?]
  · revert h
    cases unit <;> cases value <;>
      simp [LengthUnit.bound, Bound.family?, Value.family?, Bound.violatedBy, Value.length?]

theorem number_cases (h : value = .null ∨ value.family? = some .decimal) :
    value = .null ∨ ∃ number, value = .number number := by
  rcases h with rfl | h
  · exact .inl rfl
  · cases value with
    | number number => exact .inr ⟨number, rfl⟩
    | null | text _ | bytes _ => cases h

/-- The condition of a count, by the rounded value and its magnitude. -/
theorem holds_of_rounded {digits places : ℕ} {rounded size : Value} {large finer : Option Bool}
    (hrow : row column = some value) (hround : (Operation.round places).apply value = .ok rounded)
    (hsize : Operation.abs.apply rounded = .ok size)
    (hlarge : Comparison.atLeast.apply size (.number (10 ^ digits : ℕ)) = .ok large)
    (hfiner : Comparison.differs.apply value rounded = .ok finer) :
    (unfitCondition column digits places).holds row = .ok (eitherTruth large finer == some true) := by
  have hcolumn := eval_column hrow
  have hrounded := (eval_apply (.round places) hcolumn).trans hround
  have habs := (eval_apply .abs hrounded).trans hsize
  exact holds_of_eval (eval_either ((eval_compare .atLeast habs (eval_literal row _)).trans hlarge)
    ((eval_compare .differs hcolumn hrounded).trans hfiner))

/-- The condition of a count holds of the rows whose value is found fault with. -/
theorem holds_unfitCondition {precision scale : ℤ} (hrow : row column = some value)
    (hkind : value = .null ∨ value.family? = some .decimal) :
    (unfitCondition column (precision - scale).toNat scale.toNat).holds row =
      .ok ((Bound.digits precision scale).violatedBy value) := by
  rcases number_cases hkind with rfl | ⟨number, rfl⟩
  · exact holds_of_rounded hrow rfl rfl rfl rfl
  · rw [holds_of_rounded hrow rfl rfl rfl rfl]
    simp only [Comparison.test, Bound.violatedBy, Nat.cast_pow, Nat.cast_ofNat]
    cases decide ((10 : ℚ) ^ (precision - scale).toNat ≤ |roundAway scale.toNat number|) <;>
      cases decide (number ≠ roundAway scale.toNat number) <;> rfl

variable {table : String} {store : Store}

theorem rows_of_eq (htable : store table = some rows) : store.rows table = .ok rows := by
  rw [Store.rows, htable]
  rfl

/-- The greatest length is within a limit exactly if every length is. -/
theorem answer_longest (unit : LengthUnit) {limit : ℤ} (hlimit : 0 ≤ limit) (htable : store table = some rows)
    (hrows : HoldsKind (unit.bound limit).family? column rows) :
    ∃ cell observed, (Query.longest unit (.column column) table).answer store = .ok cell
      ∧ cell.count = .ok observed
      ∧ (observed ≤ limit ↔ ∀ row ∈ rows, (unit.bound limit).violatedBy (held column row) = false) := by
  have hmeasure : ∀ row ∈ rows, ((Term.column column).eval row >>= unit.measure) = .ok (held column row).length? := by
    intro row hrow
    obtain ⟨value, hvalue, hkind⟩ := hrows row hrow
    rw [eval_column hvalue, held_of_eq hvalue]
    exact measure_eq hkind
  have hwithin : ∀ row ∈ rows, (unit.bound limit).violatedBy (held column row) = false ↔
      ∀ length, (held column row).length? = some length → (length : ℤ) ≤ limit := by
    intro row hrow
    obtain ⟨value, hvalue, hkind⟩ := hrows row hrow
    rw [held_of_eq hvalue]
    exact not_violatedBy_length_iff hkind
  obtain ⟨observed, hcount, hle⟩ :=
    greatestLength_le_iff (rows.map fun row => (held column row).length?) hlimit
  refine ⟨_, observed, ?_, hcount, hle.trans ⟨?_, ?_⟩⟩
  · rw [Query.answer, rows_of_eq htable]
    exact congrArg (greatestLength <$> ·) (mapM_eq_ok hmeasure)
  · intro h row hrow
    exact (hwithin row hrow).2 fun length hlength => h length (List.mem_map.2 ⟨row, hrow, hlength⟩)
  · intro h length hlength
    obtain ⟨row, hrow, hlength⟩ := List.mem_map.1 hlength
    exact (hwithin row hrow).1 (h row hrow) length hlength

theorem answer_count {precision scale : ℤ} (htable : store table = some rows)
    (hrows : HoldsKind (some .decimal) column rows) :
    (Query.count table (unfitCondition column (precision - scale).toNat scale.toNat)).answer store =
      .ok (.whole (rows.countP fun row => (Bound.digits precision scale).violatedBy (held column row) : ℕ)) := by
  have hholds : ∀ row ∈ rows, (unfitCondition column (precision - scale).toNat scale.toNat).holds row =
      .ok ((Bound.digits precision scale).violatedBy (held column row)) := by
    intro row hrow
    obtain ⟨value, hvalue, hkind⟩ := hrows row hrow
    rw [held_of_eq hvalue]
    exact holds_unfitCondition hvalue hkind
  rw [Query.answer, rows_of_eq htable]
  refine (congrArg ((fun held => Cell.whole (held.count true : ℕ)) <$> ·) (mapM_eq_ok hholds)).trans ?_
  refine congrArg (fun count : ℕ => Except.ok (Cell.whole count)) ?_
  rw [List.count_eq_countP, List.countP_map]
  simp only [Function.comp_def, beq_true]

/-- Measuring accepts a column exactly if none of its values violates the bound. -/
theorem answer_query {query : Query} (hproper : bound.Proper) (hquery : bound.query? table column = some query)
    (htable : store table = some rows) (hrows : HoldsKind bound.family? column rows) :
    ∃ cell observed, query.answer store = .ok cell ∧ cell.count = .ok observed
      ∧ (bound.accepts observed = true ↔ ∀ row ∈ rows, bound.violatedBy (held column row) = false) := by
  cases bound with
  | unbounded => cases hquery
  | characters limit =>
      cases hquery
      obtain ⟨cell, observed, hanswer, hcount, hle⟩ := answer_longest .characters hproper htable hrows
      exact ⟨cell, observed, hanswer, hcount, by rw [Bound.accepts, decide_eq_true_eq]; exact hle⟩
  | bytes limit =>
      cases hquery
      obtain ⟨cell, observed, hanswer, hcount, hle⟩ := answer_longest .octets hproper htable hrows
      exact ⟨cell, observed, hanswer, hcount, by rw [Bound.accepts, decide_eq_true_eq]; exact hle⟩
  | digits precision scale =>
      cases hquery
      refine ⟨_, _, answer_count htable hrows, rfl, ?_⟩
      rw [Bound.accepts, beq_iff_eq, Int.natCast_eq_zero, List.countP_eq_zero]
      simp only [Bool.not_eq_true]

end Measuring

end SchemaMigrate.Sql
