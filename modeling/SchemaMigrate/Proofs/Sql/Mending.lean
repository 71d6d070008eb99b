import SchemaMigrate.Proofs.Sql.Column

/-!
What a column of a declared type holds of a value that is mended. The value is taken through one assignment, or
through two where a number is rounded and then clamped. Main statements: what comes out violates nothing exactly if all
that was computed on the way is stored as it is, and a type takes all of its values in that way exactly if it has room.
-/

namespace SchemaMigrate.Sql

/-- What a column of a type holds of a value that was mended. -/
def Bound.settle (bound : Bound) (live : LiveType) (value : Value) : Value := live.unpad (bound.mend value)

/-- What the updates of a bound store in place of a value. Numbers are stored twice, rounded and then clamped. -/
def Bound.Settles (bound : Bound) (live : LiveType) (value stored : Value) : Prop :=
  match bound with
  | .digits precision scale =>
      ∃ rounded, live.assign (value.mapNumber (roundAway scale.toNat)) = .ok rounded
        ∧ live.assign (rounded.mapNumber (clamp (greatestBelow (precision - scale).toNat scale.toNat))) = .ok stored
  | _ => live.assign (bound.mend value) = .ok stored

/-- Whether all that mending a value computes is stored as it is. -/
def LiveType.Takes (live : LiveType) (bound : Bound) (value : Value) : Prop :=
  match bound with
  | .digits _ scale => live.Keeps (value.mapNumber (roundAway scale.toNat)) ∧ live.Keeps (bound.mend value)
  | _ => True

/-- Whether a type takes all of its values. If the bound has fewer places than the type, the values must be so small
that they are all rounded to zero; if it has more, so small that none is clamped. -/
def LiveType.HasRoom : LiveType → Bound → Prop
  | .sized digits places, .digits precision scale =>
      (scale < places → (digits : ℤ) + scale < places)
        ∧ ((places : ℤ) < scale → (digits : ℤ) - places ≤ (precision - scale).toNat)
  | _, _ => True

section Values

variable {bound : Bound} {live : LiveType} {value stored : Value}

theorem mend_digits (precision scale : ℤ) (value : Value) :
    (Bound.digits precision scale).mend value =
      (value.mapNumber (roundAway scale.toNat)).mapNumber
        (clamp (greatestBelow (precision - scale).toNat scale.toNat)) := by
  cases value <;> rfl

/-- What is settled violates nothing. -/
theorem violatedBy_settle (hproper : bound.Proper) (live : LiveType) (value : Value) :
    bound.violatedBy (bound.settle live value) = false := by
  have hmend := violatedBy_mend hproper value
  unfold Bound.settle
  cases live with
  | padded width =>
      cases hvalue : bound.mend value with
      | text characters =>
          rw [hvalue] at hmend
          -- a text without the blanks at its end is no longer than before
          have hle := (List.rdropWhile_prefix (· == ' ') characters).length_le
          cases bound with
          | characters limit =>
              simp only [LiveType.unpad, Bound.violatedBy, decide_eq_false_iff_not] at hmend ⊢
              omega
          | unbounded | bytes _ | digits _ _ => rfl
      | null | bytes _ | number _ =>
          rw [hvalue] at hmend
          exact hmend
  | text | varying _ | bytes | numeric | sized _ _ => exact hmend

/-- What violates nothing settles as it is. -/
theorem settle_of_not_violatedBy (hkeeps : live.Keeps value) (h : bound.violatedBy value = false) :
    bound.settle live value = value := by
  rw [Bound.settle, mend_of_not_violatedBy h, hkeeps.unpad]

/-- A number that violates nothing is not even rounded. -/
theorem takes_of_not_violatedBy (hkeeps : live.Keeps value) (h : bound.violatedBy value = false) :
    live.Takes bound value := by
  cases bound with
  | digits precision scale =>
      have hmend := mend_of_not_violatedBy h
      refine ⟨?_, by rwa [hmend]⟩
      cases value with
      | number number =>
          obtain ⟨hplaces, -⟩ := not_violatedBy_digits_iff.1 h
          rw [Value.mapNumber, roundAway_eq_self_iff.2 hplaces]
          exact hkeeps
      | null | text _ | bytes _ => exact hkeeps
  | unbounded | characters _ | bytes _ => trivial

/-- What is settled is kept. -/
theorem Bound.Settles.keeps (h : bound.Settles live value stored) : live.Keeps stored := by
  cases bound with
  | digits precision scale =>
      obtain ⟨_, -, hclamped⟩ := h
      exact LiveType.keeps_of_assign hclamped
  | unbounded | characters _ | bytes _ => exact LiveType.keeps_of_assign h

/-- A value that can be taken settles. -/
theorem settles_settle (hkeeps : live.Keeps value) (hfamily : bound.family? = some live.family)
    (htakes : live.Takes bound value) : bound.Settles live value (bound.settle live value) := by
  have hkind := hkeeps.family
  rw [← hfamily] at hkind
  cases bound with
  | unbounded => cases hfamily
  | characters limit =>
      cases value with
      | text characters => exact hkeeps.assign_take limit.toNat
      | null =>
          rw [settle_of_not_violatedBy hkeeps rfl]
          exact live.keeps_null
      | bytes _ | number _ => rcases hkind with hkind | hkind <;> cases hkind
  | bytes limit =>
      cases live with
      | bytes =>
          cases value with
          | bytes octets => rfl
          | null => rfl
          | text _ | number _ => rcases hkind with hkind | hkind <;> cases hkind
      | text | varying _ | padded _ | numeric | sized _ _ => cases hfamily
  | digits precision scale =>
      obtain ⟨hround, hmend⟩ := htakes
      refine ⟨_, hround, ?_⟩
      rw [← mend_digits, Bound.settle, hmend.unpad]
      exact hmend

section Numbers

variable {places scale : ℕ} {number : ℚ}

/-- A number that a column keeps is stored as it was rounded. -/
theorem roundAway_roundAway (hplaces : HasPlaces places number) (scale : ℕ) :
    roundAway places (roundAway scale number) = roundAway scale number := by
  apply roundAway_eq_self_iff.2
  rcases Nat.le_total scale places with hle | hle
  · exact (hasPlaces_roundAway scale number).mono hle
  · rw [roundAway_eq_self_iff.2 (hplaces.mono hle)]
    exact hplaces

/-- A column with fewer places rounds the greatest number below a power of ten up to the power. -/
theorem pow_le_abs_roundAway {whole : ℕ} {clamped : ℚ} (hfewer : places < scale)
    (habs : |clamped| = greatestBelow whole scale) : 10 ^ whole ≤ |roundAway places clamped| := by
  apply le_abs_roundAway (hasPlaces_pow whole places)
  rw [habs, greatestBelow]
  have hunit := unit_le_half hfewer
  linarith

/-- A number that was clamped and stored below the power of ten was stored as it had been clamped. -/
theorem roundAway_clamp {whole : ℕ} (hplaces : HasPlaces places number)
    (hlt : |roundAway places (clamp (greatestBelow whole scale) (roundAway scale number))| < 10 ^ whole) :
    roundAway places (clamp (greatestBelow whole scale) (roundAway scale number)) =
      clamp (greatestBelow whole scale) (roundAway scale number) := by
  apply roundAway_eq_self_iff.2
  rcases Nat.lt_or_ge places scale with hfewer | hmore
  · rw [roundAway_eq_self_iff.2 (hplaces.mono hfewer.le)] at hlt ⊢
    by_cases hlarge : greatestBelow whole scale < |number|
    · have hup := pow_le_abs_roundAway hfewer (abs_clamp_of_lt (greatestBelow_nonneg whole scale) hlarge)
      exact absurd hlt (not_lt.2 hup)
    · rwa [clamp, if_neg hlarge]
  · apply HasPlaces.mono _ hmore
    exact hasPlaces_clamp (hasPlaces_greatestBelow whole scale) (hasPlaces_roundAway scale number)

end Numbers

/-- What has settled without a violation could be taken. -/
theorem takes_of_settles (hkeeps : live.Keeps value) (hsettles : bound.Settles live value stored)
    (hsafe : bound.violatedBy stored = false) : live.Takes bound value := by
  cases bound with
  | digits precision scale =>
      obtain ⟨rounded, hrounded, hclamped⟩ := hsettles
      cases value with
      | number number =>
          cases live with
          | sized digits places =>
              have hplaces := (LiveType.keeps_sized_iff.1 hkeeps).1
              have hround := LiveType.keeps_of_assign hrounded
              have hclamp := LiveType.keeps_of_assign hclamped
              -- the column has rounded neither number when it stored it
              obtain ⟨-, rfl⟩ := LiveType.assign_sized_eq_ok_iff.1 hrounded
              rw [roundAway_roundAway hplaces] at hround hclamped
              obtain ⟨-, rfl⟩ := LiveType.assign_sized_eq_ok_iff.1 hclamped
              rw [roundAway_clamp hplaces (not_violatedBy_digits_iff.1 hsafe).2] at hclamp
              exact ⟨hround, hclamp⟩
          | numeric => exact ⟨rfl, rfl⟩
          | text | varying _ | padded _ | bytes => cases hkeeps
      | null | text _ | bytes _ => exact ⟨hkeeps, hkeeps⟩
  | unbounded | characters _ | bytes _ => trivial

end Values

section Room

variable {digits places scale whole : ℕ} {number : ℚ}

/-- Whether a column of a size keeps a number when it is rounded and when it is clamped. -/
def KeepsMended (digits places whole scale : ℕ) (number : ℚ) : Prop :=
  FitsDigits digits places (roundAway scale number)
    ∧ FitsDigits digits places (clamp (greatestBelow whole scale) (roundAway scale number))

theorem fitsDigits_zero (digits places : ℕ) : FitsDigits digits places 0 := by
  refine ⟨hasPlaces_zero places, ?_⟩
  rw [abs_zero]
  exact zpow_pos (by norm_num) _

/-- With places to drop, the greatest number of a size is rounded past it. -/
theorem exists_rounded_up (hfewer : scale < places) (hlarge : places ≤ digits + scale) (whole : ℕ) :
    ∃ number, FitsDigits digits places number ∧ ¬KeepsMended digits places whole scale number := by
  have hpower : (10 : ℚ) ^ (-(places : ℤ)) ≤ 10 ^ ((digits : ℤ) - places) := by
    apply zpow_le_zpow_right₀
    · norm_num
    · omega
  refine ⟨10 ^ ((digits : ℤ) - places) - 10 ^ (-(places : ℤ)), ⟨?_, ?_⟩, fun hkept => ?_⟩
  · apply HasPlaces.sub
    · exact hasPlaces_zpow (by omega)
    · exact hasPlaces_zpow le_rfl
  · rw [abs_of_nonneg (sub_nonneg.2 hpower)]
    exact sub_lt_self _ (unit_pos places)
  · have hup : (10 : ℚ) ^ ((digits : ℤ) - places) ≤
        |roundAway scale (10 ^ ((digits : ℤ) - places) - 10 ^ (-(places : ℤ)))| := by
      apply le_abs_roundAway
      · exact hasPlaces_zpow (by omega)
      · rw [abs_of_nonneg (sub_nonneg.2 hpower)]
        exact sub_le_sub_left (unit_le_half hfewer) _
    exact absurd hkept.1.2 (not_lt.2 hup)

/-- With places to add, a power of ten is clamped to a number that has too many. -/
theorem exists_clamped_up (hfewer : places < scale) (hlarge : (whole : ℤ) < digits - places) :
    ∃ number, FitsDigits digits places number ∧ ¬KeepsMended digits places whole scale number := by
  have hpos : (0 : ℚ) < 10 ^ whole := by positivity
  refine ⟨10 ^ whole, ⟨hasPlaces_pow whole places, ?_⟩, fun hkept => ?_⟩
  · rw [abs_of_pos hpos, ← zpow_natCast]
    exact zpow_lt_zpow_right₀ (by norm_num) hlarge
  · have hbeyond : greatestBelow whole scale < |(10 : ℚ) ^ whole| := by
      rw [abs_of_pos hpos]
      exact sub_lt_self _ (unit_pos scale)
    have habs := abs_clamp_of_lt (greatestBelow_nonneg whole scale) hbeyond
    obtain ⟨hplaces, -⟩ := hkept.2
    rw [roundAway_eq_self_iff.2 (hasPlaces_pow whole scale)] at hplaces
    have hup := pow_le_abs_roundAway hfewer habs
    rw [roundAway_eq_self_iff.2 hplaces, habs] at hup
    exact absurd hup (not_le.2 (sub_lt_self _ (unit_pos scale)))

/-- A number below a power of ten that is too small to be seen in the places that are left. -/
theorem keepsMended_of_small (hsmall : digits + scale < places) (hfits : FitsDigits digits places number) (whole : ℕ) :
    KeepsMended digits places whole scale number := by
  have htiny : |number| < 10 ^ (-(scale : ℤ) - 1) := by
    apply hfits.2.trans_le
    apply zpow_le_zpow_right₀
    · norm_num
    · omega
  have hzero : roundAway scale number = 0 := by
    apply roundAway_eq_zero
    have hpow : (0 : ℚ) < 10 ^ scale := by positivity
    rw [zpow_sub_one₀ (by norm_num), zpow_neg, zpow_natCast] at htiny
    have hscaled := mul_lt_mul_of_pos_right htiny hpow
    rw [mul_right_comm, inv_mul_cancel₀ hpow.ne'] at hscaled
    linarith
  have hclamp : clamp (greatestBelow whole scale) 0 = 0 := by
    rw [clamp, abs_zero, if_neg (not_lt.2 (greatestBelow_nonneg whole scale))]
  rw [KeepsMended, hzero, hclamp]
  exact ⟨fitsDigits_zero digits places, fitsDigits_zero digits places⟩

/-- A number that rounding leaves alone is kept when it is clamped to as many places, or not at all. -/
theorem keepsMended_of_hasPlaces (hfits : FitsDigits digits places number) (hplaces : HasPlaces scale number)
    (hclamped : scale ≤ places ∨ |number| ≤ greatestBelow whole scale) :
    KeepsMended digits places whole scale number := by
  rw [KeepsMended, roundAway_eq_self_iff.2 hplaces]
  refine ⟨hfits, ?_⟩
  by_cases hlarge : greatestBelow whole scale < |number|
  · have hle := hclamped.resolve_right (not_le.2 hlarge)
    constructor
    · exact (hasPlaces_clamp (hasPlaces_greatestBelow whole scale) hplaces).mono hle
    · rw [abs_clamp_of_lt (greatestBelow_nonneg whole scale) hlarge]
      exact hlarge.trans hfits.2
  · rwa [clamp, if_neg hlarge]

/-- A size keeps all its numbers exactly if those that would be rounded are too small to be seen, and those that would
be clamped are not there. -/
theorem forall_keepsMended_iff :
    (∀ number, FitsDigits digits places number → KeepsMended digits places whole scale number) ↔
      (scale < places → digits + scale < places) ∧ (places < scale → (digits : ℤ) - places ≤ whole) := by
  constructor
  · intro h
    constructor
    · intro hfewer
      by_contra hlarge
      obtain ⟨number, hfits, hlost⟩ := exists_rounded_up hfewer (Nat.le_of_not_lt hlarge) whole
      exact hlost (h number hfits)
    · intro hfewer
      by_contra hlarge
      obtain ⟨number, hfits, hlost⟩ := exists_clamped_up hfewer (Int.lt_of_not_ge hlarge)
      exact hlost (h number hfits)
  · rintro ⟨hsmall, hfew⟩ number hfits
    obtain ⟨hplaces, hlt⟩ := id hfits
    rcases lt_trichotomy scale places with hfewer | rfl | hmore
    · exact keepsMended_of_small (hsmall hfewer) hfits whole
    · exact keepsMended_of_hasPlaces hfits hplaces (.inl le_rfl)
    · have hmany : HasPlaces scale number := HasPlaces.mono hplaces hmore.le
      refine keepsMended_of_hasPlaces hfits hmany (.inr (hmany.abs_lt_iff.1 (hlt.trans_le ?_)))
      rw [← zpow_natCast]
      exact zpow_le_zpow_right₀ (by norm_num) (hfew hmore)

end Room

theorem takes_sized_iff {digits places : ℕ} {precision scale : ℤ} {number : ℚ} :
    (LiveType.sized digits places).Takes (.digits precision scale) (.number number) ↔
      KeepsMended digits places (precision - scale).toNat scale.toNat number :=
  and_congr LiveType.keeps_sized_iff LiveType.keeps_sized_iff

/-- A type takes all of its values exactly if it has room. -/
theorem forall_takes_iff {live : LiveType} {bound : Bound} (hproper : bound.Proper) :
    (∀ value, live.Keeps value → live.Takes bound value) ↔ live.HasRoom bound := by
  cases bound with
  | digits precision scale =>
      obtain ⟨scale, rfl⟩ := Int.eq_ofNat_of_zero_le hproper.2
      cases live with
      | sized digits places =>
          have hroom : (LiveType.sized digits places).HasRoom (.digits precision scale) ↔
              (scale < places → digits + scale < places)
                ∧ (places < scale → (digits : ℤ) - places ≤ (precision - scale).toNat) := by
            simp only [LiveType.HasRoom]
            norm_cast
          rw [hroom, ← forall_keepsMended_iff]
          constructor
          · intro h number hfits
            exact takes_sized_iff.1 (h (.number number) (LiveType.keeps_sized_iff.2 hfits))
          · intro h value hkeeps
            cases value with
            | number number => exact takes_sized_iff.2 (h number (LiveType.keeps_sized_iff.1 hkeeps))
            | null | text _ | bytes _ => exact ⟨hkeeps, hkeeps⟩
      | numeric =>
          refine iff_of_true (fun value hkeeps => ?_) trivial
          cases value with
          | number number => exact ⟨rfl, rfl⟩
          | null | text _ | bytes _ => exact ⟨hkeeps, hkeeps⟩
      | text | varying _ | padded _ | bytes =>
          refine iff_of_true (fun value hkeeps => ?_) trivial
          cases value with
          | number number => cases hkeeps
          | null | text _ | bytes _ => exact ⟨hkeeps, hkeeps⟩
  | unbounded | characters _ | bytes _ =>
      apply iff_of_true
      · exact fun _ _ => trivial
      · cases live <;> trivial

end SchemaMigrate.Sql
