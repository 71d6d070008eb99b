import SchemaMigrate.Proofs.Run.Safety
import SchemaMigrate.Proofs.Sql.Updating

/-!
Mending the data of a column before it is narrowed. Main statement: for which declared types of the live column the
statements that mend it leave it with data that the check calls safe, whatever it holds. They do not touch what the
check finds no fault with, they cut a text or byte string to the new length and turn a number into one of the same sign
or into zero, and there is nothing left to do for them a second time.

The statements store what they compute in the column as it still is. Where this has fewer or more places than the field,
a number may be too large for it once it was rounded, or be rounded up again once it was cut to the greatest one.
-/

namespace SchemaMigrate

open Sql

/-- Whether a run of statements is carried through and takes the database from one state to another. -/
def Carries (types : LiveTypes) (settings : Settings) (statements : List String) (before after : Store) : Prop :=
  (runStatements (server types) settings statements before).outcome = .applied
    ∧ (runStatements (server types) settings statements before).state = after

/-- Whether the check before a narrowing calls the data of a column safe. -/
def CalledSafe (types : LiveTypes) (table : String) (field : Field) (store : Store) : Prop :=
  ∃ check, (checkNarrowing (server types) table field store).1 = .ok check ∧ check.safe = true

/-- What may become of a value when a column of a type is mended. A padded column does not tell blanks at the end of a
text from its padding. -/
def Field.MendsTo (field : Field) (live : LiveType) : Value → Value → Prop
  | .null, after => after = .null
  | .text before, after =>
      after = .text before
        ∨ ∃ kept, after = live.unpad (.text kept) ∧ kept <+: before ∧ field.type.precision = some (kept.length : Int)
  | .bytes before, after =>
      after = .bytes before
        ∨ ∃ kept, after = .bytes kept ∧ kept <+: before ∧ field.type.precision = some (kept.length : Int)
  | .number before, after =>
      ∃ number, after = .number number ∧ (number = 0 ∨ SignType.sign number = SignType.sign before)

/-- A row before and after its column was mended. -/
structure MendedRow (types : LiveTypes) (table : String) (field : Field) (live : LiveType) (before after : Row) :
    Prop where
  others : ∀ column, column ≠ field.name → after column = before column
  kept : CalledSafe types table field (onlyTable table [before]) → after = before
  value : ∃ old new, before field.name = some old ∧ after field.name = some new ∧ field.MendsTo live old new

/-- Whether mending the rows of a column establishes what the check of it asks for. The statements are carried through
and change no other table; each row keeps its other columns, and its value too if the row by itself passes the check; a
changed text or byte string is the old one up to the new length, and a changed number has the sign of the old one or is
zero. Then the check calls the column safe, and running the statements again changes nothing. -/
def MendsRows (types : LiveTypes) (settings : Settings) (table : String) (field : Field) (live : LiveType)
    (store : Store) (rows : List Row) : Prop :=
  ∃ mended, List.Forall₂ (MendedRow types table field live) rows mended
    ∧ Carries types settings (fixups table field) store (Function.update store table (some mended))
    ∧ CalledSafe types table field (Function.update store table (some mended))
    ∧ Carries types settings (fixups table field) (Function.update store table (some mended))
        (Function.update store table (some mended))

/-- Whether mending a column of a type does so whatever the column holds. -/
def Mends (table : String) (field : Field) (live : LiveType) : Prop :=
  ∀ (types : LiveTypes) (settings : Settings) (store : Store) (rows : List Row),
    settings.dryRun = false → types table field.name = some live → store table = some rows →
      HoldsLive live field.name rows → MendsRows types settings table field live store rows

-- keys are compared as a whole from here on, never computed
attribute [local irreducible] nameKey

section Statements

variable {types : LiveTypes} {settings : Settings} {before after : Store}

/-- A run of statements is carried through if the first is, and the others are from there. -/
theorem carries_cons_iff (hlive : settings.dryRun = false) {statement : String} {statements : List String}
    {update : Update} (hread : updateOf statement = .ok update) :
    Carries types settings (statement :: statements) before after ↔
      ∃ next, update.run types before = .ok next ∧ Carries types settings statements next after := by
  cases hrun : update.run types before with
  | error refusal =>
      have hperform : perform (server types) settings statement before = (.error refusal.message, before) := by
        rw [perform, hlive, if_neg Bool.false_ne_true, server_execute_refused hread hrun]
      refine iff_of_false (fun hcarries => ?_) nofun
      have houtcome := hcarries.1
      simp only [runStatements, hperform] at houtcome
      cases houtcome
  | ok next =>
      have hperform : perform (server types) settings statement before = (.ok (), next) := by
        rw [perform, hlive, if_neg Bool.false_ne_true, server_execute hread hrun]
      simp only [Except.ok.injEq, exists_eq_left']
      unfold Carries
      rw [runStatements]
      simp only [hperform]

/-- Statements that the database reads as updates are carried through if it can run these one after the other. -/
theorem carries_iff (hlive : settings.dryRun = false) {statements : List String} {updates : List Update}
    (hread : statements.map updateOf = updates.map .ok) :
    Carries types settings statements before after ↔ runUpdates updates types before = .ok after := by
  induction statements generalizing updates before with
  | nil =>
      cases updates with
      | nil =>
          refine Iff.trans ?_ ok_eq_ok_iff.symm
          exact (and_iff_right rfl).trans eq_comm
      | cons update updates => cases hread
  | cons statement statements ih =>
      cases updates with
      | nil => cases hread
      | cons update updates =>
          rw [List.map_cons, List.map_cons, List.cons.injEq] at hread
          rw [carries_cons_iff hlive hread.1, runUpdates_cons_eq_ok_iff]
          exact exists_congr fun next => and_congr_right fun _ => ih hread.2

end Statements

section Mended

variable {types : LiveTypes} {table : String} {field : Field} {live : LiveType} {value : Value} {row : Row}

/-- What is cut off at a length stays as it is or has that length. -/
theorem take_eq_self_or_length {α : Type} (length : ℕ) (items : List α) :
    items.take length = items ∨ (items.take length).length = length := by
  rcases Nat.le_total items.length length with hle | hle
  · exact .inl (List.take_of_length_le hle)
  · exact .inr (List.length_take_of_le hle)

/-- Mending makes of a value what may become of it. -/
theorem mendsTo_settle (hbounded : field.Bounded) (hfamily : field.family? = some live.family)
    (hkeeps : live.Keeps value) : field.MendsTo live value ((boundOf field).settle live value) := by
  have hkind := hkeeps.family
  rw [← hfamily] at hkind
  rcases hkind with rfl | hkind
  · exact settle_of_not_violatedBy hkeeps (by cases boundOf field <;> rfl)
  · rcases hbounded.cases with ⟨length, hfamily, hlength, hbound⟩ | ⟨length, hfamily, hlength, hbound⟩
      | ⟨digits, places, hfamily, -, -, hbound⟩
    · rw [hfamily] at hkind
      cases value with
      | text before =>
          rw [hbound, Bound.settle, Bound.mend, Int.toNat_natCast]
          rcases take_eq_self_or_length length before with hsame | hcut
          · refine .inl ?_
            rw [hsame, hkeeps.unpad]
          · exact .inr ⟨_, rfl, List.take_prefix .., by rw [hlength, hcut]⟩
      | null | bytes _ | number _ => cases hkind
    · rw [hfamily] at hkind
      cases value with
      | bytes before =>
          rw [hbound, Bound.settle, Bound.mend, Int.toNat_natCast, LiveType.unpad_bytes]
          rcases take_eq_self_or_length length before with hsame | hcut
          · exact .inl (congrArg Value.bytes hsame)
          · exact .inr ⟨_, rfl, List.take_prefix .., by rw [hlength, hcut]⟩
      | null | text _ | number _ => cases hkind
    · rw [hfamily] at hkind
      cases value with
      | number before =>
          rw [hbound, Bound.settle, Bound.mend, LiveType.unpad_number]
          refine ⟨_, rfl, ?_⟩
          rcases sign_clamp (greatestBelow_nonneg ((digits : ℤ) - places).toNat places) (roundAway places before)
            with hzero | hsign
          · exact .inl hzero
          · rcases sign_roundAway places before with hzero | hrounded
            · exact .inl (sign_eq_zero_iff.1 (hsign.trans (by rw [hzero, sign_zero])))
            · exact .inr (hsign.trans hrounded)
      | null | text _ | bytes _ => cases hkind

variable {settings : Settings} {store : Store} {rows mended : List Row}

/-- The check calls a column safe exactly if none of its values violates the bound. -/
theorem calledSafe_iff (hbounded : field.Bounded) (hfamily : field.family? = some live.family)
    (htable : store table = some rows) (hrows : HoldsLive live field.name rows) :
    CalledSafe types table field store ↔ ∀ row ∈ rows, (boundOf field).violatedBy (held field.name row) = false := by
  have hkind := hrows.holdsKind
  rw [← hfamily] at hkind
  obtain ⟨check, hcheck, hpasses⟩ := checkNarrowing_eq_ok (server types) hbounded htable hkind fun _ _ => rfl
  rw [← hpasses]
  constructor
  · rintro ⟨check', hcheck', hsafe⟩
    obtain rfl : check' = check := Except.ok.inj (hcheck'.symm.trans hcheck)
    exact hsafe
  · exact fun hsafe => ⟨check, hcheck, hsafe⟩

/-- A row whose column is mended. -/
theorem mendedRow_settle (hbounded : field.Bounded) (hfamily : field.family? = some live.family)
    (hrow : row field.name = some value) (hkeeps : live.Keeps value) :
    MendedRow types table field live row
      (Function.update row field.name (some ((boundOf field).settle live value))) where
  others column hcolumn := Function.update_of_ne hcolumn ..
  kept hsafe := by
    have hrows : HoldsLive live field.name [row] := List.forall_mem_singleton.2 ⟨value, hrow, hkeeps⟩
    have htable : onlyTable table [row] table = some [row] := Function.update_self ..
    rw [calledSafe_iff hbounded hfamily htable hrows, List.forall_mem_singleton, held_of_eq hrow] at hsafe
    rw [settle_of_not_violatedBy hkeeps hsafe, ← hrow, Function.update_eq_self]
  value := ⟨value, _, hrow, Function.update_self .., mendsTo_settle hbounded hfamily hkeeps⟩

/-- The statements that mend a column are carried through if each value can be stored. -/
theorem carries_fixups_iff (hbounded : field.Bounded) (hfamily : field.family? = some live.family)
    (hlive : settings.dryRun = false) (htypes : types table field.name = some live) (htable : store table = some rows)
    (hrows : HoldsLive live field.name rows) {after : Store} :
    Carries types settings (fixups table field) store after ↔
      ∃ mended, List.Forall₂ (Replaced field.name ((boundOf field).Settles live)) rows mended
        ∧ after = Function.update store table (some mended) := by
  rw [hbounded.family_eq] at hfamily
  rw [carries_iff hlive (updateOf_fixups table hbounded.proper)]
  exact runUpdates_eq_ok_iff htypes htable hrows hbounded.proper hfamily

/-- What the statements can mend so that the check is content is what the column can take on the way. -/
theorem mendsRows_iff (hbounded : field.Bounded) (hfamily : field.family? = some live.family)
    (hlive : settings.dryRun = false) (htypes : types table field.name = some live) (htable : store table = some rows)
    (hrows : HoldsLive live field.name rows) :
    MendsRows types settings table field live store rows ↔
      ∀ row ∈ rows, live.Takes (boundOf field) (held field.name row) := by
  have hbound := hbounded.family_eq.symm.trans hfamily
  have hself (mended : List Row) := Function.update_self table (some mended) store
  constructor
  · rintro ⟨mended, -, hcarries, hsafe, -⟩
    obtain ⟨mended', hmended, heq⟩ := (carries_fixups_iff hbounded hfamily hlive htypes htable hrows).1 hcarries
    obtain rfl : mended = mended' := Option.some.inj (Function.update_injective store table heq)
    have hheld := HoldsLive.of_replaced (fun _ _ => Bound.Settles.keeps) hmended
    rw [calledSafe_iff hbounded hfamily (hself mended) hheld] at hsafe
    exact forall_takes_of_settles hrows hmended hsafe
  · intro htakes
    have hmended := replaced_settleRows hrows hbound htakes
    have hheld := HoldsLive.of_replaced (fun _ _ => Bound.Settles.keeps) hmended
    have hsafe := not_violatedBy_settleRows hbounded.proper live field.name rows
    have hagain := replaced_settleRows hheld hbound (forall_takes_of_not_violatedBy hheld hsafe)
    rw [settleRows_of_not_violatedBy hheld hsafe] at hagain
    refine ⟨settleRows (boundOf field) live field.name rows, ?_, ?_, ?_, ?_⟩
    · rw [settleRows, List.forall₂_map_right_iff, List.forall₂_same]
      intro row hrow
      obtain ⟨value, hvalue, hkeeps⟩ := hrows row hrow
      rw [held_of_eq hvalue]
      exact mendedRow_settle hbounded hfamily hvalue hkeeps
    · exact (carries_fixups_iff hbounded hfamily hlive htypes htable hrows).2 ⟨_, hmended, rfl⟩
    · exact (calledSafe_iff hbounded hfamily (hself _) hheld).2 hsafe
    · refine (carries_fixups_iff hbounded hfamily hlive htypes (hself _) hheld).2 ⟨_, hagain, ?_⟩
      exact (Function.update_idem ..).symm

end Mended

/-- Mending a column establishes what the check of it asks for, whatever the column holds, exactly if the declared type
of the column has room for what is computed on the way. For texts and byte strings every type has; for numbers one
without a declared size and one with as many places as the field have, and others as far as their digits go. -/
theorem mends_iff {table : String} {field : Field} {live : LiveType} (hbounded : field.Bounded)
    (hfamily : field.family? = some live.family) : Mends table field live ↔ live.HasRoom (boundOf field) := by
  rw [← forall_takes_iff hbounded.proper]
  constructor
  · intro h value hkeeps
    have hrow : onlyColumn field.name value field.name = some value := Function.update_self ..
    have htable := Function.update_self table (some [onlyColumn field.name value]) fun _ => none
    have hrows : HoldsLive live field.name [onlyColumn field.name value] :=
      List.forall_mem_singleton.2 ⟨value, hrow, hkeeps⟩
    have hmends := h (fun _ _ => some live) {} _ _ rfl rfl htable hrows
    rw [mendsRows_iff hbounded hfamily rfl rfl htable hrows, List.forall_mem_singleton, held_of_eq hrow] at hmends
    exact hmends
  · intro h types settings store rows hlive htypes htable hrows
    refine (mendsRows_iff hbounded hfamily hlive htypes htable hrows).2 fun row hrow => ?_
    obtain ⟨value, hvalue, hkeeps⟩ := hrows row hrow
    rw [held_of_eq hvalue]
    exact h value hkeeps

/-- Ratings below ten with one place behind the point. -/
def ratingField : Field := { name := "Rating", type := { name := "numeric", precision := some 2, scale := some 1 } }

theorem ratingField_family : ratingField.family? = some .decimal := by decide +kernel

theorem ratingField_bounded : ratingField.Bounded := by
  unfold Field.Bounded
  rw [ratingField_family]
  exact ⟨⟨2, rfl, by decide⟩, by decide⟩

theorem boundOf_ratingField : boundOf ratingField = .digits 2 1 := by
  unfold boundOf
  rw [ratingField_family]
  rfl

/-- Ratings can be mended where there are more digits before the point, but not where there is a place more behind. -/
theorem mends_iff_rating :
    ratingField.Bounded ∧ ratingField.family? = some (LiveType.sized 4 1).family
      ∧ Mends "Review" ratingField (.sized 4 1)
      ∧ ratingField.family? = some (LiveType.sized 3 2).family
      ∧ ¬Mends "Review" ratingField (.sized 3 2) := by
  have hiff (digits places : ℕ) : Mends "Review" ratingField (.sized digits places) ↔
      (LiveType.sized digits places).HasRoom (.digits 2 1) := by
    rw [← boundOf_ratingField]
    exact mends_iff ratingField_bounded ratingField_family
  refine ⟨ratingField_bounded, ratingField_family, (hiff 4 1).2 ?_, ratingField_family, fun hmends => ?_⟩
  · constructor <;> decide
  · have hroom := (hiff 3 2).1 hmends
    exact absurd (hroom.1 (by decide)) (by decide)

/-- The types of a database in which ratings have two places. -/
def reviewTypes : LiveTypes := fun _ _ => some (.sized 3 2)

/-- A rating that is rounded past the greatest one. -/
def highRating : Row := onlyColumn ratingField.name (.number (999 / 100))

/-- The column has no room for the rating once it is rounded. Mending fails, the rating stays, and the check is no more
content than before. -/
theorem mending_overflows :
    let run := runStatements (server reviewTypes) {} (fixups "Review" ratingField) (onlyTable "Review" [highRating])
    HoldsLive (.sized 3 2) ratingField.name [highRating]
      ∧ run.outcome = .failed (.client "numeric field overflow")
      ∧ (run.state "Review").map (·.map (held ratingField.name)) = some [.number (999 / 100)]
      ∧ (checkNarrowing (server reviewTypes) "Review" ratingField run.state).1.map (·.safe) = .ok false := by
  constructor
  · refine List.forall_mem_singleton.2 ⟨_, by unfold highRating; exact Function.update_self .., ?_⟩
    exact LiveType.keeps_sized_iff.2 ⟨⟨999, by norm_num⟩, by norm_num [abs_of_pos]⟩
  · decide +kernel

end SchemaMigrate
