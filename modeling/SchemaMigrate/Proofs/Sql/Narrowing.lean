import SchemaMigrate.Proofs.Outcome
import SchemaMigrate.Proofs.Sql.Query
import SchemaMigrate.Sql.Narrowing

/-!
The queries that measure a column and the updates that mend it, as the database reads and carries them out. Main
statements: a query finds a violation exactly if some value violates the bound, and the updates put in place of
every value the one that it is mended to.

Measuring and mending spell their bounds differently, one as a power of ten and the other in nines. The greatest
number in nines is the greatest one below the power of ten.
-/

namespace SchemaMigrate.Sql

namespace Numeral

/-- A number without a point. -/
def ofNat (number : ℕ) : Numeral where
  whole := Nat.toDigits 10 number
  whole_ne_nil := Nat.toDigits_ne_nil
  isDigit_whole _ hc := Nat.isDigit_of_mem_toDigits (by decide) (by decide) hc
  isDigit_places _ hc := by cases hc

/-- A one and zeros. -/
def powerOfTen (zeros : ℕ) : Numeral where
  whole := '1' :: List.replicate zeros '0'
  whole_ne_nil := List.cons_ne_nil _ _
  isDigit_whole c hc := by
    rcases List.mem_cons.1 hc with rfl | hc
    · rfl
    · rw [List.eq_of_mem_replicate hc]
      rfl
  isDigit_places _ hc := by cases hc

/-- Nines, or one zero in place of none. -/
def wholeNines (digits : ℕ) : List Char := if digits = 0 then ['0'] else List.replicate digits '9'

/-- Nines before and behind the point. -/
def nines (digits places : ℕ) : Numeral where
  whole := wholeNines digits
  places := List.replicate places '9'
  whole_ne_nil := by unfold wholeNines; split <;> simp [*]
  isDigit_whole c hc := by
    unfold wholeNines at hc
    split at hc
    · rw [List.mem_singleton.1 hc]
      rfl
    · rw [List.eq_of_mem_replicate hc]
      rfl
  isDigit_places c hc := by
    rw [List.eq_of_mem_replicate hc]
    rfl

/-- The number that a numeral stands for. -/
def value (numeral : Numeral) : ℚ :=
  Text.digitsValue (numeral.whole ++ numeral.places) / 10 ^ numeral.places.length

theorem token_eq (numeral : Numeral) :
    (∃ number : ℕ, numeral.token = .whole number ∧ numeral.value = number)
      ∨ numeral.token = .fraction numeral.value := by
  obtain ⟨whole, places, -, -, -⟩ := numeral
  cases places with
  | nil => exact .inl ⟨Text.digitsValue whole, rfl, by simp [value]⟩
  | cons digit places => exact .inr rfl

@[simp] theorem spelling_ofNat (number : ℕ) : (number : ℤ).repr.toList = (ofNat number).spelling :=
  String.toList_ofList

theorem token_ofNat (number : ℕ) : (ofNat number).token = .whole number :=
  congrArg Token.whole (Text.digitsValue_toDigits number)

theorem toList_repeated (digit : Char) (count : ℤ) :
    (repeated digit count).toList = List.replicate count.toNat digit :=
  String.toList_ofList

@[simp] theorem spelling_powerOfTen (precision scale : ℤ) :
    (integerLimit precision scale).toList = (powerOfTen (precision - scale).toNat).spelling := by
  rw [integerLimit, String.toList_append, toList_repeated]
  rfl

theorem token_powerOfTen (zeros : ℕ) : (powerOfTen zeros).token = .whole (10 ^ zeros) := by
  have hvalue := Text.digitsValue_zeros ['1'] zeros
  have hone : Text.digitsValue ['1'] = 1 := by decide
  rw [hone, one_mul] at hvalue
  exact congrArg Token.whole hvalue

theorem toList_wholeNines (count : ℤ) :
    (if 0 < count then repeated '9' count else "0").toList = wholeNines count.toNat := by
  unfold wholeNines
  by_cases hcount : 0 < count
  · rw [if_pos hcount, if_neg (by omega), toList_repeated]
  · rw [if_neg hcount, if_pos (by omega)]
    rfl

@[simp] theorem spelling_nines (precision : ℤ) (places : ℕ) :
    (greatestValue precision places).toList = (nines (precision - places).toNat places).spelling := by
  unfold greatestValue
  cases places with
  | zero => exact toList_wholeNines _
  | succ places =>
      have hplaces : ((places + 1 : ℕ) : ℤ) ≠ 0 := by omega
      simp only [if_neg hplaces, String.toList_append, toList_wholeNines, toList_repeated, Int.toNat_natCast,
        List.append_assoc]
      rfl

theorem digitsValue_wholeNines (digits : ℕ) : Text.digitsValue (wholeNines digits) + 1 = 10 ^ digits := by
  unfold wholeNines
  split
  · rename_i hdigits
    rw [hdigits]
    rfl
  · have hvalue := Text.digitsValue_nines [] digits
    rwa [show Text.digitsValue [] = 0 from rfl, zero_add, one_mul, List.nil_append] at hvalue

/-- Nines stand for the greatest number with as many digits before and behind the point. -/
theorem value_nines (digits places : ℕ) : (nines digits places).value = greatestBelow digits places := by
  have hpow : (10 : ℚ) ^ places ≠ 0 := pow_ne_zero _ (by norm_num)
  have hvalue : Text.digitsValue (wholeNines digits ++ List.replicate places '9') + 1 = 10 ^ digits * 10 ^ places := by
    rw [Text.digitsValue_nines, digitsValue_wholeNines]
  have hcast : (Text.digitsValue (wholeNines digits ++ List.replicate places '9') : ℚ) =
      10 ^ digits * 10 ^ places - 1 := by
    rw [eq_sub_iff_add_eq]
    exact_mod_cast hvalue
  rw [greatestBelow, value]
  simp only [nines, List.length_replicate, hcast]
  rw [zpow_neg, zpow_natCast, sub_div, mul_div_cancel_right₀ _ hpow, one_div]

end Numeral

/-- A bound that can be met: none of its numbers is negative. -/
def Bound.Proper : Bound → Prop
  | .unbounded => True
  | .characters limit | .bytes limit => 0 ≤ limit
  | .digits precision scale => 0 ≤ precision ∧ 0 ≤ scale

-- keys are compared as a whole from here on, never computed
attribute [local irreducible] nameKey

section Reading

variable {text : String} (pieces : List Piece) {field : Field}

theorem queryOf_eq {query : Query} (htext : text.toList = spelled pieces) (hspaced : wellSpaced pieces = true)
    (hread : readQuery (pieces.filterMap Piece.token?) = some query) : queryOf text = .ok query := by
  rw [queryOf, htext, tokens_spelled hspaced, Option.bind_some, hread]
  rfl

theorem updateOf_eq {update : Update} (htext : text.toList = spelled pieces) (hspaced : wellSpaced pieces = true)
    (hread : readUpdate (pieces.filterMap Piece.token?) = some update) : updateOf text = .ok update := by
  rw [updateOf, htext, tokens_spelled hspaced, Option.bind_some, hread]
  rfl

/-- The rows with a number that is too large once it is rounded, or that rounding changes. -/
def unfitCondition (column : String) (digits places : ℕ) : Condition :=
  .either (.compare .atLeast (.apply .abs (.apply (.round places) (.column column))) (.literal (10 ^ digits : ℕ)))
    (.compare .differs (.column column) (.apply (.round places) (.column column)))

/-- The query that measures a column against a bound. -/
def Bound.query? (table column : String) : Bound → Option Query
  | .unbounded => none
  | .characters _ => some (.longest .characters (.column column) table)
  | .bytes _ => some (.longest .octets (.column column) table)
  | .digits precision scale => some (.count table (unfitCondition column (precision - scale).toNat scale.toNat))

/-- What cuts a value to a length. -/
def LengthUnit.cut (length : ℕ) : LengthUnit → Operation
  | .characters => .left length
  | .octets => .substring 1 length

section Updates

variable (table column : String)

/-- The update that cuts the values that are too long. -/
def cutUpdate (unit : LengthUnit) (limit : ℕ) : Update where
  table
  column
  value := .apply (unit.cut limit) (.column column)
  condition := .compare .greater (.apply (.length unit) (.column column)) (.literal limit)

/-- The update that rounds the numbers with too many places. -/
def roundUpdate (places : ℕ) : Update where
  table
  column
  value := .apply (.round places) (.column column)
  condition := .compare .differs (.column column) (.apply (.round places) (.column column))

/-- The update that holds numbers to a greatest magnitude. -/
def clampUpdate (greatest : ℚ) : Update where
  table
  column
  value := .product (.apply .sign (.column column)) (.literal greatest)
  condition := .compare .greater (.apply .abs (.column column)) (.literal greatest)

/-- The updates that mend a column. -/
def Bound.updates : Bound → List Update
  | .unbounded => []
  | .characters limit => [cutUpdate table column .characters limit.toNat]
  | .bytes limit => [cutUpdate table column .octets limit.toNat]
  | .digits precision scale =>
      [roundUpdate table column scale.toNat,
       clampUpdate table column (greatestBelow (precision - scale).toNat scale.toNat)]

end Updates

def lengthPieces (function column table : String) : List Piece :=
  [.word "SELECT", .blank, .word "MAX", .mark "(", .word function, .mark "(", .name column, .mark ")", .mark ")",
   .blank, .word "FROM", .blank, .name table]

/-- A function of a column and a number. -/
def callPieces (function column : String) (number : ℕ) : List Piece :=
  [.word function, .mark "(", .name column, .mark ",", .blank, .numeral (.ofNat number), .mark ")"]

def unfitPieces (table column : String) (digits places : ℕ) : List Piece :=
  [.word "SELECT", .blank, .word "COUNT", .mark "(", .mark "*", .mark ")", .blank, .word "FROM", .blank, .name table,
   .blank, .word "WHERE", .blank, .word "abs", .mark "("] ++ callPieces "round" column places
    ++ [.mark ")", .blank, .mark ">=", .blank, .numeral (.powerOfTen digits), .blank, .word "OR", .blank, .name column,
      .blank, .mark "<>", .blank] ++ callPieces "round" column places

def updatePieces (table column : String) (value condition : List Piece) : List Piece :=
  [.word "UPDATE", .blank, .name table, .blank, .word "SET", .blank, .name column, .blank, .mark "=", .blank]
    ++ value ++ [.blank, .word "WHERE", .blank] ++ condition

def substringPieces (column : String) (count : ℕ) : List Piece :=
  [.word "substring", .mark "(", .name column, .blank, .word "from", .blank, .numeral (.ofNat 1), .blank, .word "for",
   .blank, .numeral (.ofNat count), .mark ")"]

/-- A function of a column that is greater than a number. -/
def greaterPieces (function column : String) (number : Numeral) : List Piece :=
  [.word function, .mark "(", .name column, .mark ")", .blank, .mark ">", .blank, .numeral number]

def clampPieces (table column : String) (greatest : Numeral) : List Piece :=
  updatePieces table column
    [.word "sign", .mark "(", .name column, .mark ")", .blank, .mark "*", .blank, .numeral greatest]
    (greaterPieces "abs" column greatest)

/-- The query of a field is read as the one that measures its column against its bound. -/
theorem queryOf_measureQuery (table : String) (h : (boundOf field).Proper) :
    (measureQuery? table field).map queryOf = ((boundOf field).query? table field.name).map .ok := by
  unfold measureQuery?
  cases hbound : boundOf field with
  | unbounded => rfl
  | characters limit =>
      refine congrArg some (queryOf_eq (lengthPieces "char_length" field.name table) ?_ rfl rfl)
      simp [lengthPieces, spelled, Piece.spelling]
  | bytes limit =>
      refine congrArg some (queryOf_eq (lengthPieces "octet_length" field.name table) ?_ rfl rfl)
      simp [lengthPieces, spelled, Piece.spelling]
  | digits precision scale =>
      rw [hbound] at h
      obtain ⟨places, rfl⟩ := Int.eq_ofNat_of_zero_le h.2
      refine congrArg some
        (queryOf_eq (unfitPieces table field.name (precision - places).toNat places) ?_ rfl ?_)
      · simp [unfitPieces, callPieces, spelled, Piece.spelling]
      · simp only [unfitPieces, callPieces, List.cons_append, List.nil_append, List.filterMap_cons,
          List.filterMap_nil, Piece.token?, Numeral.token_ofNat, Numeral.token_powerOfTen]
        rfl

/-- The updates of a field are read as those that mend its column. -/
theorem updateOf_fixups (table : String) (h : (boundOf field).Proper) :
    (fixups table field).map updateOf = ((boundOf field).updates table field.name).map .ok := by
  have hone : (Numeral.ofNat 1).spelling = ['1'] := by decide
  unfold fixups
  cases hbound : boundOf field with
  | unbounded => rfl
  | characters limit =>
      rw [hbound] at h
      obtain ⟨limit, rfl⟩ := Int.eq_ofNat_of_zero_le h
      refine congrArg (fun update => [update]) (updateOf_eq (updatePieces table field.name
        (callPieces "left" field.name limit) (greaterPieces "char_length" field.name (.ofNat limit))) ?_ rfl ?_)
      · simp [updatePieces, callPieces, greaterPieces, spelled, Piece.spelling]
      · simp only [updatePieces, callPieces, greaterPieces, List.cons_append, List.nil_append, List.filterMap_cons,
          List.filterMap_nil, Piece.token?, Numeral.token_ofNat]
        rfl
  | bytes limit =>
      rw [hbound] at h
      obtain ⟨limit, rfl⟩ := Int.eq_ofNat_of_zero_le h
      refine congrArg (fun update => [update]) (updateOf_eq (updatePieces table field.name
        (substringPieces field.name limit) (greaterPieces "octet_length" field.name (.ofNat limit))) ?_ rfl ?_)
      · simp [updatePieces, substringPieces, greaterPieces, spelled, Piece.spelling, hone]
      · simp only [updatePieces, substringPieces, greaterPieces, List.cons_append, List.nil_append, List.filterMap_cons,
          List.filterMap_nil, Piece.token?, Numeral.token_ofNat]
        rfl
  | digits precision scale =>
      rw [hbound] at h
      obtain ⟨places, rfl⟩ := Int.eq_ofNat_of_zero_le h.2
      refine congrArg₂ (fun first second => [first, second]) (updateOf_eq (updatePieces table field.name
          (callPieces "round" field.name places)
          ([.name field.name, .blank, .mark "<>", .blank] ++ callPieces "round" field.name places)) ?_ rfl ?_)
        (updateOf_eq (clampPieces table field.name (.nines (precision - places).toNat places)) ?_ rfl ?_)
      · simp [updatePieces, callPieces, spelled, Piece.spelling]
      · simp only [updatePieces, callPieces, List.cons_append, List.nil_append, List.filterMap_cons,
          List.filterMap_nil, Piece.token?, Numeral.token_ofNat]
        rfl
      · simp [clampPieces, updatePieces, greaterPieces, spelled, Piece.spelling]
      · have hvalue := Numeral.value_nines (precision - places).toNat places
        simp only [clampPieces, updatePieces, greaterPieces, List.cons_append, List.nil_append, List.filterMap_cons,
          List.filterMap_nil, Piece.token?]
        rcases (Numeral.nines (precision - places).toNat places).token_eq with ⟨number, htoken, hnumber⟩ | htoken
        · rw [htoken]
          simp only [Int.toNat_natCast, ← hvalue, hnumber]
          rfl
        · rw [htoken]
          simp only [Int.toNat_natCast, ← hvalue]
          rfl

end Reading

end SchemaMigrate.Sql
