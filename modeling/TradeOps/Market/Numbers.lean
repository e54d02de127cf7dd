import TradeOps.Lib.Fractions
import TradeOps.StrictJson.Grammar

/-!
# Market numbers

Embeds `normalizeMarketNumber` and `decimalComparison` of `validation.ts`. A number token is taken
apart, its point is moved by the exponent with zeros for the places in between, and the zeros too
many are dropped; what is left is the canonical text. Nothing is rounded: the text denotes the
rational of the token.

`maxStringLength` is the engine's bound on strings: `repeat`, or the text it is put into, fails
beyond it. The exponent is exact here; `parseInt` rounds it to a double, when it is far beyond that
bound either way. The test for a finite number is not repeated, since a token has no other.
-/

namespace TradeOps.Market

open Checks JsValue Numerals StrictJson

inductive MarketError where
  | observationValidation | rangeError
  deriving DecidableEq, Repr

/-- The parts of a token; `decimalPosition` is where the point stands in the digits. -/
structure DecimalParts where
  negative : Bool
  digits : List Char
  decimalPosition : Int
  floatingToken : Bool
  deriving DecidableEq, Repr

def isExponentLetter (ch : Char) : Bool := ch = 'e' ∨ ch = 'E'

/-- `Number.parseInt(text, 10)`, of the text behind the exponent letter. -/
def parseInt : List Char → Int
  | '-' :: digits => -(Nat.ofDigitChars 10 digits 0 : Int)
  | '+' :: digits => Nat.ofDigitChars 10 digits 0
  | digits => Nat.ofDigitChars 10 digits 0

/-- A token has at most one exponent letter and one point. -/
def decimalParts (raw : List Char) : DecimalParts :=
  let negative := decide (raw.head? = some '-')
  let unsigned := if negative then raw.drop 1 else raw
  let coefficient := unsigned.takeWhile (!isExponentLetter ·)
  let exponent := unsigned.dropWhile (!isExponentLetter ·)
  { negative := negative
    digits := coefficient.erase '.'
    decimalPosition :=
      coefficient.idxOf '.' + if exponent = [] then 0 else parseInt (exponent.drop 1)
    floatingToken := '.' ∈ coefficient ∨ exponent ≠ [] }

/-- `"0".repeat(count)`. -/
def zeros (maxStringLength : Nat) (count : Int) : Except MarketError (List Char) := do
  failIf (count > maxStringLength) .rangeError
  return List.replicate count.toNat '0'

/-- A template of two strings. -/
def joined (maxStringLength : Nat) (left right : List Char) : Except MarketError (List Char) := do
  failIf (left.length + right.length > maxStringLength) .rangeError
  return left ++ right

/-- `whole` and `fraction`, before zeros are dropped. -/
def placePoint (maxStringLength : Nat) (digits : List Char) (decimalPosition : Int) :
    Except MarketError (List Char × List Char) := do
  if decimalPosition ≤ 0 then
    let padding ← zeros maxStringLength (-decimalPosition)
    let fraction ← joined maxStringLength padding digits
    return (['0'], fraction)
  else if decimalPosition ≥ digits.length then
    let padding ← zeros maxStringLength (decimalPosition - digits.length)
    let whole ← joined maxStringLength digits padding
    return (whole, [])
  else
    return (digits.take decimalPosition.toNat, digits.drop decimalPosition.toNat)

/-- The text of a sign, a whole part and a fraction. -/
def canonicalText (negative floatingToken : Bool) (whole fraction : List Char) : List Char :=
  let significantWhole := whole.dropWhile (· = '0')
  let isZero := significantWhole.length = 0 ∧ fraction.length = 0
  let canonical := if fraction.length > 0 then whole ++ '.' :: fraction else whole
  let canonical :=
    if floatingToken = true ∧ fraction.length = 0 then whole ++ ['.', '0'] else canonical
  let canonical := if negative then '-' :: canonical else canonical
  if isZero ∧ floatingToken = false then if negative then ['-', '0'] else ['0'] else canonical

structure DecimalValue where
  canonical : List Char
  deriving DecidableEq, Repr

def normalizeMarketNumber (maxStringLength : Nat) (number : StrictJsonNumber) :
    Except MarketError DecimalValue := do
  let parts := decimalParts number.raw
  let (whole, fraction) ← placePoint maxStringLength parts.digits parts.decimalPosition
  let whole := stripLeading whole
  let fraction := stripTrailing fraction
  let significantWhole := whole.dropWhile (· = '0')
  let digitCount := significantWhole.length + fraction.length
  failIf (digitCount > 38 ∨ fraction.length > 18) .observationValidation
  return ⟨canonicalText parts.negative parts.floatingToken whole fraction⟩

/-! ## Comparison -/

structure Magnitude where
  negative : Bool
  whole : List Char
  fraction : List Char
  deriving DecidableEq, Repr

/-- `parse` of the comparison; a canonical text has at most one point. -/
def magnitude (value : List Char) : Magnitude :=
  let negative := decide (value.head? = some '-')
  let unsigned := if negative then value.drop 1 else value
  let wholeRaw := unsigned.takeWhile (· ≠ '.')
  let fractionRaw := (unsigned.dropWhile (· ≠ '.')).drop 1
  let significant := wholeRaw.dropWhile (· = '0')
  let whole := if significant = [] then ['0'] else significant
  let fraction := stripTrailing fractionRaw
  let zero := decide (whole = ['0'] ∧ fraction.length = 0)
  ⟨negative && !zero, whole, fraction⟩

def padEnd (width : Nat) (chars : List Char) : List Char :=
  chars ++ List.replicate (width - chars.length) '0'

def compareMagnitudes (a b : Magnitude) : Int :=
  if a.whole.length ≠ b.whole.length then
    if a.whole.length < b.whole.length then -1 else 1
  else if a.whole ≠ b.whole then
    if a.whole < b.whole then -1 else 1
  else
    let width := max a.fraction.length b.fraction.length
    let leftFraction := padEnd width a.fraction
    let rightFraction := padEnd width b.fraction
    if leftFraction = rightFraction then 0 else if leftFraction < rightFraction then -1 else 1

def decimalComparison (left right : List Char) : Int :=
  let a := magnitude left
  let b := magnitude right
  if a.negative ≠ b.negative then if a.negative then -1 else 1
  else if a.negative then -compareMagnitudes a b else compareMagnitudes a b

/-! ## The parts of a token -/

section Parts

variable {minus integer fraction exponent : List Char}

/-- The power of ten that an exponent stands for. -/
def power (exponent : List Char) : Int := if exponent = [] then 0 else parseInt (exponent.drop 1)

theorem isDigits_of_isInteger (h : IsInteger integer) : IsDigits integer := by
  rcases h with rfl | ⟨ch, digits, hlow, hhigh, hdigits, rfl⟩
  · intro ch hch
    rw [List.mem_singleton.1 hch]
    rfl
  · intro c hc
    rcases List.mem_cons.1 hc with rfl | hc
    · exact isDigit_of_range ⟨hlow, hhigh⟩
    · exact hdigits c hc

theorem ne_nil_of_isInteger (h : IsInteger integer) : integer ≠ [] := by
  rcases h with rfl | ⟨ch, digits, -, -, -, rfl⟩
  · exact List.cons_ne_nil _ _
  · exact List.cons_ne_nil _ _

theorem isDigits_of_isFraction (h : IsFraction fraction) : IsDigits (fraction.drop 1) := by
  rcases h with rfl | ⟨digits, -, hdigits, rfl⟩
  · exact nofun
  · exact hdigits

theorem isExponentLetter_digit {ch : Char} (h : ch.isDigit = true) :
    isExponentLetter ch = false := by
  rw [isExponentLetter, decide_eq_false_iff_not]
  rintro (rfl | rfl)
  · exact absurd h (by decide)
  · exact absurd h (by decide)

theorem no_exponentLetter (hinteger : IsInteger integer) (hfraction : IsFraction fraction) :
    ∀ ch ∈ integer ++ fraction, (!isExponentLetter ch) = true := by
  intro ch hch
  rw [Bool.not_eq_true']
  rcases List.mem_append.1 hch with hch | hch
  · exact isExponentLetter_digit (isDigits_of_isInteger hinteger ch hch)
  · rcases hfraction with rfl | ⟨digits, -, hdigits, rfl⟩
    · cases hch
    · rcases List.mem_cons.1 hch with rfl | hch
      · rfl
      · exact isExponentLetter_digit (hdigits ch hch)

/-- The exponent letter ends the coefficient. -/
theorem split_exponent {front : List Char} (hfront : ∀ ch ∈ front, (!isExponentLetter ch) = true)
    (hexponent : IsExponent exponent) :
    (front ++ exponent).takeWhile (!isExponentLetter ·) = front ∧
      (front ++ exponent).dropWhile (!isExponentLetter ·) = exponent := by
  rw [List.takeWhile_append_of_pos hfront, List.dropWhile_append_of_pos hfront]
  rcases hexponent with rfl | ⟨ch, sign, digits, hch, -, -, -, rfl⟩
  · exact ⟨List.append_nil front, rfl⟩
  · have hletter : isExponentLetter ch = true := decide_eq_true hch
    rw [List.takeWhile_cons_of_neg (by simp [hletter]),
      List.dropWhile_cons_of_neg (by simp [hletter])]
    exact ⟨List.append_nil front, rfl⟩

theorem point_not_mem (hinteger : IsInteger integer) : '.' ∉ integer := fun hmem =>
  absurd (isDigits_of_isInteger hinteger '.' hmem) (by decide)

theorem head?_integer (hinteger : IsInteger integer) (rest : List Char) :
    (integer ++ rest).head? ≠ some '-' := by
  intro hhead
  have hne := ne_nil_of_isInteger hinteger
  rw [List.head?_append_of_ne_nil _ hne] at hhead
  exact absurd (isDigits_of_isInteger hinteger '-' (List.mem_of_head? hhead)) (by decide)

theorem decimalParts_number (hminus : minus = [] ∨ minus = ['-']) (hinteger : IsInteger integer)
    (hfraction : IsFraction fraction) (hexponent : IsExponent exponent) :
    decimalParts (minus ++ integer ++ fraction ++ exponent) =
      { negative := decide (minus = ['-'])
        digits := integer ++ fraction.drop 1
        decimalPosition := integer.length + power exponent
        floatingToken := decide (fraction ≠ [] ∨ exponent ≠ []) } := by
  have hsplit := split_exponent (no_exponentLetter hinteger hfraction) hexponent
  have hhead := head?_integer hinteger (fraction ++ exponent)
  have hsign : decide ((minus ++ integer ++ fraction ++ exponent).head? = some '-') =
      decide (minus = ['-']) := by
    rcases hminus with rfl | rfl
    · simpa using hhead
    · simp
  have hunsigned : (if decide (minus = ['-']) = true then
      (minus ++ integer ++ fraction ++ exponent).drop 1 else
      minus ++ integer ++ fraction ++ exponent) = integer ++ fraction ++ exponent := by
    rcases hminus with rfl | rfl
    · simp
    · simp
  have hpoint := point_not_mem hinteger
  unfold decimalParts
  simp only [hsign, hunsigned, hsplit.1, hsplit.2]
  rcases hfraction with rfl | ⟨digits, hne, hdigits, rfl⟩
  · simp [List.erase_of_not_mem hpoint, hpoint, power]
  · simp [List.erase_append_right _ hpoint, List.idxOf_append_of_notMem hpoint, power]

/-- The digits of a token and the place of its point make up its magnitude. -/
theorem exactMagnitude_number (hminus : minus = [] ∨ minus = ['-']) (hinteger : IsInteger integer)
    (hfraction : IsFraction fraction) (hexponent : IsExponent exponent) :
    exactMagnitude (minus ++ integer ++ fraction ++ exponent) =
      Nat.ofDigitChars 10 (integer ++ fraction.drop 1) 0 *
        (10 : ℚ) ^ (power exponent - (fraction.drop 1).length) := by
  have hfront : ∀ ch ∈ minus ++ (integer ++ fraction), (!isExponentLetter ch) = true := by
    intro ch hch
    rcases List.mem_append.1 hch with hch | hch
    · rcases hminus with rfl | rfl
      · cases hch
      · rw [List.mem_singleton.1 hch]
        rfl
    · exact no_exponentLetter hinteger hfraction ch hch
  obtain ⟨htake, hdrop⟩ := split_exponent hfront hexponent
  have hmantissa : (minus ++ (integer ++ fraction)).dropWhile (fun ch => decide (ch = '-')) =
      integer ++ fraction := by
    have hhead := head?_integer hinteger fraction
    have hkept : (integer ++ fraction).dropWhile (fun ch => decide (ch = '-')) =
        integer ++ fraction := by
      cases hcase : integer ++ fraction with
      | nil => rfl
      | cons ch rest =>
        rw [hcase] at hhead
        exact List.dropWhile_cons_of_neg (by simpa using hhead)
    rcases hminus with rfl | rfl
    · exact hkept
    · rw [List.singleton_append, List.dropWhile_cons_of_pos (by decide), hkept]
  have hpoint : ∀ ch ∈ integer, decide (ch ≠ '.') = true := by
    intro ch hch
    rw [decide_eq_true_eq]
    rintro rfl
    exact point_not_mem hinteger hch
  have hwhole : (integer ++ fraction).takeWhile (fun ch => decide (ch ≠ '.')) = integer ∧
      (integer ++ fraction).dropWhile (fun ch => decide (ch ≠ '.')) = fraction := by
    rw [List.takeWhile_append_of_pos hpoint, List.dropWhile_append_of_pos hpoint]
    rcases hfraction with rfl | ⟨digits, -, -, rfl⟩
    · exact ⟨List.append_nil _, rfl⟩
    · exact ⟨List.append_nil _, rfl⟩
  have hraw : minus ++ integer ++ fraction ++ exponent =
      minus ++ (integer ++ fraction) ++ exponent := by
    simp only [List.append_assoc]
  rw [hraw]
  have hpower : power exponent = parseInt (exponent.drop 1) := by
    unfold power
    split
    · rename_i hnil
      rw [hnil]
      rfl
    · rfl
  have hletter : (fun ch => !decide (ch = 'e' ∨ ch = 'E')) = (!isExponentLetter ·) := rfl
  unfold exactMagnitude
  dsimp only
  rw [hletter, htake, hdrop, hmantissa, hwhole.1, hwhole.2, hpower]
  rfl

end Parts

/-! ## Placing the point -/

section Placing

variable {maxStringLength : Nat} {digits whole fraction : List Char} {position : Int}

/-- The length of the digits with the zeros that are put before or behind them. -/
def paddedLength (parts : DecimalParts) : Int :=
  if parts.decimalPosition ≤ 0 then parts.digits.length - parts.decimalPosition
  else max parts.digits.length parts.decimalPosition

theorem placePoint_ok (hdigits : IsDigits digits) (hne : digits ≠ [])
    (h : placePoint maxStringLength digits position = .ok (whole, fraction)) :
    IsDigits whole ∧ whole ≠ [] ∧ IsDigits fraction ∧
      decimal whole fraction =
        Nat.ofDigitChars 10 digits 0 * (10 : ℚ) ^ (position - digits.length) := by
  unfold placePoint at h
  split at h
  · rename_i hneg
    simp only [zeros, joined, bind_ok_iff, failIf_ok_iff, pure_ok_iff] at h
    obtain ⟨padding, ⟨-, -, rfl⟩, fraction', ⟨-, -, rfl⟩, h⟩ := h
    obtain ⟨rfl, rfl⟩ := Prod.mk.inj h
    refine ⟨isDigits_zeros 1, List.cons_ne_nil _ _,
      (isDigits_zeros _).append hdigits, ?_⟩
    obtain ⟨k, hk⟩ : ∃ k : Nat, position = -(k : Int) := ⟨(-position).toNat, by omega⟩
    have hzero : Nat.ofDigitChars 10 ['0'] 0 = 0 := rfl
    have hexp : position - digits.length = -((k + digits.length : Nat) : Int) := by
      rw [hk]
      push_cast
      ring
    rw [decimal, hzero, ofDigitChars_append_zero, ofDigitChars_zeros, hexp, zpow_neg, zpow_natCast,
      List.length_append, List.length_replicate, hk, neg_neg, Int.toNat_natCast]
    simp [div_eq_mul_inv]
  · rename_i hpos
    split at h
    · rename_i hlong
      simp only [zeros, joined, bind_ok_iff, failIf_ok_iff, pure_ok_iff] at h
      obtain ⟨padding, ⟨-, -, rfl⟩, whole', ⟨-, -, rfl⟩, h⟩ := h
      obtain ⟨rfl, rfl⟩ := Prod.mk.inj h
      refine ⟨hdigits.append (isDigits_zeros _), by simp [hne], List.forall_mem_nil _, ?_⟩
      obtain ⟨k, hk⟩ : ∃ k : Nat, position - digits.length = (k : Int) :=
        ⟨(position - digits.length).toNat, by omega⟩
      rw [decimal_nil, ofDigitChars_append_zero, ofDigitChars_zeros, hk, zpow_natCast,
        List.length_replicate, Int.toNat_natCast, Nat.add_zero]
      push_cast
      ring
    · rename_i hshort
      obtain ⟨rfl, rfl⟩ := Prod.mk.inj (Except.ok.inj h)
      obtain ⟨k, rfl⟩ : ∃ k : Nat, position = (k : Int) := ⟨position.toNat, by omega⟩
      rw [Int.toNat_natCast]
      have hlength : (digits.drop k).length = digits.length - k := List.length_drop
      refine ⟨fun ch hch => hdigits ch (List.mem_of_mem_take hch), ?_,
        fun ch hch => hdigits ch (List.mem_of_mem_drop hch), ?_⟩
      · intro hnil
        rcases List.take_eq_nil_iff.1 hnil with hzero | hzero
        · omega
        · exact hne hzero
      · have hexp : (k : Int) - digits.length = -((digits.length - k : Nat) : Int) := by
          omega
        rw [decimal_append, List.take_append_drop, hlength, hexp, zpow_neg, zpow_natCast,
          div_eq_mul_inv]

theorem placePoint_end (hne : digits ≠ []) (hposition : position = digits.length)
    (h : placePoint maxStringLength digits position = .ok (whole, fraction)) : fraction = [] := by
  have hpos := List.length_pos_iff.2 hne
  rw [placePoint, if_neg (by omega), if_pos (by omega)] at h
  simp only [bind_ok_iff, pure_ok_iff] at h
  obtain ⟨_, _, _, _, h⟩ := h
  exact (Prod.mk.inj h).2.symm

theorem zeros_of_le {count : Int} (h : count ≤ maxStringLength) :
    zeros maxStringLength count = .ok (List.replicate count.toNat '0') := by
  rw [zeros, failIf, if_neg (not_lt.2 h)]
  rfl

theorem joined_of_le {left right : List Char} (h : left.length + right.length ≤ maxStringLength) :
    joined maxStringLength left right = .ok (left ++ right) := by
  rw [joined, failIf, if_neg (not_lt.2 h)]
  rfl

/-- The point is placed when the padded digits fit into a string. -/
theorem placePoint_of_fits {parts : DecimalParts} (h : paddedLength parts ≤ maxStringLength) :
    ∃ placed, placePoint maxStringLength parts.digits parts.decimalPosition = .ok placed := by
  unfold paddedLength at h
  unfold placePoint
  by_cases hneg : parts.decimalPosition ≤ 0
  · rw [if_pos hneg] at h
    rw [if_pos hneg, zeros_of_le (by omega), ok_bind_eq, joined_of_le, ok_bind_eq]
    · exact ⟨_, rfl⟩
    · rw [List.length_replicate]
      omega
  · rw [if_neg hneg] at h
    rw [if_neg hneg]
    by_cases hlong : parts.decimalPosition ≥ parts.digits.length
    · rw [if_pos hlong, zeros_of_le (by omega), ok_bind_eq, joined_of_le, ok_bind_eq]
      · exact ⟨_, rfl⟩
      · rw [List.length_replicate]
        omega
    · rw [if_neg hlong]
      exact ⟨_, rfl⟩

end Placing

/-! ## The canonical text -/

section Canonical

variable {negative floatingToken : Bool} {whole fraction : List Char}

/-- What a canonical text has behind its whole part. -/
def canonicalTail (floatingToken : Bool) (fraction : List Char) : List Char :=
  if fraction ≠ [] then '.' :: fraction else if floatingToken then ['.', '0'] else []

def canonicalSign (negative : Bool) : List Char := if negative then ['-'] else []

theorem canonicalText_eq (hdigits : IsDigits whole) (hleast : IsLeast whole) :
    canonicalText negative floatingToken whole fraction =
      canonicalSign negative ++ whole ++ canonicalTail floatingToken fraction := by
  have hzero : (whole.dropWhile (fun ch => decide (ch = '0'))).length = 0 → whole = ['0'] := by
    intro hnil
    have hnumber := (length_dropWhile_le_iff hdigits (n := 0)).1 (le_of_eq hnil)
    rw [pow_zero, Nat.lt_one_iff] at hnumber
    rw [← toDigits_ofDigitChars hdigits hleast, hnumber]
    rfl
  unfold canonicalText canonicalTail canonicalSign
  cases fraction with
  | cons ch rest => cases negative <;> simp
  | nil =>
    cases floatingToken with
    | true => cases negative <;> simp
    | false =>
      by_cases hlength : (whole.dropWhile (fun ch => decide (ch = '0'))).length = 0
      · rw [hzero hlength]
        cases negative <;> simp
      · cases negative <;> simp [hlength]

theorem isInteger_of_isLeast (hdigits : IsDigits whole) (hleast : IsLeast whole) :
    IsInteger whole := by
  cases whole with
  | nil => exact absurd rfl hleast.1
  | cons ch rest =>
    by_cases hzero : ch = '0'
    · left
      have hshort : ¬ 1 < (ch :: rest).length := fun hlong => hleast.2 hlong (by rw [hzero]; rfl)
      cases rest with
      | nil => rw [hzero]
      | cons _ _ => exact absurd (by simp) hshort
    · right
      have hdigit := hdigits ch List.mem_cons_self
      have hpos := digit_pos hdigit hzero
      rw [Char.isDigit_iff_toNat] at hdigit
      have hval : '0'.toNat = 48 := rfl
      have hnine : '9'.toNat = 57 := rfl
      refine ⟨ch, rest, ?_, ?_, hdigits.tail, rfl⟩
      · show 49 ≤ ch.toNat
        omega
      · show ch.toNat ≤ 57
        omega

theorem isFraction_canonicalTail (hdigits : IsDigits fraction) :
    IsFraction (canonicalTail floatingToken fraction) := by
  unfold canonicalTail
  split
  · exact .inr ⟨fraction, ‹_›, hdigits, rfl⟩
  · split
    · exact .inr ⟨['0'], List.cons_ne_nil _ _, isDigits_zeros 1, rfl⟩
    · exact .inl rfl

/-- The tail of a canonical text has the digits of the fraction, or a zero. -/
theorem decimal_canonicalTail (whole : List Char) :
    decimal whole ((canonicalTail floatingToken fraction).drop 1) = decimal whole fraction := by
  unfold canonicalTail
  split
  · rfl
  · rename_i hnil
    rw [not_not.1 hnil]
    split
    · rw [decimal, decimal]
      norm_num [Nat.ofDigitChars]
    · rfl

theorem exactMagnitude_canonical (hdigits : IsDigits whole) (hleast : IsLeast whole)
    (hfraction : IsDigits fraction) :
    exactMagnitude (canonicalSign negative ++ whole ++ canonicalTail floatingToken fraction) =
      decimal whole fraction := by
  have hsign : canonicalSign negative = [] ∨ canonicalSign negative = ['-'] := by
    cases negative
    · exact .inl rfl
    · exact .inr rfl
  have htail : IsFraction (canonicalTail floatingToken fraction) :=
    isFraction_canonicalTail hfraction
  have hvalue : decimal whole ((canonicalTail floatingToken fraction).drop 1) =
      decimal whole fraction := decimal_canonicalTail whole
  have hexponent : IsExponent [] := .inl rfl
  have hspelled :=
    exactMagnitude_number hsign (isInteger_of_isLeast hdigits hleast) htail hexponent
  rw [List.append_nil] at hspelled
  rw [hspelled, ← hvalue, decimal_append, power, if_pos rfl, zero_sub, zpow_neg, zpow_natCast,
    div_eq_mul_inv]

/-- The text is the canonical one of these parts. -/
structure Spelled (text : List Char) (negative floatingToken : Bool)
    (whole fraction : List Char) : Prop where
  isDigits_whole : IsDigits whole
  isLeast_whole : IsLeast whole
  isDigits_fraction : IsDigits fraction
  last_fraction : fraction.getLast? ≠ some '0'
  floating_fraction : fraction ≠ [] → floatingToken = true
  text_eq : text = canonicalSign negative ++ whole ++ canonicalTail floatingToken fraction

/-- The rational that a numeral denotes. -/
def tokenValue (text : List Char) : ℚ :=
  (if text.head? = some '-' then -1 else 1) * exactMagnitude text

variable {text : List Char}

theorem Spelled.exactMagnitude_eq (h : Spelled text negative floatingToken whole fraction) :
    exactMagnitude text = decimal whole fraction := by
  rw [h.text_eq]
  exact exactMagnitude_canonical h.isDigits_whole h.isLeast_whole h.isDigits_fraction

theorem Spelled.isInteger (h : Spelled text negative floatingToken whole fraction) :
    IsInteger whole :=
  isInteger_of_isLeast h.isDigits_whole h.isLeast_whole

theorem Spelled.head?_iff (h : Spelled text negative floatingToken whole fraction) :
    text.head? = some '-' ↔ negative = true := by
  have hhead := head?_integer h.isInteger (canonicalTail floatingToken fraction)
  rw [h.text_eq, List.append_assoc]
  cases negative with
  | true => exact iff_of_true rfl rfl
  | false => exact iff_of_false hhead Bool.false_ne_true

theorem Spelled.point_iff (h : Spelled text negative floatingToken whole fraction) :
    '.' ∈ text ↔ floatingToken = true := by
  have hwhole := point_not_mem h.isInteger
  have hsign : '.' ∉ canonicalSign negative := by cases negative <;> decide
  have htail : '.' ∈ canonicalTail floatingToken fraction ↔ floatingToken = true := by
    unfold canonicalTail
    split
    · exact iff_of_true List.mem_cons_self (h.floating_fraction ‹_›)
    · cases floatingToken <;> simp
  rw [h.text_eq, List.mem_append, List.mem_append, ← htail]
  simp only [hsign, hwhole, or_self, false_or]

theorem Spelled.tokenValue_eq (h : Spelled text negative floatingToken whole fraction) :
    tokenValue text = (if negative then -1 else 1) * decimal whole fraction := by
  rw [tokenValue, h.exactMagnitude_eq, if_congr h.head?_iff rfl rfl]

/-- The parts of a canonical text are given by its rational, its sign and its point. -/
theorem Spelled.unique {text' whole' fraction' : List Char}
    (h : Spelled text negative floatingToken whole fraction)
    (h' : Spelled text' negative floatingToken whole' fraction')
    (heq : tokenValue text = tokenValue text') : text = text' := by
  have hsign : (if negative = true then -1 else 1 : ℚ) ≠ 0 := by cases negative <;> norm_num
  rw [h.tokenValue_eq, h'.tokenValue_eq, mul_right_inj' hsign] at heq
  obtain ⟨rfl, rfl⟩ := decimal_injective h.isDigits_whole h'.isDigits_whole h.isLeast_whole
    h'.isLeast_whole h.isDigits_fraction h'.isDigits_fraction h.last_fraction h'.last_fraction heq
  rw [h.text_eq, h'.text_eq]

end Canonical

/-! ## Normalisation -/

section Normalisation

variable {maxStringLength : Nat} {number : StrictJsonNumber} {placed : List Char × List Char}

/-- At most eighteen digits behind the point, and thirty-eight in all. -/
def WithinLimits (q : ℚ) : Prop := ∃ e ≤ 18, ∃ units < 10 ^ 38, |q| = (units : ℕ) / 10 ^ e

/-- A token with a point or an exponent is one that is not an integer token. -/
theorem floatingToken_eq {raw : List Char} (h : IsNumber raw) :
    (decimalParts raw).floatingToken = !isIntegerToken raw := by
  obtain ⟨minus, integer, fraction, exponent, hminus, hinteger, hfraction, hexponent, rfl⟩ := h
  have hletters := no_exponentLetter hinteger hfraction
  have hpoint := point_not_mem hinteger
  rw [decimalParts_number hminus hinteger hfraction hexponent, isIntegerToken, ← decide_not]
  apply decide_eq_decide.2
  rcases hfraction with rfl | ⟨digits, -, -, rfl⟩
  · rcases hexponent with rfl | ⟨ch, sign, digits, hch, -, -, -, rfl⟩
    · -- an integer has no letter
      have hsmall : 'e' ∉ integer := fun hmem =>
        absurd (hletters 'e' (by simpa using hmem)) (by decide)
      have hlarge : 'E' ∉ integer := fun hmem =>
        absurd (hletters 'E' (by simpa using hmem)) (by decide)
      rcases hminus with rfl | rfl <;> simp [hsmall, hlarge, hpoint]
    · rcases hch with rfl | rfl <;> simp
  · simp

/-- The digits of a token make up its magnitude, and those of an integer token have the point behind
them. -/
theorem decimalParts_spec {raw : List Char} (h : IsNumber raw) :
    IsDigits (decimalParts raw).digits ∧ (decimalParts raw).digits ≠ [] ∧
      exactMagnitude raw = Nat.ofDigitChars 10 (decimalParts raw).digits 0 *
        (10 : ℚ) ^ ((decimalParts raw).decimalPosition - (decimalParts raw).digits.length) ∧
      ((decimalParts raw).floatingToken = false →
        (decimalParts raw).decimalPosition = (decimalParts raw).digits.length) := by
  obtain ⟨minus, integer, fraction, exponent, hminus, hinteger, hfraction, hexponent, rfl⟩ := h
  rw [decimalParts_number hminus hinteger hfraction hexponent,
    exactMagnitude_number hminus hinteger hfraction hexponent]
  dsimp only
  refine ⟨(isDigits_of_isInteger hinteger).append (isDigits_of_isFraction hfraction),
    by simp [ne_nil_of_isInteger hinteger], ?_, ?_⟩
  · congr 2
    rw [List.length_append]
    push_cast
    ring
  · intro hinteger
    rw [decide_eq_false_iff_not, not_or, not_not, not_not] at hinteger
    obtain ⟨rfl, rfl⟩ := hinteger
    simp [power]

theorem abs_tokenValue {raw : List Char} (h : IsNumber raw) :
    |tokenValue raw| = exactMagnitude raw := by
  have hnonneg : 0 ≤ exactMagnitude raw := by
    rw [(decimalParts_spec h).2.2.1]
    exact mul_nonneg (Nat.cast_nonneg _) (zpow_nonneg (by norm_num) _)
  rw [tokenValue, abs_mul, abs_of_nonneg hnonneg]
  split <;> simp

/-- With the point placed, the result is the canonical text of the token, or an error when the
rational of the token has too many digits. -/
theorem normalizeMarketNumber_placed (h : IsNumber number.raw)
    (hplaced : placePoint maxStringLength (decimalParts number.raw).digits
      (decimalParts number.raw).decimalPosition = .ok placed) :
    ∃ text whole fraction,
      Spelled text (decide (number.raw.head? = some '-')) (!isIntegerToken number.raw)
        whole fraction ∧
      decimal whole fraction = exactMagnitude number.raw ∧
      (WithinLimits (tokenValue number.raw) →
        normalizeMarketNumber maxStringLength number = .ok ⟨text⟩) ∧
      (¬ WithinLimits (tokenValue number.raw) →
        normalizeMarketNumber maxStringLength number = .error .observationValidation) := by
  obtain ⟨hdigits, hne, hmagnitude, hposition⟩ := decimalParts_spec h
  obtain ⟨hwhole, hwholeNe, hfraction, hdecimal⟩ := placePoint_ok hdigits hne hplaced
  obtain ⟨hisDigits, hleast, hnumber⟩ := stripLeading_isLeast hwhole hwholeNe
  have hvalue : decimal (stripLeading placed.1) (stripTrailing placed.2) =
      exactMagnitude number.raw := by
    rw [decimal_stripTrailing, decimal, hnumber, ← decimal, hdecimal, hmagnitude]
  have hfloating : stripTrailing placed.2 ≠ [] →
      (decimalParts number.raw).floatingToken = true := by
    intro hfractionNe
    by_contra hinteger
    rw [Bool.not_eq_true] at hinteger
    have hnil := placePoint_end hne (hposition hinteger) hplaced
    rw [hnil] at hfractionNe
    exact hfractionNe rfl
  have hspelled : Spelled
      (canonicalText (decimalParts number.raw).negative (decimalParts number.raw).floatingToken
        (stripLeading placed.1) (stripTrailing placed.2))
      (decide (number.raw.head? = some '-')) (!isIntegerToken number.raw)
      (stripLeading placed.1) (stripTrailing placed.2) := by
    rw [← floatingToken_eq h]
    exact ⟨hisDigits, hleast, hfraction.stripTrailing, getLast?_stripTrailing _, hfloating,
      canonicalText_eq hisDigits hleast⟩
  have hroom : 18 ≤ 38 := by decide
  have hlimits := digits_fit_iff hroom hisDigits hfraction.stripTrailing
    (getLast?_stripTrailing placed.2)
  rw [hvalue, ← abs_tokenValue h] at hlimits
  refine ⟨_, _, _, hspelled, hvalue, fun hwithin => ?_, fun hwithin => ?_⟩
  · have hfits := hlimits.2 hwithin
    simp only [normalizeMarketNumber, hplaced, ok_bind_eq]
    rw [failIf, if_neg (by omega)]
    rfl
  · have hfits := mt hlimits.1 hwithin
    simp only [normalizeMarketNumber, hplaced, ok_bind_eq]
    rw [failIf, if_pos (by omega)]
    rfl

end Normalisation

end TradeOps.Market
