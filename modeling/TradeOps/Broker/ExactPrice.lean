import TradeOps.Lib.Checks
import TradeOps.Lib.Numerals
import TradeOps.Lib.SafeIntegers
import Mathlib.Algebra.Order.Field.Rat
import Mathlib.Order.Bounds.Basic
import Mathlib.Tactic.FieldSimp
import Mathlib.Tactic.Positivity

/-!
# Exact prices

Embeds `exact-price-v1.ts`. A tick size is a decimal text with at most twelve digits behind the
point, and prices are counted in units of `10 ^ -12`, so a tick size is a whole number of units. The
units of a text are the rational it denotes, scaled (`parseTickSizeToPriceUnits_ok`), and the ticks
of a distance are the fewest that cover it (`ceilPriceUnitsToTicks_isLeast`).
-/

namespace TradeOps.Broker

open Checks Numerals SafeIntegers

inductive PriceError where
  | invalid | outOfRange
  deriving DecidableEq, Repr

def priceScale : Int := 1000000000000

def positiveSafeWireTicks (value : Int) : Except PriceError Unit :=
  failIf (!isSafeInteger value ∨ value < 1) .invalid

def positivePriceUnits (value : Int) : Except PriceError Unit := failIf (value ≤ 0) .invalid

/-! ## Tick sizes -/

/-- `[0-9]{0,11}[1-9]`. -/
def isTickFraction (digits : List Char) : Bool :=
  digits.all Char.isDigit && digits.length ≤ 12 && digits.getLast?.any (· ≠ '0')

/-- What may follow the whole part: nothing, or a point and a fraction. -/
def isTickTail : List Char → Bool
  | [] => true
  | '.' :: digits => isTickFraction digits
  | _ => false

/-- `^(?:0\.[0-9]{0,11}[1-9]|[1-9][0-9]*(?:\.[0-9]{0,11}[1-9])?)$`. -/
def isTickSize (chars : List Char) : Bool :=
  let whole := chars.takeWhile Char.isDigit
  let tail := chars.dropWhile Char.isDigit
  if whole = ['0'] then tail ≠ [] && isTickTail tail
  else whole.head?.any (· ≠ '0') && isTickTail tail

/-- `[whole, fraction = ""] = value.split(".")`, for a text with at most one point. -/
def splitPoint (chars : List Char) : List Char × List Char :=
  (chars.takeWhile (· ≠ '.'), (chars.dropWhile (· ≠ '.')).drop 1)

def padEnd (length : Nat) (chars : List Char) : List Char :=
  chars ++ List.replicate (length - chars.length) '0'

def parseTickSizeToPriceUnits (value : String) : Except PriceError Int := do
  failIf (!isTickSize value.toList) .invalid
  let (whole, fraction) := splitPoint value.toList
  let units := Nat.ofDigitChars 10 whole 0 * priceScale + Nat.ofDigitChars 10 (padEnd 12 fraction) 0
  positivePriceUnits units
  return units

def ticksToPriceUnits (ticks tickSizeUnits : Int) : Except PriceError Int := do
  positiveSafeWireTicks ticks
  positivePriceUnits tickSizeUnits
  return ticks * tickSizeUnits

/-- The division of `BigInt` goes towards zero; the operands are positive here. -/
def ceilPriceUnitsToTicks (distanceUnits tickSizeUnits : Int) : Except PriceError Int := do
  positivePriceUnits distanceUnits
  positivePriceUnits tickSizeUnits
  return (distanceUnits + tickSizeUnits - 1).tdiv tickSizeUnits

def safeBrokerTicks (value : Int) : Except PriceError Int := do
  failIf (value ≤ 0) .invalid
  failIf (value > maxSafeInteger) .outOfRange
  return value

/-! ## What a tick size denotes -/

/-- The rational that a decimal text denotes: its digits by their place. -/
def denoted (chars : List Char) : ℚ :=
  Nat.ofDigitChars 10 (splitPoint chars).1 0 +
    Nat.ofDigitChars 10 (splitPoint chars).2 0 / 10 ^ (splitPoint chars).2.length

/-- The size of a tick, in the units of prices. -/
def tickSize (value : String) : ℚ := denoted value.toList

theorem isTickTail_cases {tail : List Char} (h : isTickTail tail = true) :
    tail = [] ∨ ∃ digits, tail = '.' :: digits ∧ isTickFraction digits = true := by
  unfold isTickTail at h
  split at h
  · exact .inl rfl
  · exact .inr ⟨_, rfl, h⟩
  · cases h

/-- A tick size is a whole part of digits and, unless it is whole, a fraction. -/
theorem isTickSize_parts {chars : List Char} (h : isTickSize chars = true) :
    IsDigits (splitPoint chars).1 ∧ IsDigits (splitPoint chars).2 ∧
      (splitPoint chars).2.length ≤ 12 := by
  have hwhole : IsDigits (chars.takeWhile Char.isDigit) :=
    List.all_eq_true.1 List.all_takeWhile
  have htail : isTickTail (chars.dropWhile Char.isDigit) = true := by
    unfold isTickSize at h
    dsimp only at h
    split at h
    · exact (Bool.and_eq_true_iff.1 h).2
    · exact (Bool.and_eq_true_iff.1 h).2
  have hpoint : ∀ ch ∈ chars.takeWhile Char.isDigit, decide (ch ≠ '.') = true := by
    intro ch hch
    rw [decide_eq_true_eq]
    rintro rfl
    exact absurd (hwhole _ hch) (by decide)
  have hchars := (List.takeWhile_append_dropWhile (p := Char.isDigit) (l := chars)).symm
  rw [splitPoint, hchars, List.takeWhile_append_of_pos hpoint, List.dropWhile_append_of_pos hpoint]
  rcases isTickTail_cases htail with hnil | ⟨digits, hdigits, hfraction⟩
  · rw [hnil]
    simp only [List.takeWhile_nil, List.dropWhile_nil, List.append_nil, List.drop_nil]
    exact ⟨hwhole, nofun, by decide⟩
  · rw [hdigits]
    simp only [isTickFraction, Bool.and_eq_true, decide_eq_true_eq, List.all_eq_true] at hfraction
    have htake : ('.' :: digits).takeWhile (fun ch => decide (ch ≠ '.')) = [] := rfl
    have hdrop : ('.' :: digits).dropWhile (fun ch => decide (ch ≠ '.')) = '.' :: digits := rfl
    rw [htake, hdrop, List.append_nil]
    exact ⟨hwhole, hfraction.1.1, hfraction.1.2⟩

theorem ofDigitChars_padEnd (length : Nat) (chars : List Char) :
    Nat.ofDigitChars 10 (padEnd length chars) 0 =
      10 ^ (length - chars.length) * Nat.ofDigitChars 10 chars 0 := by
  rw [padEnd, ofDigitChars_append_zero, List.length_replicate, ofDigitChars_zeros, Nat.add_zero]

/-- The units of an accepted tick size are the rational it denotes, exactly, and not zero. -/
theorem parseTickSizeToPriceUnits_ok {value : String} {units : Int}
    (h : parseTickSizeToPriceUnits value = .ok units) :
    (units : ℚ) = tickSize value * 10 ^ 12 ∧ 0 < units := by
  rw [parseTickSizeToPriceUnits, then_ok_iff, failIf_ok_iff, Bool.not_eq_true',
    Bool.not_eq_false] at h
  obtain ⟨htick, h⟩ := h
  obtain ⟨-, -, hlength⟩ := isTickSize_parts htick
  simp only [positivePriceUnits, then_ok_iff, failIf_ok_iff, pure_ok_iff] at h
  obtain ⟨hpos, rfl⟩ := h
  refine ⟨?_, not_le.1 hpos⟩
  have hpad : (10 : ℚ) ^ 12 = 10 ^ (12 - (splitPoint value.toList).2.length) *
      10 ^ (splitPoint value.toList).2.length := by
    rw [← pow_add, Nat.sub_add_cancel hlength]
  have hne : (10 : ℚ) ^ (splitPoint value.toList).2.length ≠ 0 := by positivity
  have hscale : (priceScale : ℚ) = 10 ^ 12 := by
    norm_num [priceScale]
  rw [ofDigitChars_padEnd, tickSize, denoted]
  push_cast
  rw [hscale, hpad]
  field_simp

theorem tickSize_pos {value : String} {units : Int}
    (h : parseTickSizeToPriceUnits value = .ok units) : 0 < tickSize value := by
  obtain ⟨hunits, hpos⟩ := parseTickSizeToPriceUnits_ok h
  have hscaled : 0 < tickSize value * 10 ^ 12 := by
    rw [← hunits]
    exact Int.cast_pos.2 hpos
  exact pos_of_mul_pos_left hscaled (by positivity)

/-! ## Fewest ticks -/

/-- The quotient rounded up is the least number of ticks that covers the distance. -/
theorem ceilPriceUnitsToTicks_isLeast {distanceUnits tickSizeUnits ticks : Int}
    (h : ceilPriceUnitsToTicks distanceUnits tickSizeUnits = .ok ticks) :
    0 < distanceUnits ∧ 0 < tickSizeUnits ∧
      IsLeast {n : Int | distanceUnits ≤ n * tickSizeUnits} ticks := by
  simp only [ceilPriceUnitsToTicks, positivePriceUnits, then_ok_iff, failIf_ok_iff, pure_ok_iff,
    not_le] at h
  obtain ⟨hdistance, htick, rfl⟩ := h
  have hdiv : (distanceUnits + tickSizeUnits - 1).tdiv tickSizeUnits =
      (distanceUnits + tickSizeUnits - 1) / tickSizeUnits :=
    Int.tdiv_eq_ediv_of_nonneg (by omega)
  rw [hdiv]
  refine ⟨hdistance, htick, ?_, ?_⟩
  · have hlt := Int.lt_ediv_add_one_mul_self (distanceUnits + tickSizeUnits - 1) htick
    rw [add_mul, one_mul] at hlt
    show distanceUnits ≤ _
    omega
  · intro n hn
    have hn' : distanceUnits ≤ n * tickSizeUnits := hn
    rw [← Int.lt_add_one_iff]
    apply Int.ediv_lt_of_lt_mul htick
    rw [add_mul, one_mul]
    omega

end TradeOps.Broker
