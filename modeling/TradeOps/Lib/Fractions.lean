import TradeOps.Lib.Numerals
import Mathlib.Algebra.Order.Field.Rat
import Mathlib.Data.List.DropRight
import Mathlib.Tactic.FieldSimp
import Mathlib.Tactic.Positivity

/-!
# Decimal fractions

A list of digits before the point and one behind it stand for a rational, `decimal`. Zeros at the
end of the fraction count for nothing, a rational has one spelling without them, and two decimals
are ordered as the numbers before the point are or, if these are one number, as their fractions
padded to one length.
-/

namespace Numerals

variable {whole fraction whole' fraction' l l' : List Char}

/-- The number of the digits before the point and of those behind it. -/
def decimal (whole fraction : List Char) : ℚ :=
  Nat.ofDigitChars 10 whole 0 + Nat.ofDigitChars 10 fraction 0 / 10 ^ fraction.length

theorem decimal_nil (whole : List Char) : decimal whole [] = Nat.ofDigitChars 10 whole 0 := by
  simp [decimal]

theorem fraction_nonneg (fraction : List Char) :
    (0 : ℚ) ≤ Nat.ofDigitChars 10 fraction 0 / 10 ^ fraction.length := by
  positivity

theorem fraction_lt_one (h : IsDigits fraction) :
    (Nat.ofDigitChars 10 fraction 0 : ℚ) / 10 ^ fraction.length < 1 := by
  rw [div_lt_one (by positivity)]
  exact_mod_cast ofDigitChars_lt h

theorem decimal_nonneg (whole fraction : List Char) : 0 ≤ decimal whole fraction :=
  add_nonneg (Nat.cast_nonneg _) (fraction_nonneg fraction)

/-- The point may stand anywhere. -/
theorem decimal_append (whole fraction : List Char) :
    decimal whole fraction = Nat.ofDigitChars 10 (whole ++ fraction) 0 / 10 ^ fraction.length := by
  have hpos : (10 : ℚ) ^ fraction.length ≠ 0 := by positivity
  rw [decimal, ofDigitChars_append_zero]
  push_cast
  field_simp

/-- Zeros behind a fraction count for nothing. -/
theorem fraction_zeros (fraction : List Char) (n : Nat) :
    (Nat.ofDigitChars 10 (fraction ++ List.replicate n '0') 0 : ℚ) /
        10 ^ (fraction ++ List.replicate n '0').length =
      Nat.ofDigitChars 10 fraction 0 / 10 ^ fraction.length := by
  rw [ofDigitChars_append_zero, ofDigitChars_zeros, List.length_append, List.length_replicate,
    pow_add]
  push_cast
  field_simp
  ring

/-! ## Stripping zeros -/

/-- `replace(/0+$/, "")`. -/
def stripTrailing (fraction : List Char) : List Char := fraction.rdropWhile (· = '0')

theorem stripTrailing_append (fraction : List Char) :
    ∃ n, fraction = stripTrailing fraction ++ List.replicate n '0' := by
  refine ⟨(fraction.rtakeWhile (· = '0')).length, ?_⟩
  conv_lhs => rw [← List.rdropWhile_append_rtakeWhile (p := fun ch => decide (ch = '0'))
    (l := fraction)]
  rw [stripTrailing, List.append_cancel_left_eq, List.eq_replicate_iff]
  refine ⟨rfl, fun ch hch => ?_⟩
  have hzero := List.mem_rtakeWhile_imp hch
  exact of_decide_eq_true hzero

theorem decimal_stripTrailing (whole fraction : List Char) :
    decimal whole (stripTrailing fraction) = decimal whole fraction := by
  obtain ⟨n, hn⟩ := stripTrailing_append fraction
  conv_rhs => rw [hn, decimal, fraction_zeros]
  rw [decimal]

theorem IsDigits.stripTrailing (h : IsDigits fraction) : IsDigits (stripTrailing fraction) :=
  fun ch hch => h ch ((List.rdropWhile_prefix _ _).subset hch)

theorem getLast?_stripTrailing (fraction : List Char) :
    (stripTrailing fraction).getLast? ≠ some '0' := by
  intro hlast
  have hne : stripTrailing fraction ≠ [] := by
    intro hnil
    rw [hnil] at hlast
    cases hlast
  have hnot := List.rdropWhile_last_not (p := fun ch => decide (ch = '0')) fraction hne
  rw [List.getLast?_eq_some_getLast hne, Option.some.injEq] at hlast
  exact hnot (decide_eq_true hlast)

/-- `replace(/^0+(?=[0-9])/, "")`: zeros in front of another digit are dropped. -/
def stripLeading : List Char → List Char
  | '0' :: ch :: rest => if ch.isDigit then stripLeading (ch :: rest) else '0' :: ch :: rest
  | l => l

theorem stripLeading_zero {ch : Char} (rest : List Char) (h : ch.isDigit = true) :
    stripLeading ('0' :: ch :: rest) = stripLeading (ch :: rest) := by
  rw [stripLeading, if_pos h]

theorem stripLeading_of_isLeast (h : IsLeast l) : stripLeading l = l := by
  rw [stripLeading.eq_def]
  split
  · exact absurd rfl (h.2 (by simp))
  · rfl

/-- What is left has the same number and no zero too many in front. -/
theorem stripLeading_isLeast (h : IsDigits l) (hne : l ≠ []) :
    IsDigits (stripLeading l) ∧ IsLeast (stripLeading l) ∧
      Nat.ofDigitChars 10 (stripLeading l) 0 = Nat.ofDigitChars 10 l 0 := by
  induction l with
  | nil => exact absurd rfl hne
  | cons ch rest ih =>
    by_cases hleast : IsLeast (ch :: rest)
    · rw [stripLeading_of_isLeast hleast]
      exact ⟨h, hleast, rfl⟩
    · have hlong : 1 < (ch :: rest).length ∧ ch = '0' := by
        by_contra hnot
        refine hleast ⟨hne, fun hlong hhead => hnot ⟨hlong, Option.some.inj hhead⟩⟩
      obtain ⟨hlong, rfl⟩ := hlong
      cases rest with
      | nil => exact absurd hlong (by decide)
      | cons ch' rest =>
        have hdigit := h ch' (by simp)
        rw [stripLeading_zero rest hdigit, ofDigitChars_cons_zero]
        simpa using ih h.tail (List.cons_ne_nil _ _)

/-! ## How many digits a number has -/

theorem ofDigitChars_dropWhile (l : List Char) :
    Nat.ofDigitChars 10 (l.dropWhile (· = '0')) 0 = Nat.ofDigitChars 10 l 0 := by
  induction l with
  | nil => rfl
  | cons ch l ih =>
    by_cases hzero : ch = '0'
    · rw [List.dropWhile_cons_of_pos (by simpa using hzero), ih, ofDigitChars_cons_zero, hzero]
      simp
    · rw [List.dropWhile_cons_of_neg (by simpa using hzero)]

/-- The digits from the first that is not a zero on are as many as the number has. -/
theorem length_dropWhile_le_iff (h : IsDigits l) {n : Nat} :
    (l.dropWhile (· = '0')).length ≤ n ↔ Nat.ofDigitChars 10 l 0 < 10 ^ n := by
  have hdigits : IsDigits (l.dropWhile (· = '0')) :=
    fun ch hch => h ch ((List.dropWhile_suffix _).subset hch)
  rw [← ofDigitChars_dropWhile]
  cases hcase : l.dropWhile (· = '0') with
  | nil => exact iff_of_true (Nat.zero_le n) (Nat.pow_pos (by decide))
  | cons ch rest =>
    rw [hcase] at hdigits
    have hne : ch ≠ '0' := by
      have hnot := List.head?_dropWhile_not (fun ch => decide (ch = '0')) l
      rw [hcase] at hnot
      simpa using hnot
    constructor
    · intro hle
      exact (ofDigitChars_lt hdigits).trans_le (Nat.pow_le_pow_right (by decide) hle)
    · intro hlt
      exact (Nat.pow_lt_pow_iff_right (by decide)).1 ((le_ofDigitChars hdigits hne).trans_lt hlt)

/-- A fraction that does not end in a zero is as short as it can be. -/
theorem length_le_of_decimal_eq {e units : Nat} (hfraction : IsDigits fraction)
    (hlast : fraction.getLast? ≠ some '0') (heq : decimal whole fraction = units / 10 ^ e) :
    fraction.length ≤ e := by
  by_contra hlong
  push Not at hlong
  have hscaled :
      Nat.ofDigitChars 10 (whole ++ fraction) 0 = 10 ^ (fraction.length - e) * units := by
    have hsplit : (10 : ℚ) ^ fraction.length = 10 ^ (fraction.length - e) * 10 ^ e := by
      rw [← pow_add, Nat.sub_add_cancel hlong.le]
    rw [decimal_append, hsplit] at heq
    field_simp at heq
    exact_mod_cast heq
  rcases List.eq_nil_or_concat' fraction with rfl | ⟨front, ch, rfl⟩
  · exact absurd hlong (Nat.not_lt_zero e)
  · -- the last digit is the remainder by ten
    have hdigit := hfraction ch (by simp)
    have hone : 10 ∣ 10 ^ ((front ++ [ch]).length - e) := dvd_pow_self 10 (by omega)
    have hdvd := hone.mul_right units
    rw [← hscaled, ← List.append_assoc, ofDigitChars_append_zero] at hdvd
    have hlow : 10 ∣ Nat.ofDigitChars 10 [ch] 0 :=
      (Nat.dvd_add_right ((dvd_refl 10).mul_right _)).1 (by simpa using hdvd)
    have hone : Nat.ofDigitChars 10 [ch] 0 = ch.toNat - '0'.toNat := by
      rw [ofDigitChars_cons_zero]
      simp
    rw [hone] at hlow
    have hzero := Nat.eq_zero_of_dvd_of_lt hlow (Nat.lt_succ_of_le (digit_le hdigit))
    have heq : ch = '0' := digit_injective hdigit (by decide) hzero
    exact hlast (by simp [heq])

/-- How many digits a decimal has before and behind the point, read off its rational. -/
theorem digits_fit_iff {total behind : Nat} (hle : behind ≤ total) (hwhole : IsDigits whole)
    (hfraction : IsDigits fraction) (hlast : fraction.getLast? ≠ some '0') :
    ((whole.dropWhile (· = '0')).length + fraction.length ≤ total ∧ fraction.length ≤ behind) ↔
      ∃ e ≤ behind, ∃ units < 10 ^ total, decimal whole fraction = (units : ℕ) / 10 ^ e := by
  constructor
  · rintro ⟨hdigits, hbehind⟩
    refine ⟨fraction.length, hbehind, _, ?_, decimal_append whole fraction⟩
    have hlow := ofDigitChars_lt hfraction
    have hhigh := (length_dropWhile_le_iff hwhole).1
      (Nat.le_sub_of_add_le hdigits)
    have hpow : 10 ^ total = 10 ^ fraction.length * 10 ^ (total - fraction.length) := by
      rw [← pow_add]
      congr 1
      omega
    rw [ofDigitChars_append_zero, hpow]
    have hmul := Nat.mul_le_mul_left (10 ^ fraction.length) hhigh
    rw [Nat.succ_eq_add_one, Nat.mul_add, Nat.mul_one] at hmul
    omega
  · rintro ⟨e, he, units, hunits, heq⟩
    have hlength := length_le_of_decimal_eq hfraction hlast heq
    refine ⟨?_, hlength.trans he⟩
    have hwholeLe : Nat.ofDigitChars 10 whole 0 * 10 ^ e ≤ units := by
      have hpos : (0 : ℚ) < 10 ^ e := by positivity
      have hq : (Nat.ofDigitChars 10 whole 0 : ℚ) ≤ units / 10 ^ e := by
        rw [← heq, decimal]
        exact le_add_of_nonneg_right (fraction_nonneg fraction)
      rw [le_div_iff₀ hpos] at hq
      exact_mod_cast hq
    have hbound : Nat.ofDigitChars 10 whole 0 < 10 ^ (total - e) := by
      by_contra hlarge
      push Not at hlarge
      have hmul := Nat.mul_le_mul_right (10 ^ e) hlarge
      rw [← pow_add, Nat.sub_add_cancel (he.trans hle)] at hmul
      omega
    have hshort := (length_dropWhile_le_iff hwhole).2 hbound
    omega

/-! ## One spelling, and the order -/

theorem lt_iff_ofDigitChars_lt (h : IsDigits l) (h' : IsDigits l')
    (hlength : l.length = l'.length) :
    l < l' ↔ Nat.ofDigitChars 10 l 0 < Nat.ofDigitChars 10 l' 0 := by
  induction l generalizing l' with
  | nil =>
    rw [List.length_eq_zero_iff.1 hlength.symm]
    simp
  | cons ch l ih =>
    cases l' with
    | nil => cases hlength
    | cons ch' l' =>
      have hlen : l.length = l'.length := Nat.succ.inj hlength
      have hl := ofDigitChars_lt h.tail
      have hl' := ofDigitChars_lt h'.tail
      rw [List.cons_lt_cons_iff, ofDigitChars_cons_zero, ofDigitChars_cons_zero,
        ih h.tail h'.tail hlen]
      rw [← hlen] at hl' ⊢
      have hch := h ch List.mem_cons_self
      have hch' := h' ch' List.mem_cons_self
      have hless : ch < ch' ↔ ch.toNat - '0'.toNat < ch'.toNat - '0'.toNat := by
        rw [Char.isDigit_iff_toNat] at hch hch'
        have hzero : '0'.toNat = 48 := rfl
        have hnine : '9'.toNat = 57 := rfl
        show ch.toNat < ch'.toNat ↔ _
        omega
      rw [hless]
      -- the first digits decide, unless they are one digit
      rcases lt_trichotomy (ch.toNat - '0'.toNat) (ch'.toNat - '0'.toNat) with hlt | heq | hgt
      · have hmul := Nat.mul_le_mul_left (10 ^ l.length) hlt
        rw [Nat.succ_eq_add_one, Nat.mul_add, Nat.mul_one] at hmul
        exact iff_of_true (Or.inl hlt) (by omega)
      · have hsame := digit_injective hch hch' heq
        simp [hsame]
      · have hmul := Nat.mul_le_mul_left (10 ^ l.length) hgt
        rw [Nat.succ_eq_add_one, Nat.mul_add, Nat.mul_one] at hmul
        refine iff_of_false ?_ (by omega)
        rintro (hlt | ⟨rfl, -⟩)
        · omega
        · omega

theorem lt_of_not_lt (h : IsDigits l) (h' : IsDigits l') (hlength : l.length = l'.length)
    (hne : l ≠ l') (hnot : ¬ l < l') : l' < l := by
  rw [lt_iff_ofDigitChars_lt h h' hlength, not_lt] at hnot
  rw [lt_iff_ofDigitChars_lt h' h hlength.symm]
  exact lt_of_le_of_ne hnot fun heq => hne (ofDigitChars_injective h h' hlength heq.symm)

/-- Of two numbers without a zero too many in front, the longer one is larger. -/
theorem ofDigitChars_lt_of_length_lt (h : IsDigits l) (h' : IsDigits l') (hleast : l ≠ [])
    (hleast' : IsLeast l') (hlength : l.length < l'.length) :
    Nat.ofDigitChars 10 l 0 < Nat.ofDigitChars 10 l' 0 := by
  have hpos := List.length_pos_iff.2 hleast
  cases l' with
  | nil => cases hlength
  | cons ch rest =>
    have hne : ch ≠ '0' := by
      rintro rfl
      exact hleast'.2 (by omega) rfl
    refine (ofDigitChars_lt h).trans_le (le_trans ?_ (le_ofDigitChars h' hne))
    apply Nat.pow_le_pow_right (by decide)
    rw [List.length_cons] at hlength
    omega

/-- The number before the point decides. -/
theorem decimal_lt_of_whole_lt (h : IsDigits fraction)
    (hlt : Nat.ofDigitChars 10 whole 0 < Nat.ofDigitChars 10 whole' 0) :
    decimal whole fraction < decimal whole' fraction' := by
  have hone := fraction_lt_one h
  have hnonneg := fraction_nonneg fraction'
  have hcast : (Nat.ofDigitChars 10 whole 0 : ℚ) + 1 ≤ Nat.ofDigitChars 10 whole' 0 := by
    exact_mod_cast hlt
  rw [decimal, decimal]
  linarith

/-- Fractions of one length are ordered as their texts are. -/
theorem decimal_lt_iff (h : IsDigits fraction) (h' : IsDigits fraction')
    (hlength : fraction.length = fraction'.length) :
    decimal whole fraction < decimal whole fraction' ↔ fraction < fraction' := by
  rw [decimal, decimal, add_lt_add_iff_left, hlength, div_lt_div_iff_of_pos_right (by positivity),
    Nat.cast_lt, lt_iff_ofDigitChars_lt h h' hlength]

/-- A rational has one spelling without a zero too many on either side. -/
theorem decimal_injective (hwhole : IsDigits whole) (hwhole' : IsDigits whole')
    (hleast : IsLeast whole) (hleast' : IsLeast whole') (hfraction : IsDigits fraction)
    (hfraction' : IsDigits fraction') (hlast : fraction.getLast? ≠ some '0')
    (hlast' : fraction'.getLast? ≠ some '0')
    (heq : decimal whole fraction = decimal whole' fraction') :
    whole = whole' ∧ fraction = fraction' := by
  have hnumber : Nat.ofDigitChars 10 whole 0 = Nat.ofDigitChars 10 whole' 0 := by
    rcases lt_trichotomy (Nat.ofDigitChars 10 whole 0) (Nat.ofDigitChars 10 whole' 0) with h | h | h
    · exact absurd heq (decimal_lt_of_whole_lt hfraction h).ne
    · exact h
    · exact absurd heq (decimal_lt_of_whole_lt hfraction' h).ne'
  have hsame : whole = whole' := by
    rw [← toDigits_ofDigitChars hwhole hleast, hnumber, toDigits_ofDigitChars hwhole' hleast']
  have hlength : fraction.length = fraction'.length := by
    apply le_antisymm
    · exact length_le_of_decimal_eq hfraction hlast (heq.trans (decimal_append _ _))
    · exact length_le_of_decimal_eq hfraction' hlast' (heq.symm.trans (decimal_append _ _))
  refine ⟨hsame, ofDigitChars_injective hfraction hfraction' hlength ?_⟩
  have hpos : (10 : ℚ) ^ fraction'.length ≠ 0 := by positivity
  rw [decimal, decimal, hnumber, add_right_inj, hlength, div_left_inj' hpos] at heq
  exact_mod_cast heq

end Numerals
