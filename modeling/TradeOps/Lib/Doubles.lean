import Mathlib.Tactic.Linarith
import Mathlib.Tactic.Ring

/-!
# Quotients of naturals in double arithmetic

A double has 53 significant bits, and a result between two doubles goes to the nearer one, a tie to
the even one. The product and the quotient of naturals are given here as naturals: the nearest
double of a natural is one, and of a quotient only the integer part is kept. Small operands lose
nothing (`Double.ofNat_eq`, `Double.truncDiv_eq_div`).
-/

namespace Double

/-- The integer nearest to `a / b`, a tie to the even one. -/
def roundHalfEven (a b : Nat) : Nat :=
  if 2 * (a % b) < b then a / b
  else if b < 2 * (a % b) then a / b + 1
  else a / b + a / b % 2

/-- The double nearest to a natural. -/
def ofNat (n : Nat) : Nat :=
  let shift := n.log2 + 1 - 53
  roundHalfEven n (2 ^ shift) * 2 ^ shift

/-- The integer part of the double nearest to `a / b`, for a `b` of at most 53 bits. -/
def truncDiv (a b : Nat) : Nat :=
  let exponent := (a / b).log2
  if a < b then 0
  else if exponent ≤ 52 then roundHalfEven (a * 2 ^ (52 - exponent)) b / 2 ^ (52 - exponent)
  else roundHalfEven a (b * 2 ^ (exponent - 52)) * 2 ^ (exponent - 52)

theorem div_le_roundHalfEven (a b : Nat) : a / b ≤ roundHalfEven a b := by
  unfold roundHalfEven
  split_ifs <;> omega

theorem roundHalfEven_le (a b : Nat) : 2 * (roundHalfEven a b * b) ≤ 2 * a + b := by
  have hdiv : a / b * b + a % b = a := Nat.div_add_mod' a b
  have hsucc : (a / b + 1) * b = a / b * b + b := by ring
  unfold roundHalfEven
  split_ifs with hlow hhigh
  · omega
  · rw [hsucc]
    omega
  · have hparity : a / b + a / b % 2 ≤ a / b + 1 := by omega
    have hmul : (a / b + a / b % 2) * b ≤ (a / b + 1) * b := Nat.mul_le_mul_right b hparity
    rw [hsucc] at hmul
    omega

/-- Rounding does not pass an integer. -/
theorem roundHalfEven_le_of_le_mul {a b c : Nat} (h : a ≤ c * b) : roundHalfEven a b ≤ c := by
  by_cases hb : b = 0
  · subst hb
    obtain rfl : a = 0 := by omega
    exact Nat.zero_le c
  have hpos : 0 < b := Nat.pos_of_ne_zero hb
  have hdiv : a / b * b + a % b = a := Nat.div_add_mod' a b
  have hle : a / b ≤ c := Nat.div_le_of_le_mul (by rwa [Nat.mul_comm])
  rcases hle.lt_or_eq with hlt | heq
  · unfold roundHalfEven
    split_ifs <;> omega
  · rw [heq] at hdiv
    have hrest : a % b = 0 := by omega
    rw [roundHalfEven, if_pos (by omega), heq]

/-- Nor does it pass a power of two. -/
theorem ofNat_le_pow {n k : Nat} (h : n < 2 ^ k) (hk : 53 ≤ k) : ofNat n ≤ 2 ^ k := by
  have hlog : n.log2 < k := by
    by_cases hn : n = 0
    · rw [hn, Nat.log2_zero]
      omega
    · exact (Nat.log2_lt hn).mpr h
  have hpow : 2 ^ (k - (n.log2 + 1 - 53)) * 2 ^ (n.log2 + 1 - 53) = 2 ^ k := by
    rw [← Nat.pow_add]
    congr 1
    omega
  calc ofNat n ≤ 2 ^ (k - (n.log2 + 1 - 53)) * 2 ^ (n.log2 + 1 - 53) :=
        Nat.mul_le_mul_right _ (roundHalfEven_le_of_le_mul (by rw [hpow]; exact h.le))
    _ = 2 ^ k := hpow

/-- A quotient of 53 bits is rounded up by one at most. -/
theorem truncDiv_le {a b : Nat} (hpos : 0 < b) (h : a / b < 2 ^ 53) :
    truncDiv a b ≤ a / b + 1 := by
  unfold truncDiv
  by_cases hlt : a < b
  · rw [if_pos hlt]
    exact Nat.zero_le _
  have hlog : (a / b).log2 < 53 :=
    (Nat.log2_lt (Nat.div_pos (Nat.le_of_not_lt hlt) hpos).ne').mpr h
  rw [if_neg hlt, if_pos (by omega)]
  generalize 2 ^ (52 - (a / b).log2) = m
  apply Nat.div_le_of_le_mul
  apply roundHalfEven_le_of_le_mul
  have hsucc : a ≤ (a / b + 1) * b := by
    have hdiv : a / b * b + a % b = a := Nat.div_add_mod' a b
    have hrest : a % b < b := Nat.mod_lt a hpos
    rw [Nat.add_mul]
    omega
  calc a * m ≤ (a / b + 1) * b * m := Nat.mul_le_mul_right m hsucc
    _ = m * (a / b + 1) * b := by ring

/-- A natural of 53 bits is a double. -/
theorem ofNat_eq {n : Nat} (h : n < 2 ^ 53) : ofNat n = n := by
  have hlog : n.log2 < 53 := by
    by_cases hn : n = 0
    · rw [hn]
      decide
    · exact (Nat.log2_lt hn).mpr h
  have hshift : n.log2 + 1 - 53 = 0 := by omega
  rw [ofNat, hshift]
  simp [roundHalfEven, Nat.mod_one]

/-- No quotient below an integer is rounded up to it when the divisor is small. -/
theorem truncDiv_eq_div {a b : Nat} (hpos : 0 < b) (hb : b ≤ 2 ^ 39) (hq : a / b < 2 ^ 14) :
    truncDiv a b = a / b := by
  unfold truncDiv
  by_cases hlt : a < b
  · rw [if_pos hlt, Nat.div_eq_of_lt hlt]
  rw [if_neg hlt]
  have hlog : (a / b).log2 < 14 :=
    (Nat.log2_lt (Nat.div_pos (Nat.le_of_not_lt hlt) hpos).ne').mpr hq
  rw [if_pos (by omega)]
  generalize hm : 2 ^ (52 - (a / b).log2) = m
  have hlarge : 2 ^ 39 ≤ m := hm ▸ Nat.pow_le_pow_right (by decide) (by omega)
  have hrest : a % b < b := Nat.mod_lt a hpos
  have hsplit : a / b * b + a % b = a := Nat.div_add_mod' a b
  apply Nat.div_eq_of_lt_le
  · refine le_trans ?_ (div_le_roundHalfEven _ _)
    rw [Nat.le_div_iff_mul_le hpos]
    calc a / b * m * b = a / b * b * m := by ring
      _ ≤ a * m := Nat.mul_le_mul_right m (Nat.div_mul_le_self a b)
  · have hupper := roundHalfEven_le (a * m) b
    have hbound : 2 * (a * m) + b < 2 * ((a / b + 1) * m * b) := by
      have hmul : a * m + m ≤ (a / b + 1) * m * b := by
        calc a * m + m = (a + 1) * m := by ring
          _ ≤ ((a / b + 1) * b) * m := Nat.mul_le_mul_right m (by rw [Nat.add_mul]; omega)
          _ = (a / b + 1) * m * b := by ring
      omega
    have hlt' : roundHalfEven (a * m) b * b < (a / b + 1) * m * b := by omega
    exact Nat.lt_of_mul_lt_mul_right hlt'

/-- Rounding never takes a natural of more than 53 bits below them. -/
theorem le_ofNat {n : Nat} (h : 2 ^ 53 ≤ n) : 2 ^ 53 ≤ ofNat n := by
  have hn : n ≠ 0 := by
    have : 0 < 2 ^ 53 := by decide
    omega
  have hlog : 53 ≤ n.log2 := (Nat.le_log2 hn).mpr h
  have hpow : 2 ^ 52 * 2 ^ (n.log2 + 1 - 53) = 2 ^ n.log2 := by
    rw [← Nat.pow_add]
    congr 1
    omega
  have hdiv : 2 ^ 52 ≤ n / 2 ^ (n.log2 + 1 - 53) := by
    rw [Nat.le_div_iff_mul_le (Nat.pow_pos (by decide)), hpow]
    exact Nat.log2_self_le hn
  calc 2 ^ 53 ≤ 2 ^ n.log2 := Nat.pow_le_pow_right (by decide) hlog
    _ = 2 ^ 52 * 2 ^ (n.log2 + 1 - 53) := hpow.symm
    _ ≤ ofNat n := Nat.mul_le_mul_right _ (hdiv.trans (div_le_roundHalfEven _ _))

/-- A quotient of at least `m` is not rounded below `m`, when `m` has 53 bits. -/
theorem le_truncDiv {a b m : Nat} (hpos : 0 < b) (hm : m ≤ 2 ^ 52) (h : m ≤ a / b) :
    m ≤ truncDiv a b := by
  unfold truncDiv
  dsimp only
  split_ifs with hlt hexponent
  · rwa [Nat.div_eq_of_lt hlt] at h
  · refine h.trans ?_
    rw [Nat.le_div_iff_mul_le (Nat.pow_pos (by decide))]
    refine le_trans ?_ (div_le_roundHalfEven _ _)
    rw [Nat.le_div_iff_mul_le hpos]
    calc a / b * 2 ^ (52 - (a / b).log2) * b = a / b * b * 2 ^ (52 - (a / b).log2) := by ring
      _ ≤ a * 2 ^ (52 - (a / b).log2) := Nat.mul_le_mul_right _ (Nat.div_mul_le_self a b)
  · have hne : a / b ≠ 0 := (Nat.div_pos (Nat.le_of_not_lt hlt) hpos).ne'
    have hpow : 2 ^ 52 * 2 ^ ((a / b).log2 - 52) = 2 ^ (a / b).log2 := by
      rw [← Nat.pow_add]
      congr 1
      omega
    have hdiv : 2 ^ 52 ≤ a / (b * 2 ^ ((a / b).log2 - 52)) := by
      rw [← Nat.div_div_eq_div_mul, Nat.le_div_iff_mul_le (Nat.pow_pos (by decide)), hpow]
      exact Nat.log2_self_le hne
    calc m ≤ 2 ^ 52 * 1 := by rwa [Nat.mul_one]
      _ ≤ _ := Nat.mul_le_mul (hdiv.trans (div_le_roundHalfEven _ _)) (Nat.pow_pos (by decide))

end Double
