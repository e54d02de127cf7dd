import Mathlib.Data.List.Basic
import Mathlib.Tactic.Linarith
import Mathlib.Tactic.Ring

/-!
# Decimal numerals

A list of digits stands for a natural number, `Nat.ofDigitChars 10 _ 0`. Digits before it count by
their place, lists of one length are ordered as their numbers are, and the list that
`Nat.toDigits 10` prints is the only one without a zero too many in front.
-/

namespace Numerals

variable {l l' : List Char}

/-- The list holds digits only. -/
def IsDigits (l : List Char) : Prop := ∀ ch ∈ l, ch.isDigit = true

theorem isDigits_toDigits (n : Nat) : IsDigits (Nat.toDigits 10 n) := fun _ hch =>
  Nat.isDigit_of_mem_toDigits (by decide) (by decide) hch

theorem isDigits_zeros (n : Nat) : IsDigits (List.replicate n '0') := by
  intro ch hch
  rw [(List.mem_replicate.1 hch).2]
  rfl

theorem IsDigits.append (h : IsDigits l) (h' : IsDigits l') : IsDigits (l ++ l') := by
  intro ch hch
  rcases List.mem_append.1 hch with hch | hch
  · exact h ch hch
  · exact h' ch hch

theorem IsDigits.tail {ch : Char} (h : IsDigits (ch :: l)) : IsDigits l :=
  fun _ hch => h _ (List.mem_cons_of_mem _ hch)

theorem digit_le {ch : Char} (h : ch.isDigit = true) : ch.toNat - '0'.toNat ≤ 9 := by
  rw [Char.isDigit_iff_toNat] at h
  have hzero : '0'.toNat = 48 := rfl
  have hnine : '9'.toNat = 57 := rfl
  omega

theorem digit_injective {ch ch' : Char} (h : ch.isDigit = true) (h' : ch'.isDigit = true)
    (heq : ch.toNat - '0'.toNat = ch'.toNat - '0'.toNat) : ch = ch' := by
  rw [Char.isDigit_iff_toNat] at h h'
  apply Char.toNat_inj.1
  omega

theorem digit_pos {ch : Char} (h : ch.isDigit = true) (hne : ch ≠ '0') :
    1 ≤ ch.toNat - '0'.toNat := by
  by_contra hlt
  refine hne (digit_injective h (by decide) ?_)
  omega

/-! ## The number of a list -/

theorem ofDigitChars_cons_zero (ch : Char) (l : List Char) :
    Nat.ofDigitChars 10 (ch :: l) 0 =
      10 ^ l.length * (ch.toNat - '0'.toNat) + Nat.ofDigitChars 10 l 0 := by
  rw [Nat.ofDigitChars_cons, Nat.mul_zero, Nat.zero_add, Nat.ofDigitChars_eq_ofDigitChars_zero]

theorem ofDigitChars_append_zero (l l' : List Char) :
    Nat.ofDigitChars 10 (l ++ l') 0 =
      10 ^ l'.length * Nat.ofDigitChars 10 l 0 + Nat.ofDigitChars 10 l' 0 := by
  rw [Nat.ofDigitChars_append, Nat.ofDigitChars_eq_ofDigitChars_zero]

theorem ofDigitChars_zeros (n : Nat) : Nat.ofDigitChars 10 (List.replicate n '0') 0 = 0 := by
  rw [Nat.ofDigitChars_replicate_zero, Nat.mul_zero]

theorem ofDigitChars_lt (h : IsDigits l) : Nat.ofDigitChars 10 l 0 < 10 ^ l.length := by
  induction l with
  | nil => decide
  | cons ch l ih =>
    have hch := digit_le (h ch List.mem_cons_self)
    have hl := ih h.tail
    have hbound : 10 ^ l.length * (ch.toNat - '0'.toNat) ≤ 10 ^ l.length * 9 :=
      Nat.mul_le_mul_left _ hch
    rw [ofDigitChars_cons_zero, List.length_cons, pow_succ]
    omega

theorem le_ofDigitChars {ch : Char} (h : IsDigits (ch :: l)) (hne : ch ≠ '0') :
    10 ^ l.length ≤ Nat.ofDigitChars 10 (ch :: l) 0 := by
  have hch := digit_pos (h ch List.mem_cons_self) hne
  have hbound : 10 ^ l.length * 1 ≤ 10 ^ l.length * (ch.toNat - '0'.toNat) :=
    Nat.mul_le_mul_left _ hch
  rw [ofDigitChars_cons_zero]
  omega

theorem ofDigitChars_injective (h : IsDigits l) (h' : IsDigits l') (hlength : l.length = l'.length)
    (heq : Nat.ofDigitChars 10 l 0 = Nat.ofDigitChars 10 l' 0) : l = l' := by
  induction l generalizing l' with
  | nil => exact (List.length_eq_zero_iff.1 hlength.symm).symm
  | cons ch l ih =>
    cases l' with
    | nil => cases hlength
    | cons ch' l' =>
      have hlen : l.length = l'.length := Nat.succ.inj hlength
      have hl := ofDigitChars_lt h.tail
      have hl' := ofDigitChars_lt h'.tail
      rw [ofDigitChars_cons_zero, ofDigitChars_cons_zero] at heq
      rw [← hlen] at heq hl'
      -- the first digit is the quotient, the others are the remainder
      have hquotient := congrArg (· / 10 ^ l.length) heq
      have hrest := congrArg (· % 10 ^ l.length) heq
      have hpos : 0 < 10 ^ l.length := Nat.pow_pos (by decide)
      simp only [Nat.mul_add_div hpos, Nat.div_eq_of_lt hl, Nat.div_eq_of_lt hl',
        Nat.add_zero] at hquotient
      simp only [Nat.mul_add_mod, Nat.mod_eq_of_lt hl, Nat.mod_eq_of_lt hl'] at hrest
      rw [digit_injective (h ch List.mem_cons_self) (h' ch' List.mem_cons_self) hquotient,
        ih h.tail h'.tail hlen hrest]

/-! ## The list without a zero too many -/

/-- No zero in front, unless it stands alone. -/
def IsLeast (l : List Char) : Prop := l ≠ [] ∧ (1 < l.length → l.head? ≠ some '0')

theorem length_toDigits_of_isLeast (h : IsDigits l) (hleast : IsLeast l) :
    (Nat.toDigits 10 (Nat.ofDigitChars 10 l 0)).length = l.length := by
  have hpos : 0 < l.length := List.length_pos_iff.2 hleast.1
  have hle : (Nat.toDigits 10 (Nat.ofDigitChars 10 l 0)).length ≤ l.length :=
    (Nat.length_toDigits_le_iff (by decide) hpos).2 (ofDigitChars_lt h)
  have hone : 0 < (Nat.toDigits 10 (Nat.ofDigitChars 10 l 0)).length := Nat.length_toDigits_pos
  by_cases hlong : 1 < l.length
  · cases l with
    | nil => cases hpos
    | cons ch l =>
      have hne : ch ≠ '0' := fun heq => hleast.2 hlong (by rw [heq]; rfl)
      have hlarge := le_ofDigitChars h hne
      have hnot : ¬ (Nat.toDigits 10 (Nat.ofDigitChars 10 (ch :: l) 0)).length ≤ l.length := by
        rw [Nat.length_toDigits_le_iff (by decide) (by simpa using hlong)]
        omega
      rw [List.length_cons] at hle ⊢
      omega
  · omega

theorem toDigits_ofDigitChars (h : IsDigits l) (hleast : IsLeast l) :
    Nat.toDigits 10 (Nat.ofDigitChars 10 l 0) = l :=
  ofDigitChars_injective (isDigits_toDigits _) h (length_toDigits_of_isLeast h hleast)
    Nat.ofDigitChars_ten_toDigits

end Numerals
