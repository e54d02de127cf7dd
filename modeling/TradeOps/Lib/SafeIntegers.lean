import Mathlib.Tactic.Common

/-!
# Safe integers

The integers that a double holds exactly together with their neighbours, which is also the range of
the integers that languages share in canonical documents.
-/

namespace SafeIntegers

/-- `Number.MAX_SAFE_INTEGER`. -/
def maxSafeInteger : Int := 9007199254740991

def IsSafe (n : Int) : Prop := -maxSafeInteger ≤ n ∧ n ≤ maxSafeInteger

instance decidableIsSafe (n : Int) : Decidable (IsSafe n) :=
  inferInstanceAs (Decidable (_ ∧ _))

/-- `Number.isSafeInteger`. -/
def isSafeInteger (n : Int) : Bool := IsSafe n

theorem isSafeInteger_iff {n : Int} :
    isSafeInteger n = true ↔ -9007199254740991 ≤ n ∧ n ≤ 9007199254740991 :=
  decide_eq_true_iff

end SafeIntegers
