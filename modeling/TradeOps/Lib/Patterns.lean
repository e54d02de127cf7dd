import Mathlib.Data.List.Nodup

/-!
# Texts of ASCII characters

The characters of identifiers and of hexadecimal digests, types with finitely many values that each
have a name, and the way from a string to its bytes and back.
-/

namespace Patterns

/-- `[A-Za-z0-9._:-]`. -/
def identifierChar (ch : Char) : Bool :=
  ('A' ≤ ch ∧ ch ≤ 'Z') ∨ ('a' ≤ ch ∧ ch ≤ 'z') ∨ ('0' ≤ ch ∧ ch ≤ '9') ∨ ch = '.' ∨ ch = '_' ∨
    ch = ':' ∨ ch = '-'

/-- `[0-9a-f]`. -/
def hexChar (ch : Char) : Bool := ('0' ≤ ch ∧ ch ≤ '9') ∨ ('a' ≤ ch ∧ ch ≤ 'f')

/-- Decided over the characters of the text: deciding it over every character is out of reach. -/
theorem ascii_of_all {text : String}
    (h : text.toList.all (fun ch => decide (ch.toNat < 128)) = true) :
    ∀ ch ∈ text.toList, ch.toNat < 128 := by
  intro ch hch
  exact of_decide_eq_true (List.all_eq_true.mp h ch hch)

/-- The characters of a pattern are ASCII characters. -/
theorem ascii_of_range {lo hi ch : Char} (hhi : hi.toNat < 128) (h : lo ≤ ch ∧ ch ≤ hi) :
    ch.toNat < 128 :=
  Nat.lt_of_le_of_lt (Char.le_def.1 h.2) hhi

theorem ascii_of_isDigit {ch : Char} (h : ch.isDigit = true) : ch.toNat < 128 := by
  rw [Char.isDigit_iff_toNat] at h
  have : '9'.toNat = 57 := rfl
  omega

/-- A type with finitely many values, which differ in their names. -/
class Choice (α : Type) where
  name : α → String
  values : List α
  complete : ∀ a, a ∈ values
  distinct : (values.map name).Nodup
  ascii : ∀ a, ∀ ch ∈ (name a).toList, ch.toNat < 128

theorem fromUTF8?_toUTF8 (text : String) : String.fromUTF8? text.toUTF8 = some text :=
  dif_pos text.isValidUTF8

end Patterns
