import Mathlib.Data.Int.Order.Basic
import Mathlib.Data.List.Nodup

/-!
# Gapless sequences

The sequence numbers of an append-only log: the numbers from one on, in order and without a gap.
The largest of them is their number, a number is among them when it lies in that range, and the
next one may be appended.
-/

/-- The numbers from one on, in order. -/
def Gapless (numbers : List Int) : Prop :=
  numbers = (List.range numbers.length).map fun i : Nat => (i : Int) + 1

namespace Gapless

variable {numbers : List Int}

theorem nil : Gapless [] := rfl

theorem mem_iff (h : Gapless numbers) {n : Int} : n ∈ numbers ↔ 1 ≤ n ∧ n ≤ numbers.length := by
  rw [h, List.mem_map, List.length_map, List.length_range]
  constructor
  · rintro ⟨i, hi, rfl⟩
    have hlt := List.mem_range.1 hi
    omega
  · rintro ⟨hlow, hhigh⟩
    exact ⟨(n - 1).toNat, List.mem_range.2 (by omega), by omega⟩

theorem nodup (h : Gapless numbers) : numbers.Nodup := by
  rw [h]
  refine List.Nodup.map ?_ List.nodup_range
  intro i j hij
  dsimp only at hij
  omega

theorem append (h : Gapless numbers) : Gapless (numbers ++ [(numbers.length : Int) + 1]) := by
  have hrange := h
  unfold Gapless at h ⊢
  rw [List.length_append, List.length_singleton, List.range_succ, List.map_append,
    List.map_singleton, ← hrange]

theorem foldr_max_append (numbers : List Int) (n : Int) :
    (numbers ++ [n]).foldr max 0 = max (numbers.foldr max 0) n := by
  induction numbers with
  | nil => exact max_comm n 0
  | cons first rest ih => rw [List.cons_append, List.foldr_cons, List.foldr_cons, ih, max_assoc]

/-- The largest number of a gapless sequence is its length. -/
theorem foldr_max (h : Gapless numbers) : numbers.foldr max 0 = numbers.length := by
  have hrange : ∀ n : Nat,
      ((List.range n).map fun i : Nat => (i : Int) + 1).foldr max 0 = n := by
    intro n
    induction n with
    | zero => rfl
    | succ n ih =>
      rw [List.range_succ, List.map_append, List.map_singleton,
        foldr_max_append, ih]
      push_cast
      omega
  rw [h, hrange, List.length_map, List.length_range]

end Gapless
