import TradeOps.Lib.Keyed
import Mathlib.Data.List.Basic

/-!
# Relational tables

A table is the list of its rows, in the order of their insertion. A statement of a transaction adds
a row or rewrites the rows that match a condition; the constraints of the table are tests on the
rows it holds and on the row that is written. A relation between a row and its successor lifts to
tables: every row of the earlier table has a successor in the later one.
-/

namespace Tables

open Keyed

variable {α κ : Type}

/-- `UPDATE … SET … WHERE …`. -/
def updateWhere (p : α → Bool) (f : α → α) (rows : List α) : List α :=
  rows.map fun row => if p row then f row else row

/-- Every row has a successor. -/
def Evolves (R : α → α → Prop) (rows rows' : List α) : Prop :=
  ∀ row ∈ rows, ∃ row' ∈ rows', R row row'

section Evolution

variable {R : α → α → Prop} {rows rows' rows'' : List α}

theorem Evolves.refl (hrefl : ∀ row, R row row) (rows : List α) : Evolves R rows rows :=
  fun row hrow => ⟨row, hrow, hrefl row⟩

theorem Evolves.trans (htrans : ∀ a b c, R a b → R b c → R a c) (h : Evolves R rows rows')
    (h' : Evolves R rows' rows'') : Evolves R rows rows'' := by
  intro row hrow
  obtain ⟨row', hrow', hr⟩ := h row hrow
  obtain ⟨row'', hrow'', hr'⟩ := h' row' hrow'
  exact ⟨row'', hrow'', htrans _ _ _ hr hr'⟩

theorem Evolves.append (hrefl : ∀ row, R row row) (rows new : List α) :
    Evolves R rows (rows ++ new) :=
  fun row hrow => ⟨row, List.mem_append_left _ hrow, hrefl row⟩

theorem Evolves.updateWhere {p : α → Bool} {f : α → α} (hrefl : ∀ row, R row row)
    (h : ∀ row ∈ rows, p row = true → R row (f row)) : Evolves R rows (updateWhere p f rows) := by
  intro row hrow
  refine ⟨if p row then f row else row, List.mem_map_of_mem hrow, ?_⟩
  split
  · exact h row hrow ‹_›
  · exact hrefl row

end Evolution

/-- The rows stay in their order, each rewritten along a relation. -/
def Rewrites (R : α → α → Prop) (rows rows' : List α) : Prop :=
  ∃ g : α → α, rows' = rows.map g ∧ ∀ row ∈ rows, R row (g row)

section Rewriting

variable {R : α → α → Prop} {rows rows' rows'' : List α}

theorem Rewrites.refl (hrefl : ∀ row, R row row) (rows : List α) : Rewrites R rows rows :=
  ⟨id, (List.map_id rows).symm, fun row _ => hrefl row⟩

theorem Rewrites.trans (htrans : ∀ a b c, R a b → R b c → R a c) (h : Rewrites R rows rows')
    (h' : Rewrites R rows' rows'') : Rewrites R rows rows'' := by
  obtain ⟨g, rfl, hg⟩ := h
  obtain ⟨g', rfl, hg'⟩ := h'
  refine ⟨g' ∘ g, List.map_map, ?_⟩
  intro row hrow
  exact htrans _ _ _ (hg row hrow) (hg' _ (List.mem_map_of_mem hrow))

theorem Rewrites.updateWhere {p : α → Bool} {f : α → α} (hrefl : ∀ row, R row row)
    (h : ∀ row ∈ rows, p row = true → R row (f row)) : Rewrites R rows (updateWhere p f rows) := by
  refine ⟨_, rfl, ?_⟩
  intro row hrow
  split
  · exact h row hrow ‹_›
  · exact hrefl row

/-- The row that a row comes from. -/
theorem Rewrites.exists_of_mem (h : Rewrites R rows rows') {row' : α} (hrow' : row' ∈ rows') :
    ∃ row ∈ rows, R row row' := by
  obtain ⟨g, rfl, hg⟩ := h
  obtain ⟨row, hrow, rfl⟩ := List.mem_map.1 hrow'
  exact ⟨row, hrow, hg row hrow⟩

theorem Rewrites.evolves (h : Rewrites R rows rows') : Evolves R rows rows' := by
  obtain ⟨g, rfl, hg⟩ := h
  exact fun row hrow => ⟨g row, List.mem_map_of_mem hrow, hg row hrow⟩

/-- A column that the relation leaves alone stays as it is. -/
theorem Rewrites.map_eq {β : Type} {f : α → β} (hf : ∀ a b, R a b → f b = f a)
    (h : Rewrites R rows rows') : rows'.map f = rows.map f := by
  obtain ⟨g, rfl, hg⟩ := h
  rw [List.map_map]
  exact List.map_congr_left fun row hrow => hf _ _ (hg row hrow)

end Rewriting

section Updates

variable {p : α → Bool} {f : α → α} {rows : List α}

theorem mem_updateWhere {row' : α} :
    row' ∈ updateWhere p f rows ↔
      (∃ row ∈ rows, p row = true ∧ row' = f row) ∨ (row' ∈ rows ∧ p row' = false) := by
  unfold updateWhere
  rw [List.mem_map]
  constructor
  · rintro ⟨row, hrow, rfl⟩
    by_cases hp : p row = true
    · exact .inl ⟨row, hrow, hp, by rw [if_pos hp]⟩
    · rw [if_neg hp]
      exact .inr ⟨hrow, by simpa using hp⟩
  · rintro (⟨row, hrow, hp, rfl⟩ | ⟨hrow, hp⟩)
    · exact ⟨row, hrow, by rw [if_pos hp]⟩
    · exact ⟨row', hrow, by rw [if_neg (by simp [hp])]⟩

/-- The row an updated row comes from. -/
theorem exists_of_mem_updateWhere {row' : α} (h : row' ∈ updateWhere p f rows) :
    ∃ row ∈ rows, row' = if p row then f row else row := by
  obtain ⟨row, hrow, rfl⟩ := List.mem_map.1 h
  exact ⟨row, hrow, rfl⟩

/-- An update that leaves an attribute of every row alone leaves the column alone. -/
theorem map_updateWhere {β : Type} {g : α → β} (h : ∀ row, g (f row) = g row) :
    (updateWhere p f rows).map g = rows.map g := by
  unfold updateWhere
  rw [List.map_map]
  refine List.map_congr_left fun row _ => ?_
  simp only [Function.comp_apply]
  split
  · exact h row
  · rfl

/-- A test that the update leaves alone finds the updated row. -/
theorem find?_updateWhere {q : α → Bool} (h : ∀ row, q (f row) = q row) :
    (updateWhere p f rows).find? q =
      (rows.find? q).map fun row => if p row then f row else row := by
  have hq : (q ∘ fun row => if p row then f row else row) = q := by
    funext row
    simp only [Function.comp_apply]
    split
    · exact h row
    · rfl
  unfold updateWhere
  rw [List.find?_map, hq]

theorem keysNodup_updateWhere {key : α → κ} (h : ∀ row, key (f row) = key row)
    (hn : KeysNodup key rows) : KeysNodup key (updateWhere p f rows) := by
  unfold KeysNodup at hn ⊢
  rwa [map_updateWhere h]

theorem keysNodup_append {key : α → κ} {row : α} (hn : KeysNodup key rows)
    (hfresh : ∀ row' ∈ rows, key row' ≠ key row) : KeysNodup key (rows ++ [row]) := by
  unfold KeysNodup at hn ⊢
  rw [List.map_append, List.map_singleton, List.nodup_append]
  refine ⟨hn, List.nodup_singleton _, ?_⟩
  intro a ha b hb hab
  obtain ⟨row', hrow', rfl⟩ := List.mem_map.1 ha
  rw [List.mem_singleton] at hb
  exact hfresh row' hrow' (hab.trans hb)

end Updates

end Tables
