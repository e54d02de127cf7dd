import Mathlib.Algebra.Order.Ring.Int
import Mathlib.Data.List.Sort
import Mathlib.Data.Finset.Card
import Mathlib.Data.List.Dedup
import Mathlib.Data.Prod.Lex

/-!
# Sorting by a key, and the least element by a key

A stable sort by a key of a linear order, and the first least element. When the key tells the
members of a list apart, both depend on the list's members only, not on their order.
-/

namespace SortBy

variable {α κ : Type} [LinearOrder κ] (key : α → κ)

/-- Stable ascending sort by a key. -/
def sortBy (l : List α) : List α :=
  l.insertionSort (fun a b => key a ≤ key b)

/-- The first of the elements with the least key. -/
def minBy : List α → Option α
  | [] => none
  | a :: rest =>
    match minBy rest with
    | none => some a
    | some b => if key a ≤ key b then some a else some b

instance total_key : Std.Total (fun a b : α => key a ≤ key b) :=
  ⟨fun a b => le_total (key a) (key b)⟩

instance isTrans_key : IsTrans α (fun a b : α => key a ≤ key b) := ⟨fun _ _ _ => le_trans⟩

theorem sortBy_perm (l : List α) : (sortBy key l).Perm l :=
  List.perm_insertionSort _ l

@[simp] theorem mem_sortBy {l : List α} {a : α} : a ∈ sortBy key l ↔ a ∈ l :=
  (sortBy_perm key l).mem_iff

@[simp] theorem length_sortBy (l : List α) : (sortBy key l).length = l.length :=
  (sortBy_perm key l).length_eq

theorem sortBy_pairwise (l : List α) : (sortBy key l).Pairwise (fun a b => key a ≤ key b) :=
  List.pairwise_insertionSort _ l

@[simp] theorem sortBy_eq_nil {l : List α} : sortBy key l = [] ↔ l = [] := by
  rw [← List.length_eq_zero_iff, length_sortBy, List.length_eq_zero_iff]

/-- Two lists with the same members, each without repetition, sort to the same list as soon as
the key tells the members apart. -/
theorem sortBy_eq_of_mem_iff {l₁ l₂ : List α} (hn₁ : l₁.Nodup) (hn₂ : l₂.Nodup)
    (hinj : ∀ a ∈ l₁, ∀ b ∈ l₁, key a = key b → a = b) (hmem : ∀ a, a ∈ l₁ ↔ a ∈ l₂) :
    sortBy key l₁ = sortBy key l₂ := by
  have hperm : l₁.Perm l₂ := (List.perm_ext_iff_of_nodup hn₁ hn₂).2 hmem
  have hsorted : (sortBy key l₁).Perm (sortBy key l₂) :=
    (sortBy_perm key l₁).trans (hperm.trans (sortBy_perm key l₂).symm)
  refine List.Perm.eq_of_pairwise ?_ (sortBy_pairwise key l₁) (sortBy_pairwise key l₂) hsorted
  intro a b ha hb hab hba
  have ha' : a ∈ l₁ := (mem_sortBy key).1 ha
  have hb' : b ∈ l₁ := (hmem b).2 ((mem_sortBy key).1 hb)
  exact hinj a ha' b hb' (le_antisymm hab hba)

theorem sortBy_of_pairwise {l : List α} (h : l.Pairwise (fun a b => key a ≤ key b)) :
    sortBy key l = l :=
  List.Pairwise.insertionSort_eq h

theorem sortBy_head_le {l rest : List α} {a b : α} (h : sortBy key l = a :: rest) (hb : b ∈ l) :
    key a ≤ key b := by
  have hb' : b ∈ a :: rest := h ▸ (mem_sortBy key).2 hb
  have hp := h ▸ sortBy_pairwise key l
  rcases List.mem_cons.1 hb' with rfl | hmem
  · exact le_rfl
  · exact List.rel_of_pairwise_cons hp hmem

theorem sortBy_head_mem {l rest : List α} {a : α} (h : sortBy key l = a :: rest) : a ∈ l :=
  (mem_sortBy key).1 (h ▸ List.mem_cons_self)

/-- The first element of a sorted list with a property has the least key among those with it. -/
theorem find?_sortBy_le {l : List α} {p : α → Bool} {a b : α} (h : (sortBy key l).find? p = some a)
    (hb : b ∈ l) (hpb : p b = true) : key a ≤ key b := by
  obtain ⟨-, before, after, hsplit, hbefore⟩ := List.find?_eq_some_iff_append.mp h
  have hpairwise := sortBy_pairwise key l
  have hmem := (mem_sortBy key).2 hb
  rw [hsplit, List.pairwise_append, List.pairwise_cons] at hpairwise
  rw [hsplit, List.mem_append, List.mem_cons] at hmem
  obtain hmem | rfl | hmem := hmem
  · exact absurd hpb (by simpa using hbefore b hmem)
  · exact le_refl _
  · exact hpairwise.2.1.1 b hmem

/-- More than one distinct element: what `new Set(values).size > 1` asks. -/
theorem one_lt_length_dedup_iff {β : Type} [DecidableEq β] {l : List β} :
    1 < l.dedup.length ↔ ∃ a ∈ l, ∃ b ∈ l, a ≠ b := by
  rw [← List.card_toFinset, Finset.one_lt_card]
  simp only [List.mem_toFinset]

theorem minBy_eq_none {l : List α} : minBy key l = none ↔ l = [] := by
  cases l with
  | nil => simp [minBy]
  | cons a rest =>
    simp only [minBy]
    split <;> (try split_ifs) <;> simp

theorem minBy_mem {l : List α} {a : α} (h : minBy key l = some a) : a ∈ l := by
  induction l generalizing a with
  | nil => simp [minBy] at h
  | cons x rest ih =>
    simp only [minBy] at h
    split at h
    · simp_all
    · rename_i b hb
      split_ifs at h <;> simp only [Option.some.injEq] at h <;> subst h
      · exact List.mem_cons_self
      · exact List.mem_cons_of_mem _ (ih hb)

theorem minBy_le {l : List α} {a b : α} (h : minBy key l = some a) (hb : b ∈ l) :
    key a ≤ key b := by
  induction l generalizing a with
  | nil => simp at hb
  | cons x rest ih =>
    simp only [minBy] at h
    split at h
    · rename_i hnone
      rw [minBy_eq_none] at hnone
      subst hnone
      simp only [List.mem_singleton, Option.some.injEq] at hb h
      rw [← h, hb]
    · rename_i c hc
      have hcb : b ∈ rest → key c ≤ key b := ih hc
      split_ifs at h with hxc <;> simp only [Option.some.injEq] at h <;> subst h
      · rcases List.mem_cons.1 hb with rfl | hmem
        · exact le_rfl
        · exact le_trans hxc (hcb hmem)
      · rcases List.mem_cons.1 hb with rfl | hmem
        · exact le_of_lt (lt_of_not_ge hxc)
        · exact hcb hmem

/-- An element that is least, and alone with its key, is what both the sort and the minimum put
first. -/
theorem head?_sortBy_of_least {l : List α} {a : α} (ha : a ∈ l) (hle : ∀ b ∈ l, key a ≤ key b)
    (hinj : ∀ b ∈ l, key b = key a → b = a) : (sortBy key l).head? = some a := by
  cases hs : sortBy key l with
  | nil => exact absurd ((sortBy_eq_nil key).1 hs) (List.ne_nil_of_mem ha)
  | cons b rest =>
    have hb : b ∈ l := sortBy_head_mem key hs
    rw [List.head?_cons, hinj b hb (le_antisymm (sortBy_head_le key hs ha) (hle b hb))]

theorem minBy_of_least {l : List α} {a : α} (ha : a ∈ l) (hle : ∀ b ∈ l, key a ≤ key b)
    (hinj : ∀ b ∈ l, key b = key a → b = a) : minBy key l = some a := by
  cases hm : minBy key l with
  | none => exact absurd ((minBy_eq_none key).1 hm) (List.ne_nil_of_mem ha)
  | some b =>
    have hb : b ∈ l := minBy_mem key hm
    rw [hinj b hb (le_antisymm (minBy_le key hm ha) (hle b hb))]

/-! ## Holding the least -/

/-- What is held is the least of the values with a property, and something is held when there is
one. -/
def HoldsLeast (held : Option α) (property : α → Prop) : Prop :=
  match held with
  | none => ∀ a, ¬ property a
  | some a => property a ∧ ∀ b, property b → key a ≤ key b

variable {key}

theorem HoldsLeast.of_none {property : α → Prop} (h : HoldsLeast key none property) (a : α) :
    ¬ property a :=
  h a

theorem HoldsLeast.of_some {property : α → Prop} {a : α} (h : HoldsLeast key (some a) property) :
    property a ∧ ∀ b, property b → key a ≤ key b :=
  h

theorem HoldsLeast.congr {held : Option α} {p q : α → Prop} (h : HoldsLeast key held p)
    (hpq : ∀ a, p a ↔ q a) : HoldsLeast key held q := by
  cases held with
  | none => exact fun a hq => h a ((hpq a).mpr hq)
  | some a => exact ⟨(hpq a).mp h.1, fun b hb => h.2 b ((hpq b).mpr hb)⟩

/-- Something below a bound is held when there is a value below it. -/
theorem HoldsLeast.exists_lt_iff {held : Option α} {property : α → Prop}
    (h : HoldsLeast key held property) {bound : κ} :
    (∃ a ∈ held, key a < bound) ↔ ∃ a, property a ∧ key a < bound := by
  cases held with
  | none => simpa using fun a ha => absurd ha (h a)
  | some a =>
    constructor
    · rintro ⟨b, hb, hlt⟩
      obtain rfl := Option.some.inj hb
      exact ⟨_, h.1, hlt⟩
    · rintro ⟨b, hb, hlt⟩
      exact ⟨a, rfl, (h.2 b hb).trans_lt hlt⟩

/-- Two least values that are alone with their key are the same. -/
theorem HoldsLeast.unique {held held' : Option α} {property : α → Prop}
    (hinj : ∀ a b, property a → property b → key a = key b → a = b)
    (h : HoldsLeast key held property) (h' : HoldsLeast key held' property) : held = held' := by
  cases held with
  | none =>
    cases held' with
    | none => rfl
    | some b => exact absurd h'.1 (h b)
  | some a =>
    cases held' with
    | none => exact absurd h.1 (h' a)
    | some b => rw [hinj a b h.1 h'.1 (le_antisymm (h.2 b h'.1) (h'.2 a h.1))]

theorem holdsLeast_minBy (l : List α) : HoldsLeast key (minBy key l) (· ∈ l) := by
  cases hm : minBy key l with
  | none =>
    rw [minBy_eq_none] at hm
    simp [HoldsLeast, hm]
  | some a => exact ⟨minBy_mem key hm, fun b hb => minBy_le key hm hb⟩

variable {ι : Type} [DecidableEq ι] (key)

/-- Hold the least value of every index: a value replaces the one held when its key is less. -/
def keepLeast (held : ι → Option α) (i : ι) (a : α) : ι → Option α :=
  if (held i).any fun b => key b ≤ key a then held else Function.update held i (some a)

variable {key}

theorem keepLeast_of_ne {held : ι → Option α} {i j : ι} {a : α} (h : j ≠ i) :
    keepLeast key held i a j = held j := by
  unfold keepLeast
  split_ifs
  · rfl
  · exact Function.update_of_ne h _ _

theorem HoldsLeast.keep {held : ι → Option α} {i : ι} {property : α → Prop}
    (h : HoldsLeast key (held i) property) (a : α) :
    HoldsLeast key (keepLeast key held i a i) fun b => property b ∨ b = a := by
  unfold keepLeast
  cases hheld : held i with
  | none =>
    rw [hheld] at h
    simp only [Option.any_none, Bool.false_eq_true, if_false, Function.update_self]
    exact ⟨.inr rfl, fun b hb => hb.elim (fun hb => absurd hb (h b)) fun hb => hb ▸ le_rfl⟩
  | some c =>
    rw [hheld] at h
    by_cases hle : key c ≤ key a
    · simp only [Option.any_some, hle, decide_true, if_true, hheld]
      refine ⟨.inl h.1, ?_⟩
      rintro b (hb | rfl)
      · exact h.2 b hb
      · exact hle
    · simp only [Option.any_some, hle, decide_false, Bool.false_eq_true, if_false,
        Function.update_self]
      refine ⟨.inr rfl, ?_⟩
      rintro b (hb | rfl)
      · exact (lt_of_not_ge hle).le.trans (h.2 b hb)
      · exact le_rfl

end SortBy
