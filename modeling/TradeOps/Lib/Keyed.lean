import TradeOps.Lib.Checks
import Mathlib.Data.List.Nodup

/-!
# Tables keyed by an identity

An insertion-ordered map from keys to records, held as the list of its records: inserting a record
under a key that is already taken keeps the table when the two records are equal and fails when
they differ. Records that share a key are collected into groups, in the order in which the keys
first occur.
-/

namespace Keyed

open Checks

variable {α κ ε : Type} [DecidableEq κ] (key : α → κ)

/-- The record stored under a key. -/
def lookup (table : List α) (k : κ) : Option α :=
  table.find? (fun y => key y = k)

/-- Insert a record; a different record under the same key is a conflict. -/
def insert [DecidableEq α] (conflict : α → ε) (table : List α) (x : α) : Except ε (List α) :=
  match lookup key table (key x) with
  | none => .ok (table ++ [x])
  | some previous => if previous ≠ x then .error (conflict x) else .ok table

/-- Check and insert every record, in order, starting from a given table. -/
def indexFrom [DecidableEq α] (check : α → Except ε Unit) (conflict : α → ε) :
    List α → List α → Except ε (List α)
  | table, [] => .ok table
  | table, x :: rest => do
    check x
    let table' ← insert key conflict table x
    indexFrom check conflict table' rest

/-- Index a list of records by their key. -/
def index [DecidableEq α] (check : α → Except ε Unit) (conflict : α → ε) (xs : List α) :
    Except ε (List α) :=
  indexFrom key check conflict [] xs

/-- Append a record to the group of its key, opening the group at the end when it is new. -/
def push (k : κ) (x : α) : List (κ × List α) → List (κ × List α)
  | [] => [(k, [x])]
  | (k', xs) :: rest => if k' = k then (k', xs ++ [x]) :: rest else (k', xs) :: push k x rest

/-- Collect the records by their key. -/
def groupBy (xs : List α) : List (κ × List α) :=
  xs.foldl (fun groups x => push (key x) x groups) []

/-! ## Lookup -/

/-- A table stores at most one record under a key. -/
def KeysNodup (table : List α) : Prop := (table.map key).Nodup

variable {key}

theorem lookup_some {table : List α} {k : κ} {x : α} (h : lookup key table k = some x) :
    x ∈ table ∧ key x = k := by
  refine ⟨List.mem_of_find?_eq_some h, ?_⟩
  simpa using List.find?_some h

theorem lookup_none {table : List α} {k : κ} :
    lookup key table k = none ↔ ∀ x ∈ table, key x ≠ k := by
  simp [lookup]

omit [DecidableEq κ] in
theorem KeysNodup.eq_of_key {table : List α} (hn : KeysNodup key table) {x y : α}
    (hx : x ∈ table) (hy : y ∈ table) (h : key x = key y) : x = y :=
  List.inj_on_of_nodup_map hn hx hy h

/-- The records under a key, counted among the keys. -/
theorem filter_length_eq_count (table : List α) (k : κ) :
    (table.filter fun x => key x = k).length = (table.map key).count k := by
  rw [← List.countP_eq_length_filter, List.count, List.countP_map]
  rfl

theorem KeysNodup.filter_length_le {table : List α} (hn : KeysNodup key table) (k : κ) :
    (table.filter fun x => key x = k).length ≤ 1 := by
  rw [filter_length_eq_count]
  exact List.nodup_iff_count_le_one.mp hn k

theorem KeysNodup.filter_length_eq {table : List α} (hn : KeysNodup key table) {x : α}
    (hx : x ∈ table) : (table.filter fun y => key y = key x).length = 1 := by
  rw [filter_length_eq_count]
  exact List.count_eq_one_of_mem hn (List.mem_map_of_mem hx)

theorem KeysNodup.lookup_iff {table : List α} (hn : KeysNodup key table) {k : κ} {x : α} :
    lookup key table k = some x ↔ x ∈ table ∧ key x = k := by
  refine ⟨lookup_some, ?_⟩
  rintro ⟨hmem, rfl⟩
  cases hl : lookup key table (key x) with
  | none => exact absurd rfl (lookup_none.1 hl x hmem)
  | some y =>
    obtain ⟨hy, hk⟩ := lookup_some hl
    rw [hn.eq_of_key hy hmem hk]

/-! ## Indexing -/

section Indexing

variable [DecidableEq α]

theorem insert_ok_iff {conflict : α → ε} {table table' : List α} {x : α} :
    insert key conflict table x = .ok table' ↔
      (lookup key table (key x) = none ∧ table' = table ++ [x]) ∨
        (lookup key table (key x) = some x ∧ table' = table) := by
  unfold insert
  cases hl : lookup key table (key x) with
  | none => simp [eq_comm]
  | some y =>
    by_cases hyx : y = x
    · subst hyx
      simp [eq_comm]
    · simp [hyx]

theorem KeysNodup.insert {conflict : α → ε} {table table' : List α} {x : α}
    (hn : KeysNodup key table) (h : insert key conflict table x = .ok table') :
    KeysNodup key table' ∧ ∀ y, y ∈ table' ↔ y ∈ table ∨ y = x := by
  rcases insert_ok_iff.1 h with ⟨hnone, rfl⟩ | ⟨hsome, rfl⟩
  · have hfresh := lookup_none.1 hnone
    refine ⟨?_, by simp⟩
    unfold KeysNodup at hn ⊢
    rw [List.map_append, List.map_cons, List.map_nil, List.nodup_append]
    refine ⟨hn, by simp, ?_⟩
    intro a ha b hb hab
    obtain ⟨y, hy, rfl⟩ := List.mem_map.1 ha
    rw [List.mem_singleton] at hb
    exact hfresh y hy (hab.trans hb)
  · refine ⟨hn, fun y => ⟨Or.inl, ?_⟩⟩
    rintro (hy | rfl)
    · exact hy
    · exact (lookup_some hsome).1

/-- Records that share a key are equal. -/
def Consistent (key : α → κ) (xs : List α) : Prop :=
  ∀ x ∈ xs, ∀ y ∈ xs, key x = key y → x = y

theorem indexFrom_spec {check : α → Except ε Unit} {conflict : α → ε} {xs table result : List α}
    (hn : KeysNodup key table) (h : indexFrom key check conflict table xs = .ok result) :
    (∀ x ∈ xs, check x = .ok ()) ∧ KeysNodup key result ∧
      ∀ y, y ∈ result ↔ y ∈ table ∨ y ∈ xs := by
  induction xs generalizing table with
  | nil =>
    simp only [indexFrom, Except.ok.injEq] at h
    subst h
    exact ⟨by simp, hn, by simp⟩
  | cons x rest ih =>
    rw [indexFrom, then_ok_iff, bind_ok_iff] at h
    obtain ⟨hcheck, table', hinsert, hrest⟩ := h
    obtain ⟨hn', hmem'⟩ := hn.insert hinsert
    obtain ⟨hchecks, hnr, hmem⟩ := ih hn' hrest
    refine ⟨?_, hnr, ?_⟩
    · simpa using ⟨hcheck, hchecks⟩
    · intro y
      rw [hmem, hmem', List.mem_cons, or_assoc]

theorem indexFrom_exists {check : α → Except ε Unit} {conflict : α → ε} {xs table : List α}
    (hchecks : ∀ x ∈ xs, check x = .ok ()) (hc : Consistent key (table ++ xs)) :
    ∃ result, indexFrom key check conflict table xs = .ok result := by
  induction xs generalizing table with
  | nil => exact ⟨table, rfl⟩
  | cons x rest ih =>
    have hx : check x = .ok () := hchecks x List.mem_cons_self
    have hrest : ∀ y ∈ rest, check y = .ok () := fun y hy => hchecks y (List.mem_cons_of_mem _ hy)
    rw [indexFrom, hx, ok_bind_eq]
    cases hl : lookup key table (key x) with
    | none =>
      have hi : insert key conflict table x = .ok (table ++ [x]) := by simp [insert, hl]
      have hc' : Consistent key ((table ++ [x]) ++ rest) := by simpa using hc
      obtain ⟨result, hr⟩ := ih hrest hc'
      exact ⟨result, by simpa [hi] using hr⟩
    | some y =>
      obtain ⟨hy, hk⟩ := lookup_some hl
      have hyx : y = x := hc y (by simp [hy]) x (by simp) hk
      have hi : insert key conflict table x = .ok table := by simp [insert, hl, hyx]
      have hc' : Consistent key (table ++ rest) := by
        intro a ha b hb
        refine hc a ?_ b ?_
        · rcases List.mem_append.1 ha with h | h <;> simp [h]
        · rcases List.mem_append.1 hb with h | h <;> simp [h]
      obtain ⟨result, hr⟩ := ih hrest hc'
      exact ⟨result, by simpa [hi] using hr⟩

/-- What an index holds: every record once, and the records were consistent. -/
theorem index_spec {check : α → Except ε Unit} {conflict : α → ε} {xs result : List α}
    (h : index key check conflict xs = .ok result) :
    (∀ x ∈ xs, check x = .ok ()) ∧ KeysNodup key result ∧ (∀ y, y ∈ result ↔ y ∈ xs) ∧
      Consistent key xs := by
  have hempty : KeysNodup key [] := List.nodup_nil
  obtain ⟨hchecks, hn, hmem⟩ := indexFrom_spec hempty h
  have hmem' : ∀ y, y ∈ result ↔ y ∈ xs := by simpa using hmem
  refine ⟨hchecks, hn, hmem', ?_⟩
  intro x hx y hy hk
  exact hn.eq_of_key ((hmem' x).2 hx) ((hmem' y).2 hy) hk

/-- Whether a list can be indexed depends on its members only. -/
theorem index_exists {check : α → Except ε Unit} {conflict : α → ε} {xs : List α}
    (hchecks : ∀ x ∈ xs, check x = .ok ()) (hc : Consistent key xs) :
    ∃ result, index key check conflict xs = .ok result :=
  indexFrom_exists hchecks (by simpa using hc)

end Indexing

/-! ## Grouping -/

/-- The groups `groups` hold exactly the records `xs`: one nonempty group for each key. -/
structure Groups (key : α → κ) (groups : List (κ × List α)) (xs : List α) : Prop where
  nodup : (groups.map Prod.fst).Nodup
  ne_nil : ∀ g ∈ groups, g.2 ≠ []
  mem : ∀ g ∈ groups, ∀ x, x ∈ g.2 ↔ x ∈ xs ∧ key x = g.1
  cover : ∀ x ∈ xs, key x ∈ groups.map Prod.fst

theorem mem_keys_push {k k' : κ} {x : α} {groups : List (κ × List α)} :
    k' ∈ (push k x groups).map Prod.fst ↔ k' = k ∨ k' ∈ groups.map Prod.fst := by
  induction groups with
  | nil => simp [push]
  | cons g rest ih =>
    obtain ⟨k₀, xs⟩ := g
    by_cases hk : k₀ = k
    · subst hk
      simp [push]
    · simp only [push, if_neg hk, List.map_cons, List.mem_cons, ih]
      tauto

theorem keys_push_nodup {k : κ} {x : α} {groups : List (κ × List α)}
    (hn : (groups.map Prod.fst).Nodup) : ((push k x groups).map Prod.fst).Nodup := by
  induction groups with
  | nil => simp [push]
  | cons g rest ih =>
    obtain ⟨k₀, xs⟩ := g
    rw [List.map_cons, List.nodup_cons] at hn
    by_cases hk : k₀ = k
    · subst hk
      simpa [push] using hn
    · simp only [push, if_neg hk, List.map_cons, List.nodup_cons]
      refine ⟨?_, ih hn.2⟩
      rw [mem_keys_push]
      exact fun h => h.elim hk hn.1

theorem mem_push {k : κ} {x : α} {groups : List (κ × List α)} {g : κ × List α}
    (hn : (groups.map Prod.fst).Nodup) (hg : g ∈ push k x groups) :
    (g ∈ groups ∧ g.1 ≠ k) ∨ (∃ xs, (k, xs) ∈ groups ∧ g = (k, xs ++ [x])) ∨
      (k ∉ groups.map Prod.fst ∧ g = (k, [x])) := by
  induction groups with
  | nil => exact Or.inr (Or.inr ⟨by simp, by simpa [push] using hg⟩)
  | cons g₀ rest ih =>
    obtain ⟨k₀, xs⟩ := g₀
    rw [List.map_cons, List.nodup_cons] at hn
    by_cases hk : k₀ = k
    · subst hk
      simp only [push, if_true, List.mem_cons] at hg
      rcases hg with rfl | hg
      · exact Or.inr (Or.inl ⟨xs, by simp, rfl⟩)
      · refine Or.inl ⟨List.mem_cons_of_mem _ hg, ?_⟩
        intro h
        exact hn.1 (List.mem_map.2 ⟨g, hg, h⟩)
    · simp only [push, if_neg hk, List.mem_cons] at hg
      rcases hg with rfl | hg
      · exact Or.inl ⟨List.mem_cons_self, hk⟩
      · rcases ih hn.2 hg with ⟨h, hne⟩ | ⟨ys, h, he⟩ | ⟨h, he⟩
        · exact Or.inl ⟨List.mem_cons_of_mem _ h, hne⟩
        · exact Or.inr (Or.inl ⟨ys, List.mem_cons_of_mem _ h, he⟩)
        · refine Or.inr (Or.inr ⟨?_, he⟩)
          simpa using ⟨Ne.symm hk, by simpa using h⟩

theorem Groups.push {groups : List (κ × List α)} {xs : List α} (h : Groups key groups xs)
    (x : α) : Groups key (push (key x) x groups) (xs ++ [x]) where
  nodup := keys_push_nodup h.nodup
  ne_nil := by
    intro g hg
    rcases mem_push h.nodup hg with ⟨hg, -⟩ | ⟨ys, -, rfl⟩ | ⟨-, rfl⟩
    · exact h.ne_nil g hg
    · simp
    · simp
  mem := by
    intro g hg y
    rcases mem_push h.nodup hg with ⟨hg, hne⟩ | ⟨ys, hys, rfl⟩ | ⟨hnew, rfl⟩
    · rw [h.mem g hg, List.mem_append, List.mem_singleton]
      constructor
      · rintro ⟨hy, hk⟩
        exact ⟨Or.inl hy, hk⟩
      · rintro ⟨hy | rfl, hk⟩
        · exact ⟨hy, hk⟩
        · exact absurd hk.symm hne
    · have hmem := h.mem _ hys y
      simp only [List.mem_append, List.mem_singleton] at hmem ⊢
      rw [hmem]
      constructor
      · rintro (⟨hy, hk⟩ | rfl)
        · exact ⟨Or.inl hy, hk⟩
        · exact ⟨Or.inr rfl, rfl⟩
      · rintro ⟨hy | rfl, hk⟩
        · exact Or.inl ⟨hy, hk⟩
        · exact Or.inr rfl
    · simp only [List.mem_append, List.mem_singleton]
      constructor
      · rintro rfl
        exact ⟨Or.inr rfl, rfl⟩
      · rintro ⟨hy | rfl, hk⟩
        · exact absurd (hk ▸ h.cover y hy) hnew
        · rfl
  cover := by
    intro y hy
    rw [mem_keys_push]
    rcases List.mem_append.1 hy with hy | hy
    · exact Or.inr (h.cover y hy)
    · rw [List.mem_singleton] at hy
      exact Or.inl (by rw [hy])

theorem groupBy_spec (key : α → κ) (xs : List α) : Groups key (groupBy key xs) xs := by
  have step : ∀ (ys done : List α) (groups : List (κ × List α)), Groups key groups done →
      Groups key (ys.foldl (fun groups x => Keyed.push (key x) x groups) groups) (done ++ ys) := by
    intro ys
    induction ys with
    | nil => intro done groups h; simpa using h
    | cons y rest ih =>
      intro done groups h
      have := ih (done ++ [y]) _ (h.push y)
      simpa using this
  have start : Groups key [] [] := ⟨by simp, by simp, by simp, by simp⟩
  simpa [groupBy] using step xs [] [] start

end Keyed
