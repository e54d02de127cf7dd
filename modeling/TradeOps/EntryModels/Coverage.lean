import TradeOps.EntryModels.FlipScan

/-!
# Children and the intervals they cover

What `_valid_children_by_open` accepts, and the intervals of the scan that the accepted children
fill: a child that spans an interval of the proof is found at its index and nowhere else, and the
counts agree exactly when no interval is left empty.
-/

namespace TradeOps.EntryModels

open Checks

variable {request : HTFFlipScanRequest} {children : List OrderedCandle}

namespace HTFFlipScanRequest

/-- The children are in order, inside the scan and aligned. -/
structure Ordered (request : HTFFlipScanRequest) (children : List OrderedCandle) : Prop where
  increasing : children.Pairwise (·.openEpoch < ·.openEpoch)
  start : ∀ child ∈ children, request.htfOpenEpoch ≤ child.openEpoch
  cutoff : ∀ child ∈ children, child.closeEpoch ≤ request.scanCutoffEpoch
  aligned : ∀ child ∈ children,
    (child.openEpoch - request.htfOpenEpoch) % request.proofResolutionSeconds = 0

/-- Every expected child is there. -/
def AllPresent (request : HTFFlipScanRequest) : Prop :=
  ∀ index : Nat, index < request.expectedCount → ∃ child ∈ request.children,
    child.openEpoch = request.openAt index ∧
      child.closeEpoch = child.openEpoch + request.proofResolutionSeconds

/-- The index of the interval in which a child opens. -/
def index (request : HTFFlipScanRequest) (child : OrderedCandle) : Nat :=
  ((child.openEpoch - request.htfOpenEpoch) / request.proofResolutionSeconds).toNat

end HTFFlipScanRequest

open HTFFlipScanRequest

/-! ## Accepted children -/

theorem validChildrenFrom_ok {previous : Option Int} {all : List OrderedCandle}
    (h : validChildrenFrom request previous all = .ok children) :
    (∀ p ∈ previous, ∀ child ∈ all, p < child.openEpoch) ∧ request.Ordered all ∧
      children = all.filter request.spans := by
  induction all generalizing previous children with
  | nil =>
    rw [validChildrenFrom, Except.ok.injEq] at h
    refine ⟨by simp, ⟨List.Pairwise.nil, by simp, by simp, by simp⟩, by simp [← h]⟩
  | cons candle rest ih =>
    simp only [validChildrenFrom, then_ok_iff, whenSome_ok_iff, failIf_ok_iff, not_or, not_lt,
      not_le, ne_eq, not_not] at h
    obtain ⟨hprevious, ⟨hstart, hcutoff⟩, haligned, htail⟩ := h
    obtain ⟨tail, htail, hresult⟩ := bind_ok_iff.mp htail
    rw [pure_ok_iff] at hresult
    obtain ⟨hafter, hrest, htailEq⟩ := ih htail
    have hlater : ∀ child ∈ rest, candle.openEpoch < child.openEpoch := hafter _ rfl
    refine ⟨?_, ⟨?_, ?_, ?_, ?_⟩, ?_⟩
    · intro p hp child hchild
      have hfirst := hprevious p hp
      obtain rfl | hmem := List.mem_cons.mp hchild
      · exact hfirst
      · exact hfirst.trans (hlater child hmem)
    · exact List.Pairwise.cons hlater hrest.increasing
    · exact List.forall_mem_cons.mpr ⟨hstart, hrest.start⟩
    · exact List.forall_mem_cons.mpr ⟨hcutoff, hrest.cutoff⟩
    · exact List.forall_mem_cons.mpr ⟨haligned, hrest.aligned⟩
    · rw [← hresult, List.filter_cons, htailEq]

theorem ordered_of_valid (h : validChildrenByOpen request = .ok children) :
    request.Ordered request.children :=
  (validChildrenFrom_ok h).2.1

theorem eq_filter_of_valid (h : validChildrenByOpen request = .ok children) :
    children = request.children.filter request.spans :=
  (validChildrenFrom_ok h).2.2

/-! ## Intervals -/

namespace HTFFlipScanRequest

theorem resolution_mul_expectedCount (request : HTFFlipScanRequest) :
    request.proofResolutionSeconds * request.expectedCount =
      request.scanCutoffEpoch - request.htfOpenEpoch :=
  Int.mul_ediv_cancel' (Int.dvd_of_emod_eq_zero request.completed.aligned)

theorem expectedCount_pos (request : HTFFlipScanRequest) : 0 < request.expectedCount := by
  have hproduct := request.resolution_mul_expectedCount
  have hcoverage := request.completed.nonempty
  by_contra hcount
  have := Int.mul_nonpos_of_nonneg_of_nonpos request.completed.resolution.le (not_lt.mp hcount)
  omega

/-- A child opens at its interval. -/
theorem Ordered.openEpoch_eq (h : request.Ordered children) {child : OrderedCandle}
    (hchild : child ∈ children) : child.openEpoch = request.openAt (request.index child) := by
  have hstart := h.start child hchild
  have hquotient :
      0 ≤ (child.openEpoch - request.htfOpenEpoch) / request.proofResolutionSeconds :=
    Int.ediv_nonneg (by omega) request.completed.resolution.le
  have hproduct := Int.ediv_mul_cancel (Int.dvd_of_emod_eq_zero (h.aligned child hchild))
  rw [openAt, index, Int.toNat_of_nonneg hquotient]
  omega

theorem Ordered.index_lt (h : request.Ordered children) {child : OrderedCandle}
    (hchild : child ∈ children) : (request.index child : Int) < request.expectedCount := by
  have hopen := h.openEpoch_eq hchild
  have hcutoff := h.cutoff child hchild
  have hincreasing := child.increasing
  have hproduct := request.resolution_mul_expectedCount
  have hresolution := request.completed.resolution
  rw [openAt] at hopen
  have hlt : request.proofResolutionSeconds * request.index child <
      request.proofResolutionSeconds * request.expectedCount := by
    rw [hproduct, Int.mul_comm]
    omega
  exact Int.lt_of_mul_lt_mul_left hlt hresolution.le

theorem openAt_lt_openAt {i j : Nat} : request.openAt i < request.openAt j ↔ i < j := by
  unfold openAt
  rw [Int.add_lt_add_iff_left, Int.mul_lt_mul_right request.completed.resolution]
  exact Int.ofNat_lt

theorem openAt_injective : Function.Injective request.openAt := by
  intro i j h
  by_contra hne
  obtain hlt | hlt := Nat.lt_or_gt_of_ne hne
  · exact (openAt_lt_openAt.mpr hlt).ne h
  · exact (openAt_lt_openAt.mpr hlt).ne h.symm

theorem Ordered.filter (h : request.Ordered children) (p : OrderedCandle → Bool) :
    request.Ordered (children.filter p) where
  increasing := h.increasing.filter p
  start child hchild := h.start child (List.mem_of_mem_filter hchild)
  cutoff child hchild := h.cutoff child (List.mem_of_mem_filter hchild)
  aligned child hchild := h.aligned child (List.mem_of_mem_filter hchild)

theorem Ordered.indices_increasing (h : request.Ordered children) :
    (children.map request.index).Pairwise (· < ·) := by
  rw [List.pairwise_map]
  refine h.increasing.imp_of_mem fun hleft hright hlt => ?_
  rw [h.openEpoch_eq hleft, h.openEpoch_eq hright] at hlt
  exact openAt_lt_openAt.mp hlt

theorem Ordered.eq_of_openEpoch_eq (h : request.Ordered children) {a b : OrderedCandle}
    (ha : a ∈ children) (hb : b ∈ children) (heq : a.openEpoch = b.openEpoch) : a = b := by
  have hnodup : (children.map (·.openEpoch)).Nodup :=
    List.pairwise_map.mpr (h.increasing.imp ne_of_lt)
  exact List.inj_on_of_nodup_map hnodup ha hb heq

theorem childAt_eq_some {index : Nat} {child : OrderedCandle}
    (h : request.childAt children index = some child) :
    child ∈ children ∧ child.openEpoch = request.openAt index := by
  have hopen := List.find?_some h
  exact ⟨List.mem_of_find?_eq_some h, of_decide_eq_true hopen⟩

theorem childAt_eq_none {index : Nat} :
    request.childAt children index = none ↔
      ∀ child ∈ children, child.openEpoch ≠ request.openAt index := by
  simp [childAt]

/-- A child is found at its index. -/
theorem Ordered.childAt_index (h : request.Ordered children) {child : OrderedCandle}
    (hchild : child ∈ children) :
    request.childAt children (request.index child) = some child := by
  have hopen := h.openEpoch_eq hchild
  cases hfind : request.childAt children (request.index child) with
  | none => exact absurd hopen (childAt_eq_none.mp hfind child hchild)
  | some found =>
    obtain ⟨hmem, hfound⟩ := childAt_eq_some hfind
    rw [h.eq_of_openEpoch_eq hmem hchild (hfound.trans hopen.symm)]

/-! ## Counts -/

theorem Ordered.indices_subset (h : request.Ordered children) :
    children.map request.index ⊆ List.range request.expectedCount.toNat := by
  intro i hi
  obtain ⟨child, hchild, rfl⟩ := List.mem_map.mp hi
  have := h.index_lt hchild
  rw [List.mem_range]
  omega

theorem Ordered.indices_subperm (h : request.Ordered children) :
    (children.map request.index).Subperm (List.range request.expectedCount.toNat) :=
  List.Nodup.subperm (h.indices_increasing.imp ne_of_lt) h.indices_subset

theorem Ordered.length_le (h : request.Ordered children) :
    (children.length : Int) ≤ request.expectedCount := by
  have hle := h.indices_subperm.length_le
  have := request.expectedCount_pos
  rw [List.length_map, List.length_range] at hle
  omega

/-- As many children as intervals: they fill the intervals in order. -/
theorem Ordered.indices_eq_range (h : request.Ordered children)
    (hcount : (children.length : Int) = request.expectedCount) :
    children.map request.index = List.range request.expectedCount.toNat := by
  have hperm := h.indices_subperm.perm_of_length_le (by simp; omega)
  exact hperm.eq_of_pairwise (fun a b _ _ hab hba => absurd hab (lt_asymm hba))
    h.indices_increasing List.pairwise_lt_range

/-- As many children as intervals: the scan sees every child, in order. -/
theorem Ordered.rounds_eq (h : request.Ordered children)
    (hcount : (children.length : Int) = request.expectedCount) :
    (List.range request.expectedCount.toNat).map (request.childAt children) =
      children.map some := by
  rw [← h.indices_eq_range hcount, List.map_map]
  exact List.map_congr_left fun child hchild => h.childAt_index hchild

end HTFFlipScanRequest

section Valid

variable (h : validChildrenByOpen request = .ok children)
include h

theorem ordered_children_of_valid : request.Ordered children := by
  rw [eq_filter_of_valid h]
  exact (ordered_of_valid h).filter request.spans

theorem spans_of_valid {child : OrderedCandle} (hchild : child ∈ children) :
    child.closeEpoch = child.openEpoch + request.proofResolutionSeconds := by
  rw [eq_filter_of_valid h] at hchild
  have hspans := of_decide_eq_true (List.mem_filter.mp hchild).2
  omega

/-- The counts agree exactly when every expected child is there. -/
theorem length_eq_iff_allPresent :
    (children.length : Int) = request.expectedCount ↔ request.AllPresent := by
  have hordered := ordered_children_of_valid h
  have hpos := request.expectedCount_pos
  constructor
  · intro hcount index hindex
    have hmem : index ∈ children.map request.index := by
      rw [hordered.indices_eq_range hcount, List.mem_range]
      omega
    obtain ⟨child, hchild, rfl⟩ := List.mem_map.mp hmem
    refine ⟨child, ?_, hordered.openEpoch_eq hchild, spans_of_valid h hchild⟩
    rw [eq_filter_of_valid h] at hchild
    exact List.mem_of_mem_filter hchild
  · intro hall
    -- every index is that of a child, so there are no fewer children than intervals
    have hsubset : List.range request.expectedCount.toNat ⊆ children.map request.index := by
      intro index hindex
      rw [List.mem_range] at hindex
      obtain ⟨child, hchild, hopen, hclose⟩ := hall index (by omega)
      have hmem : child ∈ children := by
        rw [eq_filter_of_valid h, List.mem_filter]
        exact ⟨hchild, decide_eq_true (by omega)⟩
      rw [hordered.openEpoch_eq hmem] at hopen
      rw [← openAt_injective hopen]
      exact List.mem_map_of_mem hmem
    have hle := (List.nodup_range.subperm hsubset).length_le
    have := hordered.length_le
    rw [List.length_map, List.length_range] at hle
    omega

/-- When every expected child is there, no child is of another size. -/
theorem eq_of_allPresent (hall : request.AllPresent) : children = request.children := by
  have hordered := ordered_of_valid h
  rw [eq_filter_of_valid h, List.filter_eq_self]
  intro child hchild
  obtain ⟨other, hother, hopen, hclose⟩ := hall _ (hordered.index_lt hchild)
  rw [← hordered.openEpoch_eq hchild] at hopen
  have heq := hordered.eq_of_openEpoch_eq hother hchild hopen
  rw [heq] at hclose
  exact decide_eq_true (by omega)

end Valid

end TradeOps.EntryModels
