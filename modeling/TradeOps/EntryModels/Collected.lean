import TradeOps.EntryModels.ArbitratorPy

/-!
# What the collected triggers are

Both arbitrators collect, for every active candidate, its least exact evidence and its earliest
trigger without exact evidence. The TypeScript loop replaces what it holds, Python groups and takes
the minimum; `CollectedFor` says what they hold in the end, through the members of the list only.
-/

namespace TradeOps.EntryModels

open Keyed SortBy

/-- Exact evidence of the candidate. -/
structure IsExactOf (evidence : List EntryCandidateEvidence) (candidate : EntryCandidate)
    (item : EntryCandidateEvidence) : Prop where
  mem : item ∈ evidence
  owner : item.candidateId = candidate.candidateId
  eligible : isExactEligible item = true

/-- The evidence gives the candidate a trigger that is neither exact nor seen in realtime only. -/
structure GivesNonExactTrigger (candidate : EntryCandidate) (item : EntryCandidateEvidence)
    (trigger : Int) : Prop where
  owner : item.candidateId = candidate.candidateId
  notExact : isExactEligible item = false
  plane : item.proofPlane ≠ .realtimeTick
  trigger : item.observedTriggerEpoch = some trigger

def IsNonExactTrigger (evidence : List EntryCandidateEvidence) (candidate : EntryCandidate)
    (trigger : Int) : Prop :=
  ∃ item ∈ evidence, GivesNonExactTrigger candidate item trigger

/-- What is held for one candidate once the evidence has been gone through. -/
structure CollectedFor (evidence : List EntryCandidateEvidence) (triggers : Triggers)
    (candidate : EntryCandidate) : Prop where
  exact : HoldsLeast exactEvidenceRank (triggers.exactEvidence candidate.candidateId)
    (IsExactOf evidence candidate)
  nonExact : HoldsLeast id (triggers.nonExactTrigger candidate.candidateId)
    (IsNonExactTrigger evidence candidate)

/-! ## One more record -/

section Append

variable {evidence : List EntryCandidateEvidence} {candidate : EntryCandidate}
  {item : EntryCandidateEvidence}

theorem isExactOf_append_iff {other : EntryCandidateEvidence} :
    IsExactOf (evidence ++ [item]) candidate other ↔
      IsExactOf evidence candidate other ∨ other = item ∧ IsExactOf [item] candidate item := by
  constructor
  · rintro ⟨hmem, howner, heligible⟩
    obtain hmem | hmem := List.mem_append.mp hmem
    · exact .inl ⟨hmem, howner, heligible⟩
    · obtain rfl := List.mem_singleton.mp hmem
      exact .inr ⟨rfl, hmem, howner, heligible⟩
  · rintro (⟨hmem, howner, heligible⟩ | ⟨rfl, hmem, howner, heligible⟩)
    · exact ⟨List.mem_append_left _ hmem, howner, heligible⟩
    · exact ⟨List.mem_append_right _ hmem, howner, heligible⟩

theorem isNonExactTrigger_append_iff {trigger : Int} :
    IsNonExactTrigger (evidence ++ [item]) candidate trigger ↔
      IsNonExactTrigger evidence candidate trigger ∨
        GivesNonExactTrigger candidate item trigger := by
  unfold IsNonExactTrigger
  simp [List.mem_append, or_and_right, exists_or]

/-- Evidence that is not exact for the candidate leaves what is held. -/
theorem holdsLeast_exact_append {held : Option EntryCandidateEvidence}
    (h : HoldsLeast exactEvidenceRank held (IsExactOf evidence candidate))
    (hitem : ¬ IsExactOf [item] candidate item) :
    HoldsLeast exactEvidenceRank held (IsExactOf (evidence ++ [item]) candidate) :=
  h.congr fun other => by
    rw [isExactOf_append_iff]
    exact ⟨.inl, fun hor => hor.resolve_right fun hright => hitem hright.2⟩

theorem holdsLeast_nonExact_append {held : Option Int}
    (h : HoldsLeast id held (IsNonExactTrigger evidence candidate))
    (hitem : ∀ trigger, ¬ GivesNonExactTrigger candidate item trigger) :
    HoldsLeast id held (IsNonExactTrigger (evidence ++ [item]) candidate) :=
  h.congr fun trigger => by
    rw [isNonExactTrigger_append_iff]
    exact ⟨.inl, fun hor => hor.resolve_right (hitem trigger)⟩

/-- A trigger that is kept when it counts. -/
theorem holdsLeast_keepTrigger {held : String → Option Int} {trigger : Int}
    (h : HoldsLeast id (held candidate.candidateId) (IsNonExactTrigger evidence candidate))
    (hplane : item.proofPlane ≠ .realtimeTick) (hnotExact : isExactEligible item = false)
    (htrigger : item.observedTriggerEpoch = some trigger) :
    HoldsLeast id (keepLeast id held item.candidateId trigger candidate.candidateId)
      (IsNonExactTrigger (evidence ++ [item]) candidate) := by
  by_cases howner : item.candidateId = candidate.candidateId
  · rw [howner]
    refine (h.keep trigger).congr fun other => ?_
    rw [isNonExactTrigger_append_iff]
    refine or_congr_right ⟨?_, ?_⟩
    · rintro rfl
      exact ⟨howner, hnotExact, hplane, htrigger⟩
    · intro hgives
      exact Option.some.inj (hgives.trigger.symm.trans htrigger)
  · rw [keepLeast_of_ne (Ne.symm howner)]
    exact holdsLeast_nonExact_append h fun trigger hgives => howner hgives.owner

end Append

/-! ## The TypeScript loop -/

section Loop

variable {active : List EntryCandidate} {evidence : List EntryCandidateEvidence}
  {candidate : EntryCandidate} {triggers : Triggers}

/-- One round of the loop. -/
theorem CollectedFor.collectTriggers (h : CollectedFor evidence triggers candidate)
    (hactive : candidate ∈ active) (item : EntryCandidateEvidence) :
    CollectedFor (evidence ++ [item]) (collectTriggers active triggers item) candidate := by
  unfold EntryModels.collectTriggers
  split_ifs with hforeign hexact hplane
  · have howner : item.candidateId ≠ candidate.candidateId :=
      fun howner => hforeign candidate hactive howner.symm
    exact ⟨holdsLeast_exact_append h.exact fun hitem => howner hitem.owner,
      holdsLeast_nonExact_append h.nonExact fun _ hgives => howner hgives.owner⟩
  · refine ⟨?_, holdsLeast_nonExact_append h.nonExact fun _ hgives => ?_⟩
    · by_cases howner : item.candidateId = candidate.candidateId
      · dsimp only
        rw [howner]
        refine (h.exact.keep item).congr fun other => ?_
        rw [isExactOf_append_iff]
        refine or_congr_right ⟨fun heq => ⟨heq, ?_⟩, fun hright => hright.1⟩
        exact ⟨List.mem_singleton.mpr rfl, howner, hexact⟩
      · dsimp only
        rw [keepLeast_of_ne (Ne.symm howner)]
        exact holdsLeast_exact_append h.exact fun hitem => howner hitem.owner
    · exact absurd hexact (by simp [hgives.notExact])
  · exact ⟨holdsLeast_exact_append h.exact fun hitem => hexact hitem.eligible,
      holdsLeast_nonExact_append h.nonExact fun _ hgives => hgives.plane hplane⟩
  · have hkept : HoldsLeast exactEvidenceRank (triggers.exactEvidence candidate.candidateId)
        (IsExactOf (evidence ++ [item]) candidate) :=
      holdsLeast_exact_append h.exact fun hitem => hexact hitem.eligible
    cases htrigger : item.observedTriggerEpoch with
    | none =>
      refine ⟨hkept, holdsLeast_nonExact_append h.nonExact fun _ hgives => ?_⟩
      exact absurd hgives.trigger (by simp [htrigger])
    | some trigger =>
      exact ⟨hkept, holdsLeast_keepTrigger h.nonExact hplane
        (Bool.eq_false_iff.mpr hexact) htrigger⟩

theorem collectedFor_triggersOf (hactive : candidate ∈ active)
    (evidence : List EntryCandidateEvidence) :
    CollectedFor evidence (triggersOf active evidence) candidate := by
  induction evidence using List.reverseRecOn with
  | nil =>
    exact ⟨fun item hitem => by simpa using hitem.mem,
      fun trigger ⟨item, hmem, _⟩ => by simp at hmem⟩
  | append_singleton evidence item ih =>
    unfold triggersOf
    rw [List.foldl_append]
    exact ih.collectTriggers hactive item

end Loop

/-! ## The groups and the loop of Python -/

namespace Py

variable {active : List EntryCandidate} {evidence : List EntryCandidateEvidence}
  {candidate : EntryCandidate}

theorem holdsLeast_canonicalExactEvidence (hactive : candidate ∈ active) :
    HoldsLeast exactEvidenceRank (canonicalExactEvidence active evidence candidate.candidateId)
      (IsExactOf evidence candidate) := by
  have hgroups := groupBy_spec (·.candidateId) (evidence.filter fun item =>
    item.candidateId ∈ active.map (·.candidateId) ∧ isExactEligible item)
  have hmem : ∀ item, IsExactOf evidence candidate item ↔
      item ∈ (evidence.filter fun item =>
        item.candidateId ∈ active.map (·.candidateId) ∧ isExactEligible item) ∧
      item.candidateId = candidate.candidateId := by
    intro item
    rw [List.mem_filter, decide_eq_true_iff]
    constructor
    · intro h
      exact ⟨⟨h.mem, h.owner ▸ List.mem_map_of_mem hactive, h.eligible⟩, h.owner⟩
    · rintro ⟨⟨hmem, -, heligible⟩, howner⟩
      exact ⟨hmem, howner, heligible⟩
  unfold canonicalExactEvidence
  dsimp only
  generalize groupBy (·.candidateId) (evidence.filter fun item =>
    item.candidateId ∈ active.map (·.candidateId) ∧ isExactEligible item) = groups at hgroups
  cases hlookup : lookup Prod.fst groups candidate.candidateId with
  | none =>
    intro item hitem
    obtain ⟨hfiltered, howner⟩ := (hmem item).mp hitem
    obtain ⟨group, hgroup, hkey⟩ := List.mem_map.mp (hgroups.cover item hfiltered)
    exact lookup_none.mp hlookup group hgroup (hkey.trans howner)
  | some group =>
    obtain ⟨hgroup, hkey⟩ := lookup_some hlookup
    refine (holdsLeast_minBy group.2).congr fun item => ?_
    rw [hgroups.mem group hgroup, hkey, hmem]

theorem holdsLeast_earliestNonexactTrigger (evidence : List EntryCandidateEvidence) :
    HoldsLeast id (earliestNonexactTrigger evidence candidate.candidateId)
      (IsNonExactTrigger evidence candidate) := by
  induction evidence using List.reverseRecOn with
  | nil => exact fun trigger ⟨item, hmem, _⟩ => by simp at hmem
  | append_singleton evidence item ih =>
    unfold earliestNonexactTrigger at ih ⊢
    rw [List.foldl_append, List.foldl_cons, List.foldl_nil, collectNonexactTrigger]
    cases htrigger : item.observedTriggerEpoch with
    | none =>
      refine holdsLeast_nonExact_append ih fun _ hgives => ?_
      exact absurd hgives.trigger (by simp [htrigger])
    | some trigger =>
      dsimp only
      split_ifs with hskip
      · refine holdsLeast_nonExact_append ih fun _ hgives => ?_
        obtain hplane | hexact := hskip
        · exact hgives.plane hplane
        · exact absurd hexact (by simp [hgives.notExact])
      · rw [not_or] at hskip
        exact holdsLeast_keepTrigger ih hskip.1 (Bool.eq_false_iff.mpr hskip.2) htrigger

theorem collectedFor_triggersOf (hactive : candidate ∈ active)
    (evidence : List EntryCandidateEvidence) :
    CollectedFor evidence (triggersOf active evidence) candidate :=
  ⟨holdsLeast_canonicalExactEvidence hactive, holdsLeast_earliestNonexactTrigger evidence⟩

end Py

end TradeOps.EntryModels
