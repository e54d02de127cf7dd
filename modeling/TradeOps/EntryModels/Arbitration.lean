import TradeOps.EntryModels.Collected

/-!
# What the arbitration decides

The decision, described through the records of the request: when there is a fallback to a confirmed
close, which candidates have the earliest exact trigger, and when the selection is eligible. The
description mentions the lists through their members only.
-/

namespace TradeOps.EntryModels

open Keyed SortBy

/-! ## The specification -/

/-- The candidate takes part in the arbitration. -/
def IsActive (candidates : List EntryCandidate) (candidate : EntryCandidate) : Prop :=
  candidate ∈ candidates ∧ candidate.isActive = true

/-- The earliest exact trigger of the candidate. -/
structure IsExactTrigger (evidence : List EntryCandidateEvidence) (candidate : EntryCandidate)
    (trigger : Int) : Prop where
  attained : ∃ item, IsExactOf evidence candidate item ∧ item.observedTriggerEpoch = some trigger
  least : ∀ item other, IsExactOf evidence candidate item →
    item.observedTriggerEpoch = some other → trigger ≤ other

/-- The candidate has exact evidence, and no active candidate triggers exactly before it. -/
structure IsEarliestExact (candidates : List EntryCandidate)
    (evidence : List EntryCandidateEvidence) (candidate : EntryCandidate) : Prop where
  active : IsActive candidates candidate
  earliest : ∃ trigger, IsExactTrigger evidence candidate trigger ∧
    ∀ other otherTrigger, IsActive candidates other →
      IsExactTrigger evidence other otherTrigger → trigger ≤ otherTrigger

/-- The candidates at the earliest exact trigger are of one model. -/
def OneEarliestModel (candidates : List EntryCandidate) (evidence : List EntryCandidateEvidence) :
    Prop :=
  ∀ candidate other, IsEarliestExact candidates evidence candidate →
    IsEarliestExact candidates evidence other → candidate.model = other.model

/-- A flip without exact evidence triggers before `bound`. -/
def EarlierFlip (candidates : List EntryCandidate) (evidence : List EntryCandidateEvidence)
    (bound : Int) : Prop :=
  ∃ flip trigger, IsActive candidates flip ∧ flip.model = .htfFlip ∧
    (∀ item, ¬ IsExactOf evidence flip item) ∧ IsNonExactTrigger evidence flip trigger ∧
    trigger < bound

/-- The earliest exact directional close, by trigger and identifier, comes after a flip without
exact evidence. -/
structure IsFallback (candidates : List EntryCandidate) (evidence : List EntryCandidateEvidence)
    (close : EntryCandidate) : Prop where
  active : IsActive candidates close
  model : close.model = .dirClose
  earliest : ∃ trigger, IsExactTrigger evidence close trigger ∧
    (∀ other otherTrigger, IsActive candidates other → other.model = .dirClose →
      IsExactTrigger evidence other otherTrigger →
      toLex (trigger, close.candidateId) ≤ toLex (otherTrigger, other.candidateId)) ∧
    EarlierFlip candidates evidence trigger

/-- The least exact evidence of the candidate. -/
structure IsCanonicalEvidence (evidence : List EntryCandidateEvidence) (candidate : EntryCandidate)
    (item : EntryCandidateEvidence) : Prop where
  exact : IsExactOf evidence candidate item
  least : ∀ other, IsExactOf evidence candidate other →
    exactEvidenceRank item ≤ exactEvidenceRank other

/-- What is decided in each case. -/
inductive Decided (candidates : List EntryCandidate) (evidence : List EntryCandidateEvidence) :
    Bool → Decision → Prop
  | invalidated : Decided candidates evidence true ⟨none, none, .none, .setupInvalidated⟩
  | noCandidate (h : ∀ candidate, ¬ IsActive candidates candidate) :
    Decided candidates evidence false ⟨none, none, .none, .noCandidate⟩
  | noExact (h : ∀ candidate, IsActive candidates candidate →
      ∀ item, ¬ IsExactOf evidence candidate item) :
    Decided candidates evidence false ⟨none, none, .shadowOnly, .noExactCandidate⟩
  | fallback {close : EntryCandidate} {item : EntryCandidateEvidence}
      (h : IsFallback candidates evidence close) (hitem : IsCanonicalEvidence evidence close item) :
    Decided candidates evidence false
      ⟨some close, some item, .paperEligible, .fallbackToConfirmedClose⟩
  | earliest {candidate : EntryCandidate} {item : EntryCandidateEvidence} {reason : SelectionReason}
      (hno : ∀ close, ¬ IsFallback candidates evidence close)
      (h : IsEarliestExact candidates evidence candidate)
      (hone : OneEarliestModel candidates evidence)
      (hitem : IsCanonicalEvidence evidence candidate item) :
    Decided candidates evidence false ⟨some candidate, some item, .paperEligible, reason⟩
  | ambiguous (hno : ∀ close, ¬ IsFallback candidates evidence close)
      (h : ¬ OneEarliestModel candidates evidence) :
    Decided candidates evidence false ⟨none, none, .shadowOnly, .unresolvedSourcePriority⟩

/-! ## The collected triggers -/

section Collected

variable {evidence : List EntryCandidateEvidence} {triggers : Triggers} {candidate : EntryCandidate}

theorem exactEvidence_isSome_iff (h : CollectedFor evidence triggers candidate) :
    (triggers.exactEvidence candidate.candidateId).isSome = true ↔
      ∃ item, IsExactOf evidence candidate item := by
  have hexact := h.exact
  cases hheld : triggers.exactEvidence candidate.candidateId with
  | none =>
    rw [hheld] at hexact
    simpa using hexact.of_none
  | some item =>
    rw [hheld] at hexact
    simpa using ⟨item, hexact.of_some.1⟩

/-- The trigger of the least exact evidence is the earliest exact trigger. -/
theorem isExactTrigger_iff (h : CollectedFor evidence triggers candidate) {trigger : Int} :
    IsExactTrigger evidence candidate trigger ↔
      (∃ item, IsExactOf evidence candidate item) ∧
        trigger = exactTrigger triggers.exactEvidence candidate := by
  have hexact := h.exact
  unfold exactTrigger
  cases hheld : triggers.exactEvidence candidate.candidateId with
  | none =>
    rw [hheld] at hexact
    constructor
    · rintro ⟨⟨item, hitem, -⟩, -⟩
      exact absurd hitem (hexact.of_none item)
    · rintro ⟨⟨item, hitem⟩, -⟩
      exact absurd hitem (hexact.of_none item)
  | some held =>
    rw [hheld] at hexact
    obtain ⟨hheldExact, hleast⟩ := hexact.of_some
    obtain ⟨heldTrigger, hheldTrigger⟩ := trigger_of_isExactEligible hheldExact.eligible
    have hfirst : ∀ item other, IsExactOf evidence candidate item →
        item.observedTriggerEpoch = some other → heldTrigger ≤ other := by
      intro item other hitem hother
      have hrank := hleast item hitem
      unfold exactEvidenceRank at hrank
      rw [hheldTrigger, hother, Prod.Lex.toLex_le_toLex] at hrank
      exact hrank.elim le_of_lt fun heq => le_of_eq heq.1
    simp only [Option.bind_some, hheldTrigger, Option.getD_some]
    constructor
    · rintro ⟨⟨item, hitem, htrigger⟩, hmin⟩
      exact ⟨⟨item, hitem⟩, le_antisymm (hmin held heldTrigger hheldExact hheldTrigger)
        (hfirst item trigger hitem htrigger)⟩
    · rintro ⟨-, rfl⟩
      exact ⟨⟨held, hheldExact, hheldTrigger⟩, hfirst⟩

end Collected

/-- The active candidates and what was collected for them. -/
structure Collected (candidates : List EntryCandidate) (evidence : List EntryCandidateEvidence)
    (active : List EntryCandidate) (triggers : Triggers) : Prop where
  active : ∀ candidate, candidate ∈ active ↔ IsActive candidates candidate
  triggers : ∀ candidate, IsActive candidates candidate → CollectedFor evidence triggers candidate

/-! ## The exact candidates -/

section Exact

variable {candidates active : List EntryCandidate} {evidence : List EntryCandidateEvidence}
  {triggers : Triggers}

/-- Candidates of one model compare by trigger and identifier. -/
theorem exactCandidateRank_le_iff {close other : EntryCandidate}
    (hmodel : close.model = other.model) :
    exactCandidateRank triggers.exactEvidence close ≤
        exactCandidateRank triggers.exactEvidence other ↔
      toLex (exactTrigger triggers.exactEvidence close, close.candidateId) ≤
        toLex (exactTrigger triggers.exactEvidence other, other.candidateId) := by
  unfold exactCandidateRank
  rw [hmodel]
  simp only [Prod.Lex.toLex_le_toLex, lt_irrefl, false_or, true_and]

variable (hkeys : Consistent (·.candidateId) candidates)
  (hcollected : Collected candidates evidence active triggers)

include hcollected

theorem mem_exactCandidates {candidate : EntryCandidate} :
    candidate ∈ exactCandidates active triggers ↔
      IsActive candidates candidate ∧ ∃ item, IsExactOf evidence candidate item := by
  unfold exactCandidates
  rw [mem_sortBy, List.mem_filter, hcollected.active]
  exact and_congr_right fun hc => exactEvidence_isSome_iff (hcollected.triggers candidate hc)

theorem isExactTrigger_of_mem {candidate : EntryCandidate}
    (h : candidate ∈ exactCandidates active triggers) :
    IsExactTrigger evidence candidate (exactTrigger triggers.exactEvidence candidate) := by
  obtain ⟨hactive, hitem⟩ := (mem_exactCandidates hcollected).mp h
  exact (isExactTrigger_iff (hcollected.triggers candidate hactive)).mpr ⟨hitem, rfl⟩

theorem mem_exactCandidates_of_trigger {candidate : EntryCandidate} {trigger : Int}
    (hactive : IsActive candidates candidate) (h : IsExactTrigger evidence candidate trigger) :
    candidate ∈ exactCandidates active triggers ∧
      exactTrigger triggers.exactEvidence candidate = trigger := by
  obtain ⟨hitem, heq⟩ := (isExactTrigger_iff (hcollected.triggers candidate hactive)).mp h
  exact ⟨(mem_exactCandidates hcollected).mpr ⟨hactive, hitem⟩, heq.symm⟩

/-! ## The fallback -/

theorem hasEarlierNonExactFlip_iff {close : EntryCandidate} :
    hasEarlierNonExactFlip active triggers close = true ↔
      EarlierFlip candidates evidence (exactTrigger triggers.exactEvidence close) := by
  unfold hasEarlierNonExactFlip EarlierFlip
  rw [List.any_eq_true]
  constructor
  · rintro ⟨flip, hmem, hflip⟩
    obtain ⟨hmodel, hnone, hearlier⟩ := of_decide_eq_true hflip
    have hactive := (hcollected.active flip).mp hmem
    have hfor := hcollected.triggers flip hactive
    have hnoExact := hfor.exact
    rw [hnone] at hnoExact
    obtain ⟨trigger, htrigger, hlt⟩ := hfor.nonExact.exists_lt_iff.mp hearlier
    exact ⟨flip, trigger, hactive, hmodel, hnoExact.of_none, htrigger, hlt⟩
  · rintro ⟨flip, trigger, hactive, hmodel, hnoExact, htrigger, hlt⟩
    have hfor := hcollected.triggers flip hactive
    refine ⟨flip, (hcollected.active flip).mpr hactive, decide_eq_true ⟨hmodel, ?_, ?_⟩⟩
    · rw [← Option.not_isSome_iff_eq_none, exactEvidence_isSome_iff hfor]
      exact fun ⟨item, hitem⟩ => hnoExact item hitem
    · exact hfor.nonExact.exists_lt_iff.mpr ⟨trigger, htrigger, hlt⟩

include hkeys

theorem fallback_iff {close : EntryCandidate} :
    ((exactCandidates active triggers).find? (·.model = .dirClose)).filter
        (hasEarlierNonExactFlip active triggers) = some close ↔
      IsFallback candidates evidence close := by
  rw [Option.filter_eq_some_iff]
  constructor
  · rintro ⟨hfind, hflip⟩
    have hmem := List.mem_of_find?_eq_some hfind
    have hmodel : close.model = .dirClose := by
      have hsome := List.find?_some hfind
      exact of_decide_eq_true hsome
    refine ⟨((mem_exactCandidates hcollected).mp hmem).1, hmodel, _,
      isExactTrigger_of_mem hcollected hmem, ?_, (hasEarlierNonExactFlip_iff hcollected).mp hflip⟩
    intro other trigger hactive hother htrigger
    obtain ⟨hotherMem, rfl⟩ := mem_exactCandidates_of_trigger hcollected hactive htrigger
    rw [← exactCandidateRank_le_iff (hmodel.trans hother.symm)]
    exact find?_sortBy_le _ hfind ((mem_sortBy _).mp hotherMem) (decide_eq_true hother)
  · rintro ⟨hactive, hmodel, trigger, htrigger, hleast, hflip⟩
    obtain ⟨hmem, rfl⟩ := mem_exactCandidates_of_trigger hcollected hactive htrigger
    refine ⟨?_, (hasEarlierNonExactFlip_iff hcollected).mpr hflip⟩
    cases hfind : (exactCandidates active triggers).find? (·.model = .dirClose) with
    | none => exact absurd hmodel (by simpa using List.find?_eq_none.mp hfind close hmem)
    | some found =>
      have hfoundMem := List.mem_of_find?_eq_some hfind
      have hfoundModel : found.model = .dirClose := by
        have hsome := List.find?_some hfind
        exact of_decide_eq_true hsome
      have hfoundActive := ((mem_exactCandidates hcollected).mp hfoundMem).1
      have hle := find?_sortBy_le _ hfind ((mem_sortBy _).mp hmem) (decide_eq_true hmodel)
      have hge := hleast found _ hfoundActive hfoundModel
        (isExactTrigger_of_mem hcollected hfoundMem)
      rw [exactCandidateRank_le_iff (hfoundModel.trans hmodel.symm)] at hle
      have hid := congrArg (fun rank => (ofLex rank).2) (le_antisymm hle hge)
      rw [hkeys found hfoundActive.1 close hactive.1 hid]

omit hkeys

/-! ## The first exact candidates -/

section First

variable {first : EntryCandidate} {rest : List EntryCandidate}
  (hexact : exactCandidates active triggers = first :: rest)

include hexact

theorem isEarliestExact_iff {candidate : EntryCandidate} :
    IsEarliestExact candidates evidence candidate ↔ candidate ∈ first :: rest ∧
      exactTrigger triggers.exactEvidence candidate =
        exactTrigger triggers.exactEvidence first := by
  have hmemIff : ∀ c, c ∈ first :: rest ↔
      IsActive candidates c ∧ ∃ item, IsExactOf evidence c item := by
    intro c
    rw [← hexact]
    exact mem_exactCandidates hcollected
  have hfirstMem : first ∈ exactCandidates active triggers := by
    rw [hexact]
    exact List.mem_cons_self
  have hfirst : ∀ c ∈ exactCandidates active triggers,
      exactTrigger triggers.exactEvidence first ≤ exactTrigger triggers.exactEvidence c := by
    intro c hc
    have hrank := sortBy_head_le _ hexact ((mem_sortBy _).mp hc)
    unfold exactCandidateRank at hrank
    rw [Prod.Lex.toLex_le_toLex] at hrank
    exact hrank.elim le_of_lt fun heq => le_of_eq heq.1
  rw [hmemIff]
  constructor
  · rintro ⟨hactive, trigger, htrigger, hleast⟩
    obtain ⟨hmem, rfl⟩ := mem_exactCandidates_of_trigger hcollected hactive htrigger
    refine ⟨(mem_exactCandidates hcollected).mp hmem, le_antisymm ?_ (hfirst candidate hmem)⟩
    exact hleast first _ ((mem_exactCandidates hcollected).mp hfirstMem).1
      (isExactTrigger_of_mem hcollected hfirstMem)
  · rintro ⟨hfacts, htrigger⟩
    have hmem := (mem_exactCandidates hcollected).mpr hfacts
    refine ⟨hfacts.1, _, isExactTrigger_of_mem hcollected hmem, ?_⟩
    intro other otherTrigger hother hotherTrigger
    obtain ⟨hotherMem, rfl⟩ := mem_exactCandidates_of_trigger hcollected hother hotherTrigger
    rw [htrigger]
    exact hfirst other hotherMem

theorem isEarliestExact_first : IsEarliestExact candidates evidence first :=
  (isEarliestExact_iff hcollected hexact).mpr ⟨List.mem_cons_self, rfl⟩

theorem ambiguous_iff :
    (earliestModels triggers first (first :: rest)).length > 1 ↔
      ¬ OneEarliestModel candidates evidence := by
  unfold earliestModels OneEarliestModel
  rw [gt_iff_lt, one_lt_length_dedup_iff]
  simp only [isEarliestExact_iff hcollected hexact, List.mem_map, List.mem_filter,
    decide_eq_true_iff]
  constructor
  · rintro ⟨_, ⟨candidate, hcandidate, rfl⟩, _, ⟨other, hother, rfl⟩, hne⟩ hone
    exact hne (hone candidate other hcandidate hother)
  · intro hnot
    simp only [not_forall] at hnot
    obtain ⟨candidate, other, hcandidate, hother, hne⟩ := hnot
    exact ⟨_, ⟨candidate, hcandidate, rfl⟩, _, ⟨other, hother, rfl⟩, hne⟩

end First

/-! ## The decision -/

/-- The evidence that is held for an exact candidate. -/
theorem canonicalEvidence_of_mem {candidate : EntryCandidate}
    (h : candidate ∈ exactCandidates active triggers) :
    ∃ item, triggers.exactEvidence candidate.candidateId = some item ∧
      IsCanonicalEvidence evidence candidate item := by
  obtain ⟨hactive, hitem⟩ := (mem_exactCandidates hcollected).mp h
  have hfor := hcollected.triggers candidate hactive
  obtain ⟨item, hheld⟩ := Option.isSome_iff_exists.mp ((exactEvidence_isSome_iff hfor).mpr hitem)
  have hexact := hfor.exact
  rw [hheld] at hexact
  exact ⟨item, hheld, hexact.of_some.1, hexact.of_some.2⟩

include hkeys

theorem decided_selectCanonicalDecision (invalidated : Bool) :
    Decided candidates evidence invalidated
      (selectCanonicalDecision invalidated active
        (exactCandidates active triggers) triggers) := by
  unfold selectCanonicalDecision
  cases invalidated with
  | true => exact .invalidated
  | false =>
    rw [if_neg (by simp)]
    split_ifs with hnone
    · apply Decided.noCandidate
      intro candidate hactive
      have hmem := (hcollected.active candidate).mpr hactive
      rw [hnone] at hmem
      cases hmem
    · cases hexact : exactCandidates active triggers with
      | nil =>
        apply Decided.noExact
        intro candidate hactive item hitem
        have hmem := (mem_exactCandidates hcollected).mpr ⟨hactive, item, hitem⟩
        rw [hexact] at hmem
        cases hmem
      | cons first rest =>
        have hmem : ∀ candidate ∈ first :: rest, ∃ item,
            triggers.exactEvidence candidate.candidateId = some item ∧
              IsCanonicalEvidence evidence candidate item := by
          intro candidate hcandidate
          rw [← hexact] at hcandidate
          exact canonicalEvidence_of_mem hcollected hcandidate
        dsimp only
        cases hclose : ((first :: rest).find? (·.model = .dirClose)).filter
            (hasEarlierNonExactFlip active triggers) with
        | some close =>
          have hfind := (Option.filter_eq_some_iff.mp hclose).1
          obtain ⟨item, hheld, hitem⟩ := hmem close (List.mem_of_find?_eq_some hfind)
          rw [← hexact] at hclose
          dsimp only
          rw [hheld]
          exact .fallback ((fallback_iff hkeys hcollected).mp hclose) hitem
        | none =>
          have hno : ∀ close, ¬ IsFallback candidates evidence close := by
            intro close hfallback
            rw [← fallback_iff hkeys hcollected, hexact, hclose] at hfallback
            cases hfallback
          obtain ⟨item, hheld, hitem⟩ := hmem first List.mem_cons_self
          have hfirst := isEarliestExact_first hcollected hexact
          dsimp only
          split_ifs with hsingle hambiguous
          · rw [hheld]
            refine .earliest hno hfirst ?_ hitem
            -- the first exact candidate is the only one
            intro candidate other hcandidate hother
            have honly : ∀ c, IsEarliestExact candidates evidence c → c = first := by
              intro c hc
              have hcMem := ((isEarliestExact_iff hcollected hexact).mp hc).1
              rw [hsingle] at hcMem
              exact List.mem_singleton.mp hcMem
            rw [honly candidate hcandidate, honly other hother]
          · exact .ambiguous hno ((ambiguous_iff hcollected hexact).mp hambiguous)
          · rw [hheld]
            exact .earliest hno hfirst
              (not_not.mp fun hnot => hambiguous ((ambiguous_iff hcollected hexact).mpr hnot)) hitem

end Exact

end TradeOps.EntryModels
