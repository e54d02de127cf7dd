import TradeOps.Entry.EligiblePairs

/-!
# Arbitration selects the earliest exact trigger

A request without an opened selection is decided by its eligible pairs alone
(`arbitrateEntryCandidatesV3_ok`). From this follow that the order and the multiplicity of the
records do not matter, and which pair a paper eligible selection points to.
-/

namespace TradeOps.Entry

open Checks Keyed SortBy
open scoped JsString

section Requests

variable {canonicalSha256 : Json → String} {setupId : JsString}
  {candidates candidates' : List EntryCandidateV3}
  {evidence evidence' : List EntryCandidateEvidenceV3} {setupInvalidated : Bool}
  {revision evaluatedAtEpoch : Int} {liquidityCohort : LiquidityCohortV3}
  {result : EntrySelectionV3}

/-- A request without an opened selection is decided by its eligible pairs. -/
theorem arbitrateEntryCandidatesV3_ok
    (h : arbitrateEntryCandidatesV3 canonicalSha256 setupId candidates evidence setupInvalidated
      revision evaluatedAtEpoch none liquidityCohort = .ok result) :
    validateRequestV3 setupId candidates evidence revision evaluatedAtEpoch = .ok () ∧
      AcceptedRecords setupId candidates evidence ∧
      ∃ byId pairs, Indexed candidates byId ∧
        EligibleList exactEligibleV3 candidates evidence pairs ∧
        result = chooseSelection canonicalSha256 setupId byId (sortBy pairKey pairs)
          setupInvalidated revision evaluatedAtEpoch liquidityCohort := by
  unfold arbitrateEntryCandidatesV3 at h
  rw [then_ok_iff, bind_ok_iff] at h
  obtain ⟨hvalid, ⟨byId, sorted⟩, hcollect, hpure⟩ := h
  obtain ⟨hrecords, hindexed, pairs, hpairs, rfl⟩ :=
    collectPairs_ok picksFirst_sortBy (fun _ _ _ _ => rfl) hcollect
  exact ⟨hvalid, hrecords, byId, pairs, hindexed, hpairs, (pure_ok_iff.1 hpure).symm⟩

theorem arbitrateEntryCandidatesV3_exists
    (hvalid : validateRequestV3 setupId candidates evidence revision evaluatedAtEpoch = .ok ())
    (h : AcceptedRecords setupId candidates evidence) :
    ∃ result, arbitrateEntryCandidatesV3 canonicalSha256 setupId candidates evidence
      setupInvalidated revision evaluatedAtEpoch none liquidityCohort = .ok result := by
  obtain ⟨collected, hcollect⟩ : ∃ collected, collectPairsV3 setupId candidates evidence =
      .ok collected := collectPairs_exists (fun _ _ _ _ => rfl) h
  simp only [arbitrateEntryCandidatesV3, hvalid, hcollect, ok_bind_eq]
  exact ⟨_, rfl⟩

/-! ## The order and the multiplicity of the records do not matter -/

theorem Indexed.perm {byId byId' : List EntryCandidateV3} (h : Indexed candidates byId)
    (h' : Indexed candidates byId') : byId.Perm byId' :=
  (List.perm_ext_iff_of_nodup h.nodup.of_map h'.nodup.of_map).2 fun c =>
    (h.mem_iff c).trans (h'.mem_iff c).symm

theorem chooseSelection_congr {byId byId' : List EntryCandidateV3} {eligible : List EligiblePair}
    (h : Indexed candidates byId) (h' : Indexed candidates byId') :
    chooseSelection canonicalSha256 setupId byId eligible setupInvalidated revision
        evaluatedAtEpoch liquidityCohort =
      chooseSelection canonicalSha256 setupId byId' eligible setupInvalidated revision
        evaluatedAtEpoch liquidityCohort := by
  have hperm := h.perm h'
  have hids : sortBy id (byId.map (·.candidateId)) = sortBy id (byId'.map (·.candidateId)) := by
    refine sortBy_eq_of_mem_iff id h.nodup h'.nodup (fun _ _ _ _ => id) ?_
    exact fun _ => (hperm.map _).mem_iff
  have hlen : byId.length = byId'.length := hperm.length_eq
  have hblocked : hasBlockedAggressive byId eligible = hasBlockedAggressive byId' eligible :=
    hperm.any_eq
  unfold chooseSelection chooseEarliest
  rw [hids, hlen]
  simp only [hblocked]

theorem arbitrateEntryCandidatesV3_congr {openedSelection : Option EntrySelectionV3}
    (hc : ∀ c, c ∈ candidates ↔ c ∈ candidates') (he : ∀ e, e ∈ evidence ↔ e ∈ evidence')
    (h : arbitrateEntryCandidatesV3 canonicalSha256 setupId candidates evidence setupInvalidated
      revision evaluatedAtEpoch openedSelection liquidityCohort = .ok result) :
    arbitrateEntryCandidatesV3 canonicalSha256 setupId candidates' evidence' setupInvalidated
      revision evaluatedAtEpoch openedSelection liquidityCohort = .ok result := by
  have hvalid : validateRequestV3 setupId candidates evidence revision evaluatedAtEpoch =
      validateRequestV3 setupId candidates' evidence' revision evaluatedAtEpoch := by
    simp only [validateRequestV3, hc, he]
  cases openedSelection with
  | some opened =>
    unfold arbitrateEntryCandidatesV3 at h ⊢
    rwa [← hvalid]
  | none =>
    obtain ⟨hok, hrec, byId, pairs, hindexed, hpairs, hresult⟩ := arbitrateEntryCandidatesV3_ok h
    obtain ⟨result', h'⟩ : ∃ result', arbitrateEntryCandidatesV3 canonicalSha256 setupId candidates'
        evidence' setupInvalidated revision evaluatedAtEpoch none liquidityCohort = .ok result' :=
      arbitrateEntryCandidatesV3_exists (hvalid ▸ hok) (hrec.congr hc he)
    obtain ⟨-, -, byId', pairs', hindexed', hpairs', hresult'⟩ := arbitrateEntryCandidatesV3_ok h'
    have hi' : Indexed candidates byId' :=
      ⟨hindexed'.nodup, fun c => (hindexed'.mem_iff c).trans (hc c).symm⟩
    rw [h', hresult', hresult, hpairs'.sorted_eq (hpairs.congr hc he),
      chooseSelection_congr hi' hindexed]

end Requests

/-! ## The earliest event -/

section Earliest

variable {candidates : List EntryCandidateV3} {evidence : List EntryCandidateEvidenceV3}

/-- An exactly eligible candidate and evidence of the request. -/
abbrev ExactPair (candidates : List EntryCandidateV3) (evidence : List EntryCandidateEvidenceV3)
    (pair : EligiblePair) : Prop :=
  IsPair exactEligibleV3 candidates evidence pair

/-- A chosen pair whose event no eligible pair precedes. -/
structure AtEarliest (eligible : EntryCandidateV3 → EntryCandidateEvidenceV3 → Bool)
    (candidates : List EntryCandidateV3) (evidence : List EntryCandidateEvidenceV3)
    (pair : EligiblePair) : Prop extends IsChosen eligible candidates evidence pair where
  earliest : ∀ other, IsPair eligible candidates evidence other →
    eventKey pair.evidence ≤ eventKey other.evidence

abbrev EarliestPair (candidates : List EntryCandidateV3)
    (evidence : List EntryCandidateEvidenceV3) (pair : EligiblePair) : Prop :=
  AtEarliest exactEligibleV3 candidates evidence pair

/-- Several models trigger at the earliest event. -/
def SeveralModels (eligible : EntryCandidateV3 → EntryCandidateEvidenceV3 → Bool)
    (candidates : List EntryCandidateV3) (evidence : List EntryCandidateEvidenceV3) : Prop :=
  ∃ p q, AtEarliest eligible candidates evidence p ∧ AtEarliest eligible candidates evidence q ∧
    p.candidate.model ≠ q.candidate.model

/-- Several models trigger at the earliest event, and not all at the same price. -/
def Conflicting (eligible : EntryCandidateV3 → EntryCandidateEvidenceV3 → Bool)
    (candidates : List EntryCandidateV3) (evidence : List EntryCandidateEvidenceV3) : Prop :=
  SeveralModels eligible candidates evidence ∧
  ∃ p q, AtEarliest eligible candidates evidence p ∧ AtEarliest eligible candidates evidence q ∧
    p.evidence.observedTriggerTicks ≠ q.evidence.observedTriggerTicks

abbrev PriceConflict (candidates : List EntryCandidateV3)
    (evidence : List EntryCandidateEvidenceV3) : Prop :=
  Conflicting exactEligibleV3 candidates evidence

/-- A model has an eligible pair at an event. -/
def HasModel (eligible : EntryCandidateV3 → EntryCandidateEvidenceV3 → Bool)
    (candidates : List EntryCandidateV3) (evidence : List EntryCandidateEvidenceV3)
    (event : EventKey) (model : EntryModelV3) : Prop :=
  ∃ pair, IsPair eligible candidates evidence pair ∧ eventKey pair.evidence = event ∧
    pair.candidate.model = model

abbrev ModelAt (candidates : List EntryCandidateV3) (evidence : List EntryCandidateEvidenceV3)
    (event : EventKey) (model : EntryModelV3) : Prop :=
  HasModel exactEligibleV3 candidates evidence event model

theorem triggerEpoch_of_exactEligibleV3 {c : EntryCandidateV3} {e : EntryCandidateEvidenceV3}
    (h : exactEligibleV3 c e = true) : ∃ trigger, e.observedTriggerEpoch = some trigger := by
  unfold exactEligibleV3 at h
  split at h
  · cases h
  · rename_i trigger ht
    exact ⟨trigger, ht⟩

theorem evidenceKey_le_iff {a b : EntryCandidateEvidenceV3} :
    evidenceKey a ≤ evidenceKey b ↔
      eventKey a < eventKey b ∨ eventKey a = eventKey b ∧ a.evidenceId ≤ b.evidenceId := by
  simp [evidenceKey, Prod.Lex.toLex_le_toLex]

theorem pairKey_le_iff {p q : EligiblePair} :
    pairKey p ≤ pairKey q ↔ eventKey p.evidence < eventKey q.evidence ∨
      eventKey p.evidence = eventKey q.evidence ∧
        p.candidate.candidateId ≤ q.candidate.candidateId := by
  simp [pairKey, Prod.Lex.toLex_le_toLex]

theorem eventKey_le_of_evidenceKey_le {a b : EntryCandidateEvidenceV3}
    (h : evidenceKey a ≤ evidenceKey b) : eventKey a ≤ eventKey b := by
  rcases evidenceKey_le_iff.1 h with hlt | ⟨heq, -⟩
  · exact hlt.le
  · exact heq.le

/-- Every eligible pair is preceded by the chosen pair of its candidate. -/
theorem exists_chosen {eligible : EntryCandidateV3 → EntryCandidateEvidenceV3 → Bool}
    {pair : EligiblePair} (h : IsPair eligible candidates evidence pair) :
    ∃ chosen, IsChosen eligible candidates evidence chosen ∧ chosen.candidate = pair.candidate ∧
      evidenceKey chosen.evidence ≤ evidenceKey pair.evidence := by
  let values := evidence.filter fun e =>
    e.candidateId = pair.candidate.candidateId ∧ eligible pair.candidate e
  have hmem : ∀ e, e ∈ values ↔ IsPair eligible candidates evidence ⟨pair.candidate, e⟩ := by
    intro e
    simp only [values, List.mem_filter, decide_eq_true_eq]
    exact ⟨fun ⟨he, hid, hel⟩ => ⟨h.candidate_mem, he, hid, hel⟩,
      fun ⟨_, he, hid, hel⟩ => ⟨he, hid, hel⟩⟩
  have hpair : pair.evidence ∈ values := (hmem _).2 h
  obtain ⟨item, hitem⟩ := picksFirst_minBy.isSome values (List.ne_nil_of_mem hpair)
  refine ⟨⟨pair.candidate, item⟩, ⟨(hmem _).1 (picksFirst_minBy.mem _ _ hitem), ?_⟩, rfl,
    picksFirst_minBy.le _ _ hitem _ hpair⟩
  rintro ⟨c, e⟩ ho rfl
  exact picksFirst_minBy.le _ _ hitem _ ((hmem e).2 ho)

section Sorted

variable {eligible : EntryCandidateV3 → EntryCandidateEvidenceV3 → Bool}
  {pairs rest : List EligiblePair} {first : EligiblePair}

theorem atEarliest_first (hl : EligibleList eligible candidates evidence pairs)
    (hs : sortBy pairKey pairs = first :: rest) :
    AtEarliest eligible candidates evidence first := by
  refine ⟨(hl.mem_iff _).1 (sortBy_head_mem pairKey hs), ?_⟩
  intro other ho
  obtain ⟨chosen, hch, -, hle⟩ := exists_chosen ho
  have hk := sortBy_head_le pairKey hs ((hl.mem_iff _).2 hch)
  have hfirst : eventKey first.evidence ≤ eventKey chosen.evidence := by
    rcases pairKey_le_iff.1 hk with hlt | ⟨heq, -⟩
    · exact hlt.le
    · exact heq.le
  exact hfirst.trans (eventKey_le_of_evidenceKey_le hle)

theorem AtEarliest.eventKey_eq {p q : EligiblePair} (hp : AtEarliest eligible candidates evidence p)
    (hq : AtEarliest eligible candidates evidence q) : eventKey p.evidence = eventKey q.evidence :=
  le_antisymm (hp.earliest q hq.toIsPair) (hq.earliest p hp.toIsPair)

theorem mem_earliestOf (hl : EligibleList eligible candidates evidence pairs)
    (hs : sortBy pairKey pairs = first :: rest) (pair : EligiblePair) :
    pair ∈ earliestOf first (first :: rest) ↔ AtEarliest eligible candidates evidence pair := by
  have hfirst := atEarliest_first hl hs
  rw [earliestOf, List.mem_filter, ← hs, mem_sortBy, hl.mem_iff, decide_eq_true_eq]
  constructor
  · rintro ⟨hch, hk⟩
    exact ⟨hch, fun other ho => hk ▸ hfirst.earliest other ho⟩
  · intro hp
    exact ⟨hp.toIsChosen, hp.eventKey_eq hfirst⟩

/-- Among the earliest pairs the first one has the smallest candidate id. -/
theorem candidateId_first_le (hl : EligibleList eligible candidates evidence pairs)
    (hs : sortBy pairKey pairs = first :: rest) {pair : EligiblePair}
    (hp : AtEarliest eligible candidates evidence pair) :
    first.candidate.candidateId ≤ pair.candidate.candidateId := by
  have hk := sortBy_head_le pairKey hs ((hl.mem_iff _).2 hp.toIsChosen)
  rcases pairKey_le_iff.1 hk with hlt | ⟨-, hid⟩
  · exact absurd ((atEarliest_first hl hs).eventKey_eq hp) hlt.ne
  · exact hid

theorem head?_earliestOf (first : EligiblePair) (rest : List EligiblePair) :
    (earliestOf first (first :: rest)).head? = some first := by
  simp [earliestOf]

theorem eq_first_of_candidateId (hl : EligibleList eligible candidates evidence pairs)
    (hs : sortBy pairKey pairs = first :: rest) {pair : EligiblePair}
    (hp : AtEarliest eligible candidates evidence pair)
    (hid : pair.candidate.candidateId = first.candidate.candidateId) : pair = first :=
  hl.eq_of_candidateId ((hl.mem_iff _).2 hp.toIsChosen) (sortBy_head_mem pairKey hs) hid

theorem head?_sortBy_earliestOf (hl : EligibleList eligible candidates evidence pairs)
    (hs : sortBy pairKey pairs = first :: rest) :
    (sortBy (·.candidate.candidateId) (earliestOf first (first :: rest))).head? = some first := by
  have hmem := mem_earliestOf hl hs
  exact head?_sortBy_of_least _ ((hmem _).2 (atEarliest_first hl hs))
    (fun p hp => candidateId_first_le hl hs ((hmem p).1 hp))
    (fun p hp => eq_first_of_candidateId hl hs ((hmem p).1 hp))

theorem minBy_earliestOf (hl : EligibleList eligible candidates evidence pairs)
    (hs : sortBy pairKey pairs = first :: rest) :
    minBy (·.candidate.candidateId) (earliestOf first (first :: rest)) = some first := by
  have hmem := mem_earliestOf hl hs
  exact minBy_of_least _ ((hmem _).2 (atEarliest_first hl hs))
    (fun p hp => candidateId_first_le hl hs ((hmem p).1 hp))
    (fun p hp => eq_first_of_candidateId hl hs ((hmem p).1 hp))

/-- The models of the earliest pairs are the models with a pair at the earliest event. -/
theorem mem_models_iff (hl : EligibleList eligible candidates evidence pairs)
    (hs : sortBy pairKey pairs = first :: rest) (model : EntryModelV3) :
    model ∈ (earliestOf first (first :: rest)).map (·.candidate.model) ↔
      HasModel eligible candidates evidence (eventKey first.evidence) model := by
  have hfirst := atEarliest_first hl hs
  rw [List.mem_map]
  constructor
  · rintro ⟨p, hp, rfl⟩
    have hp' := (mem_earliestOf hl hs _).1 hp
    exact ⟨p, hp'.toIsPair, hp'.eventKey_eq hfirst, rfl⟩
  · rintro ⟨p, hp, hk, rfl⟩
    obtain ⟨chosen, hch, hc, hle⟩ := exists_chosen hp
    refine ⟨chosen, (mem_earliestOf hl hs _).2 ⟨hch, ?_⟩, by rw [hc]⟩
    intro other ho
    exact (eventKey_le_of_evidenceKey_le hle).trans (hk ▸ hfirst.earliest other ho)

end Sorted

/-! ## The selection -/

section Selected

variable {eligible : EntryCandidateV3 → EntryCandidateEvidenceV3 → Bool}
  {canonicalSha256 : Json → String} {context : SelectionContext}
  {byId : List EntryCandidateV3} {pairs rest : List EligiblePair} {first : EligiblePair}

theorem several_models_iff (hl : EligibleList eligible candidates evidence pairs)
    (hs : sortBy pairKey pairs = first :: rest) :
    ((earliestOf first (first :: rest)).map (·.candidate.model)).dedup.length > 1 ↔
      SeveralModels eligible candidates evidence := by
  simp only [SeveralModels, gt_iff_lt, one_lt_length_dedup_iff, List.mem_map,
    exists_exists_and_eq_and, mem_earliestOf hl hs, exists_and_left]

theorem several_prices_iff (hl : EligibleList eligible candidates evidence pairs)
    (hs : sortBy pairKey pairs = first :: rest) :
    ((earliestOf first (first :: rest)).map
        (·.evidence.observedTriggerTicks)).dedup.length > 1 ↔
      ∃ p q, AtEarliest eligible candidates evidence p ∧ AtEarliest eligible candidates evidence q ∧
        p.evidence.observedTriggerTicks ≠ q.evidence.observedTriggerTicks := by
  simp only [gt_iff_lt, one_lt_length_dedup_iff, List.mem_map, exists_exists_and_eq_and,
    mem_earliestOf hl hs, exists_and_left]

theorem chooseEarliest_of_conflict (hl : EligibleList exactEligibleV3 candidates evidence pairs)
    (hs : sortBy pairKey pairs = first :: rest) (hconflict : PriceConflict candidates evidence) :
    chooseEarliest canonicalSha256 context byId first (first :: rest) =
      selection canonicalSha256 context none .coTriggerPriceConflict .shadowOnly [] := by
  unfold chooseEarliest
  rw [if_pos ((several_models_iff hl hs).2 hconflict.1),
    if_pos ((several_prices_iff hl hs).2 hconflict.2)]

/-- The co-triggered models of a selection: none unless several models share the event. -/
structure CoTriggered (candidates : List EntryCandidateV3)
    (evidence : List EntryCandidateEvidenceV3) (event : EventKey) (models : List EntryModelV3) :
    Prop where
  sorted : models.Pairwise (fun a b => a.name ≤ b.name)
  nodup : models.Nodup
  mem_iff : ∀ model, model ∈ models ↔ ModelAt candidates evidence event model ∧
    ∃ other, other ≠ model ∧ ModelAt candidates evidence event other

theorem chooseEarliest_of_agreement (canonicalSha256 : Json → String) (context : SelectionContext)
    (byId : List EntryCandidateV3) (hl : EligibleList exactEligibleV3 candidates evidence pairs)
    (hs : sortBy pairKey pairs = first :: rest) (hagree : ¬ PriceConflict candidates evidence) :
    ∃ reason models, CoTriggered candidates evidence (eventKey first.evidence) models ∧
      chooseEarliest canonicalSha256 context byId first (first :: rest) =
        selection canonicalSha256 context (some first) reason .paperEligible models := by
  have hmodels := mem_models_iff hl hs
  unfold chooseEarliest
  by_cases hseveral :
      ((earliestOf first (first :: rest)).map (·.candidate.model)).dedup.length > 1
  · have hprices := fun h => hagree
      ⟨(several_models_iff hl hs).1 hseveral, (several_prices_iff hl hs).1 h⟩
    rw [if_pos hseveral, if_neg hprices, head?_sortBy_earliestOf hl hs]
    refine ⟨_, _, ⟨sortBy_pairwise _ _, ?_, ?_⟩, rfl⟩
    · exact (sortBy_perm _ _).nodup_iff.2 (List.nodup_dedup _)
    · intro model
      rw [mem_sortBy, List.mem_dedup, hmodels, iff_self_and]
      intro _
      obtain ⟨a, ha, b, hb, hab⟩ := one_lt_length_dedup_iff.1 hseveral
      by_cases hm : a = model
      · exact ⟨b, fun h => hab (hm.trans h.symm), (hmodels b).1 hb⟩
      · exact ⟨a, hm, (hmodels a).1 ha⟩
  · rw [if_neg hseveral, head?_earliestOf]
    refine ⟨_, [], ⟨List.Pairwise.nil, List.nodup_nil, ?_⟩, rfl⟩
    intro model
    rw [List.mem_nil_iff, false_iff]
    rintro ⟨hm, other, hne, ho⟩
    exact hseveral (one_lt_length_dedup_iff.2
      ⟨other, (hmodels other).2 ho, model, (hmodels model).2 hm, hne⟩)

end Selected

/-- What a paper eligible selection says about the records: its canonical pair is an eligible pair
at the earliest event, with the smallest candidate id there. -/
structure SelectsEarliest (candidates : List EntryCandidateV3)
    (evidence : List EntryCandidateEvidenceV3) (result : EntrySelectionV3)
    (pair : EligiblePair) : Prop extends ExactPair candidates evidence pair where
  candidateId_eq : result.canonicalCandidateId = some pair.candidate.candidateId
  evidenceId_eq : result.canonicalEvidenceId = some pair.evidence.evidenceId
  model_eq : result.canonicalModel = some pair.candidate.model
  earliest : ∀ other, ExactPair candidates evidence other →
    eventKey pair.evidence ≤ eventKey other.evidence
  smallest : ∀ other, ExactPair candidates evidence other →
    eventKey other.evidence = eventKey pair.evidence →
      pair.candidate.candidateId ≤ other.candidate.candidateId
  coTriggered : CoTriggered candidates evidence (eventKey pair.evidence) result.coTriggeredModels

theorem smallest_of_first {eligible : EntryCandidateV3 → EntryCandidateEvidenceV3 → Bool}
    {pairs rest : List EligiblePair} {first other : EligiblePair}
    (hl : EligibleList eligible candidates evidence pairs)
    (hs : sortBy pairKey pairs = first :: rest) (ho : IsPair eligible candidates evidence other)
    (hk : eventKey other.evidence = eventKey first.evidence) :
    first.candidate.candidateId ≤ other.candidate.candidateId := by
  obtain ⟨chosen, hch, hc, hle⟩ := exists_chosen ho
  have hearly : AtEarliest eligible candidates evidence chosen := by
    refine ⟨hch, fun q hq => ?_⟩
    exact (eventKey_le_of_evidenceKey_le hle).trans
      (hk ▸ (atEarliest_first hl hs).earliest q hq)
  rw [← hc]
  exact candidateId_first_le hl hs hearly

/-- The decision of a request without an opened selection, over all its eligible pairs. -/
theorem chooseSelection_spec {canonicalSha256 : Json → String} {setupId : JsString}
    {byId : List EntryCandidateV3} {pairs : List EligiblePair} {setupInvalidated : Bool}
    {revision evaluatedAtEpoch : Int} {liquidityCohort : LiquidityCohortV3}
    {result : EntrySelectionV3} (hi : Indexed candidates byId)
    (hl : EligibleList exactEligibleV3 candidates evidence pairs)
    (hresult : result = chooseSelection canonicalSha256 setupId byId (sortBy pairKey pairs)
      setupInvalidated revision evaluatedAtEpoch liquidityCohort) :
    (result.action = .paperEligible ↔ setupInvalidated = false ∧
      liquidityCohort = .twoPlusCandles ∧ (∃ pair, ExactPair candidates evidence pair) ∧
      ¬ PriceConflict candidates evidence) ∧
    (result.action = .paperEligible → ∃ pair, SelectsEarliest candidates evidence result pair) := by
  unfold chooseSelection at hresult
  by_cases hinv : setupInvalidated = true
  · rw [if_pos hinv] at hresult
    simp [hresult, selection, hinv]
  rw [if_neg hinv] at hresult
  -- an eligible pair brings its candidate into the index and its chosen pair into the list
  have hne : (∃ pair, ExactPair candidates evidence pair) →
      byId.length ≠ 0 ∧ sortBy pairKey pairs ≠ [] := by
    rintro ⟨pair, hp⟩
    obtain ⟨chosen, hch, -, -⟩ := exists_chosen hp
    have hmem : chosen ∈ sortBy pairKey pairs := (mem_sortBy pairKey).2 ((hl.mem_iff _).2 hch)
    refine ⟨?_, List.ne_nil_of_mem hmem⟩
    rw [Ne, List.length_eq_zero_iff]
    exact List.ne_nil_of_mem ((hi.mem_iff _).2 hp.candidate_mem)
  by_cases hlen : byId.length = 0
  · rw [if_pos hlen] at hresult
    have hno : ¬ ∃ pair, ExactPair candidates evidence pair := fun h => (hne h).1 hlen
    simp [hresult, selection, hno]
  rw [if_neg hlen] at hresult
  cases hs : sortBy pairKey pairs with
  | nil =>
    have hno : ¬ ∃ pair, ExactPair candidates evidence pair := fun h => (hne h).2 hs
    rw [hs] at hresult
    simp [hresult, selection, hno]
  | cons first rest =>
    have hfirst := atEarliest_first hl hs
    rw [hs] at hresult
    cases liquidityCohort with
    | oneCandle => simp [hresult, selection]
    | twoPlusCandles =>
      by_cases hc : PriceConflict candidates evidence
      · simp [hresult, chooseEarliest_of_conflict hl hs hc, selection, hc]
      · obtain ⟨reason, models, hco, hchoose⟩ :=
          chooseEarliest_of_agreement canonicalSha256 ⟨setupId, revision, evaluatedAtEpoch,
            sortBy id (byId.map (·.candidateId))⟩ byId hl hs hc
        simp only [reduceCtorEq, if_false, hchoose] at hresult
        subst hresult
        refine ⟨iff_of_true rfl ⟨by simpa using hinv, rfl, ⟨first, hfirst.toIsPair⟩, hc⟩, ?_⟩
        intro _
        exact ⟨first, hfirst.toIsPair, rfl, rfl, rfl, hfirst.earliest,
          fun other ho hk => smallest_of_first hl hs ho hk, hco⟩

end Earliest

/-- Arbitration selects the earliest exact trigger: the result does not depend on the order and the
multiplicity of the records; an opened selection is returned as it is; and a request without one is
paper eligible exactly when the setup stands, its cohort has two candles or more, some pair is
eligible and the models at the earliest event agree on the price. The selection then points to the
earliest eligible pair. -/
theorem arbitrateEntryCandidatesV3_selects_earliest {canonicalSha256 : Json → String}
    {setupId : JsString} {candidates : List EntryCandidateV3}
    {evidence : List EntryCandidateEvidenceV3} {setupInvalidated : Bool}
    {revision evaluatedAtEpoch : Int} {openedSelection : Option EntrySelectionV3}
    {liquidityCohort : LiquidityCohortV3} {result : EntrySelectionV3}
    (h : arbitrateEntryCandidatesV3 canonicalSha256 setupId candidates evidence setupInvalidated
      revision evaluatedAtEpoch openedSelection liquidityCohort = .ok result) :
    (∀ candidates' evidence', (∀ c, c ∈ candidates ↔ c ∈ candidates') →
      (∀ e, e ∈ evidence ↔ e ∈ evidence') →
      arbitrateEntryCandidatesV3 canonicalSha256 setupId candidates' evidence' setupInvalidated
        revision evaluatedAtEpoch openedSelection liquidityCohort = .ok result) ∧
    (∀ opened, openedSelection = some opened → result = opened) ∧
    (openedSelection = none →
      (result.action = .paperEligible ↔ setupInvalidated = false ∧
        liquidityCohort = .twoPlusCandles ∧ (∃ pair, ExactPair candidates evidence pair) ∧
        ¬ PriceConflict candidates evidence) ∧
      (result.action = .paperEligible →
        ∃ pair, SelectsEarliest candidates evidence result pair)) := by
  refine ⟨fun candidates' evidence' hc he => arbitrateEntryCandidatesV3_congr hc he h, ?_, ?_⟩
  · rintro opened rfl
    unfold arbitrateEntryCandidatesV3 at h
    rw [then_ok_iff, then_ok_iff, pure_ok_iff] at h
    exact h.2.2.symm
  · rintro rfl
    obtain ⟨-, -, byId, pairs, hi, hl, hresult⟩ := arbitrateEntryCandidatesV3_ok h
    exact chooseSelection_spec hi hl hresult

/-! ## One model at the earliest event

Two close candidates of one bar, which differ in their ordinal and in the close they observed. The
price check and the list of co-triggered models are about several models, so this request is paper
eligible at the smaller candidate id, with no co-triggered model. -/

/-- A close candidate of the bar from 300 to 600. -/
def closeCandidate (ordinal : Int) (candidateId : String) : EntryCandidateV3 where
  setupId := "setup-1"
  model := .dirClose
  direction := .long
  eventAnchorEpoch := 300
  triggerOrdinal := ordinal
  bocTier := none
  referenceCandleOpenEpoch := none
  candidateId := candidateId
  state := .matched
  sourceClaimIds := sourceClaimsDirClose
  observedAtEpoch := 600

/-- Exact evidence of a close candidate of the bar from 300 to 600. -/
def closeEvidence (candidateId : String) (ticks : Int) (payloadSha256 evidenceId : String) :
    EntryCandidateEvidenceV3 where
  candidateId := candidateId
  observedTriggerEpoch := some 600
  triggerSequence := 1
  observedTriggerTicks := some ticks
  htfContextMinutes := []
  fidelity := .exact
  proofPlane := .confirmed5m
  replayability := .replayable
  coverageStartEpoch := 300
  coverageEndEpoch := 600
  ambiguityCodes := []
  bocTier := none
  referenceCandleOpenEpoch := none
  referenceCandleOpenTicks := none
  referenceCandleHighTicks := none
  referenceCandleLowTicks := none
  referenceCandleCloseTicks := none
  htfOpenTicks := none
  contactCandle := none
  recrossCandle := none
  coverageGapDetected := none
  fullLifecycleOrdered := none
  destinationSeenBeforeContact := none
  passedRuleIds := ["ENTRY_DIR_CLOSE"]
  failedRuleIds := []
  sourceClaimIds := sourceClaimsDirClose
  evidenceId := evidenceId
  payloadSha256 := payloadSha256
  observedAtEpoch := 600

def closePairOne : EligiblePair where
  candidate :=
    closeCandidate 1 "e171724b0eb2ff6724ff94f19ad98206d794ad6c9db6371f27405b8364df36a5"
  evidence :=
    closeEvidence "e171724b0eb2ff6724ff94f19ad98206d794ad6c9db6371f27405b8364df36a5" 105
      "3ea9fc58b4bcdab89c5c0af6b7ab34a6f6a6940490d3769a2deb20594a43aa3b"
      "8edbd2e2c3c5477234dc042a2533fadb48abc545e17e1dbbe5b9bc0e4860d7a1"

def closePairTwo : EligiblePair where
  candidate :=
    closeCandidate 2 "8c8585dc3c308ea6336b535929e7a189e146affd83d57fca35809b3d02aee2e7"
  evidence :=
    closeEvidence "8c8585dc3c308ea6336b535929e7a189e146affd83d57fca35809b3d02aee2e7" 106
      "d8ef4bd489d6d0485744260132117be599cb987735c6212a68aa199c15ca6600"
      "b1fa98a01f22c990b20800d86b634cf1e186b648cc6d507c6fc65abf0f734663"

/-- The selection of the two close candidates, for a digest that gives its selection id. -/
def closeSelection : Except String EntrySelectionV3 :=
  arbitrateEntryCandidatesV3
    (fun _ => "6e13d4611f0d373799f9e452a80777ce88c31f0ba2b006801995afa27fa5ac06") "setup-1"
    [closePairOne.candidate, closePairTwo.candidate]
    [closePairOne.evidence, closePairTwo.evidence] false 0 600 none .twoPlusCandles

theorem closeSelection_eq :
    closeSelection.toOption.map (fun result => (result.action, result.coTriggeredModels)) =
      some (.paperEligible, []) := by
  decide +kernel

/-- The pairs at the earliest event disagree on the price, and a model has a pair there; still the
selection is paper eligible and names no co-triggered model. -/
theorem closeSelection_paperEligible :
    ∃ result, closeSelection = .ok result ∧ result.action = .paperEligible ∧
      exactEligibleV3 closePairOne.candidate closePairOne.evidence = true ∧
      exactEligibleV3 closePairTwo.candidate closePairTwo.evidence = true ∧
      eventKey closePairOne.evidence = eventKey closePairTwo.evidence ∧
      closePairOne.evidence.observedTriggerTicks ≠ closePairTwo.evidence.observedTriggerTicks ∧
      closePairOne.candidate.model ∉ result.coTriggeredModels := by
  obtain ⟨result, hok, hresult⟩ := toOption_map_eq_some.1 closeSelection_eq
  obtain ⟨haction, hmodels⟩ := Prod.mk.inj hresult
  refine ⟨result, hok, haction, by decide, by decide, by decide, by decide, ?_⟩
  rw [hmodels]
  exact List.not_mem_nil

/-- The theorem at the two close candidates. -/
theorem closeSelection_selects_earliest :
    ∃ result, closeSelection = .ok result ∧
      ∃ pair, SelectsEarliest [closePairOne.candidate, closePairTwo.candidate]
        [closePairOne.evidence, closePairTwo.evidence] result pair := by
  obtain ⟨result, hok, hresult⟩ := toOption_map_eq_some.1 closeSelection_eq
  have h := arbitrateEntryCandidatesV3_selects_earliest hok
  exact ⟨result, hok, (h.2.2 rfl).2 (Prod.mk.inj hresult).1⟩

end TradeOps.Entry
