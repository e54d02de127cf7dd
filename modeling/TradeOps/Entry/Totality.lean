import TradeOps.Entry.Evaluable

/-!
# Which validated inputs have an evaluation

A validated input without an opened seed is evaluated exactly when its records are valid
(`evaluateEntryV3Bundle_returns_iff`). The digests of one evaluation are taken to be distinct where
the texts are: two records with one id would conflict.
-/

namespace TradeOps.Entry

open Checks Keyed SortBy
open scoped JsString

section Records

variable {sha256 : Json → String} {input : EntryArbitrationInputV3}

/-! ## Exact evidence shows the geometry of its model -/

theorem boc_geometry_ok {proof : BocProofV3} (hs : SoundInput input)
    (present : input.bocProof = some proof)
    (hexact : (bocOutcome input.matchRequest proof).fidelity = .exact) :
    validateExactGeometryV3 (matchBoc sha256 input.matchRequest proof).1
      (matchBoc sha256 input.matchRequest proof).2 = .ok () := by
  have hproof := hs.boc proof present
  obtain ⟨hclose, haligned, -, hbefore, -⟩ := validateBocProofV3_chronology hproof
  have hstate := ((bocOutcome_sound input.matchRequest proof).exact hexact).1
  obtain ⟨-, -, -, -, hstrict⟩ := bocOutcome_matched_iff.1 ⟨hstate, hexact⟩
  obtain ⟨-, hne, htimed⟩ := (strictBocContext_iff hproof).1 hstrict
  show failIf _ _ = .ok ()
  rw [failIf_ok_iff, triggerOpen_eq hproof]
  push Not
  exact ⟨rfl, haligned, rfl, by omega, hne, htimed⟩

theorem close_geometry_ok {bar : OrderedCandleV3} (hs : SoundInput input)
    (present : input.confirmedBar = some bar) :
    validateExactGeometryV3 (matchClose sha256 input.matchRequest bar).1
      (matchClose sha256 input.matchRequest bar).2 = .ok () := by
  obtain ⟨hspan, -⟩ := hs.bar bar present
  show failIf _ _ = .ok ()
  rw [failIf_ok_iff]
  push Not
  exact ⟨rfl, hspan, rfl⟩

/-- A matched flip has the lifecycle that its rule asks for. -/
theorem flipLifecycle_of_exact {proof : EntryTriggerProofV3}
    (hexact : (flipOutcome input.matchRequest proof).fidelity = .exact) :
    ∃ contact recross, FlipLifecycle input proof contact recross := by
  obtain ⟨failed, heq, hfailed⟩ := flipOutcome_eq input proof
  have hstate := ((flipOutcome_sound input.matchRequest proof).exact hexact).1
  rw [heq] at hstate
  exact (hfailed.1 (outcomeOf_matched_iff.1 hstate)).2.1

theorem flip_geometry_ok {proof : EntryTriggerProofV3}
    (hexact : (flipOutcome input.matchRequest proof).fidelity = .exact) :
    validateExactGeometryV3 (matchFlip sha256 input.matchRequest proof).1
      (matchFlip sha256 input.matchRequest proof).2 = .ok () := by
  obtain ⟨contact, recross, h⟩ := flipLifecycle_of_exact hexact
  obtain ⟨hordered, hgap, hdest, -⟩ := h.ordered
  simp only [validateExactGeometryV3, matchFlip, candidate, evidence, h.contact_eq, h.recross_eq,
    then_ok_iff, failIf_ok_iff]
  refine ⟨?_, staysBefore_iff.1 h.contact_before_open,
    not_not.2 (beyond_iff.1 h.recross_beyond_open)⟩
  push Not
  exact ⟨by rw [hgap], by rw [hordered], by rw [hdest], h.anchored, h.contexts.1,
    fun context hm => (h.contexts.2 context hm).2⟩

/-- Exact evidence passed the rule of its model and shows its geometry. -/
theorem Matched.exact_ok {pair : EligiblePair} (hs : SoundInput input)
    (h : Matched sha256 input pair) (hexact : pair.evidence.fidelity = .exact) :
    exactEvidenceRuleIsConsistent pair.candidate pair.evidence = true ∧
      validateExactGeometryV3 pair.candidate pair.evidence = .ok () := by
  cases h with
  | @boc proof present =>
    obtain ⟨-, hrules⟩ := (bocOutcome_sound input.matchRequest proof).exact hexact
    exact ⟨decide_eq_true hrules, boc_geometry_ok hs present hexact⟩
  | @dirClose bar present =>
    obtain ⟨-, hrules⟩ := (closeOutcome_sound input.matchRequest bar).exact hexact
    exact ⟨decide_eq_true hrules, close_geometry_ok hs present⟩
  | @htfFlip proof present =>
    obtain ⟨-, hrules⟩ := (flipOutcome_sound input.matchRequest proof).exact hexact
    exact ⟨decide_eq_true hrules, flip_geometry_ok hexact⟩

theorem Matched.observedAt {pair : EligiblePair} (h : Matched sha256 input pair) :
    pair.candidate.observedAtEpoch = input.observedAtEpoch ∧
      pair.evidence.observedAtEpoch = input.observedAtEpoch := by
  cases h <;> exact ⟨rfl, rfl⟩

theorem Matched.setupId {pair : EligiblePair} (h : Matched sha256 input pair) :
    pair.candidate.setupId = input.setupId := by
  cases h <;> rfl

theorem Matched.evidence_ok {pair : EligiblePair} (hsha : IsSha256 sha256) (hs : SoundInput input)
    (he : Evaluable input) (h : Matched sha256 input pair) :
    validateEntryEvidenceV3 pair.evidence = .ok () := by
  cases h with
  | boc present => exact boc_evidence_ok hsha hs present
  | dirClose present => exact close_evidence_ok hsha hs present (he.close _ present)
  | htfFlip present => exact flip_evidence_ok hsha hs present (he.flip _ present)

theorem fidelity_of_exactEligibleV3 {c : EntryCandidateV3} {e : EntryCandidateEvidenceV3}
    (h : exactEligibleV3 c e = true) : e.fidelity = .exact ∧ c.state = .matched := by
  obtain ⟨trigger, ht⟩ := triggerEpoch_of_exactEligibleV3 h
  simp only [exactEligibleV3, ht, decide_eq_true_eq] at h
  exact ⟨h.2.1, h.1⟩

/-! ## The records have distinct ids -/

/-- The texts whose digests are the ids of an evaluation. -/
def identityTexts (sha256 : Json → String) (input : EntryArbitrationInputV3) : Set Json :=
  {text | ∃ pair, Matched sha256 input pair ∧
    (text = pair.candidate.toCandidateIdentityV3.toJson ∨
      text = pair.evidence.toEvidencePayloadFields.identityJson pair.evidence.payloadSha256)}

theorem Matched.candidateId_eq {pair : EligiblePair} (h : Matched sha256 input pair) :
    pair.candidate.candidateId = sha256 pair.candidate.toCandidateIdentityV3.toJson := by
  cases h <;> rfl

theorem Matched.evidenceId_eq {pair : EligiblePair} (h : Matched sha256 input pair) :
    pair.evidence.evidenceId = sha256
      (pair.evidence.toEvidencePayloadFields.identityJson pair.evidence.payloadSha256) := by
  cases h <;> rfl

theorem Matched.eq_of_candidateId {p q : EligiblePair}
    (hinj : Set.InjOn sha256 (identityTexts sha256 input)) (hp : Matched sha256 input p)
    (hq : Matched sha256 input q) (h : p.candidate.candidateId = q.candidate.candidateId) :
    p = q := by
  rw [hp.candidateId_eq, hq.candidateId_eq] at h
  have htext := hinj ⟨p, hp, .inl rfl⟩ ⟨q, hq, .inl rfl⟩ h
  apply hp.eq_of_model hq
  simp only [CandidateIdentityV3.toJson, Json.obj.injEq, List.cons.injEq, Prod.mk.injEq,
    Json.str.injEq, JsString.js_eq_iff, true_and] at htext
  exact EntryModelV3.name_injective htext.2.2.2.1

theorem Matched.eq_of_evidenceId {p q : EligiblePair}
    (hinj : Set.InjOn sha256 (identityTexts sha256 input)) (hp : Matched sha256 input p)
    (hq : Matched sha256 input q) (h : p.evidence.evidenceId = q.evidence.evidenceId) :
    p = q := by
  rw [hp.evidenceId_eq, hq.evidenceId_eq] at h
  have htext := hinj ⟨p, hp, .inr rfl⟩ ⟨q, hq, .inr rfl⟩ h
  apply hp.eq_of_candidateId hinj hq
  simp only [EvidencePayloadFields.identityJson, Json.obj.injEq, List.cons.injEq, Prod.mk.injEq,
    Json.str.injEq, JsString.js_eq_iff, true_and] at htext
  rw [← hp.id_eq, ← hq.id_eq]
  exact htext.1

/-- Records that are sorted by their id, each id once. -/
structure SortedById {α : Type} (key : α → String) (records : List α) : Prop where
  nodup : KeysNodup key records
  sorted : sortBy id (records.map key) = records.map key

theorem sortedById_sortBy {α : Type} {key : α → String} {records : List α}
    (h : KeysNodup key records) : SortedById key (sortBy key records) := by
  refine ⟨((sortBy_perm key records).map key).nodup_iff.2 h, ?_⟩
  apply sortBy_of_pairwise
  exact List.pairwise_map.2 (sortBy_pairwise key records)

/-- One pair at most comes from each of the three proofs. -/
theorem matchedPairs_exists (sha256 : Json → String)
    (hpaired : input.directionalClose = input.confirmedBar.isSome) :
    ∃ pairs, matchedPairs sha256 input.matchRequest = .ok pairs ∧ pairs.Nodup := by
  unfold matchedPairs
  rw [closePairs_eq hpaired]
  refine ⟨_, rfl, ?_⟩
  apply List.Nodup.of_map (fun pair => pair.1.model)
  simp only [EntryArbitrationInputV3.matchRequest]
  cases input.bocProof <;> cases input.confirmedBar <;> cases input.htfFlipProof <;>
    simp [matchBoc, matchClose, matchFlip, candidate]

/-- The matched records of an input, sorted by their distinct ids. -/
structure SortedRecords (sha256 : Json → String) (input : EntryArbitrationInputV3)
    (matched : EntryMatchResultV3) : Prop
    extends MatchedRecords sha256 input matched.candidates matched.evidence where
  candidates_sorted : SortedById (·.candidateId) matched.candidates
  evidence_sorted : SortedById (·.evidenceId) matched.evidence

theorem matchEntryCandidatesV3_exists (hs : SoundInput input)
    (hinj : Set.InjOn sha256 (identityTexts sha256 input)) :
    ∃ matched, matchEntryCandidatesV3 sha256 input.matchRequest = .ok matched ∧
      SortedRecords sha256 input matched := by
  obtain ⟨pairs, hpairs, hnodup⟩ := matchedPairs_exists sha256 hs.paired
  have hmem : ∀ p ∈ pairs, Matched sha256 input ⟨p.1, p.2⟩ :=
    fun p hp => (mem_matchedPairs hs.paired hpairs ⟨p.1, p.2⟩).1 hp
  have heq : ∀ p q : EntryCandidateV3 × EntryCandidateEvidenceV3,
      (⟨p.1, p.2⟩ : EligiblePair) = ⟨q.1, q.2⟩ → p = q := by
    rintro ⟨c, e⟩ ⟨c', e'⟩ h
    cases h
    rfl
  have hcandidates : KeysNodup (·.candidateId) (pairs.map Prod.fst) := by
    unfold KeysNodup
    rw [List.map_map]
    exact hnodup.map_on fun p hp q hq h =>
      heq p q ((hmem p hp).eq_of_candidateId hinj (hmem q hq) h)
  have hevidence : KeysNodup (·.evidenceId) (pairs.map Prod.snd) := by
    unfold KeysNodup
    rw [List.map_map]
    exact hnodup.map_on fun p hp q hq h =>
      heq p q ((hmem p hp).eq_of_evidenceId hinj (hmem q hq) h)
  have hmatched : matchEntryCandidatesV3 sha256 input.matchRequest =
      .ok ⟨sortBy (·.candidateId) (pairs.map Prod.fst),
        sortBy (·.evidenceId) (pairs.map Prod.snd)⟩ := by
    simp only [matchEntryCandidatesV3, hpairs, ok_bind_eq]
    rfl
  exact ⟨_, hmatched, matchEntryCandidatesV3_ok hs.paired hmatched,
    sortedById_sortBy hcandidates, sortedById_sortBy hevidence⟩

end Records

/-! ## The selection -/

section Selections

variable {sha256 : Json → String} {candidates : List EntryCandidateV3}
  {evidence : List EntryCandidateEvidenceV3}

/-- What is selected is a coherent choice, whose canonical pair is eligible. -/
theorem chooseSelection_choice (sha256 : Json → String) (setupId : JsString)
    (byId : List EntryCandidateV3) (setupInvalidated : Bool) (revision evaluatedAtEpoch : Int)
    (liquidityCohort : LiquidityCohortV3) {pairs : List EligiblePair}
    (hl : EligibleList exactEligibleV3 candidates evidence pairs) :
    ∃ choice : Py.Choice, choice.Coherent ∧
      (∀ pair, choice.canonical = some pair → ExactPair candidates evidence pair) ∧
      chooseSelection sha256 setupId byId (sortBy pairKey pairs) setupInvalidated revision
          evaluatedAtEpoch liquidityCohort =
        selection sha256 ⟨setupId, revision, evaluatedAtEpoch,
          sortBy id (byId.map (·.candidateId))⟩ choice.canonical choice.reason choice.action
          choice.coTriggeredModels := by
  cases liquidityCohort with
  | twoPlusCandles =>
    have hpair : ∀ pair ∈ sortBy pairKey pairs, ExactPair candidates evidence pair :=
      fun pair hp => ((hl.mem_iff pair).1 ((mem_sortBy pairKey).1 hp)).toIsPair
    have hexact : ∀ pair ∈ sortBy pairKey pairs, pair.evidence.fidelity = .exact :=
      fun pair hp => (fidelity_of_exactEligibleV3 (hpair pair hp).eligible_eq).1
    exact ⟨Py.choose byId (sortBy pairKey pairs) setupInvalidated, Py.choose_coherent hexact,
      fun pair hp => hpair pair (Py.canonical_mem hp), chooseSelection_eq_choose hl⟩
  | oneCandle =>
    -- the cohort is decided as if nothing were eligible
    refine ⟨Py.choose byId [] setupInvalidated, Py.choose_coherent (by simp), ?_, ?_⟩
    · intro pair hp
      exact absurd (Py.canonical_mem hp) List.not_mem_nil
    · simp only [chooseSelection, Py.choose, List.length_eq_zero_iff, if_true]
      split_ifs
      · rfl
      · rfl
      · cases sortBy pairKey pairs <;> rfl

theorem selectionShape_ok (context : SelectionContext) {choice : Py.Choice}
    (hsha : IsSha256 sha256) (hsetup : context.setupId ≠ [])
    (hrevision : safeInteger context.revision "revision" (some 0) = .ok ())
    (hevaluated : safeInteger context.evaluatedAtEpoch "evaluated_at_epoch" (some 0) = .ok ())
    (hids : ∀ i ∈ context.candidateIdsConsidered, i ≠ "")
    (hnodup : context.candidateIdsConsidered.Nodup)
    (hsorted : sortBy id context.candidateIdsConsidered = context.candidateIdsConsidered)
    (hcoherent : choice.Coherent)
    (hcanonical : ∀ pair, choice.canonical = some pair →
      IsDigest pair.candidate.candidateId ∧ IsDigest pair.evidence.evidenceId) :
    validateSelectionShapeV3 (selection sha256 context choice.canonical choice.reason
      choice.action choice.coTriggeredModels) = .ok () := by
  simp only [validateSelectionShapeV3, then_ok_iff, digest_ok_iff, failIf_ok_iff, whenSome_ok_iff,
    ite_ok_iff, unique]
  simp only [selection, Option.isNone_map, Option.isSome_map]
  have hmodels : ¬ if choice.reason = .coTriggerSameEvent then choice.coTriggeredModels.length < 2
      else choice.coTriggeredModels.length ≠ 0 := by
    split_ifs with hreason
    · exact hcoherent.several hreason
    · rw [hcoherent.single hreason]
      exact fun h => h rfl
  refine ⟨hsha.isDigest _, ?_, hrevision, hevaluated, ?_, ?_, ?_, ?_, ?_, ?_, ?_, ?_⟩
  · rintro (h | h)
    · exact h rfl
    · exact hsetup h
  · rintro (⟨_, hid, hempty⟩ | h)
    · obtain ⟨i, hi, rfl⟩ := List.mem_map.1 hid
      exact hids i hi (JsString.js_eq_nil_iff.1 hempty)
    · exact h (hnodup.map JsString.js_injective)
  · rw [hsorted]
    exact fun h => h rfl
  · rintro (h | h)
    · exact h rfl
    · exact h rfl
  · intro i hi
    obtain ⟨pair, hp, rfl⟩ := Option.map_eq_some_iff.1 hi
    exact (hcanonical pair hp).1
  · intro i hi
    obtain ⟨pair, hp, rfl⟩ := Option.map_eq_some_iff.1 hi
    exact (hcanonical pair hp).2
  · exact not_not.2 hcoherent.models_sorted
  · intro hsome
    obtain ⟨pair, hc⟩ := Option.isSome_iff_exists.1 hsome
    obtain ⟨hf, ha, hr⟩ := hcoherent.canonical pair hc
    exact ⟨by simp [hc, hf, ha, hr], hmodels⟩
  · intro hnone
    have hc : choice.canonical = none := by simpa using hnone
    exact ⟨by simp [hc, hcoherent.empty hc], hmodels⟩

end Selections

/-! ## The whole evaluation -/

section Evaluation

variable {sha256 : Json → String} {input : EntryArbitrationInputV3}
  {matched : EntryMatchResultV3} {choice : Py.Choice}

theorem IsDigest.ne_empty {value : String} (h : IsDigest value) : value ≠ "" := by
  rintro rfl
  exact absurd h.text (by decide)

theorem Matched.isDigest {pair : EligiblePair} (hsha : IsSha256 sha256)
    (h : Matched sha256 input pair) :
    IsDigest pair.candidate.candidateId ∧ IsDigest pair.evidence.evidenceId := by
  rw [h.candidateId_eq, h.evidenceId_eq]
  exact ⟨hsha.isDigest _, hsha.isDigest _⟩

namespace SortedRecords

/-- Evidence of an evaluation finds its candidate and agrees with it. -/
theorem evidenceOfCandidate_ok (hr : SortedRecords sha256 input matched) (hs : SoundInput input)
    {e : EntryCandidateEvidenceV3} (he : e ∈ matched.evidence) :
    validateEvidenceOfCandidateV3 matched.candidates e = .ok () := by
  obtain ⟨c, hm⟩ := (hr.mem_evidence e).1 he
  have hfind : matched.candidates.find? (fun c => c.candidateId = e.candidateId) = some c :=
    hr.candidates_sorted.nodup.lookup_iff.2 ⟨(hr.mem_candidates c).2 ⟨e, hm⟩, hm.id_eq.symm⟩
  simp only [validateEvidenceOfCandidateV3, hfind, then_ok_iff, failIf_ok_iff, ite_ok_iff,
    not_not]
  refine ⟨hm.claims_eq.2, ?_, fun hexact => (hm.exact_ok hs hexact).2, fun _ => rfl⟩
  rintro ⟨hexact, hrules⟩
  rw [(hm.exact_ok hs hexact).1] at hrules
  cases hrules

/-- The canonical pointers of a selection lead to an eligible pair of the records. -/
theorem canonical_ok (hr : SortedRecords sha256 input matched) (hs : SoundInput input)
    {context : SelectionContext} {pair : EligiblePair} (hm : Matched sha256 input pair)
    (hel : exactEligibleV3 pair.candidate pair.evidence = true)
    (hcanonical : choice.canonical = some pair) :
    validateCanonicalV3 ⟨matched.candidates, matched.evidence,
      selection sha256 context choice.canonical choice.reason choice.action
        choice.coTriggeredModels⟩ pair.candidate.candidateId = .ok () := by
  obtain ⟨hexact, hstate⟩ := fidelity_of_exactEligibleV3 hel
  have hc : matched.candidates.find? (fun c => c.candidateId = pair.candidate.candidateId) =
      some pair.candidate :=
    hr.candidates_sorted.nodup.lookup_iff.2 ⟨(hr.mem_candidates _).2 ⟨_, hm⟩, rfl⟩
  have he : matched.evidence.find? (fun e => e.evidenceId = pair.evidence.evidenceId) =
      some pair.evidence :=
    hr.evidence_sorted.nodup.lookup_iff.2 ⟨(hr.mem_evidence _).2 ⟨_, hm⟩, rfl⟩
  simp only [validateCanonicalV3, selection, hcanonical, Option.map_some, Option.some.injEq, hc,
    he, then_ok_iff, failIf_ok_iff, ite_ok_iff]
  refine ⟨?_, ?_, ?_, fun _ => rfl⟩
  · simp [hm.id_eq]
  · simp [hstate, hexact, (hm.exact_ok hs hexact).1]
  · intro hmodel
    cases hm with
    | boc present => cases hmodel
    | dirClose present => cases hmodel
    | @htfFlip proof present =>
      obtain ⟨contact, recross, h⟩ := flipLifecycle_of_exact hexact
      simp only [matchFlip, candidate, evidence, h.contact_eq, failIf_ok_iff]
      push Not
      exact ⟨h.anchored, h.contexts.1, fun context hmem => (h.contexts.2 context hmem).2⟩

theorem observed (hr : SortedRecords sha256 input matched) (hs : SoundInput input) :
    (∀ c ∈ matched.candidates, c.observedAtEpoch ≤ input.evaluatedAtEpoch) ∧
      ∀ e ∈ matched.evidence, e.observedAtEpoch ≤ input.evaluatedAtEpoch := by
  constructor
  · intro c hc
    obtain ⟨e, hm⟩ := (hr.mem_candidates c).1 hc
    exact hm.observedAt.1.trans_le hs.observed
  · intro e he
    obtain ⟨c, hm⟩ := (hr.mem_evidence e).1 he
    exact hm.observedAt.2.trans_le hs.observed

theorem accepted (hr : SortedRecords sha256 input matched) :
    AcceptedRecords input.setupId matched.candidates matched.evidence := by
  refine ⟨?_, fun a ha b hb => hr.candidates_sorted.nodup.eq_of_key ha hb,
    fun a ha b hb => hr.evidence_sorted.nodup.eq_of_key ha hb, ?_⟩
  · intro c hc
    obtain ⟨e, hm⟩ := (hr.mem_candidates c).1 hc
    exact hm.setupId
  · intro e he
    obtain ⟨c, hm⟩ := (hr.mem_evidence e).1 he
    exact ⟨c, (hr.mem_candidates c).2 ⟨e, hm⟩, hm.id_eq.symm⟩

theorem request_ok (hr : SortedRecords sha256 input matched) (hs : SoundInput input) :
    validateRequestV3 input.setupId matched.candidates matched.evidence input.revision
      input.evaluatedAtEpoch = .ok () := by
  obtain ⟨hrevision, hrevision'⟩ := epoch_of_ok hs.revision
  obtain ⟨hevaluated, hevaluated'⟩ := epoch_of_ok hs.evaluatedAt
  rw [validateRequestV3, failIf_ok_iff]
  push Not
  exact ⟨hs.setupId.1, hs.setupId.2, hrevision, hrevision', hevaluated, hevaluated',
    hr.observed hs⟩

/-- The evaluation with a coherent choice among the eligible pairs is valid. -/
theorem evaluation_ok (hr : SortedRecords sha256 input matched) (hsha : IsSha256 sha256)
    (hs : SoundInput input) (he : Evaluable input) (hcoherent : choice.Coherent)
    (hcanonical : ∀ pair, choice.canonical = some pair →
      ExactPair matched.candidates matched.evidence pair) :
    validateEntryEvaluationV3 ⟨matched.candidates, matched.evidence,
      selection sha256 ⟨input.setupId, input.revision, input.evaluatedAtEpoch,
        matched.candidates.map (·.candidateId)⟩ choice.canonical choice.reason choice.action
        choice.coTriggeredModels⟩ = .ok () := by
  have hpair : ∀ pair, choice.canonical = some pair → Matched sha256 input pair ∧
      exactEligibleV3 pair.candidate pair.evidence = true := fun pair hp =>
    (exactPair_iff hr.toMatchedRecords hr.accepted.candidates_consistent pair).1
      (hcanonical pair hp)
  have hids : ∀ i ∈ matched.candidates.map (·.candidateId), i ≠ "" := by
    intro i hi
    obtain ⟨c, hc, rfl⟩ := List.mem_map.1 hi
    obtain ⟨e, hm⟩ := (hr.mem_candidates c).1 hc
    exact (hm.isDigest hsha).1.ne_empty
  obtain ⟨hobserved, hobserved'⟩ := hr.observed hs
  have hshape := selectionShape_ok ⟨input.setupId, input.revision, input.evaluatedAtEpoch,
    matched.candidates.map fun c : EntryCandidateV3 => c.candidateId⟩ hsha hs.setupId.1
    hs.revision hs.evaluatedAt hids hr.candidates_sorted.nodup hr.candidates_sorted.sorted hcoherent
    fun pair hp => (hpair pair hp).1.isDigest hsha
  have hcandidates : ∀ c ∈ matched.candidates, validateEntryCandidateV3 c = .ok () := by
    intro c hc
    obtain ⟨e, hm⟩ := (hr.mem_candidates c).1 hc
    have hok := hm.candidate_ok hsha hs
    exact hok
  have hevidence : ∀ e ∈ matched.evidence, validateEntryEvidenceV3 e = .ok () := by
    intro e hmem
    obtain ⟨c, hm⟩ := (hr.mem_evidence e).1 hmem
    have hok := hm.evidence_ok hsha hs he
    exact hok
  unfold validateEntryEvaluationV3
  simp only [then_ok_iff, forAll_ok_iff, failIf_ok_iff, whenSome_ok_iff]
  refine ⟨hcandidates, hevidence, hshape, ?_, ?_, ?_, ?_, ?_⟩
  · push Not
    exact ⟨hobserved, hobserved'⟩
  · rw [hr.candidates_sorted.sorted, hr.evidence_sorted.sorted]
    push Not
    exact ⟨rfl, rfl, hr.candidates_sorted.nodup, hr.evidence_sorted.nodup, rfl⟩
  · intro c hc
    obtain ⟨e, hm⟩ := (hr.mem_candidates c).1 hc
    exact not_not.2 hm.claims_eq.1
  · exact fun e hmem => hr.evidenceOfCandidate_ok hs hmem
  · intro i hi
    obtain ⟨pair, hp, rfl⟩ := Option.map_eq_some_iff.1 hi
    exact hr.canonical_ok hs (hpair pair hp).1 (hpair pair hp).2 hp

end SortedRecords

/-- The records of an evaluable input are arbitrated and pass the last validation. -/
theorem evaluateWithoutOpenedSeed_exists (hsha : IsSha256 sha256)
    (hinj : Set.InjOn sha256 (identityTexts sha256 input)) (hs : SoundInput input)
    (he : Evaluable input) :
    ∃ evaluation, evaluateWithoutOpenedSeed sha256 input = .ok evaluation := by
  obtain ⟨matched, hmatched, hr⟩ := matchEntryCandidatesV3_exists hs hinj
  obtain ⟨selected, hselected⟩ : ∃ selected, arbitrateEntryCandidatesV3 sha256 input.setupId
      matched.candidates matched.evidence input.setupInvalidated input.revision
      input.evaluatedAtEpoch none (input.liquidityCohort.getD .twoPlusCandles) = .ok selected :=
    arbitrateEntryCandidatesV3_exists (hr.request_ok hs) hr.accepted
  obtain ⟨-, -, byId, pairs, hindexed, hpairs, rfl⟩ := arbitrateEntryCandidatesV3_ok hselected
  obtain ⟨choice, hcoherent, hcanonical, hselection⟩ :=
    chooseSelection_choice sha256 input.setupId byId input.setupInvalidated input.revision
      input.evaluatedAtEpoch (input.liquidityCohort.getD .twoPlusCandles) hpairs
  have hids : sortBy id (byId.map (·.candidateId)) = matched.candidates.map (·.candidateId) := by
    rw [← hr.candidates_sorted.sorted]
    refine sortBy_eq_of_mem_iff id hindexed.nodup hr.candidates_sorted.nodup (fun _ _ _ _ => id) ?_
    intro i
    simp only [List.mem_map, hindexed.mem_iff]
  have hvalid := hr.evaluation_ok hsha hs he hcoherent hcanonical
  rw [hids] at hselection
  rw [← hselection] at hvalid
  unfold evaluateWithoutOpenedSeed
  simp only [hmatched, hselected, hvalid, ok_bind_eq]
  exact ⟨_, rfl⟩

/-- The records of an evaluation passed their validators, so the input was evaluable. -/
theorem evaluable_of_ok {evaluation : EntryEvaluationV3} (hv : ValidProofs input)
    (h : evaluateWithoutOpenedSeed sha256 input = .ok evaluation) : Evaluable input := by
  unfold evaluateWithoutOpenedSeed at h
  rw [bind_ok_iff] at h
  obtain ⟨matched, hmatched, h⟩ := h
  rw [bind_ok_iff] at h
  obtain ⟨selected, -, h⟩ := h
  rw [then_ok_iff] at h
  have hr := matchEntryCandidatesV3_ok hv.paired hmatched
  obtain ⟨hvalid, -⟩ := h
  simp only [validateEntryEvaluationV3, then_ok_iff, forAll_ok_iff] at hvalid
  constructor
  · intro proof hp
    exact complete_of_flip_evidence (hvalid.2.1 _ ((hr.mem_evidence _).2 ⟨_, .htfFlip hp⟩))
  · intro bar hb
    exact closed_of_close_evidence (hvalid.2.1 _ ((hr.mem_evidence _).2 ⟨_, .dirClose hb⟩))

/-- An evaluation says that a flip without its lifecycle is blocked, and why. -/
def ReportsIncompleteFlip (input : EntryArbitrationInputV3) (evaluation : EntryEvaluationV3) :
    Prop :=
  ∀ proof, input.htfFlipProof = some proof → ¬ proof.Complete →
    ∃ c ∈ evaluation.candidates, c.model = .htfFlip ∧ c.state = .blocked ∧
      ∃ e ∈ evaluation.evidence, e.candidateId = c.candidateId ∧
        e.failedRuleIds = ["HTF_FLIP_INCOMPLETE_LIFECYCLE"]

/-- A validated input without an opened seed has an evaluation exactly when its flip proof is
complete and its confirmed bar has closed when it is observed. -/
theorem evaluateEntryV3Bundle_returns_iff (hsha : IsSha256 sha256)
    (hinj : Set.InjOn sha256 (identityTexts sha256 input))
    (hvalid : validateEntryArbitrationInputV3 input = .ok ())
    (hseed : input.openedSelectionSeed = none) :
    (∃ evaluation, evaluateEntryV3Bundle sha256 input = .ok evaluation ∧
      ReportsIncompleteFlip input evaluation) ↔ Evaluable input := by
  have hs := soundInput_of_validate hvalid
  have heval : evaluateEntryV3Bundle sha256 input = evaluateWithoutOpenedSeed sha256 input := by
    simp only [evaluateEntryV3Bundle, hvalid, hseed, ok_bind_eq]
  rw [heval]
  constructor
  · rintro ⟨evaluation, h, -⟩
    exact evaluable_of_ok hs.toValidProofs h
  · intro he
    obtain ⟨evaluation, h⟩ := evaluateWithoutOpenedSeed_exists hsha hinj hs he
    refine ⟨evaluation, h, ?_⟩
    intro proof hp hincomplete
    exact absurd (he.flip proof hp) hincomplete

end Evaluation

/-! ## A flip whose contact was never retained

The input validator lets both candles of a flip be absent, and the matcher has a reason for it. The
evidence validator wants all six lifecycle fields or none, and the other four are always there. -/

def incompleteProof : EntryTriggerProofV3 where
  eventAnchorEpoch := 0
  triggerEpoch := 600
  triggerSequence := 1
  triggerTicks := 100
  htfOpenTicks := 95
  htfContextMinutes := [15]
  proofPlane := .lowerTimeframeReplay
  replayability := .replayable
  fidelity := .exact
  coverageStartEpoch := 300
  coverageEndEpoch := 600
  isRealtime := false
  contactCandle := none
  recrossCandle := none
  coverageGapDetected := false
  fullLifecycleOrdered := false
  destinationSeenBeforeContact := false
  ambiguityCodes := []

def incompleteInput : EntryArbitrationInputV3 :=
  { bearishInput with
    directionalClose := false
    confirmedBar := none
    htfFlipProof := some incompleteProof }

/-- The input is validated and has no seed, but no evaluation, whatever the digest is. -/
theorem incompleteInput_throws :
    validateEntryArbitrationInputV3 incompleteInput = .ok () ∧
      incompleteInput.openedSelectionSeed = none ∧
      ∀ (sha256 : Json → String) (evaluation : EntryEvaluationV3),
        evaluateEntryV3Bundle sha256 incompleteInput ≠ .ok evaluation := by
  have hvalid : validateEntryArbitrationInputV3 incompleteInput = .ok () := by decide +kernel
  refine ⟨hvalid, rfl, ?_⟩
  intro sha256 evaluation h
  unfold evaluateEntryV3Bundle at h
  rw [then_ok_iff] at h
  have he := evaluable_of_ok (soundInput_of_validate hvalid).toValidProofs h.2
  exact absurd (he.flip incompleteProof rfl).1 (by decide)

theorem bearishSha256_isSha256 : IsSha256 bearishSha256 where
  text := by
    intro value
    unfold bearishSha256
    split <;> decide +kernel
  nonzero := by
    intro value
    unfold bearishSha256
    split <;> decide +kernel

theorem bearishSha256_injOn : Set.InjOn bearishSha256
    (identityTexts bearishSha256 bearishInput) := by
  have htexts : ∀ text ∈ identityTexts bearishSha256 bearishInput,
      text = (matchClose bearishSha256 bearishInput.matchRequest
          bearishBar).1.toCandidateIdentityV3.toJson ∨
        text = (matchClose bearishSha256 bearishInput.matchRequest
          bearishBar).2.toEvidencePayloadFields.identityJson
            (matchClose bearishSha256 bearishInput.matchRequest bearishBar).2.payloadSha256 := by
    rintro text ⟨pair, hm, htext⟩
    cases hm with
    | boc present => cases present
    | dirClose present =>
      cases present
      exact htext
    | htfFlip present => cases present
  have hne : bearishSha256 (matchClose bearishSha256 bearishInput.matchRequest
        bearishBar).1.toCandidateIdentityV3.toJson ≠
      bearishSha256 ((matchClose bearishSha256 bearishInput.matchRequest
        bearishBar).2.toEvidencePayloadFields.identityJson
          (matchClose bearishSha256 bearishInput.matchRequest bearishBar).2.payloadSha256) := by
    decide +kernel
  intro a ha b hb hab
  rcases htexts a ha with rfl | rfl <;> rcases htexts b hb with rfl | rfl
  · rfl
  · exact absurd hab hne
  · exact absurd hab.symm hne
  · rfl

/-- The theorem at a close that was observed in time. -/
theorem bearishInput_returns :
    ∃ evaluation, evaluateEntryV3Bundle bearishSha256 bearishInput = .ok evaluation ∧
      ReportsIncompleteFlip bearishInput evaluation := by
  apply (evaluateEntryV3Bundle_returns_iff bearishSha256_isSha256 bearishSha256_injOn
    (by decide +kernel) rfl).2
  constructor
  · intro proof hp
    cases hp
  · intro bar hb
    cases hb
    decide

end TradeOps.Entry
