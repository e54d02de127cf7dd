import TradeOps.EntryModels.Selections

/-!
# Arbitration meets its specification

The closed form of a selection, and the Python selection of the same request. Python refuses a setup
id with U+0000 or an unpaired surrogate when it takes the digest of the selection; everything else
that the TypeScript code accepts it selects alike.
-/

namespace TradeOps.EntryModels

open Checks Keyed SortBy
open Entry (IsSha256 IsDigest requireSha256_ok_iff canonicalText_js)
open JsString (js)
open scoped JsString

variable {sha256 : Json → String} {request : EntryArbitrationRequest} {result : EntrySelection}

/-! ## The closed form -/

/-- What is selected, in terms of the records of the request. -/
structure Selected (request : EntryArbitrationRequest) (result : EntrySelection) : Prop where
  eligible_iff : result.action = .paperEligible ↔
    request.setupInvalidated = false ∧
      (∃ candidate item, IsActive request.candidates candidate ∧
        IsExactOf request.evidence candidate item) ∧
      ((∃ close, IsFallback request.candidates request.evidence close) ∨
        OneEarliestModel request.candidates request.evidence)
  fallback : ∀ close, result.action = .paperEligible →
    IsFallback request.candidates request.evidence close →
    result.canonicalCandidateId = some close.candidateId
  earliest : result.action = .paperEligible →
    (∀ close, ¬ IsFallback request.candidates request.evidence close) →
    ∃ candidate, IsEarliestExact request.candidates request.evidence candidate ∧
      result.canonicalCandidateId = some candidate.candidateId
  canonical : ∀ candidateId, result.canonicalCandidateId = some candidateId →
    ∃ candidate item, IsActive request.candidates candidate ∧
      candidate.candidateId = candidateId ∧
      IsCanonicalEvidence request.evidence candidate item ∧
      result.canonicalEvidenceId = some item.evidenceId
  empty : result.action ≠ .paperEligible →
    result.canonicalCandidateId = none ∧ result.canonicalEvidenceId = none

section ClosedForm

variable {candidates : List EntryCandidate} {evidence : List EntryCandidateEvidence}
  {invalidated : Bool} {decision : Decision}

theorem IsFallback.exists_exact {close : EntryCandidate}
    (h : IsFallback candidates evidence close) :
    ∃ candidate item, IsActive candidates candidate ∧ IsExactOf evidence candidate item := by
  obtain ⟨trigger, htrigger, -⟩ := h.earliest
  obtain ⟨item, hitem, -⟩ := htrigger.attained
  exact ⟨close, item, h.active, hitem⟩

theorem IsFallback.unique (hkeys : Consistent (·.candidateId) candidates)
    {close other : EntryCandidate} (h : IsFallback candidates evidence close)
    (h' : IsFallback candidates evidence other) : close = other := by
  obtain ⟨trigger, htrigger, hleast, -⟩ := h.earliest
  obtain ⟨otherTrigger, hotherTrigger, hotherLeast, -⟩ := h'.earliest
  have hle := hleast other otherTrigger h'.active h'.model hotherTrigger
  have hge := hotherLeast close trigger h.active h.model htrigger
  have hid := congrArg (fun rank => (ofLex rank).2) (le_antisymm hle hge)
  exact hkeys close h.active.1 other h'.active.1 hid

theorem IsEarliestExact.exists_exact {candidate : EntryCandidate}
    (h : IsEarliestExact candidates evidence candidate) :
    ∃ candidate item, IsActive candidates candidate ∧ IsExactOf evidence candidate item := by
  obtain ⟨trigger, htrigger, -⟩ := h.earliest
  obtain ⟨item, hitem, -⟩ := htrigger.attained
  exact ⟨candidate, item, h.active, hitem⟩

theorem Decided.eligible_iff (h : Decided candidates evidence invalidated decision) :
    decision.action = .paperEligible ↔ invalidated = false ∧
      (∃ candidate item, IsActive candidates candidate ∧ IsExactOf evidence candidate item) ∧
      ((∃ close, IsFallback candidates evidence close) ∨ OneEarliestModel candidates evidence) := by
  cases h with
  | invalidated => simp
  | noCandidate h =>
    refine iff_of_false (by simp) ?_
    rintro ⟨-, ⟨candidate, item, hactive, -⟩, -⟩
    exact h candidate hactive
  | noExact h =>
    refine iff_of_false (by simp) ?_
    rintro ⟨-, ⟨candidate, item, hactive, hitem⟩, -⟩
    exact h candidate hactive item hitem
  | fallback h hitem => exact iff_of_true rfl ⟨rfl, h.exists_exact, .inl ⟨_, h⟩⟩
  | earliest hno h hone hitem => exact iff_of_true rfl ⟨rfl, h.exists_exact, .inr hone⟩
  | ambiguous hno h =>
    refine iff_of_false (by simp) ?_
    rintro ⟨-, -, ⟨close, hclose⟩ | hone⟩
    · exact hno close hclose
    · exact h hone

/-- What a decision says of its candidate and evidence. -/
structure Decision.Coherent (candidates : List EntryCandidate)
    (evidence : List EntryCandidateEvidence) (decision : Decision) : Prop where
  canonical : ∀ candidate, decision.candidate = some candidate → decision.action = .paperEligible ∧
    IsActive candidates candidate ∧ ∃ item, decision.evidence = some item ∧
      IsCanonicalEvidence evidence candidate item
  empty : decision.candidate = none → decision.evidence = none ∧ decision.action ≠ .paperEligible

theorem Decided.coherent (h : Decided candidates evidence invalidated decision) :
    decision.Coherent candidates evidence := by
  cases h with
  | invalidated => exact ⟨by simp, by simp⟩
  | noCandidate h => exact ⟨by simp, by simp⟩
  | noExact h => exact ⟨by simp, by simp⟩
  | ambiguous hno h => exact ⟨by simp, by simp⟩
  | fallback h hitem =>
    refine ⟨fun candidate hcandidate => ?_, by simp⟩
    obtain rfl := Option.some.inj hcandidate
    exact ⟨rfl, h.active, _, rfl, hitem⟩
  | earliest hno h hone hitem =>
    refine ⟨fun candidate hcandidate => ?_, by simp⟩
    obtain rfl := Option.some.inj hcandidate
    exact ⟨rfl, h.active, _, rfl, hitem⟩

theorem Decided.fallback_candidate (hkeys : Consistent (·.candidateId) candidates)
    (h : Decided candidates evidence invalidated decision)
    (heligible : decision.action = .paperEligible) {close : EntryCandidate}
    (hclose : IsFallback candidates evidence close) : decision.candidate = some close := by
  cases h with
  | fallback h hitem => rw [h.unique hkeys hclose]
  | earliest hno h hone hitem => exact absurd hclose (hno close)
  | invalidated => cases heligible
  | noCandidate h => cases heligible
  | noExact h => cases heligible
  | ambiguous hno h => cases heligible

theorem Decided.earliest_candidate (h : Decided candidates evidence invalidated decision)
    (heligible : decision.action = .paperEligible)
    (hno : ∀ close, ¬ IsFallback candidates evidence close) :
    ∃ candidate, IsEarliestExact candidates evidence candidate ∧
      decision.candidate = some candidate := by
  cases h with
  | fallback h hitem => exact absurd h (hno _)
  | earliest hno h hone hitem => exact ⟨_, h, rfl⟩
  | invalidated => cases heligible
  | noCandidate h => cases heligible
  | noExact h => cases heligible
  | ambiguous hno h => cases heligible

theorem selected_of_arbitrate (h : arbitrateEntryCandidates sha256 request = .ok result) :
    Selected request result := by
  obtain ⟨-, candidates, evidence, hindex, rfl⟩ := arbitrate_ok_iff.mp h
  obtain ⟨hindexed, haccepted⟩ := indexRecords_ok hindex
  have hdecided := decided_selectCanonicalDecision haccepted.candidateKeys
    hindexed.collected_triggersOf request.setupInvalidated
  have hcoherent := hdecided.coherent
  unfold selectionOf
  generalize selectCanonicalDecision request.setupInvalidated (activeOf candidates)
    (exactCandidates (activeOf candidates) (triggersOf (activeOf candidates) evidence))
    (triggersOf (activeOf candidates) evidence) = decision at hdecided hcoherent
  refine ⟨hdecided.eligible_iff, ?_, ?_, ?_, ?_⟩
  · intro close heligible hclose
    have hcandidate := hdecided.fallback_candidate haccepted.candidateKeys heligible hclose
    simp [selection, selectionIdentity, hcandidate]
  · intro heligible hno
    obtain ⟨candidate, hearliest, hcandidate⟩ := hdecided.earliest_candidate heligible hno
    exact ⟨candidate, hearliest, by simp [selection, selectionIdentity, hcandidate]⟩
  · intro candidateId hid
    obtain ⟨candidate, hcandidate, rfl⟩ := Option.map_eq_some_iff.mp hid
    obtain ⟨-, hactive, item, hitem, hcanonical⟩ := hcoherent.canonical candidate hcandidate
    exact ⟨candidate, item, hactive, rfl, hcanonical,
      by simp [selection, selectionIdentity, hitem]⟩
  · intro hother
    cases hcandidate : decision.candidate with
    | some candidate => exact absurd (hcoherent.canonical candidate hcandidate).1 hother
    | none =>
      have hnone := (hcoherent.empty hcandidate).1
      simp [selection, selectionIdentity, hcandidate, hnone]

end ClosedForm

/-! ## The Python selection -/

/-- The constructors of the Python records accept the request. -/
structure ConstructedInPython (request : EntryArbitrationRequest) : Prop where
  candidates : ∀ candidate ∈ request.candidates, Py.candidatePostInit candidate = .ok ()
  evidence : ∀ item ∈ request.evidence, Py.evidencePostInit item = .ok ()
  request : Py.requestPostInit request = .ok ()

theorem isDigest_candidateId {candidate : EntryCandidate}
    (h : Py.candidatePostInit candidate = .ok ()) : IsDigest candidate.candidateId := by
  unfold Py.candidatePostInit at h
  exact requireSha256_ok_iff.mp (then_ok_iff.mp h).1

theorem isDigest_evidenceId {item : EntryCandidateEvidence}
    (h : Py.evidencePostInit item = .ok ()) : IsDigest item.evidenceId := by
  unfold Py.evidencePostInit at h
  exact requireSha256_ok_iff.mp (then_ok_iff.mp h).1

section Python

variable {active : List EntryCandidate} {decision : Decision}
  (hscalars : ScalarsAccepted request) (hpython : ConstructedInPython request)
  (hactive : ∀ c, c ∈ active ↔ IsActive request.candidates c)
  (hnodup : (active.map (·.candidateId)).Nodup)
  (hcoherent : decision.Coherent request.candidates request.evidence)

include hpython hactive hcoherent

theorem isDigest_canonical :
    (∀ i ∈ sortBy id (active.map (·.candidateId)), IsDigest i) ∧
      (∀ i, decision.candidate.map (·.candidateId) = some i → IsDigest i) ∧
      ∀ i, decision.evidence.map (·.evidenceId) = some i → IsDigest i := by
  refine ⟨?_, ?_, ?_⟩
  · intro i hi
    obtain ⟨c, hc, rfl⟩ := List.mem_map.mp ((mem_sortBy id).mp hi)
    exact isDigest_candidateId (hpython.candidates c ((hactive c).mp hc).1)
  · intro i hi
    obtain ⟨c, hc, rfl⟩ := Option.map_eq_some_iff.mp hi
    exact isDigest_candidateId (hpython.candidates c (hcoherent.canonical c hc).2.1.1)
  · intro i hi
    obtain ⟨item, hitem, rfl⟩ := Option.map_eq_some_iff.mp hi
    cases hcandidate : decision.candidate with
    | none => exact absurd hitem (by simp [(hcoherent.empty hcandidate).1])
    | some c =>
      obtain ⟨-, -, other, hother, hcanonical⟩ := hcoherent.canonical c hcandidate
      obtain rfl := Option.some.inj (hitem.symm.trans hother)
      exact isDigest_evidenceId (hpython.evidence item hcanonical.exact.mem)

include hnodup in
theorem validateSelectionFields_ok :
    Py.validateSelectionFields (selectionIdentity request active decision) = .ok () := by
  obtain ⟨hids, hcandidate, hevidence⟩ := isDigest_canonical hpython hactive hcoherent
  have hrequest := hpython.request
  simp only [Py.requestPostInit, Entry.Py.requireNonNegative, then_ok_iff, failIf_ok_iff]
    at hrequest
  simp only [Py.validateSelectionFields, Entry.Py.requireText, Entry.Py.requireNonNegative,
    then_ok_iff, failIf_ok_iff, forAll_ok_iff, whenSome_ok_iff, requireSha256_ok_iff]
  refine ⟨hrequest.1, not_not.mpr rfl, hrequest.2.1, hids, ?_, ?_, ?_, hcandidate, hevidence⟩
  · exact not_not.mpr (sortBy_of_pairwise id (sortBy_pairwise id _))
  · exact not_not.mpr ((sortBy_perm id _).nodup_iff.mpr hnodup)
  · cases hcase : decision.candidate with
    | none => simp [selectionIdentity, hcase, (hcoherent.empty hcase).1]
    | some c =>
      obtain ⟨-, -, item, hitem, -⟩ := hcoherent.canonical c hcase
      simp [selectionIdentity, hcase, hitem]

include hscalars

/-- The selection has a canonical form in Python exactly when its setup id is a canonical text. -/
theorem canonicalValue_iff :
    Entry.Py.canonicalValue (selectionIdentity request active decision).toJson = true ↔
      Entry.Py.canonicalText request.setupId = true := by
  obtain ⟨hids, hcandidate, hevidence⟩ := isDigest_canonical hpython hactive hcoherent
  have hrevision : -SafeIntegers.maxSafeInteger ≤ request.revision ∧
      request.revision ≤ SafeIntegers.maxSafeInteger := by
    have hsafe := hscalars.revision
    simp only [requireNonNegativeInteger, failIf_ok_iff, not_or, not_not] at hsafe
    exact hsafe.1
  have haction : Entry.Py.canonicalText (js decision.action.name) = true := by
    apply canonicalText_js
    cases decision.action <;> decide
  have hreason : Entry.Py.canonicalText (js decision.reason.name) = true := by
    apply canonicalText_js
    cases decision.reason <;> decide
  have hfidelity : ∀ fidelity : CandidateFidelity,
      Entry.Py.canonicalText (js fidelity.name) = true := by
    intro fidelity
    apply canonicalText_js
    cases fidelity <;> decide
  have hpolicy : Entry.Py.canonicalText (js entryPolicyVersion) = true :=
    canonicalText_js (by decide)
  have hoption : ∀ {value : Option String}, (∀ i, value = some i → IsDigest i) →
      (value.all fun i => Entry.Py.canonicalText (js i)) = true := by
    intro value hvalue
    cases value with
    | none => rfl
    | some i => simpa using (hvalue i rfl).canonicalText
  simp only [Entry.Py.canonicalValue, EntrySelectionIdentity.toJson, selectionIdentity, Json.leaves,
    Json.leavesFields, Json.leaves_strs, Json.leaves_ofOption, List.all_map, Bool.and_eq_true,
    Bool.and_true, decide_eq_true_eq]
  constructor
  · rintro ⟨-, -, -, -, -, -, -, -, hsetup⟩
    exact hsetup
  · intro hsetup
    refine ⟨haction, ?_, hoption hcandidate, hoption hevidence, ?_, hpolicy, hreason, hrevision,
      hsetup⟩
    · rw [List.all_eq_true]
      exact fun i hi => (hids i hi).canonicalText
    · cases decision.evidence with
      | none => rfl
      | some item => simpa using hfidelity item.fidelity

end Python

/-- Python indexes the records that the TypeScript code accepts. -/
theorem py_indexed (haccepted : RecordsAccepted sha256 request) :
    ∃ candidates evidence, Py.uniqueCandidates request = .ok candidates ∧
      Py.uniqueEvidence request.evidence = .ok evidence ∧
      Py.validateEvidenceOwnership candidates evidence = .ok () ∧
      Indexed request candidates evidence := by
  have hsetup : ∀ c ∈ request.candidates, failIf (c.setupId ≠ request.setupId)
      "candidate setup_id must match arbitration setup_id" = .ok () := by
    intro c hc
    have howner := (haccepted.candidates c hc).owner
    unfold validateCandidateOwner at howner
    rw [failIf_ok_iff]
    exact failIf_ok_iff.mp (then_ok_iff.mp howner).2
  obtain ⟨candidates, hcandidates⟩ : ∃ candidates, Py.uniqueCandidates request = .ok candidates :=
    index_exists hsetup haccepted.candidateKeys
  obtain ⟨evidence, hevidence⟩ :
      ∃ evidence, Py.uniqueEvidence request.evidence = .ok evidence :=
    index_exists (fun _ _ => rfl) haccepted.evidenceKeys
  obtain ⟨-, hkeys, hmem, -⟩ := index_spec hcandidates
  obtain ⟨-, hkeys', hmem', -⟩ := index_spec hevidence
  refine ⟨candidates, evidence, hcandidates, hevidence, ?_, ⟨hkeys, hkeys', hmem, hmem'⟩⟩
  unfold Py.validateEvidenceOwnership
  rw [forAll_ok_iff]
  intro item hitem
  obtain ⟨c, hc, hid⟩ := (haccepted.evidence item ((hmem' item).mp hitem)).known
  rw [failIf_ok_iff]
  exact fun hunknown => hunknown c ((hmem c).mpr hc) hid

/-- Python selects the same, unless the setup id is outside the canonical profile. -/
theorem py_arbitrate_iff (hsha : IsSha256 sha256)
    (h : arbitrateEntryCandidates sha256 request = .ok result)
    (hpython : ConstructedInPython request) :
    Py.arbitrateEntryCandidates sha256 request = .ok result ↔
      Entry.Py.canonicalText request.setupId = true := by
  obtain ⟨hscalars, candidates, evidence, hindex, rfl⟩ := arbitrate_ok_iff.mp h
  obtain ⟨hindexed, haccepted⟩ := indexRecords_ok hindex
  obtain ⟨candidates', evidence', hcandidates, hevidence, howned, hindexed'⟩ := py_indexed haccepted
  have hcollected := hindexed'.collected
    (fun c hc => Py.collectedFor_triggersOf hc evidence')
  rw [selectionOf_eq ⟨haccepted.candidateKeys, haccepted.evidenceKeys⟩
    hindexed.collected_triggersOf hcollected hindexed.activeIds_nodup hindexed'.activeIds_nodup]
  have hcoherent := (decided_selectCanonicalDecision haccepted.candidateKeys hcollected
    request.setupInvalidated).coherent
  unfold Py.arbitrateEntryCandidates selectionOf
  rw [hcandidates, ok_bind_eq, hevidence, ok_bind_eq, howned, ok_bind_eq]
  dsimp only
  rw [show candidates'.filter (·.isActive) = activeOf candidates' from rfl]
  generalize selectCanonicalDecision request.setupInvalidated (activeOf candidates')
    (exactCandidates (activeOf candidates') (Py.triggersOf (activeOf candidates') evidence'))
    (Py.triggersOf (activeOf candidates') evidence') = decision at hcoherent ⊢
  have hfields := validateSelectionFields_ok hpython hcollected.active hindexed'.activeIds_nodup
    hcoherent
  rw [← canonicalValue_iff hscalars hpython hcollected.active hcoherent, hfields, ok_bind_eq]
  unfold Entry.Py.canonicalSha256
  split_ifs with hcanonical
  · refine iff_of_true ?_ hcanonical
    have hpost : Py.selectionPostInit (selection sha256 request (activeOf candidates') decision) =
        .ok () := by
      unfold Py.selectionPostInit
      rw [then_ok_iff, then_ok_iff, requireSha256_ok_iff]
      refine ⟨hsha.isDigest _, hfields, ?_⟩
      have hevaluated := hpython.request
      unfold Py.requestPostInit at hevaluated
      exact (then_ok_iff.mp (then_ok_iff.mp hevaluated).2).2
    rw [ok_bind_eq, then_ok_iff]
    exact ⟨hpost, rfl⟩
  · exact iff_of_false (by simp [bind, Except.bind]) hcanonical

/-- A request that is accepted leads to the same selection with its records in any order and number.
Python, once its constructors accept the records, selects the same exactly when the setup id has no
U+0000 and no unpaired surrogate, and the selection is the one that the records determine. -/
theorem arbitration_correct (sha256 : Json → String) (hsha : IsSha256 sha256)
    (request : EntryArbitrationRequest) (result : EntrySelection)
    (h : arbitrateEntryCandidates sha256 request = .ok result) :
    (∀ request', SameRecordSets request request' →
      arbitrateEntryCandidates sha256 request' = .ok result) ∧
    (ConstructedInPython request →
      (Py.arbitrateEntryCandidates sha256 request = .ok result ↔
        Entry.Py.canonicalText request.setupId = true)) ∧
    Selected request result :=
  ⟨fun _ hsame => arbitrate_congr hsame h, py_arbitrate_iff hsha h, selected_of_arbitrate h⟩

/-! ## A flip without coverage before a confirmed close -/

def closeId : String := "c1b10607f32a0d77fe4ed80350ead3c2b31c01ce05c191891b77cdc01183b278"

def flipId : String := "2426e10229fd33781cc2b3aadd37ceb9dba8a9cefc98234e54748d5e110f3138"

def entryCandidate (candidateId : String) (model : EntryModelV2) (anchor observedAt : Int) :
    EntryCandidate where
  setupId := "setup-1"
  model := model
  direction := .long
  eventAnchorEpoch := anchor
  triggerOrdinal := 1
  candidateId := candidateId
  state := .matched
  sourceClaimIds := []
  normalizedFrom := none
  observedAtEpoch := observedAt

def closeEvidence : EntryCandidateEvidence where
  candidateId := closeId
  observedTriggerEpoch := some 600
  observedTriggerTicks := some 105
  htfContextMinutes := []
  fidelity := .exact
  proofPlane := .confirmed5m
  proofResolutionSeconds := 300
  coverageStartEpoch := 300
  coverageEndEpoch := 600
  ambiguityCodes := []
  passedRuleIds := ["ENTRY_CLOSE"]
  failedRuleIds := []
  sourceClaimIds := []
  evidenceId := "51d9834b3a867306d28369f0729a705adf53a84be4afc8967eb03ac523c58044"
  payloadSha256 := "574e05426d59ac6509283939f6fb7beeadc4b152aed6127ce61ff8ddb20e7de6"
  observedAtEpoch := 600

def flipEvidence : EntryCandidateEvidence where
  candidateId := flipId
  observedTriggerEpoch := some 300
  observedTriggerTicks := some 100
  htfContextMinutes := [15]
  fidelity := .unresolved
  proofPlane := .lowerTimeframeReplay
  proofResolutionSeconds := 60
  coverageStartEpoch := 0
  coverageEndEpoch := 300
  ambiguityCodes := [.missingIntrabarCoverage]
  passedRuleIds := []
  failedRuleIds := ["ENTRY_COVERAGE"]
  sourceClaimIds := []
  evidenceId := "8d33061119eb7642c39893daa3dafb246c52a1d8ae4e45e89a0ea00cb1a649e9"
  payloadSha256 := "112d217dddac03dbe8411930ff81465b2e3fd82f6b2ed71682e61c392a5da79e"
  observedAtEpoch := 300

/-- The digests of these records and of the selection they lead to. -/
def fallbackSha256 : Json → String
  | .obj (("direction", _) :: ("event_anchor_epoch", .num 0) :: _) => flipId
  | .obj (("direction", _) :: _) => closeId
  | .obj (("ambiguity_codes", .arr []) :: _) => closeEvidence.payloadSha256
  | .obj (("ambiguity_codes", _) :: _) => flipEvidence.payloadSha256
  | .obj (("candidate_id", _) :: ("coverage_end_epoch", .num 300) :: _) => flipEvidence.evidenceId
  | .obj (("candidate_id", _) :: _) => closeEvidence.evidenceId
  | _ => "7d4ec3ed95ae125ba8860afc03619a627c9100755d7643c5e5a93c3fbfee7308"

theorem isSha256_fallback : IsSha256 fallbackSha256 where
  text value := by
    unfold fallbackSha256
    split <;> decide +kernel
  nonzero value := by
    unfold fallbackSha256
    split <;> decide +kernel

def fallbackRequest (candidates : List EntryCandidate) (evidence : List EntryCandidateEvidence) :
    EntryArbitrationRequest :=
  ⟨"setup-1", false, 0, candidates, evidence, 600⟩

def flipAndClose : EntryArbitrationRequest :=
  fallbackRequest [entryCandidate flipId .htfFlip 0 300, entryCandidate closeId .dirClose 300 600]
    [flipEvidence, closeEvidence]

/-- The same records in another order, one of them twice. -/
def closeAndFlip : EntryArbitrationRequest :=
  fallbackRequest
    [entryCandidate closeId .dirClose 300 600, entryCandidate flipId .htfFlip 0 300,
      entryCandidate closeId .dirClose 300 600]
    [closeEvidence, flipEvidence]

theorem flipAndClose_selected :
    (arbitrateEntryCandidates fallbackSha256 flipAndClose).toOption.map
      (fun result => (result.reason, result.canonicalCandidateId)) =
      some (.fallbackToConfirmedClose, some closeId) := by
  decide +kernel

theorem flipAndClose_constructed : ConstructedInPython flipAndClose where
  candidates := by
    simp only [flipAndClose, fallbackRequest, List.forall_mem_cons, List.not_mem_nil,
      false_implies, implies_true, and_true]
    decide +kernel
  evidence := by
    simp only [flipAndClose, fallbackRequest, List.forall_mem_cons, List.not_mem_nil,
      false_implies, implies_true, and_true]
    decide +kernel
  request := by decide +kernel

theorem flip_then_close_falls_back :
    ∃ result, arbitrateEntryCandidates fallbackSha256 flipAndClose = .ok result ∧
      result.canonicalCandidateId = some closeId ∧
      arbitrateEntryCandidates fallbackSha256 closeAndFlip = .ok result ∧
      Py.arbitrateEntryCandidates fallbackSha256 flipAndClose = .ok result := by
  obtain ⟨result, hresult, hcase⟩ := toOption_map_eq_some.mp flipAndClose_selected
  obtain ⟨hsame, hpython, -⟩ :=
    arbitration_correct fallbackSha256 isSha256_fallback flipAndClose result hresult
  refine ⟨result, hresult, (Prod.mk.inj hcase).2, hsame closeAndFlip ?_,
    (hpython flipAndClose_constructed).mpr (by decide)⟩
  refine ⟨rfl, rfl, rfl, rfl, fun c => ?_, fun e => ?_⟩
  · simp only [closeAndFlip, flipAndClose, fallbackRequest, List.mem_cons,
      List.not_mem_nil, or_false]
    exact ⟨fun hc => hc.elim .inr id, .inr⟩
  · simp only [closeAndFlip, flipAndClose, fallbackRequest, List.mem_cons,
      List.not_mem_nil, or_false]
    exact or_comm

/-! ## A setup id outside the canonical profile -/

def nulRequest : EntryArbitrationRequest := ⟨"a\x00b", false, 0, [], [], 600⟩

/-- A setup id that ends in an unpaired surrogate. -/
def surrogateRequest : EntryArbitrationRequest := ⟨[0x61, 0xd800], false, 0, [], [], 600⟩

/-- Both languages accept the request; Python raises when it takes the digest of a selection. -/
structure RaisesInPython (request : EntryArbitrationRequest) : Prop where
  selected : ∃ result, arbitrateEntryCandidates fallbackSha256 request = .ok result
  constructed : ConstructedInPython request
  raises : ∀ result, Py.arbitrateEntryCandidates fallbackSha256 request ≠ .ok result

theorem RaisesInPython.of_reasons {request : EntryArbitrationRequest}
    (hselected : (arbitrateEntryCandidates fallbackSha256 request).toOption.map
      (fun result => result.reason) = some .noCandidate)
    (hconstructed : ConstructedInPython request)
    (hraises : (Py.arbitrateEntryCandidates fallbackSha256 request).toOption.map
      (fun result => result.reason) = none) : RaisesInPython request := by
  obtain ⟨result, hresult, -⟩ := toOption_map_eq_some.mp hselected
  refine ⟨⟨result, hresult⟩, hconstructed, ?_⟩
  intro other hother
  rw [hother] at hraises
  cases hraises

theorem nul_setup_id_raises_in_python :
    RaisesInPython nulRequest ∧ RaisesInPython surrogateRequest := by
  constructor
  · apply RaisesInPython.of_reasons
    · decide +kernel
    · exact ⟨by simp [nulRequest], by simp [nulRequest], by decide +kernel⟩
    · decide +kernel
  · apply RaisesInPython.of_reasons
    · decide +kernel
    · exact ⟨by simp [surrogateRequest], by simp [surrogateRequest], by decide +kernel⟩
    · decide +kernel

end TradeOps.EntryModels
