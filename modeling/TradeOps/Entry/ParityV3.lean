import TradeOps.Entry.ArbitratorV3Py

/-!
# Parity of the two arbitrators

On records that both languages accept, the two implementations run the same choice over the same
records; they differ in the eligibility predicate and in what they accept as a setup id. Python
does not compare the anchor of a BOC candidate with its reference candle, nor the anchor of a close
candidate with its bar. A pair where these differ is misanchored: Python takes it as an exact
trigger and the TypeScript code does not. So a request is answered alike when the two sets of pairs
lead to one decision, which is a condition on the pairs at the earliest events.
-/

namespace TradeOps.Entry

open Checks Keyed SortBy
open JsString (js)
open scoped JsString

/-- What both languages rely on about the digest: it is a nonzero lowercase SHA-256 text. -/
structure IsSha256 (sha256 : Json → String) : Prop where
  text : ∀ value, sha256Text (sha256 value) = true
  nonzero : ∀ value, sha256 value ≠ zeroSha256

/-- The records pass the validators of both languages. -/
structure AcceptedByBoth (sha256 : Json → String) (candidates : List EntryCandidateV3)
    (evidence : List EntryCandidateEvidenceV3) : Prop where
  candidate_ts : ∀ c ∈ candidates, validateEntryCandidateV3 c = .ok ()
  candidate_py : ∀ c ∈ candidates, Py.candidatePostInit sha256 c = .ok ()
  evidence_ts : ∀ e ∈ evidence, validateEntryEvidenceV3 e = .ok ()
  evidence_py : ∀ e ∈ evidence, Py.evidencePostInit sha256 e = .ok ()

/-- The anchor of the candidate is not where its model puts it. -/
def Misanchored (candidate : EntryCandidateV3) (evidence : EntryCandidateEvidenceV3) : Prop :=
  match candidate.model with
  | .boc => candidate.referenceCandleOpenEpoch ≠ some candidate.eventAnchorEpoch ∨
      candidate.eventAnchorEpoch % 300 ≠ 0
  | .dirClose => candidate.eventAnchorEpoch ≠ evidence.coverageStartEpoch
  | .htfFlip => False

instance (candidate : EntryCandidateV3) (evidence : EntryCandidateEvidenceV3) :
    Decidable (Misanchored candidate evidence) := by
  unfold Misanchored
  cases candidate.model <;> infer_instance

/-- Python's eligibility as a predicate. -/
def Py.isEligible (candidate : EntryCandidateV3) (evidence : EntryCandidateEvidenceV3) : Bool :=
  match Py.exactEligible candidate evidence with
  | .ok eligible => eligible
  | .error _ => false

/-! ## The eligibility predicates -/

section Eligibility

variable {sha256 : Json → String} {c : EntryCandidateV3} {e : EntryCandidateEvidenceV3}

theorem reference_of_candidatePostInit (h : Py.candidatePostInit sha256 c = .ok ())
    (hm : c.model = .boc) : ∃ reference, c.referenceCandleOpenEpoch = some reference := by
  unfold Py.candidatePostInit Py.candidateIdentityPostInit at h
  simp only [hm, if_true, then_ok_iff, failIf_ok_iff, not_or] at h
  exact Option.ne_none_iff_exists'.1 h.2.1.2.2.2.1.2

/-- `_exact_eligible` never raises on accepted candidates. -/
theorem Py.exactEligible_ok (h : Py.candidatePostInit sha256 c = .ok ()) :
    Py.exactEligible c e = .ok (Py.isEligible c e) := by
  have hok : ∃ b, Py.exactEligible c e = .ok b := by
    unfold Py.exactEligible
    cases e.observedTriggerEpoch with
    | none => exact ⟨_, rfl⟩
    | some trigger =>
      by_cases hb : Py.baseEligible c e = true
      · have hg : ∃ b, Py.geometry c e trigger = .ok b := by
          unfold Py.geometry
          cases hm : c.model with
          | boc =>
            obtain ⟨reference, hr⟩ := reference_of_candidatePostInit h hm
            have her : e.referenceCandleOpenEpoch = some reference := by
              simp only [Py.baseEligible, decide_eq_true_eq] at hb
              rw [hb.2.2.2.2.2.2.2, hr]
            simp only [Py.bocGeometry, her]
            exact ⟨_, rfl⟩
          | dirClose => exact ⟨_, rfl⟩
          | htfFlip => exact ⟨_, rfl⟩
        obtain ⟨b, hg⟩ := hg
        simp only [hb, if_true, hg, ok_bind_eq]
        exact ⟨_, rfl⟩
      · simp only [hb]
        exact ⟨_, rfl⟩
  obtain ⟨b, hb⟩ := hok
  rw [Py.isEligible, hb]

theorem replayability_of_validateEntryEvidenceV3 (h : validateEntryEvidenceV3 e = .ok ())
    (hf : e.fidelity = .exact) : e.replayability = expectedReplayability e.proofPlane := by
  unfold validateEntryEvidenceV3 at h
  simp only [then_ok_iff, failIf_ok_iff, not_and, not_not] at h
  exact h.2.2.2.2.2.2.2.2.2.2.2.2.2.2.2.2.2.2.2.2 hf

theorem planeEligible_eq (h : validateEntryEvidenceV3 e = .ok ()) (hf : e.fidelity = .exact)
    (model : EntryModelV3) : Py.planeEligible model e = planeEligibleV3 model e := by
  have hr := replayability_of_validateEntryEvidenceV3 h hf
  unfold Py.planeEligible planeEligibleV3
  cases hp : e.proofPlane <;> simp [hp, expectedReplayability] at hr <;> simp [hr]

theorem baseEligible_of_exactEligibleV3 (h : exactEligibleV3 c e = true) :
    Py.baseEligible c e = true := by
  obtain ⟨trigger, ht⟩ := triggerEpoch_of_exactEligibleV3 h
  simp only [exactEligibleV3, ht, decide_eq_true_eq] at h
  obtain ⟨hstate, hf, hamb, hpass, hfail, htier, href, hgeo, -, -⟩ := h
  have hboc : ¬ (c.model = .boc ∧ c.bocTier ≠ some .htfTimed) := by
    rintro ⟨hm, htimed⟩
    simp only [geometryV3, hm, bocGeometryV3] at hgeo
    split at hgeo
    · exact htimed (of_decide_eq_true hgeo).1
    · cases hgeo
  simp only [Py.baseEligible, decide_eq_true_eq]
  exact ⟨hstate, hf, hamb, hboc, hpass, hfail, htier, href⟩

/-- With the base conditions, the geometries differ by the anchor only. -/
theorem geometryV3_iff (hc : Py.candidatePostInit sha256 c = .ok ())
    (hb : Py.baseEligible c e = true) (trigger : Int) :
    geometryV3 c e trigger = true ↔ Py.geometry c e trigger = .ok true ∧ ¬ Misanchored c e := by
  simp only [Py.baseEligible, decide_eq_true_eq] at hb
  unfold geometryV3 Py.geometry Misanchored
  cases hm : c.model with
  | boc =>
    obtain ⟨reference, hr⟩ := reference_of_candidatePostInit hc hm
    have her : e.referenceCandleOpenEpoch = some reference := by rw [hb.2.2.2.2.2.2.2, hr]
    have htier : c.bocTier = some .htfTimed := by simpa [hm] using hb.2.2.2.1
    simp only [bocGeometryV3, Py.bocGeometry, hr, her, htier, decide_eq_true_eq, true_and,
      Except.ok.injEq, Option.some.injEq, not_or, not_not]
    constructor
    · rintro ⟨rfl, haligned, hrest⟩
      exact ⟨hrest, rfl, haligned⟩
    · rintro ⟨hrest, rfl, haligned⟩
      exact ⟨rfl, haligned, hrest⟩
  | dirClose =>
    simp only [closeGeometryV3, Py.closeGeometry, decide_eq_true_eq, Except.ok.injEq, not_not]
    tauto
  | htfFlip => simp

/-- The TypeScript predicate is the Python one without the misanchored pairs. -/
theorem exactEligibleV3_iff (hc : Py.candidatePostInit sha256 c = .ok ())
    (he : validateEntryEvidenceV3 e = .ok ()) :
    exactEligibleV3 c e = true ↔ Py.isEligible c e = true ∧ ¬ Misanchored c e := by
  have hpy : Py.isEligible c e = true ↔ Py.exactEligible c e = .ok true := by
    rw [Py.exactEligible_ok hc, Except.ok.injEq]
  rw [hpy]
  cases ht : e.observedTriggerEpoch with
  | none => simp [exactEligibleV3, Py.exactEligible, ht]
  | some trigger =>
    by_cases hb : Py.baseEligible c e = true
    · have hplane := planeEligible_eq he (by
        simp only [Py.baseEligible, decide_eq_true_eq] at hb
        exact hb.2.1) c.model
      have hgeo := geometryV3_iff hc hb trigger
      have hbase := hb
      simp only [Py.baseEligible, decide_eq_true_eq] at hbase
      simp only [exactEligibleV3, Py.exactEligible, ht, hb, hbase, if_true, hplane,
        decide_eq_true_eq, true_and, bind_ok_iff, pure_ok_iff, hgeo]
      constructor
      · rintro ⟨⟨hg, hanchor⟩, hflip, hpl⟩
        exact ⟨⟨true, hg, by simp [hflip, hpl]⟩, hanchor⟩
      · rintro ⟨⟨b, hg, hrest⟩, hanchor⟩
        obtain ⟨rfl, hflip, hpl⟩ := hrest
        exact ⟨⟨hg, hanchor⟩, hflip, hpl⟩
    · have hts : ¬ exactEligibleV3 c e = true := fun h => hb (baseEligible_of_exactEligibleV3 h)
      simp [hts, Py.exactEligible, ht, hb]

end Eligibility

/-! ## The selection that Python constructs -/

/-- A text that passes the digest checks of both languages. -/
structure IsDigest (value : String) : Prop where
  text : sha256Text value = true
  nonzero : value ≠ zeroSha256

theorem IsSha256.isDigest {sha256 : Json → String} (h : IsSha256 sha256) (value : Json) :
    IsDigest (sha256 value) :=
  ⟨h.text value, h.nonzero value⟩

theorem requireSha256_ok_iff {value name : String} :
    Py.requireSha256 value name = .ok () ↔ IsDigest value := by
  simp only [Py.requireSha256, failIf_ok_iff, not_or, Bool.not_eq_false]
  exact ⟨fun h => ⟨h.1, h.2⟩, fun h => ⟨h.1, h.2⟩⟩

/-- A text without U+0000 is in the canonical profile. -/
theorem canonicalText_js {value : String} (h : '\x00' ∉ value.toList) :
    Py.canonicalText (js value) = true := by
  rw [Py.canonicalText, decide_eq_true_eq, JsString.zero_mem_codePoints_js]
  exact ⟨h, JsString.isScalarText_js value⟩

theorem IsDigest.canonicalText {value : String} (h : IsDigest value) :
    Py.canonicalText (js value) = true := by
  apply canonicalText_js
  intro hmem
  have htext := h.text
  simp only [sha256Text, decide_eq_true_eq] at htext
  exact absurd (List.all_eq_true.1 htext.2 _ hmem) (by decide)

/-- What the branches of the choice guarantee about each other. -/
structure Py.Choice.Coherent (choice : Py.Choice) : Prop where
  canonical : ∀ pair, choice.canonical = some pair → pair.evidence.fidelity = .exact ∧
    choice.action = .paperEligible ∧ choice.reason ∈ canonicalReasons
  empty : choice.canonical = none → emptyActions choice.reason = some choice.action
  models_sorted : sortBy (·.name) choice.coTriggeredModels.dedup = choice.coTriggeredModels
  several : choice.reason = .coTriggerSameEvent → ¬ choice.coTriggeredModels.length < 2
  single : choice.reason ≠ .coTriggerSameEvent → choice.coTriggeredModels = []

theorem sortBy_dedup_sortBy_dedup (models : List EntryModelV3) :
    sortBy (·.name) (sortBy (·.name) models.dedup).dedup = sortBy (·.name) models.dedup := by
  have hnodup : (sortBy (·.name) models.dedup).Nodup :=
    (sortBy_perm _ _).nodup_iff.2 (List.nodup_dedup _)
  rw [hnodup.dedup]
  exact sortBy_of_pairwise _ (sortBy_pairwise _ _)

theorem Py.choose_coherent {byId : List EntryCandidateV3} {eligible : List EligiblePair}
    {setupInvalidated : Bool} (hexact : ∀ pair ∈ eligible, pair.evidence.fidelity = .exact) :
    (Py.choose byId eligible setupInvalidated).Coherent := by
  unfold Py.choose
  split_ifs with hinv hnil
  · exact ⟨by simp, by simp [emptyActions], by simp [sortBy], by simp, by simp⟩
  · exact ⟨by simp, by simp [emptyActions], by simp [sortBy], by simp, by simp⟩
  · cases eligible with
    | nil => exact ⟨by simp, by simp [emptyActions], by simp [sortBy], by simp, by simp⟩
    | cons first rest =>
      have hfirst : first ∈ earliestOf first (first :: rest) := by simp [earliestOf]
      have hmem : ∀ pair ∈ earliestOf first (first :: rest), pair.evidence.fidelity = .exact :=
        fun pair hp => hexact pair (List.mem_of_mem_filter hp)
      simp only [Py.chooseEarliest]
      split_ifs with hseveral hprices hfallback hone
      · exact ⟨by simp, by simp [emptyActions], by simp [sortBy], by simp, by simp⟩
      · refine ⟨?_, ?_, sortBy_dedup_sortBy_dedup _, ?_, by simp⟩
        · intro pair hp
          exact ⟨hmem pair (minBy_mem _ hp), rfl, by simp [canonicalReasons]⟩
        · intro hnone
          exact absurd ((minBy_eq_none _).1 hnone) (List.ne_nil_of_mem hfirst)
        · intro _
          rw [length_sortBy]
          omega
      all_goals
        rw [head?_earliestOf]
        refine ⟨?_, by simp, by simp [sortBy], by simp, by simp⟩
        rintro pair ⟨⟩
        exact ⟨hmem first hfirst, rfl, by simp [canonicalReasons]⟩

/-- The request texts and numbers that Python accepts. -/
structure Py.RequestOk (request : Py.EntryArbitrationRequestV3) : Prop where
  setupId_text : Py.strip request.setupId ≠ []
  setupId_canonical : Py.canonicalText request.setupId = true
  policy : request.policyVersion = policyVersionV3
  revision_nonneg : 0 ≤ request.revision
  revision_safe : request.revision ≤ SafeIntegers.maxSafeInteger
  evaluatedAt_nonneg : 0 ≤ request.evaluatedAtEpoch

section Selection

variable {sha256 : Json → String} {request : Py.EntryArbitrationRequestV3} {ids : List String}
  {choice : Py.Choice}

/-- The fields of a coherent choice pass the checks of the selection constructors. -/
theorem validateSelectionFields_ok (hreq : Py.RequestOk request) (hids : ∀ i ∈ ids, IsDigest i)
    (hsorted : sortBy id ids = ids) (hnodup : ids.Nodup) (hcoh : choice.Coherent)
    (hcanonical : ∀ pair, choice.canonical = some pair →
      IsDigest pair.candidate.candidateId ∧ IsDigest pair.evidence.evidenceId) :
    Py.validateSelectionFields (Py.selectionIdentity request ids choice) = .ok () := by
  have hrev := hreq.revision_nonneg
  simp only [Py.validateSelectionFields, Py.requireText, Py.requireNonNegative, then_ok_iff,
    failIf_ok_iff, forAll_ok_iff, requireSha256_ok_iff, whenSome_ok_iff, ite_ok_iff]
  simp only [Py.selectionIdentity]
  refine ⟨hreq.setupId_text, by simp [hreq.policy], by omega, hids, by simp [hsorted],
    by simpa using hnodup, by simp, ?_, ?_, by simp [hcoh.models_sorted], ?_, ?_, ?_, ?_⟩
  · intro i hi
    obtain ⟨pair, hp, rfl⟩ := Option.map_eq_some_iff.1 hi
    exact (hcanonical pair hp).1
  · intro i hi
    obtain ⟨pair, hp, rfl⟩ := Option.map_eq_some_iff.1 hi
    exact (hcanonical pair hp).2
  · exact fun h => hcoh.several h.1 h.2
  · exact fun h => h.2 (hcoh.single h.1)
  · intro hsome
    obtain ⟨pair, hc⟩ := Option.isSome_iff_exists.1 ((Option.isSome_map).symm.trans hsome)
    obtain ⟨hf, ha, hr⟩ := hcoh.canonical pair hc
    simp [hc, hf, ha, hr]
  · intro hnone
    have hc : choice.canonical = none := by simpa using hnone
    simp [hc, hcoh.empty hc]

theorem canonicalValue_selection (hreq : Py.RequestOk request) (hids : ∀ i ∈ ids, IsDigest i)
    (hcanonical : ∀ pair, choice.canonical = some pair →
      IsDigest pair.candidate.candidateId ∧ IsDigest pair.evidence.evidenceId) :
    Py.canonicalValue (Py.selectionIdentity request ids choice).toJson = true := by
  have hrev := hreq.revision_nonneg
  have hsafe := hreq.revision_safe
  have haction : Py.canonicalText (js choice.action.name) = true := by
    apply canonicalText_js
    cases choice.action <;> decide
  have hreason : Py.canonicalText (js choice.reason.name) = true := by
    apply canonicalText_js
    cases choice.reason <;> decide
  have hmodel : ∀ model : EntryModelV3, Py.canonicalText (js model.name) = true := by
    intro model
    apply canonicalText_js
    cases model <;> decide
  have hfidelity : ∀ fidelity : CandidateFidelityV3,
      Py.canonicalText (js fidelity.name) = true := by
    intro fidelity
    apply canonicalText_js
    cases fidelity <;> decide
  have hpolicy : Py.canonicalText (js policyVersionV3) = true := canonicalText_js (by decide)
  simp only [Py.canonicalValue, Py.selectionIdentity, SelectionIdentityV3.toJson, Json.leaves,
    Json.leavesFields, Json.leaves_strs, Json.leaves_ofOption, Option.all_map, List.all_map,
    Bool.and_eq_true, decide_eq_true_eq, List.all_eq_true, Function.comp_apply, Bool.and_true]
  refine ⟨haction, fun i hi => (hids i hi).canonicalText, ?_, ?_, fun m _ => hmodel m, ?_,
    hreq.policy ▸ hpolicy, hreason, ⟨?_, hsafe⟩, hreq.setupId_canonical⟩
  · cases hc : choice.canonical with
    | none => rfl
    | some pair => simpa using (hcanonical pair hc).1.canonicalText
  · cases hc : choice.canonical with
    | none => rfl
    | some pair => simpa using (hcanonical pair hc).2.canonicalText
  · cases choice.canonical with
    | none => rfl
    | some pair => simpa using hfidelity pair.evidence.fidelity
  · unfold SafeIntegers.maxSafeInteger
    omega

/-- Python's `_selection` constructs the selection record of the TypeScript code. -/
theorem Py.selection_ok (hsha : IsSha256 sha256) (hreq : Py.RequestOk request)
    (hids : ∀ i ∈ ids, IsDigest i) (hsorted : sortBy id ids = ids) (hnodup : ids.Nodup)
    (hcoh : choice.Coherent)
    (hcanonical : ∀ pair, choice.canonical = some pair →
      IsDigest pair.candidate.candidateId ∧ IsDigest pair.evidence.evidenceId) :
    Py.selection sha256 request ids choice =
      .ok (Entry.selection sha256
        ⟨request.setupId, request.revision, request.evaluatedAtEpoch, ids⟩ choice.canonical
        choice.reason choice.action choice.coTriggeredModels) := by
  have hfields := validateSelectionFields_ok hreq hids hsorted hnodup hcoh hcanonical
  have hvalue := canonicalValue_selection hreq hids hcanonical
  have hevaluated := hreq.evaluatedAt_nonneg
  have hdigest : Py.canonicalSha256 sha256 (Py.selectionIdentity request ids choice).toJson =
      .ok (sha256 (Py.selectionIdentity request ids choice).toJson) := if_pos hvalue
  have hpost : Py.selectionPostInit sha256
      { toSelectionIdentityV3 := Py.selectionIdentity request ids choice
        selectionId := sha256 (Py.selectionIdentity request ids choice).toJson
        canonicalModel := choice.canonical.map (·.candidate.model)
        evaluatedAtEpoch := request.evaluatedAtEpoch } = .ok () := by
    simp only [Py.selectionPostInit, hfields, hdigest, ok_bind_eq, then_ok_iff,
      requireSha256_ok_iff, failIf_ok_iff, Py.requireNonNegative]
    exact ⟨hsha.isDigest _, by simp, by simp [Py.selectionIdentity], by omega⟩
  simp only [Py.selection, hfields, hdigest, hpost, ok_bind_eq]
  simp only [Py.selectionIdentity, hreq.policy]
  rfl

end Selection

/-! ## The two results -/

/-- The numbers of a request are ones that both languages accept. -/
structure SharedNumbers (revision evaluatedAtEpoch : Int) : Prop where
  revision_nonneg : 0 ≤ revision
  revision_safe : isSafeInteger revision
  evaluatedAt_nonneg : 0 ≤ evaluatedAtEpoch
  evaluatedAt_safe : isSafeInteger evaluatedAtEpoch

/-- No record is observed after the evaluation. -/
structure ObservedBy (candidates : List EntryCandidateV3)
    (evidence : List EntryCandidateEvidenceV3) (evaluatedAtEpoch : Int) : Prop where
  candidates_le : ∀ c ∈ candidates, c.observedAtEpoch ≤ evaluatedAtEpoch
  evidence_le : ∀ e ∈ evidence, e.observedAtEpoch ≤ evaluatedAtEpoch

/-- The setup ids that the TypeScript code accepts. -/
def SetupIdTs (setupId : JsString) : Prop :=
  setupId ≠ [] ∧ trim setupId = setupId

/-- The setup ids that the Python code accepts. -/
def SetupIdPy (setupId : JsString) : Prop :=
  Py.strip setupId ≠ [] ∧ Py.canonicalText setupId = true

/-- The Python request for the arguments of the TypeScript function. -/
def Py.requestOf (setupId : JsString) (candidates : List EntryCandidateV3)
    (evidence : List EntryCandidateEvidenceV3) (setupInvalidated : Bool)
    (revision evaluatedAtEpoch : Int) : Py.EntryArbitrationRequestV3 where
  setupId := setupId
  candidates := candidates
  evidence := evidence
  setupInvalidated := setupInvalidated
  policyVersion := policyVersionV3
  revision := revision
  evaluatedAtEpoch := evaluatedAtEpoch
  openedSelection := none

section Results

variable {sha256 : Json → String} {setupId : JsString} {candidates : List EntryCandidateV3}
  {evidence : List EntryCandidateEvidenceV3} {setupInvalidated : Bool}
  {revision evaluatedAtEpoch : Int} {result : EntrySelectionV3}

theorem validateRequestV3_ok_iff (hnum : SharedNumbers revision evaluatedAtEpoch) :
    validateRequestV3 setupId candidates evidence revision evaluatedAtEpoch = .ok () ↔
      SetupIdTs setupId ∧ ObservedBy candidates evidence evaluatedAtEpoch := by
  have hrev := hnum.revision_nonneg
  have hat := hnum.evaluatedAt_nonneg
  simp only [validateRequestV3, failIf_ok_iff, not_or, hnum.revision_safe, hnum.evaluatedAt_safe,
    SetupIdTs, not_exists, not_and, not_not, not_lt, gt_iff_lt, hrev, hat, true_and]
  constructor
  · rintro ⟨hne, htrim, hc, he⟩
    exact ⟨⟨hne, htrim⟩, hc, he⟩
  · rintro ⟨⟨hne, htrim⟩, hc, he⟩
    exact ⟨hne, htrim, hc, he⟩

theorem Py.requestPostInit_ok_iff (hnum : SharedNumbers revision evaluatedAtEpoch) :
    Py.requestPostInit (Py.requestOf setupId candidates evidence setupInvalidated revision
      evaluatedAtEpoch) = .ok () ↔
      Py.strip setupId ≠ [] ∧ ObservedBy candidates evidence evaluatedAtEpoch := by
  have hrev := hnum.revision_nonneg
  have hat := hnum.evaluatedAt_nonneg
  simp only [Py.requestPostInit, Py.requireNonNegative, then_ok_iff, failIf_ok_iff, forAll_ok_iff,
    whenSome_ok_iff]
  simp only [Py.requestOf, ne_eq, not_true_eq_false, not_false_eq_true, not_lt, gt_iff_lt, hrev,
    hat, reduceCtorEq, false_implies, implies_true, and_true]
  constructor
  · rintro ⟨htext, hc, he⟩
    exact ⟨htext, hc, he⟩
  · rintro ⟨htext, hc, he⟩
    exact ⟨htext, hc, he⟩

theorem isDigest_of_candidatePostInit {c : EntryCandidateV3}
    (h : Py.candidatePostInit sha256 c = .ok ()) : IsDigest c.candidateId := by
  unfold Py.candidatePostInit at h
  rw [then_ok_iff] at h
  exact requireSha256_ok_iff.1 h.1

theorem isDigest_of_evidencePostInit {e : EntryCandidateEvidenceV3}
    (h : Py.evidencePostInit sha256 e = .ok ()) : IsDigest e.evidenceId := by
  unfold Py.evidencePostInit at h
  rw [then_ok_iff, then_ok_iff, then_ok_iff] at h
  exact requireSha256_ok_iff.1 h.2.2.1

theorem exact_of_isEligible {c : EntryCandidateV3} {e : EntryCandidateEvidenceV3}
    (h : Py.isEligible c e = true) : e.fidelity = .exact := by
  unfold Py.isEligible Py.exactEligible at h
  cases ht : e.observedTriggerEpoch with
  | none => simp [ht] at h
  | some trigger =>
    by_cases hb : Py.baseEligible c e = true
    · simp only [Py.baseEligible, decide_eq_true_eq] at hb
      exact hb.2.1
    · simp [ht, hb] at h

/-- The choice of the TypeScript code is the one of the Python code. -/
theorem chooseSelection_eq_choose {byId : List EntryCandidateV3} {pairs : List EligiblePair}
    (hl : EligibleList exactEligibleV3 candidates evidence pairs) :
    let choice := Py.choose byId (sortBy pairKey pairs) setupInvalidated
    chooseSelection sha256 setupId byId (sortBy pairKey pairs) setupInvalidated revision
        evaluatedAtEpoch .twoPlusCandles =
      selection sha256 ⟨setupId, revision, evaluatedAtEpoch,
        sortBy id (byId.map (·.candidateId))⟩ choice.canonical choice.reason choice.action
        choice.coTriggeredModels := by
  intro choice
  simp only [choice, chooseSelection, Py.choose, List.length_eq_zero_iff, reduceCtorEq, if_false]
  split_ifs with hinv hnil
  · rfl
  · rfl
  · cases hs : sortBy pairKey pairs with
    | nil => rfl
    | cons first rest =>
      simp only [chooseEarliest, Py.chooseEarliest, head?_sortBy_earliestOf hl hs,
        minBy_earliestOf hl hs]
      split_ifs <;> rfl

/-- The canonical pair of a choice is one of the eligible pairs. -/
theorem Py.canonical_mem {byId : List EntryCandidateV3} {eligible : List EligiblePair}
    {pair : EligiblePair}
    (h : (Py.choose byId eligible setupInvalidated).canonical = some pair) : pair ∈ eligible := by
  unfold Py.choose at h
  split_ifs at h
  cases eligible with
  | nil => cases h
  | cons first rest =>
    simp only [Py.chooseEarliest] at h
    split_ifs at h
    · exact List.mem_of_mem_filter (minBy_mem _ h)
    all_goals exact List.mem_of_mem_filter (List.mem_of_mem_head? h)

theorem canonicalText_of_canonicalSha256 {identity : SelectionIdentityV3} {digest : String}
    (h : Py.canonicalSha256 sha256 identity.toJson = .ok digest) :
    Py.canonicalText identity.setupId = true := by
  unfold Py.canonicalSha256 at h
  split_ifs at h with hvalue
  simp only [Py.canonicalValue, SelectionIdentityV3.toJson, Json.leaves, Json.leavesFields,
    Bool.and_eq_true, decide_eq_true_eq] at hvalue
  exact hvalue.2.2.2.2.2.2.2.2.2.1

/-- What Python returns on records that both languages accept. -/
theorem Py.arbitrate_eq (hsha : IsSha256 sha256) (hboth : AcceptedByBoth sha256 candidates evidence)
    (hnum : SharedNumbers revision evaluatedAtEpoch) (hid : SetupIdPy setupId)
    (hobserved : ObservedBy candidates evidence evaluatedAtEpoch)
    (hrecords : AcceptedRecords setupId candidates evidence) :
    ∃ byId pairs, Indexed candidates byId ∧
      EligibleList Py.isEligible candidates evidence pairs ∧
      ∀ choice, choice = Py.choose byId (sortBy pairKey pairs) setupInvalidated →
        Py.arbitrateEntryCandidatesV3 sha256 (Py.requestOf setupId candidates evidence
          setupInvalidated revision evaluatedAtEpoch) =
        .ok (Entry.selection sha256 ⟨setupId, revision, evaluatedAtEpoch,
          sortBy id (byId.map (·.candidateId))⟩ choice.canonical choice.reason choice.action
          choice.coTriggeredModels) := by
  have hdecide : ∀ c ∈ candidates, ∀ e ∈ evidence,
      Py.exactEligible c e = .ok (Py.isEligible c e) :=
    fun c hc e _ => Py.exactEligible_ok (hboth.candidate_py c hc)
  obtain ⟨⟨byId, sorted⟩, hcollect⟩ : ∃ collected, Py.collectPairs (Py.requestOf setupId candidates
      evidence setupInvalidated revision evaluatedAtEpoch) = .ok collected :=
    collectPairs_exists hdecide hrecords
  obtain ⟨-, hindexed, pairs, hpairs, rfl⟩ := collectPairs_ok picksFirst_minBy hdecide hcollect
  refine ⟨byId, pairs, hindexed, hpairs, ?_⟩
  rintro choice rfl
  have hchosen : ∀ pair ∈ sortBy pairKey pairs, IsChosen Py.isEligible candidates evidence pair :=
    fun pair hp => (hpairs.mem_iff pair).1 ((mem_sortBy pairKey).1 hp)
  have hpost : Py.requestPostInit (Py.requestOf setupId candidates evidence setupInvalidated
      revision evaluatedAtEpoch) = .ok () :=
    (Py.requestPostInit_ok_iff hnum).2 ⟨hid.1, hobserved⟩
  have hreq : Py.RequestOk (Py.requestOf setupId candidates evidence setupInvalidated revision
      evaluatedAtEpoch) :=
    ⟨hid.1, hid.2, rfl, hnum.revision_nonneg, hnum.revision_safe.2, hnum.evaluatedAt_nonneg⟩
  have hids : ∀ i ∈ sortBy id (byId.map (·.candidateId)), IsDigest i := by
    intro i hi
    obtain ⟨c, hc, rfl⟩ := List.mem_map.1 ((mem_sortBy id).1 hi)
    exact isDigest_of_candidatePostInit (hboth.candidate_py c ((hindexed.mem_iff c).1 hc))
  have hsorted : sortBy id (sortBy id (byId.map (·.candidateId))) =
      sortBy id (byId.map (·.candidateId)) := sortBy_of_pairwise id (sortBy_pairwise id _)
  have hnodup : (sortBy id (byId.map (·.candidateId))).Nodup :=
    (sortBy_perm id _).nodup_iff.2 hindexed.nodup
  have hcoherent : (Py.choose byId (sortBy pairKey pairs) setupInvalidated).Coherent :=
    Py.choose_coherent fun pair hp => exact_of_isEligible (hchosen pair hp).eligible_eq
  have hselect := Py.selection_ok hsha hreq hids hsorted hnodup hcoherent (by
    intro pair hp
    have hmem := hchosen pair (Py.canonical_mem hp)
    exact ⟨isDigest_of_candidatePostInit (hboth.candidate_py _ hmem.candidate_mem),
      isDigest_of_evidencePostInit (hboth.evidence_py _ hmem.evidence_mem)⟩)
  unfold Py.arbitrateEntryCandidatesV3
  rw [hpost, ok_bind_eq]
  simp only [Py.requestOf] at hcollect hselect ⊢
  rw [hcollect, ok_bind_eq, hselect]

/-- What Python has accepted when it returns a selection. -/
theorem Py.arbitrate_accepted (hboth : AcceptedByBoth sha256 candidates evidence)
    (hnum : SharedNumbers revision evaluatedAtEpoch)
    (h : Py.arbitrateEntryCandidatesV3 sha256 (Py.requestOf setupId candidates evidence
      setupInvalidated revision evaluatedAtEpoch) = .ok result) :
    SetupIdPy setupId ∧ ObservedBy candidates evidence evaluatedAtEpoch ∧
      AcceptedRecords setupId candidates evidence := by
  have hdecide : ∀ c ∈ candidates, ∀ e ∈ evidence,
      Py.exactEligible c e = .ok (Py.isEligible c e) :=
    fun c hc e _ => Py.exactEligible_ok (hboth.candidate_py c hc)
  unfold Py.arbitrateEntryCandidatesV3 at h
  rw [then_ok_iff] at h
  obtain ⟨hpost, h⟩ := h
  obtain ⟨htext, hobserved⟩ := (Py.requestPostInit_ok_iff hnum).1 hpost
  simp only [Py.requestOf] at h
  rw [bind_ok_iff] at h
  obtain ⟨⟨byId, sorted⟩, hcollect, hselect⟩ := h
  obtain ⟨hrecords, -, -⟩ := collectPairs_ok picksFirst_minBy hdecide hcollect
  refine ⟨⟨htext, ?_⟩, hobserved, hrecords⟩
  unfold Py.selection at hselect
  rw [then_ok_iff, bind_ok_iff] at hselect
  obtain ⟨-, selectionId, hdigest, -⟩ := hselect
  exact canonicalText_of_canonicalSha256 hdigest

end Results

/-! ## The decisive pairs -/

/-- Every BOC and every flip candidate has an eligible pair. -/
def AggressiveTrigger (eligible : EntryCandidateV3 → EntryCandidateEvidenceV3 → Bool)
    (candidates : List EntryCandidateV3) (evidence : List EntryCandidateEvidenceV3) : Prop :=
  ∀ c ∈ candidates, c.model = .boc ∨ c.model = .htfFlip →
    ∃ e, IsPair eligible candidates evidence ⟨c, e⟩

/-- Of the pairs at the earliest event the one with the least candidate id. -/
structure FirstPair (eligible : EntryCandidateV3 → EntryCandidateEvidenceV3 → Bool)
    (candidates : List EntryCandidateV3) (evidence : List EntryCandidateEvidenceV3)
    (pair : EligiblePair) : Prop extends AtEarliest eligible candidates evidence pair where
  smallest : ∀ other, AtEarliest eligible candidates evidence other →
    pair.candidate.candidateId ≤ other.candidate.candidateId

/-- Without the misanchored pairs the trigger stays the same: the first pair that Python takes is
anchored, every model with a pair at its event has an anchored one there, and where only closes
trigger, no BOC or flip candidate is left without a pair. -/
structure AnchoredTrigger (candidates : List EntryCandidateV3)
    (evidence : List EntryCandidateEvidenceV3) (first : EligiblePair) : Prop where
  isFirst : FirstPair Py.isEligible candidates evidence first
  anchored : ¬ Misanchored first.candidate first.evidence
  models : ∀ model, HasModel Py.isEligible candidates evidence (eventKey first.evidence) model →
    HasModel exactEligibleV3 candidates evidence (eventKey first.evidence) model
  aggressive :
    (∀ model, HasModel Py.isEligible candidates evidence (eventKey first.evidence) model →
      model = .dirClose) →
    AggressiveTrigger Py.isEligible candidates evidence →
    AggressiveTrigger exactEligibleV3 candidates evidence

/-- Python takes no pair; or the models conflict on the price with and without the misanchored
pairs; or they conflict in neither case and the trigger stays the same. -/
def AnchorsAgree (candidates : List EntryCandidateV3)
    (evidence : List EntryCandidateEvidenceV3) : Prop :=
  (¬ ∃ pair, IsPair Py.isEligible candidates evidence pair) ∨
  (Conflicting Py.isEligible candidates evidence ∧ PriceConflict candidates evidence) ∨
  (¬ Conflicting Py.isEligible candidates evidence ∧ ¬ PriceConflict candidates evidence ∧
    ∃ first, AnchoredTrigger candidates evidence first)

section Decisions

variable {sha256 : Json → String} {candidates byId : List EntryCandidateV3}
  {evidence : List EntryCandidateEvidenceV3}
  {eligible : EntryCandidateV3 → EntryCandidateEvidenceV3 → Bool}
  {pairs rest : List EligiblePair} {first : EligiblePair}

/-- The TypeScript code takes the pairs that Python takes and that are not misanchored. -/
theorem exactPair_iff_anchored (hboth : AcceptedByBoth sha256 candidates evidence)
    {pair : EligiblePair} :
    ExactPair candidates evidence pair ↔ IsPair Py.isEligible candidates evidence pair ∧
      ¬ Misanchored pair.candidate pair.evidence := by
  constructor
  · intro h
    obtain ⟨hel, hanchor⟩ := (exactEligibleV3_iff (hboth.candidate_py _ h.candidate_mem)
      (hboth.evidence_ts _ h.evidence_mem)).1 h.eligible_eq
    exact ⟨⟨h.candidate_mem, h.evidence_mem, h.id_eq, hel⟩, hanchor⟩
  · rintro ⟨h, hanchor⟩
    exact ⟨h.candidate_mem, h.evidence_mem, h.id_eq,
      (exactEligibleV3_iff (hboth.candidate_py _ h.candidate_mem)
        (hboth.evidence_ts _ h.evidence_mem)).2 ⟨h.eligible_eq, hanchor⟩⟩

theorem firstPair_of_sorted (hl : EligibleList eligible candidates evidence pairs)
    (hs : sortBy pairKey pairs = first :: rest) : FirstPair eligible candidates evidence first :=
  ⟨atEarliest_first hl hs, fun _ hp => candidateId_first_le hl hs hp⟩

theorem hasBlockedAggressive_eq_false (hi : Indexed candidates byId)
    (hl : EligibleList eligible candidates evidence pairs) :
    hasBlockedAggressive byId (sortBy pairKey pairs) = false ↔
      AggressiveTrigger eligible candidates evidence := by
  rw [hasBlockedAggressive, List.any_eq_false]
  constructor
  · intro h c hc hmodel
    have hindexed := (hi.mem_iff c).2 hc
    have hid : c.candidateId ∈ (sortBy pairKey pairs).map (·.candidate.candidateId) := by
      by_contra hnot
      exact h c hindexed (decide_eq_true ⟨hmodel, hnot⟩)
    obtain ⟨pair, hp, hkey⟩ := List.mem_map.1 hid
    have hchosen := (hl.mem_iff pair).1 ((mem_sortBy pairKey).1 hp)
    obtain rfl : pair.candidate = c :=
      hi.nodup.eq_of_key ((hi.mem_iff _).2 hchosen.candidate_mem) hindexed hkey
    exact ⟨pair.evidence, hchosen.toIsPair⟩
  · intro h c hc hblocked
    obtain ⟨hmodel, hnot⟩ := of_decide_eq_true hblocked
    obtain ⟨e, he⟩ := h c ((hi.mem_iff c).1 hc) hmodel
    obtain ⟨chosen, hch, hcandidate, -⟩ := exists_chosen he
    apply hnot
    exact List.mem_map.2
      ⟨chosen, (mem_sortBy pairKey).2 ((hl.mem_iff _).2 hch), by rw [hcandidate]⟩

/-- The models at the event of the first pair. -/
def modelsAt (first : EligiblePair) (eligible : List EligiblePair) : List EntryModelV3 :=
  ((earliestOf first eligible).map (·.candidate.model)).dedup

theorem EntryModelV3.name_injective : Function.Injective EntryModelV3.name := by
  intro a b
  cases a <;> cases b <;> decide

theorem one_lt_modelsAt {list : List EligiblePair} {a b : EntryModelV3}
    (ha : a ∈ modelsAt first list) (hb : b ∈ modelsAt first list) (hab : a ≠ b) :
    1 < (modelsAt first list).length :=
  one_lt_length_dedup_iff.2 ⟨a, List.mem_dedup.1 ha, b, List.mem_dedup.1 hb, hab⟩

/-- The reason of a trigger of one model. -/
def singleReason (byId : List EntryCandidateV3) (first : EligiblePair)
    (eligible : List EligiblePair) : SelectionReasonV3 :=
  if first.candidate.model = .dirClose ∧ hasBlockedAggressive byId eligible then
    .fallbackToConfirmedClose
  else if byId.length = 1 then .onlyExactTrigger
  else .earliestExactTrigger

theorem singleReason_ne (byId : List EntryCandidateV3) (first : EligiblePair)
    (eligible : List EligiblePair) : singleReason byId first eligible ≠ .coTriggerSameEvent := by
  unfold singleReason
  split_ifs <;> simp

theorem mem_modelsAt (hl : EligibleList eligible candidates evidence pairs)
    (hs : sortBy pairKey pairs = first :: rest) (model : EntryModelV3) :
    model ∈ modelsAt first (first :: rest) ↔
      HasModel eligible candidates evidence (eventKey first.evidence) model := by
  rw [modelsAt, List.mem_dedup]
  exact mem_models_iff hl hs model

theorem choose_of_conflict (hl : EligibleList eligible candidates evidence pairs)
    (hs : sortBy pairKey pairs = first :: rest) (hne : byId ≠ [])
    (h : Conflicting eligible candidates evidence) :
    Py.choose byId (first :: rest) false =
      ⟨none, .coTriggerPriceConflict, .shadowOnly, []⟩ := by
  simp only [Py.choose, Bool.false_eq_true, if_false, hne, Py.chooseEarliest]
  rw [if_pos ((several_models_iff hl hs).2 h.1), if_pos ((several_prices_iff hl hs).2 h.2)]

theorem choose_of_agreement (hl : EligibleList eligible candidates evidence pairs)
    (hs : sortBy pairKey pairs = first :: rest) (hne : byId ≠ [])
    (h : ¬ Conflicting eligible candidates evidence) :
    Py.choose byId (first :: rest) false =
      if 1 < (modelsAt first (first :: rest)).length then
        ⟨some first, .coTriggerSameEvent, .paperEligible,
          sortBy (·.name) (modelsAt first (first :: rest))⟩
      else ⟨some first, singleReason byId first (first :: rest), .paperEligible, []⟩ := by
  have hmodels := several_models_iff hl hs
  have hlength : 1 < (modelsAt first (first :: rest)).length ↔
      SeveralModels eligible candidates evidence := hmodels
  simp only [Py.choose, Bool.false_eq_true, if_false, hne, Py.chooseEarliest]
  by_cases hseveral : SeveralModels eligible candidates evidence
  · rw [if_pos (hmodels.2 hseveral), if_pos (hlength.2 hseveral),
      if_neg fun hlt => h ⟨hseveral, (several_prices_iff hl hs).1 hlt⟩, minBy_earliestOf hl hs]
    rfl
  · rw [if_neg (mt hmodels.1 hseveral), if_neg (mt hlength.1 hseveral), head?_earliestOf]
    rfl

/-- With an eligible pair, an exact trigger is never missing. -/
theorem choose_reason_ne (hl : EligibleList eligible candidates evidence pairs)
    (hs : sortBy pairKey pairs = first :: rest) (hne : byId ≠ []) :
    (Py.choose byId (first :: rest) false).reason ≠ .noExactCandidate := by
  by_cases h : Conflicting eligible candidates evidence
  · rw [choose_of_conflict hl hs hne h]
    simp
  · rw [choose_of_agreement hl hs hne h]
    unfold singleReason
    split_ifs <;> simp

end Decisions

/-! ## The two choices -/

section Choices

variable {sha256 : Json → String} {candidates byId : List EntryCandidateV3}
  {evidence : List EntryCandidateEvidenceV3} {pairsTs restTs pairsPy restPy : List EligiblePair}
  {firstTs firstPy : EligiblePair}

/-- An anchored first pair of Python is the first pair of the TypeScript code. -/
theorem first_eq_of_anchored (hboth : AcceptedByBoth sha256 candidates evidence)
    (hts : EligibleList exactEligibleV3 candidates evidence pairsTs)
    (hsts : sortBy pairKey pairsTs = firstTs :: restTs)
    (hpy : EligibleList Py.isEligible candidates evidence pairsPy)
    (hspy : sortBy pairKey pairsPy = firstPy :: restPy)
    (hanchor : ¬ Misanchored firstPy.candidate firstPy.evidence) : firstTs = firstPy := by
  have hfirst := atEarliest_first hpy hspy
  have hearliest : EarliestPair candidates evidence firstPy := by
    refine ⟨⟨(exactPair_iff_anchored hboth).2 ⟨hfirst.toIsPair, hanchor⟩, ?_⟩, ?_⟩
    · intro other ho hc
      exact hfirst.first other ((exactPair_iff_anchored hboth).1 ho).1 hc
    · intro other ho
      exact hfirst.earliest other ((exactPair_iff_anchored hboth).1 ho).1
  have hfirstTs := atEarliest_first hts hsts
  have hle : firstTs.candidate.candidateId ≤ firstPy.candidate.candidateId :=
    candidateId_first_le hts hsts hearliest
  have hge : firstPy.candidate.candidateId ≤ firstTs.candidate.candidateId :=
    smallest_of_first hpy hspy ((exactPair_iff_anchored hboth).1 hfirstTs.toIsPair).1
      (hfirstTs.eventKey_eq hearliest)
  exact (eq_first_of_candidateId hts hsts hearliest (le_antisymm hge hle)).symm

/-- Without a conflict, the choices are the same exactly when the trigger stays the same. -/
theorem choose_eq_iff_anchored (hboth : AcceptedByBoth sha256 candidates evidence)
    (hi : Indexed candidates byId) (hne : byId ≠ [])
    (hts : EligibleList exactEligibleV3 candidates evidence pairsTs)
    (hsts : sortBy pairKey pairsTs = firstTs :: restTs)
    (hpy : EligibleList Py.isEligible candidates evidence pairsPy)
    (hspy : sortBy pairKey pairsPy = firstPy :: restPy)
    (hagreeTs : ¬ PriceConflict candidates evidence)
    (hagreePy : ¬ Conflicting Py.isEligible candidates evidence) :
    Py.choose byId (firstTs :: restTs) false = Py.choose byId (firstPy :: restPy) false ↔
      ∃ first, AnchoredTrigger candidates evidence first := by
  have hblockedTs := hasBlockedAggressive_eq_false hi hts
  have hblockedPy := hasBlockedAggressive_eq_false hi hpy
  rw [hsts] at hblockedTs
  rw [hspy] at hblockedPy
  have hmodelsTs := mem_modelsAt hts hsts
  have hmodelsPy := mem_modelsAt hpy hspy
  have hsub : ∀ event model, HasModel exactEligibleV3 candidates evidence event model →
      HasModel Py.isEligible candidates evidence event model := by
    rintro event model ⟨pair, hp, hk, hm⟩
    exact ⟨pair, ((exactPair_iff_anchored hboth).1 hp).1, hk, hm⟩
  have hnodupTs : (modelsAt firstTs (firstTs :: restTs)).Nodup := List.nodup_dedup _
  have hnodupPy : (modelsAt firstPy (firstPy :: restPy)).Nodup := List.nodup_dedup _
  have hanchoredTs := ((exactPair_iff_anchored hboth).1 (atEarliest_first hts hsts).toIsPair).2
  rw [choose_of_agreement hts hsts hne hagreeTs, choose_of_agreement hpy hspy hne hagreePy]
  constructor
  · intro h
    have hfirst : firstTs = firstPy := by
      have hcanonical := congrArg Py.Choice.canonical h
      split_ifs at hcanonical <;> exact Option.some.inj hcanonical
    subst hfirst
    refine ⟨firstTs, firstPair_of_sorted hpy hspy, hanchoredTs, ?_, ?_⟩
    · intro model hmodel
      rw [← hmodelsPy] at hmodel
      rw [← hmodelsTs]
      by_cases hseveral : 1 < (modelsAt firstTs (firstTs :: restPy)).length
      · rw [if_pos hseveral] at h
        have hlists : modelsAt firstTs (firstTs :: restTs) ≠ [] ∧
            sortBy (·.name) (modelsAt firstTs (firstTs :: restTs)) =
              sortBy (·.name) (modelsAt firstTs (firstTs :: restPy)) := by
          split_ifs at h with hts'
          · exact ⟨List.ne_nil_of_length_pos (by omega), congrArg Py.Choice.coTriggeredModels h⟩
          · exact absurd (congrArg Py.Choice.reason h) (singleReason_ne _ _ _)
        rw [← mem_sortBy (fun model : EntryModelV3 => model.name), hlists.2, mem_sortBy]
        exact hmodel
      · -- one model: it is the one of the first pair
        have hone : ∀ a ∈ modelsAt firstTs (firstTs :: restPy),
            ∀ b ∈ modelsAt firstTs (firstTs :: restPy), a = b := by
          intro a ha b hb
          by_contra hab
          exact hseveral (one_lt_modelsAt ha hb hab)
        have hown := (hmodelsPy firstTs.candidate.model).2
          ⟨firstTs, (atEarliest_first hpy hspy).toIsPair, rfl, rfl⟩
        rw [hone model hmodel _ hown, hmodelsTs]
        exact ⟨firstTs, (atEarliest_first hts hsts).toIsPair, rfl, rfl⟩
    · intro hclose haggressive
      have hmodel : firstTs.candidate.model = .dirClose :=
        hclose _ ⟨firstTs, (atEarliest_first hpy hspy).toIsPair, rfl, rfl⟩
      have hnotSeveral : ∀ rest', (∀ model ∈ modelsAt firstTs (firstTs :: rest'),
          model = .dirClose) → (modelsAt firstTs (firstTs :: rest')).Nodup →
          ¬ 1 < (modelsAt firstTs (firstTs :: rest')).length := by
        intro rest' hall hnodup hlt
        have hone : modelsAt firstTs (firstTs :: rest') ⊆ [.dirClose] := fun model hm =>
          List.mem_singleton.2 (hall model hm)
        have hle := (hnodup.subperm hone).length_le
        simp only [List.length_singleton] at hle
        omega
      rw [if_neg (hnotSeveral restTs (fun model hm => hclose model (hsub _ _ ((hmodelsTs _).1 hm)))
          hnodupTs),
        if_neg (hnotSeveral restPy (fun model hm => hclose model ((hmodelsPy _).1 hm)) hnodupPy)]
          at h
      have hreason := congrArg Py.Choice.reason h
      rw [← hblockedTs]
      rw [← hblockedPy] at haggressive
      by_contra hblocked
      rw [Bool.not_eq_false] at hblocked
      simp only [singleReason, hmodel, hblocked, haggressive, true_and, if_true, Bool.false_eq_true,
        if_false] at hreason
      split_ifs at hreason
  · rintro ⟨first, htrigger⟩
    obtain rfl : first = firstPy := by
      have hfirst := firstPair_of_sorted hpy hspy
      have hid : first.candidate.candidateId = firstPy.candidate.candidateId :=
        le_antisymm (htrigger.isFirst.smallest _ hfirst.toAtEarliest)
          (hfirst.smallest _ htrigger.isFirst.toAtEarliest)
      exact eq_first_of_candidateId hpy hspy htrigger.isFirst.toAtEarliest hid
    obtain rfl : firstTs = first :=
      first_eq_of_anchored hboth hts hsts hpy hspy htrigger.anchored
    have hsame : ∀ model, model ∈ modelsAt firstTs (firstTs :: restTs) ↔
        model ∈ modelsAt firstTs (firstTs :: restPy) := by
      intro model
      rw [hmodelsTs, hmodelsPy]
      exact ⟨hsub _ _, htrigger.models model⟩
    have hperm : (modelsAt firstTs (firstTs :: restTs)).Perm
        (modelsAt firstTs (firstTs :: restPy)) :=
      (List.perm_ext_iff_of_nodup hnodupTs hnodupPy).2 hsame
    have hsorted : sortBy (·.name) (modelsAt firstTs (firstTs :: restTs)) =
        sortBy (·.name) (modelsAt firstTs (firstTs :: restPy)) := by
      have hinjective := EntryModelV3.name_injective
      exact sortBy_eq_of_mem_iff _ hnodupTs hnodupPy
        (fun _ _ _ _ hname => hinjective hname) hsame
    rw [hperm.length_eq, hsorted]
    by_cases hseveral : 1 < (modelsAt firstTs (firstTs :: restPy)).length
    · rw [if_pos hseveral, if_pos hseveral]
    · rw [if_neg hseveral, if_neg hseveral]
      have hreason : singleReason byId firstTs (firstTs :: restTs) =
          singleReason byId firstTs (firstTs :: restPy) := by
        by_cases hmodel : firstTs.candidate.model = .dirClose
        · have hown := (hmodelsPy firstTs.candidate.model).2
            ⟨firstTs, (atEarliest_first hpy hspy).toIsPair, rfl, rfl⟩
          have hclose : ∀ model, HasModel Py.isEligible candidates evidence
              (eventKey firstTs.evidence) model → model = .dirClose := by
            intro model hm
            by_contra hother
            rw [hmodel] at hown
            exact hseveral (one_lt_modelsAt hown ((hmodelsPy _).2 hm) (Ne.symm hother))
          have hblocked : hasBlockedAggressive byId (firstTs :: restTs) =
              hasBlockedAggressive byId (firstTs :: restPy) := by
            rw [Bool.eq_iff_iff, ← not_iff_not, Bool.not_eq_true, Bool.not_eq_true, hblockedTs,
              hblockedPy]
            constructor
            · intro h c hc hm
              obtain ⟨e, he⟩ := h c hc hm
              exact ⟨e, ((exactPair_iff_anchored hboth).1 he).1⟩
            · exact htrigger.aggressive hclose
          rw [singleReason, singleReason, hblocked]
        · simp only [singleReason, hmodel, false_and, if_false]
      rw [hreason]

/-- The two implementations choose the same exactly when the anchors agree. -/
theorem choose_eq_iff (hboth : AcceptedByBoth sha256 candidates evidence)
    (hi : Indexed candidates byId)
    (hts : EligibleList exactEligibleV3 candidates evidence pairsTs)
    (hpy : EligibleList Py.isEligible candidates evidence pairsPy) :
    Py.choose byId (sortBy pairKey pairsTs) false = Py.choose byId (sortBy pairKey pairsPy) false ↔
      AnchorsAgree candidates evidence := by
  -- a list is empty when there is no eligible pair
  have hnil : ∀ {eligible : EntryCandidateV3 → EntryCandidateEvidenceV3 → Bool}
      {pairs : List EligiblePair}, EligibleList eligible candidates evidence pairs →
      (sortBy pairKey pairs = [] ↔ ¬ ∃ pair, IsPair eligible candidates evidence pair) := by
    intro eligible pairs hl
    rw [sortBy_eq_nil, List.eq_nil_iff_forall_not_mem]
    constructor
    · rintro h ⟨pair, hp⟩
      obtain ⟨chosen, hch, -⟩ := exists_chosen hp
      exact h chosen ((hl.mem_iff _).2 hch)
    · intro h pair hp
      exact h ⟨pair, ((hl.mem_iff _).1 hp).toIsPair⟩
  cases hspy : sortBy pairKey pairsPy with
  | nil =>
    have hnone := (hnil hpy).1 hspy
    have hsts : sortBy pairKey pairsTs = [] := by
      rw [hnil hts]
      rintro ⟨pair, hp⟩
      exact hnone ⟨pair, ((exactPair_iff_anchored hboth).1 hp).1⟩
    rw [hsts]
    exact iff_of_true rfl (Or.inl hnone)
  | cons firstPy restPy =>
    have hfirst := atEarliest_first hpy hspy
    have hne : byId ≠ [] := List.ne_nil_of_mem ((hi.mem_iff _).2 hfirst.candidate_mem)
    have hsome : ¬ ¬ ∃ pair, IsPair Py.isEligible candidates evidence pair :=
      not_not.2 ⟨firstPy, hfirst.toIsPair⟩
    cases hsts : sortBy pairKey pairsTs with
    | nil =>
      have hnone := (hnil hts).1 hsts
      apply iff_of_false
      · intro h
        refine choose_reason_ne hpy hspy hne ?_
        rw [← h]
        simp [Py.choose, hne]
      · rintro (h | ⟨-, ⟨p, -, hp, -⟩, -⟩ | ⟨-, -, first, htrigger⟩)
        · exact hsome h
        · exact hnone ⟨p, hp.toIsPair⟩
        · exact hnone ⟨first,
            (exactPair_iff_anchored hboth).2 ⟨htrigger.isFirst.toIsPair, htrigger.anchored⟩⟩
    | cons firstTs restTs =>
      by_cases hconflictPy : Conflicting Py.isEligible candidates evidence
      · rw [choose_of_conflict hpy hspy hne hconflictPy]
        by_cases hconflictTs : PriceConflict candidates evidence
        · rw [choose_of_conflict hts hsts hne hconflictTs]
          exact iff_of_true rfl (Or.inr (Or.inl ⟨hconflictPy, hconflictTs⟩))
        · apply iff_of_false
          · rw [choose_of_agreement hts hsts hne hconflictTs]
            split_ifs <;> simp
          · rintro (h | ⟨-, h⟩ | ⟨h, -⟩)
            · exact hsome h
            · exact hconflictTs h
            · exact h hconflictPy
      · by_cases hconflictTs : PriceConflict candidates evidence
        · apply iff_of_false
          · rw [choose_of_conflict hts hsts hne hconflictTs,
              choose_of_agreement hpy hspy hne hconflictPy]
            split_ifs <;> simp
          · rintro (h | ⟨h, -⟩ | ⟨-, h, -⟩)
            · exact hsome h
            · exact hconflictPy h
            · exact h hconflictTs
        · rw [choose_eq_iff_anchored hboth hi hne hts hsts hpy hspy hconflictTs hconflictPy]
          constructor
          · intro h
            exact Or.inr (Or.inr ⟨hconflictPy, hconflictTs, h⟩)
          · rintro (h | ⟨h, -⟩ | ⟨-, -, h⟩)
            · exact absurd h hsome
            · exact absurd h hconflictPy
            · exact h

end Choices

/-! ## Parity -/

section Agreement

variable {sha256 : Json → String} {setupId : JsString} {candidates byId : List EntryCandidateV3}
  {evidence : List EntryCandidateEvidenceV3} {setupInvalidated : Bool}
  {revision evaluatedAtEpoch : Int}

/-- Selections of different choices differ, if an identifier belongs to one record. -/
theorem selection_eq_iff {context : SelectionContext} {choice choice' : Py.Choice}
    (hrecords : AcceptedRecords setupId candidates evidence)
    (hmem : ∀ pair, choice.canonical = some pair →
      pair.candidate ∈ candidates ∧ pair.evidence ∈ evidence)
    (hmem' : ∀ pair, choice'.canonical = some pair →
      pair.candidate ∈ candidates ∧ pair.evidence ∈ evidence) :
    selection sha256 context choice.canonical choice.reason choice.action
        choice.coTriggeredModels =
      selection sha256 context choice'.canonical choice'.reason choice'.action
        choice'.coTriggeredModels ↔ choice = choice' := by
  constructor
  · intro h
    have hcandidate := congrArg (·.canonicalCandidateId) h
    have hevidence := congrArg (·.canonicalEvidenceId) h
    have hreason := congrArg (·.reason) h
    have haction := congrArg (·.action) h
    have hmodels := congrArg (·.coTriggeredModels) h
    obtain ⟨canonical, reason, action, models⟩ := choice
    obtain ⟨canonical', reason', action', models'⟩ := choice'
    simp only [selection] at hcandidate hevidence hreason haction hmodels
    have hcanonical : canonical = canonical' := by
      cases canonical with
      | none =>
        cases canonical' with
        | none => rfl
        | some pair' => cases hcandidate
      | some pair =>
        cases canonical' with
        | none => cases hcandidate
        | some pair' =>
          obtain ⟨hc, he⟩ := hmem pair rfl
          obtain ⟨hc', he'⟩ := hmem' pair' rfl
          have hsame := hrecords.candidates_consistent _ hc _ hc' (Option.some.inj hcandidate)
          have hsame' := hrecords.evidence_consistent _ he _ he' (Option.some.inj hevidence)
          obtain ⟨c, e⟩ := pair
          obtain ⟨c', e'⟩ := pair'
          rw [show c = c' from hsame, show e = e' from hsame']
    rw [hcanonical, hreason, haction, hmodels]
  · intro h
    rw [h]

theorem toOption_eq_none {α : Type} {x : Except String α} (h : ∀ a, x ≠ .ok a) :
    x.toOption = none := by
  cases x with
  | error message => rfl
  | ok a => exact absurd rfl (h a)

/-- What the TypeScript code accepts. -/
theorem arbitrate_accepted_ts (hnum : SharedNumbers revision evaluatedAtEpoch)
    {result : EntrySelectionV3}
    (h : arbitrateEntryCandidatesV3 sha256 setupId candidates evidence setupInvalidated revision
      evaluatedAtEpoch none .twoPlusCandles = .ok result) :
    SetupIdTs setupId ∧ ObservedBy candidates evidence evaluatedAtEpoch ∧
      AcceptedRecords setupId candidates evidence := by
  obtain ⟨hvalid, hrecords, -⟩ := arbitrateEntryCandidatesV3_ok h
  obtain ⟨htext, hobserved⟩ := (validateRequestV3_ok_iff hnum).1 hvalid
  exact ⟨htext, hobserved, hrecords⟩

theorem arbitrate_exists_ts (hnum : SharedNumbers revision evaluatedAtEpoch)
    (hts : SetupIdTs setupId) (hobserved : ObservedBy candidates evidence evaluatedAtEpoch)
    (hrecords : AcceptedRecords setupId candidates evidence) (sha256 : Json → String)
    (setupInvalidated : Bool) :
    ∃ result, arbitrateEntryCandidatesV3 sha256 setupId candidates evidence setupInvalidated
      revision evaluatedAtEpoch none .twoPlusCandles = .ok result :=
  arbitrateEntryCandidatesV3_exists ((validateRequestV3_ok_iff hnum).2 ⟨hts, hobserved⟩) hrecords

/-- On a request that both accept, the results are the same exactly when the anchors agree. -/
theorem results_eq_iff (hsha : IsSha256 sha256)
    (hboth : AcceptedByBoth sha256 candidates evidence)
    (hnum : SharedNumbers revision evaluatedAtEpoch) (hts : SetupIdTs setupId)
    (hpy : SetupIdPy setupId) (hobserved : ObservedBy candidates evidence evaluatedAtEpoch)
    (hrecords : AcceptedRecords setupId candidates evidence) :
    (arbitrateEntryCandidatesV3 sha256 setupId candidates evidence setupInvalidated revision
      evaluatedAtEpoch none .twoPlusCandles).toOption =
    (Py.arbitrateEntryCandidatesV3 sha256 (Py.requestOf setupId candidates evidence
      setupInvalidated revision evaluatedAtEpoch)).toOption ↔
    (setupInvalidated = false → AnchorsAgree candidates evidence) := by
  obtain ⟨byId, pairs, hindexed, hpairs, hresult⟩ :=
    Py.arbitrate_eq hsha hboth hnum hpy hobserved hrecords
  rw [hresult _ rfl]
  obtain ⟨result, hok⟩ := arbitrate_exists_ts hnum hts hobserved hrecords sha256 setupInvalidated
  rw [hok]
  obtain ⟨-, -, byId', pairs', hindexed', hpairs', rfl⟩ := arbitrateEntryCandidatesV3_ok hok
  rw [chooseSelection_congr hindexed' hindexed, chooseSelection_eq_choose hpairs']
  simp only [Except.toOption, Option.some.injEq]
  have hmem : ∀ {eligible : EntryCandidateV3 → EntryCandidateEvidenceV3 → Bool}
      {list : List EligiblePair}, EligibleList eligible candidates evidence list → ∀ pair,
      (Py.choose byId (sortBy pairKey list) setupInvalidated).canonical = some pair →
      pair.candidate ∈ candidates ∧ pair.evidence ∈ evidence := by
    intro eligible list hl pair hp
    have hchosen := (hl.mem_iff pair).1 ((mem_sortBy pairKey).1 (Py.canonical_mem hp))
    exact ⟨hchosen.candidate_mem, hchosen.evidence_mem⟩
  rw [selection_eq_iff hrecords (hmem hpairs') (hmem hpairs)]
  cases setupInvalidated with
  | true => simp [Py.choose]
  | false =>
    rw [choose_eq_iff hboth hindexed hpairs' hpairs]
    simp

/-- Exactly when the two implementations return the same selection or both refuse a request: when
its records are refused by both, or its setup id is accepted by both or by neither and, if it is
accepted and the setup stands, the anchors agree. -/
theorem arbitrators_agree_iff (hsha : IsSha256 sha256)
    (hboth : AcceptedByBoth sha256 candidates evidence)
    (hnum : SharedNumbers revision evaluatedAtEpoch) :
    (arbitrateEntryCandidatesV3 sha256 setupId candidates evidence setupInvalidated revision
      evaluatedAtEpoch none .twoPlusCandles).toOption =
    (Py.arbitrateEntryCandidatesV3 sha256 (Py.requestOf setupId candidates evidence
      setupInvalidated revision evaluatedAtEpoch)).toOption ↔
    (ObservedBy candidates evidence evaluatedAtEpoch →
      AcceptedRecords setupId candidates evidence →
      (SetupIdTs setupId ↔ SetupIdPy setupId) ∧
      (SetupIdTs setupId → setupInvalidated = false → AnchorsAgree candidates evidence)) := by
  have hnoneTs : ¬ (SetupIdTs setupId ∧ ObservedBy candidates evidence evaluatedAtEpoch ∧
      AcceptedRecords setupId candidates evidence) →
      (arbitrateEntryCandidatesV3 sha256 setupId candidates evidence setupInvalidated revision
        evaluatedAtEpoch none .twoPlusCandles).toOption = none :=
    fun h => toOption_eq_none fun _ hok => h (arbitrate_accepted_ts hnum hok)
  have hnonePy : ¬ (SetupIdPy setupId ∧ ObservedBy candidates evidence evaluatedAtEpoch ∧
      AcceptedRecords setupId candidates evidence) →
      (Py.arbitrateEntryCandidatesV3 sha256 (Py.requestOf setupId candidates evidence
        setupInvalidated revision evaluatedAtEpoch)).toOption = none :=
    fun h => toOption_eq_none fun _ hok => h (Py.arbitrate_accepted hboth hnum hok)
  by_cases hrecords : ObservedBy candidates evidence evaluatedAtEpoch ∧
      AcceptedRecords setupId candidates evidence
  · obtain ⟨hobserved, hrecords⟩ := hrecords
    by_cases hts : SetupIdTs setupId
    · by_cases hpy : SetupIdPy setupId
      · rw [results_eq_iff hsha hboth hnum hts hpy hobserved hrecords]
        constructor
        · intro h _ _
          exact ⟨iff_of_true hts hpy, fun _ => h⟩
        · intro h
          exact (h hobserved hrecords).2 hts
      · apply iff_of_false
        · rw [hnonePy fun h => hpy h.1]
          obtain ⟨result, hok⟩ :=
            arbitrate_exists_ts hnum hts hobserved hrecords sha256 setupInvalidated
          rw [hok]
          simp [Except.toOption]
        · intro h
          exact hpy ((h hobserved hrecords).1.1 hts)
    · by_cases hpy : SetupIdPy setupId
      · apply iff_of_false
        · rw [hnoneTs fun h => hts h.1]
          obtain ⟨byId, pairs, -, -, hresult⟩ :=
            Py.arbitrate_eq hsha hboth hnum hpy hobserved hrecords
          rw [hresult _ rfl]
          simp [Except.toOption]
        · intro h
          exact hts ((h hobserved hrecords).1.2 hpy)
      · rw [hnoneTs fun h => hts h.1, hnonePy fun h => hpy h.1]
        exact iff_of_true rfl fun _ _ => ⟨iff_of_false hts hpy, fun h => absurd h hts⟩
  · rw [hnoneTs fun h => hrecords h.2, hnonePy fun h => hrecords h.2]
    exact iff_of_true rfl fun hobserved haccepted => absurd ⟨hobserved, haccepted⟩ hrecords

end Agreement

/-! ## A misanchored close

A close candidate of the bar from 300 to 600 that is anchored at 0. -/

def misanchoredCandidate : EntryCandidateV3 :=
  { closeCandidate 1 "75281ae1db703c386d9bbd3283ba260dadad5d183b5c0d814d806e1f79050b29" with
    eventAnchorEpoch := 0 }

def misanchoredEvidence : EntryCandidateEvidenceV3 :=
  closeEvidence "75281ae1db703c386d9bbd3283ba260dadad5d183b5c0d814d806e1f79050b29" 105
    "330d5d2fb24cd500f249fc01f43d938d8037b89eb284886e3e1a5040e7cab7da"
    "1a902d5934cc6dc57ec3b8fde4bf1f8fb76d64ba7683aa139350bdff4cc2e617"

/-- The digests of the records above and of the two selections they lead to. -/
def misanchoredSha256 : Json → String
  | .obj (("boc_tier", _) :: _) =>
    "75281ae1db703c386d9bbd3283ba260dadad5d183b5c0d814d806e1f79050b29"
  | .obj (("ambiguity_codes", _) :: _) =>
    "330d5d2fb24cd500f249fc01f43d938d8037b89eb284886e3e1a5040e7cab7da"
  | .obj (("candidate_id", _) :: _) =>
    "1a902d5934cc6dc57ec3b8fde4bf1f8fb76d64ba7683aa139350bdff4cc2e617"
  | .obj (("action", .str action) :: _) =>
    if action = "PAPER_ELIGIBLE" then
      "bfd7863966155949dd026c76b554e822e5acfc07e8077f3546cd3ba754cf3121"
    else "0b78b64c29470e2dfea585ffe15e8ff9bfc56df4f6fd09c9dceac624d422eb7c"
  | _ => "0b78b64c29470e2dfea585ffe15e8ff9bfc56df4f6fd09c9dceac624d422eb7c"

theorem misanchoredSha256_isSha256 : IsSha256 misanchoredSha256 where
  text := by
    intro value
    unfold misanchoredSha256
    split
    case h_4 => split_ifs <;> exact sha256Text_ofList (by decide) (by decide)
    all_goals exact sha256Text_ofList (by decide) (by decide)
  nonzero := by
    intro value
    unfold misanchoredSha256
    split
    case h_4 => split_ifs <;> exact ofList_ne_zeroSha256 (by decide)
    all_goals exact ofList_ne_zeroSha256 (by decide)

theorem misanchored_candidate_ts : validateEntryCandidateV3 misanchoredCandidate = .ok () := by
  rw [validateEntryCandidateV3, then_ok_iff]
  exact ⟨digest_ofList (by decide) (by decide) (by decide), by rfl⟩

theorem misanchored_candidate_py :
    Py.candidatePostInit misanchoredSha256 misanchoredCandidate = .ok () := by
  rw [Py.candidatePostInit, then_ok_iff]
  exact ⟨failIf_ok_iff.2 (not_badDigest_ofList (by decide) (by decide) (by decide)),
    by rfl⟩

theorem misanchored_evidence_ts : validateEntryEvidenceV3 misanchoredEvidence = .ok () := by
  rw [validateEntryEvidenceV3, then_ok_iff, then_ok_iff, then_ok_iff]
  exact ⟨digest_ofList (by decide) (by decide) (by decide),
    digest_ofList (by decide) (by decide) (by decide),
    digest_ofList (by decide) (by decide) (by decide), by rfl⟩

theorem misanchored_evidence_py :
    Py.evidencePostInit misanchoredSha256 misanchoredEvidence = .ok () := by
  rw [Py.evidencePostInit, then_ok_iff, then_ok_iff, then_ok_iff, then_ok_iff]
  exact ⟨rfl, rfl, failIf_ok_iff.2 (not_badDigest_ofList (by decide) (by decide) (by decide)),
    failIf_ok_iff.2 (not_badDigest_ofList (by decide) (by decide) (by decide)),
    by rfl⟩

theorem misanchored_accepted :
    AcceptedByBoth misanchoredSha256 [misanchoredCandidate] [misanchoredEvidence] where
  candidate_ts := List.forall_mem_singleton.2 misanchored_candidate_ts
  candidate_py := List.forall_mem_singleton.2 misanchored_candidate_py
  evidence_ts := List.forall_mem_singleton.2 misanchored_evidence_ts
  evidence_py := List.forall_mem_singleton.2 misanchored_evidence_py

theorem misanchored_ts :
    (arbitrateEntryCandidatesV3 misanchoredSha256 "setup-1" [misanchoredCandidate]
      [misanchoredEvidence] false 0 600 none .twoPlusCandles).toOption.map
        (fun result => (result.action, result.reason)) = some (.shadowOnly, .noExactCandidate) := by
  decide +kernel

theorem misanchored_py :
    (Py.arbitrateEntryCandidatesV3 misanchoredSha256 (Py.requestOf "setup-1"
      [misanchoredCandidate] [misanchoredEvidence] false 0 600)).toOption.map
        (fun result => (result.action, result.reason)) =
      some (.paperEligible, .onlyExactTrigger) := by
  decide +kernel

/-- Both languages accept the two records; Python takes the close as a paper eligible trigger, the
TypeScript code finds no exact candidate. -/
theorem misanchored_close_diverges :
    AcceptedByBoth misanchoredSha256 [misanchoredCandidate] [misanchoredEvidence] ∧
      ∃ ts py,
        arbitrateEntryCandidatesV3 misanchoredSha256 "setup-1" [misanchoredCandidate]
          [misanchoredEvidence] false 0 600 none .twoPlusCandles = .ok ts ∧
        Py.arbitrateEntryCandidatesV3 misanchoredSha256 (Py.requestOf "setup-1"
          [misanchoredCandidate] [misanchoredEvidence] false 0 600) = .ok py ∧
        ts.action = .shadowOnly ∧ ts.reason = .noExactCandidate ∧
        py.action = .paperEligible ∧ py.reason = .onlyExactTrigger := by
  obtain ⟨ts, hts, hts'⟩ := toOption_map_eq_some.1 misanchored_ts
  obtain ⟨py, hpy, hpy'⟩ := toOption_map_eq_some.1 misanchored_py
  obtain ⟨hts₁, hts₂⟩ := Prod.mk.inj hts'
  obtain ⟨hpy₁, hpy₂⟩ := Prod.mk.inj hpy'
  exact ⟨misanchored_accepted, ts, py, hts, hpy, hts₁, hts₂, hpy₁, hpy₂⟩

/-- At these records the results differ, unless the setup is invalidated. -/
theorem misanchored_not_parity :
    (arbitrateEntryCandidatesV3 misanchoredSha256 "setup-1" [misanchoredCandidate]
        [misanchoredEvidence] false 0 600 none .twoPlusCandles).toOption ≠
      (Py.arbitrateEntryCandidatesV3 misanchoredSha256 (Py.requestOf "setup-1"
        [misanchoredCandidate] [misanchoredEvidence] false 0 600)).toOption ∧
    (arbitrateEntryCandidatesV3 misanchoredSha256 "setup-1" [misanchoredCandidate]
        [misanchoredEvidence] true 0 600 none .twoPlusCandles).toOption =
      (Py.arbitrateEntryCandidatesV3 misanchoredSha256 (Py.requestOf "setup-1"
        [misanchoredCandidate] [misanchoredEvidence] true 0 600)).toOption := by
  have hnum : SharedNumbers 0 600 := ⟨le_rfl, by decide, by decide, by decide⟩
  have hobserved : ObservedBy [misanchoredCandidate] [misanchoredEvidence] 600 :=
    ⟨by simp [misanchoredCandidate, closeCandidate], by simp [misanchoredEvidence, closeEvidence]⟩
  have hrecords : AcceptedRecords "setup-1" [misanchoredCandidate] [misanchoredEvidence] :=
    ⟨List.forall_mem_singleton.2 rfl, by simp [Consistent], by simp [Consistent],
      List.forall_mem_singleton.2 ⟨_, List.mem_singleton_self _, rfl⟩⟩
  have hts : SetupIdTs "setup-1" := ⟨by decide +kernel, by decide +kernel⟩
  have hpy : SetupIdPy "setup-1" := ⟨by decide +kernel, by decide +kernel⟩
  constructor
  · rw [Ne, arbitrators_agree_iff misanchoredSha256_isSha256 misanchored_accepted hnum]
    intro h
    have hpair : IsPair Py.isEligible [misanchoredCandidate] [misanchoredEvidence]
        ⟨misanchoredCandidate, misanchoredEvidence⟩ :=
      ⟨List.mem_singleton_self _, List.mem_singleton_self _, rfl, by decide⟩
    have hmisanchored : ∀ pair, IsPair Py.isEligible [misanchoredCandidate] [misanchoredEvidence]
        pair → Misanchored pair.candidate pair.evidence := by
      intro pair hp
      rw [List.mem_singleton.1 hp.candidate_mem, List.mem_singleton.1 hp.evidence_mem]
      decide
    rcases (h hobserved hrecords).2 hts rfl with hnone | ⟨-, ⟨p, -, hp, -⟩, -⟩ | ⟨-, -, first, ht⟩
    · exact hnone ⟨_, hpair⟩
    · obtain ⟨hpyPair, hanchored⟩ := (exactPair_iff_anchored misanchored_accepted).1 hp.toIsPair
      exact hanchored (hmisanchored p hpyPair)
    · exact ht.anchored (hmisanchored first ht.isFirst.toIsPair)
  · rw [arbitrators_agree_iff misanchoredSha256_isSha256 misanchored_accepted hnum]
    exact fun _ _ => ⟨iff_of_true hts hpy, fun _ hstands => absurd hstands (by decide)⟩

end TradeOps.Entry
