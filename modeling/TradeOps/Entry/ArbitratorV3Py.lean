import TradeOps.Entry.EarliestTrigger
import TradeOps.Lib.SafeIntegers

/-!
# The Python arbitrator

Embeds `rd_entry_models_v3.py` and `rd_entry_arbitrator_v3.py`: the checks that a record makes when
it is constructed and the arbitration over such records. The records have the fields of the
TypeScript ones, so the types are shared; so is the digest, whose Python version first refuses
values outside the canonical profile. A Python text is the list of its code points: `codePoints` of
the JavaScript string, where an unpaired surrogate stands for itself. What `str.strip` strips is one
code unit each, so it strips code units here.
-/

namespace TradeOps.Entry.Py

open Checks Keyed SafeIntegers SortBy
open JsString (codePoints isScalarText trimBy)
open scoped JsString

/-! ## Canonical digests -/

/-- The texts of the canonical profile: without U+0000, and encodable in UTF-8. -/
def canonicalText (value : JsString) : Bool :=
  0 ∉ codePoints value ∧ isScalarText value

/-- `validate_canonical_value`: integers in the cross-language range and texts of the profile. -/
def canonicalValue (value : Json) : Bool :=
  value.leaves (fun n => -maxSafeInteger ≤ n ∧ n ≤ maxSafeInteger) canonicalText

def canonicalSha256 (sha256 : Json → String) (value : Json) : Except String String :=
  if canonicalValue value then .ok (sha256 value)
  else .error "value is outside the canonical profile"

/-! ## Checks of single fields -/

/-- The characters `str.strip` strips. -/
def isStripSpace (n : Nat) : Bool :=
  (9 ≤ n ∧ n ≤ 13) ∨ (0x1C ≤ n ∧ n ≤ 0x20) ∨ n = 0x85 ∨ n = 0xA0 ∨ n = 0x1680 ∨
    (0x2000 ≤ n ∧ n ≤ 0x200A) ∨ n = 0x2028 ∨ n = 0x2029 ∨ n = 0x202F ∨ n = 0x205F ∨ n = 0x3000

def strip (value : JsString) : JsString :=
  trimBy (isStripSpace ·.toNat) value

def requirePositive (value : Int) (name : String) : Except String Unit :=
  failIf (value ≤ 0) (name ++ " must be positive")

def requireNonNegative (value : Int) (name : String) : Except String Unit :=
  failIf (value < 0) (name ++ " must be non-negative")

def requireText (value : JsString) (name : String) : Except String Unit :=
  failIf (strip value = []) (name ++ " must be a non-empty string")

def requireSha256 (value name : String) : Except String Unit :=
  failIf (sha256Text value = false ∨ value = zeroSha256)
    (name ++ " must be a nonzero lowercase SHA-256 hex digest")

def requireSortedUniqueContexts (values : List Int) : Except String Unit := do
  forAll (requirePositive · "htf_context_minutes") values
  failIf (sortBy id values ≠ values ∨ ¬ values.Nodup)
    "htf_context_minutes must be sorted and unique"

def requireUniqueTexts (values : List JsString) (name : String) : Except String Unit := do
  forAll (requireText · name) values
  failIf (¬ values.Nodup) (name ++ " must not contain duplicates")

def orderedCandlePostInit (candle : OrderedCandleV3) : Except String Unit := do
  requireNonNegative candle.openEpoch "open_epoch"
  requireNonNegative candle.closeEpoch "close_epoch"
  failIf (candle.closeEpoch ≤ candle.openEpoch) "close_epoch must be after open_epoch"
  failIf (candle.highTicks < max (max candle.openTicks candle.closeTicks) candle.lowTicks)
    "high_ticks is below candle values"
  failIf (candle.lowTicks > min (min candle.openTicks candle.closeTicks) candle.highTicks)
    "low_ticks is above candle values"

/-! ## Candidate and evidence records -/

def candidateIdentityPostInit (identity : CandidateIdentityV3) : Except String Unit := do
  requireText identity.setupId "setup_id"
  requireNonNegative identity.eventAnchorEpoch "event_anchor_epoch"
  requirePositive identity.triggerOrdinal "trigger_ordinal"
  if identity.model = .boc then
    failIf (identity.bocTier = none ∨ identity.referenceCandleOpenEpoch = none)
      "BOC identity requires tier and reference candle"
    whenSome identity.referenceCandleOpenEpoch
      (requireNonNegative · "reference_candle_open_epoch")
  else
    failIf (identity.bocTier ≠ none ∨ identity.referenceCandleOpenEpoch ≠ none)
      "non-BOC identity cannot carry BOC fields"

def candidatePostInit (sha256 : Json → String) (candidate : EntryCandidateV3) :
    Except String Unit := do
  requireSha256 candidate.candidateId "candidate_id"
  candidateIdentityPostInit candidate.toCandidateIdentityV3
  let candidateId ← canonicalSha256 sha256 candidate.toCandidateIdentityV3.toJson
  failIf (candidate.candidateId ≠ candidateId) "candidate_id conflicts with its domain identity"
  requireUniqueTexts candidate.sourceClaimIds "source_claim_ids"
  requireNonNegative candidate.observedAtEpoch "observed_at_epoch"

def requireOptionalReference (evidence : EntryCandidateEvidenceV3) : Except String Unit :=
  match evidence.bocTier with
  | none =>
    failIf (∃ value ∈ evidence.referenceValues, value ≠ none)
      "reference candle fields require a BOC tier"
  | some _ =>
    match evidence.referenceCandleOpenEpoch, evidence.referenceCandleOpenTicks,
      evidence.referenceCandleHighTicks, evidence.referenceCandleLowTicks,
      evidence.referenceCandleCloseTicks with
    | some openEpoch, some openTicks, some high, some low, some close => do
      requireNonNegative openEpoch "reference_candle_open_epoch"
      failIf (high < max (max openTicks close) low) "reference candle high is below an OHLC value"
      failIf (low > min (min openTicks close) high) "reference candle low is above an OHLC value"
    | _, _, _, _, _ => .error "BOC evidence requires complete reference OHLC"

/-- The flip lifecycle of evidence that carries all of its fields. -/
def requireLifecycle (evidence : EntryCandidateEvidenceV3) : Except String Unit :=
  match evidence.contactCandle, evidence.recrossCandle with
  | some contact, some recross => do
    failIf (contact.closeEpoch > recross.openEpoch) "flip contact must precede recross"
    failIf
      (evidence.observedTriggerEpoch ≠ some recross.closeEpoch ∨
        evidence.observedTriggerTicks ≠ some recross.closeTicks)
      "flip trigger must equal the retained recross market close"
  | _, _ => .ok ()

def evidenceIdentityPostInit (payload : EvidencePayloadFields) (payloadSha256 : String) :
    Except String Unit := do
  requireSha256 payload.candidateId "candidate_id"
  requireNonNegative payload.coverageStartEpoch "coverage_start_epoch"
  requireNonNegative payload.coverageEndEpoch "coverage_end_epoch"
  failIf (payload.coverageEndEpoch ≤ payload.coverageStartEpoch) "coverage epochs must increase"
  whenSome payload.observedTriggerEpoch (requireNonNegative · "observed_trigger_epoch")
  requireNonNegative payload.triggerSequence "trigger_sequence"
  requireSha256 payloadSha256 "payload_sha256"

def evidencePostInit (sha256 : Json → String) (evidence : EntryCandidateEvidenceV3) :
    Except String Unit := do
  whenSome evidence.contactCandle orderedCandlePostInit
  whenSome evidence.recrossCandle orderedCandlePostInit
  requireSha256 evidence.evidenceId "evidence_id"
  requireSha256 evidence.candidateId "candidate_id"
  failIf (evidence.observedTriggerEpoch.isNone ≠ evidence.observedTriggerTicks.isNone)
    "observed trigger epoch and ticks must both be present or absent"
  whenSome evidence.observedTriggerEpoch (requireNonNegative · "observed_trigger_epoch")
  requireNonNegative evidence.triggerSequence "trigger_sequence"
  requireSortedUniqueContexts evidence.htfContextMinutes
  requireNonNegative evidence.coverageStartEpoch "coverage_start_epoch"
  requireNonNegative evidence.coverageEndEpoch "coverage_end_epoch"
  failIf (evidence.coverageEndEpoch ≤ evidence.coverageStartEpoch) "coverage epochs must increase"
  failIf (¬ evidence.ambiguityCodes.Nodup) "ambiguity_codes must not contain duplicates"
  requireOptionalReference evidence
  failIf (true ∈ evidence.flipPresent ∧ false ∈ evidence.flipPresent)
    "flip evidence requires complete lifecycle fields"
  requireLifecycle evidence
  requireUniqueTexts evidence.passedRuleIds "passed_rule_ids"
  requireUniqueTexts evidence.failedRuleIds "failed_rule_ids"
  failIf (∃ rule ∈ evidence.passedRuleIds, rule ∈ evidence.failedRuleIds)
    "passed and failed rule IDs must be disjoint"
  if evidence.fidelity = .exact then
    failIf (evidence.failedRuleIds ≠ []) "exact evidence cannot carry failed rules"
    failIf (evidence.passedRuleIds = []) "exact evidence requires a passed rule"
  requireUniqueTexts evidence.sourceClaimIds "source_claim_ids"
  requireSha256 evidence.payloadSha256 "payload_sha256"
  requireNonNegative evidence.observedAtEpoch "observed_at_epoch"
  failIf (evidence.coverageEndEpoch > evidence.observedAtEpoch)
    "coverage cannot extend past observation"
  whenSome evidence.observedTriggerEpoch fun trigger =>
    failIf (¬ (evidence.coverageStartEpoch ≤ trigger ∧ trigger ≤ evidence.coverageEndEpoch))
      "trigger must be inside evidence coverage"
  whenSome evidence.observedTriggerEpoch fun trigger =>
    failIf (trigger > evidence.observedAtEpoch) "trigger cannot occur after observation"
  failIf
    (evidence.replayability ≠ expectedReplayability evidence.proofPlane ∧
      evidence.fidelity = .exact)
    "replayability is inconsistent with proof plane"
  let payloadSha256 ← canonicalSha256 sha256 evidence.toEvidencePayloadFields.toJson
  failIf (evidence.payloadSha256 ≠ payloadSha256) "payload digest conflicts with expanded evidence"
  evidenceIdentityPostInit evidence.toEvidencePayloadFields evidence.payloadSha256
  let evidenceId ← canonicalSha256 sha256
    (evidence.toEvidencePayloadFields.identityJson evidence.payloadSha256)
  failIf (evidence.evidenceId ≠ evidenceId) "evidence_id conflicts with its domain identity"

/-! ## Selections -/

def validateSelectionFields (value : SelectionIdentityV3) : Except String Unit := do
  requireText value.setupId "setup_id"
  failIf (value.policyVersion ≠ policyVersionV3) "policy_version must be rd-entry-arbitration-v3"
  requireNonNegative value.revision "revision"
  forAll (requireSha256 · "candidate_ids_considered") value.candidateIdsConsidered
  failIf (sortBy id value.candidateIdsConsidered ≠ value.candidateIdsConsidered)
    "candidate_ids_considered must be sorted"
  failIf (¬ value.candidateIdsConsidered.Nodup)
    "candidate_ids_considered must not contain duplicates"
  failIf (value.canonicalCandidateId.isNone ≠ value.canonicalEvidenceId.isNone)
    "canonical candidate and evidence IDs must both be present or absent"
  whenSome value.canonicalCandidateId (requireSha256 · "canonical_candidate_id")
  whenSome value.canonicalEvidenceId (requireSha256 · "canonical_evidence_id")
  failIf (sortBy (·.name) value.coTriggeredModels.dedup ≠ value.coTriggeredModels)
    "co_triggered_models must be sorted and unique"
  failIf (value.reason = .coTriggerSameEvent ∧ value.coTriggeredModels.length < 2)
    "co-trigger selection requires multiple models"
  failIf (value.reason ≠ .coTriggerSameEvent ∧ value.coTriggeredModels ≠ [])
    "co-triggered models require CO_TRIGGER_SAME_EVENT"
  if value.canonicalCandidateId.isSome then
    failIf (value.fidelity ≠ some .exact) "canonical paper selection requires exact fidelity"
    failIf (value.action ≠ .paperEligible) "canonical selection action must be paper eligible"
    failIf (value.reason ∉ canonicalReasons) "canonical selection reason is inconsistent"
  else
    failIf (value.fidelity ≠ none)
      "selection without a canonical candidate cannot carry fidelity"
    failIf (emptyActions value.reason ≠ some value.action)
      "canonical-null selection reason and action are inconsistent"

def selectionPostInit (sha256 : Json → String) (selection : EntrySelectionV3) :
    Except String Unit := do
  requireSha256 selection.selectionId "selection_id"
  validateSelectionFields selection.toSelectionIdentityV3
  let selectionId ← canonicalSha256 sha256 selection.toSelectionIdentityV3.toJson
  failIf (selection.selectionId ≠ selectionId) "selection_id conflicts with its domain identity"
  failIf (selection.canonicalModel.isNone ≠ selection.canonicalCandidateId.isNone)
    "canonical model and canonical pointers must agree"
  requireNonNegative selection.evaluatedAtEpoch "evaluated_at_epoch"

/-! ## Arbitration -/

structure EntryArbitrationRequestV3 where
  setupId : JsString
  candidates : List EntryCandidateV3
  evidence : List EntryCandidateEvidenceV3
  setupInvalidated : Bool
  policyVersion : String
  revision : Int
  evaluatedAtEpoch : Int
  openedSelection : Option EntrySelectionV3

def requestPostInit (request : EntryArbitrationRequestV3) : Except String Unit := do
  failIf (strip request.setupId = []) "setup_id must be a non-empty string"
  forAll
    (fun candidate => failIf (candidate.observedAtEpoch > request.evaluatedAtEpoch)
      "candidate cannot be observed after evaluation")
    request.candidates
  forAll
    (fun item => failIf (item.observedAtEpoch > request.evaluatedAtEpoch)
      "evidence cannot be observed after evaluation")
    request.evidence
  failIf (request.policyVersion ≠ policyVersionV3) "policy_version must be rd-entry-arbitration-v3"
  requireNonNegative request.revision "revision"
  requireNonNegative request.evaluatedAtEpoch "evaluated_at_epoch"
  whenSome request.openedSelection fun opened => do
    failIf (opened.setupId ≠ request.setupId)
      "opened selection setup_id must match arbitration setup_id"
    failIf (opened.action ≠ .paperEligible) "opened selection must be paper eligible"

/-- The BOC timing that Python asks for; it asserts that the reference epoch is there. -/
def bocGeometry (evidence : EntryCandidateEvidenceV3) (trigger : Int) : Except String Bool :=
  match evidence.referenceCandleOpenEpoch with
  | none => .error "AssertionError"
  | some reference =>
    let triggerOpen := trigger / 300 * 300
    .ok (¬ reference + 300 > triggerOpen ∧ evidence.htfContextMinutes ≠ [] ∧
      ∀ context ∈ evidence.htfContextMinutes, triggerOpen % (context * 60) = 0)

/-- The close geometry that Python asks for: the anchor is not looked at. -/
def closeGeometry (evidence : EntryCandidateEvidenceV3) (trigger : Int) : Bool :=
  evidence.coverageEndEpoch - evidence.coverageStartEpoch = 300 ∧
    trigger = evidence.coverageEndEpoch

def geometry (candidate : EntryCandidateV3) (evidence : EntryCandidateEvidenceV3)
    (trigger : Int) : Except String Bool :=
  match candidate.model with
  | .boc => bocGeometry evidence trigger
  | .dirClose => .ok (closeGeometry evidence trigger)
  | .htfFlip => .ok (flipGeometryV3 candidate evidence trigger)

def planeEligible (model : EntryModelV3) (evidence : EntryCandidateEvidenceV3) : Bool :=
  evidence.proofPlane = .lowerTimeframeReplay ∨ evidence.proofPlane = .externalArchivedTick ∨
    (evidence.proofPlane = .realtimeTick ∧ evidence.replayability = .liveExactNonReplayable) ∨
    (model = .dirClose ∧ evidence.proofPlane = .confirmed5m)

/-- The conditions that `_exact_eligible` checks before the geometry. -/
def baseEligible (candidate : EntryCandidateV3) (evidence : EntryCandidateEvidenceV3) : Bool :=
  candidate.state = .matched ∧ evidence.fidelity = .exact ∧ evidence.ambiguityCodes = [] ∧
    ¬ (candidate.model = .boc ∧ candidate.bocTier ≠ some .htfTimed) ∧
    evidence.passedRuleIds = [expectedRules candidate.model] ∧ evidence.failedRuleIds = [] ∧
    evidence.bocTier = candidate.bocTier ∧
    evidence.referenceCandleOpenEpoch = candidate.referenceCandleOpenEpoch

def exactEligible (candidate : EntryCandidateV3) (evidence : EntryCandidateEvidenceV3) :
    Except String Bool :=
  match evidence.observedTriggerEpoch with
  | none => .ok false
  | some trigger =>
    if baseEligible candidate evidence then do
      let inGeometry ← geometry candidate evidence trigger
      pure (inGeometry ∧ ¬ (candidate.model ≠ .htfFlip ∧ true ∈ evidence.flipPresent) ∧
        planeEligible candidate.model evidence)
    else .ok false

def collectMessages : CollectMessages where
  setup := "candidate setup_id must match arbitration setup_id"
  candidate := fun c => "candidate identity conflict: " ++ c.candidateId
  evidence := fun e => "evidence identity conflict: " ++ e.evidenceId
  unknown := fun e => "evidence references unknown candidate: " ++ e.candidateId

/-- `_unique_candidates`, `_unique_evidence` and `_eligible_pairs`, which take the least evidence
of a candidate. -/
def collectPairs (request : EntryArbitrationRequestV3) :
    Except String (List EntryCandidateV3 × List EligiblePair) :=
  Entry.collectPairs collectMessages exactEligible (minBy evidenceKey) request.setupId
    request.candidates request.evidence

/-- What a branch of the arbitration decides. -/
structure Choice where
  canonical : Option EligiblePair
  reason : SelectionReasonV3
  action : SelectionActionV3
  coTriggeredModels : List EntryModelV3

def chooseEarliest (candidatesById : List EntryCandidateV3) (first : EligiblePair)
    (eligible : List EligiblePair) : Choice :=
  let earliest := earliestOf first eligible
  let models := (earliest.map (·.candidate.model)).dedup
  if models.length > 1 then
    if (earliest.map (·.evidence.observedTriggerTicks)).dedup.length > 1 then
      ⟨none, .coTriggerPriceConflict, .shadowOnly, []⟩
    else
      ⟨minBy (·.candidate.candidateId) earliest, .coTriggerSameEvent, .paperEligible,
        sortBy (·.name) models⟩
  else
    let reason : SelectionReasonV3 :=
      if first.candidate.model = .dirClose ∧ hasBlockedAggressive candidatesById eligible then
        .fallbackToConfirmedClose
      else if candidatesById.length = 1 then .onlyExactTrigger
      else .earliestExactTrigger
    ⟨earliest.head?, reason, .paperEligible, []⟩

def choose (candidatesById : List EntryCandidateV3) (eligible : List EligiblePair)
    (setupInvalidated : Bool) : Choice :=
  if setupInvalidated then ⟨none, .setupInvalidated, .none, []⟩
  else if candidatesById = [] then ⟨none, .noCandidate, .none, []⟩
  else
    match eligible with
    | [] => ⟨none, .noExactCandidate, .shadowOnly, []⟩
    | first :: _ => chooseEarliest candidatesById first eligible

/-- The identity fields of the selection that a choice leads to. -/
def selectionIdentity (request : EntryArbitrationRequestV3) (candidateIdsConsidered : List String)
    (choice : Choice) : SelectionIdentityV3 where
  setupId := request.setupId
  policyVersion := request.policyVersion
  revision := request.revision
  candidateIdsConsidered := candidateIdsConsidered
  canonicalCandidateId := choice.canonical.map (·.candidate.candidateId)
  canonicalEvidenceId := choice.canonical.map (·.evidence.evidenceId)
  reason := choice.reason
  fidelity := choice.canonical.map (·.evidence.fidelity)
  action := choice.action
  coTriggeredModels := choice.coTriggeredModels

/-- `_selection`: both constructors check what they are given. -/
def selection (sha256 : Json → String) (request : EntryArbitrationRequestV3)
    (candidateIdsConsidered : List String) (choice : Choice) : Except String EntrySelectionV3 := do
  let identity := selectionIdentity request candidateIdsConsidered choice
  validateSelectionFields identity
  let selectionId ← canonicalSha256 sha256 identity.toJson
  let result : EntrySelectionV3 :=
    { toSelectionIdentityV3 := identity
      selectionId := selectionId
      canonicalModel := choice.canonical.map (·.candidate.model)
      evaluatedAtEpoch := request.evaluatedAtEpoch }
  selectionPostInit sha256 result
  pure result

def arbitrateEntryCandidatesV3 (sha256 : Json → String) (request : EntryArbitrationRequestV3) :
    Except String EntrySelectionV3 := do
  requestPostInit request
  match request.openedSelection with
  | some opened => pure opened
  | none =>
    let (candidatesById, eligible) ← collectPairs request
    selection sha256 request (sortBy id (candidatesById.map (·.candidateId)))
      (choose candidatesById eligible request.setupInvalidated)

end TradeOps.Entry.Py
