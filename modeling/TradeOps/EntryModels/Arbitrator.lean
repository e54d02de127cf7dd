import TradeOps.EntryModels.Records

/-!
# Arbitration over exact triggers

Embeds `arbitrateEntryCandidates` of `rd-entry-arbitrator.ts` with the checks it makes of its
records. Identifiers and model names are compared by code point, and two records have the same JSON
text when they are equal. Checks that run concurrently are made in rounds: what is checked before
the first digest is awaited comes before what is compared with a digest.

The maps from candidate ids are only asked for single keys, so they are functions here.
-/

namespace TradeOps.EntryModels

open Checks Keyed SortBy
open Entry (isSafeInteger trim digest)

/-! ## Checks of the records -/

def requireNonNegativeInteger (value : Int) (name : String) : Except String Unit :=
  failIf (¬ isSafeInteger value ∨ value < 0) (name ++ " must be a non-negative safe integer")

def requireClosedText (value : JsString) (name : String) : Except String Unit :=
  failIf (value = [] ∨ trim value ≠ value) (name ++ " must be a non-empty closed string")

def requireUniqueTexts (values : List JsString) (name : String) : Except String Unit :=
  failIf ((∃ value ∈ values, value = [] ∨ trim value ≠ value) ∨ ¬ values.Nodup)
    (name ++ " must contain unique non-empty closed strings")

def validateCandidateDomain (candidate : EntryCandidate) : Except String Unit := do
  digest candidate.candidateId "candidate_id"
  requireClosedText candidate.setupId "candidate.setup_id"
  requireNonNegativeInteger candidate.eventAnchorEpoch "candidate.event_anchor_epoch"
  requireNonNegativeInteger candidate.triggerOrdinal "candidate.trigger_ordinal"
  failIf (candidate.triggerOrdinal = 0) "candidate.trigger_ordinal must be positive"
  requireUniqueTexts candidate.sourceClaimIds "candidate.source_claim_ids"
  requireNonNegativeInteger candidate.observedAtEpoch "candidate.observed_at_epoch"

def validateEvidenceDomain (evidence : EntryCandidateEvidence) : Except String Unit := do
  digest evidence.evidenceId "evidence_id"
  digest evidence.candidateId "evidence.candidate_id"
  digest evidence.payloadSha256 "evidence.payload_sha256"
  failIf
    ((∃ value ∈ evidence.htfContextMinutes, ¬ isSafeInteger value ∨ value ≤ 0) ∨
      ¬ evidence.htfContextMinutes.IsChain (· < ·))
    "evidence HTF contexts must be sorted unique positive integers"
  failIf (¬ evidence.ambiguityCodes.Nodup)
    "evidence ambiguity codes are outside the closed evidence domain"
  requireUniqueTexts evidence.passedRuleIds "evidence.passed_rule_ids"
  requireUniqueTexts evidence.failedRuleIds "evidence.failed_rule_ids"
  requireUniqueTexts evidence.sourceClaimIds "evidence.source_claim_ids"
  requireNonNegativeInteger evidence.observedAtEpoch "evidence.observed_at_epoch"
  whenSome evidence.observedTriggerEpoch fun trigger => do
    requireNonNegativeInteger trigger "evidence.observed_trigger_epoch"
    failIf (∀ ticks, evidence.observedTriggerTicks = some ticks → ¬ isSafeInteger ticks)
      "evidence.observed_trigger_ticks must be an integer"

def validateCandidateOwner (setupId : JsString) (candidate : EntryCandidate) :
    Except String Unit := do
  validateCandidateDomain candidate
  failIf (candidate.setupId ≠ setupId) "candidate setup_id must match arbitration setup_id"

/-- The checks of evidence before its digests. -/
def validateEvidenceCoverage (evidence : EntryCandidateEvidence) : Except String Unit := do
  validateEvidenceDomain evidence
  failIf (evidence.observedTriggerEpoch.isNone ≠ evidence.observedTriggerTicks.isNone)
    "evidence trigger epoch and ticks must both be present or absent"
  requireNonNegativeInteger evidence.proofResolutionSeconds "proof_resolution_seconds"
  failIf (evidence.proofResolutionSeconds = 0) "proof_resolution_seconds must be positive"
  requireNonNegativeInteger evidence.coverageStartEpoch "coverage_start_epoch"
  requireNonNegativeInteger evidence.coverageEndEpoch "coverage_end_epoch"
  failIf (evidence.coverageEndEpoch ≤ evidence.coverageStartEpoch)
    "evidence coverage must increase"
  whenSome evidence.observedTriggerEpoch fun trigger =>
    failIf (trigger < evidence.coverageStartEpoch ∨ trigger > evidence.coverageEndEpoch)
      "evidence trigger lies outside coverage"

section Digests

variable (sha256 : Json → String)

def validateCandidateDigest (candidate : EntryCandidate) : Except String Unit :=
  failIf (candidate.candidateId ≠ sha256 candidate.toEntryCandidateIdentity.toJson)
    "candidate identity conflicts with its canonical fields"

def validateEvidencePayload (evidence : EntryCandidateEvidence) : Except String Unit :=
  failIf (evidence.payloadSha256 ≠ sha256 evidence.toEvidencePayload.toJson)
    "evidence payload identity conflicts with its canonical fields"

def validateEvidenceDigest (evidence : EntryCandidateEvidence) : Except String Unit :=
  failIf
    (evidence.evidenceId ≠ sha256 (evidence.toEvidencePayload.identityJson
      (sha256 evidence.toEvidencePayload.toJson)))
    "evidence identity conflicts with its canonical fields"

end Digests

/-! ## The triggers of the candidates -/

/-- `exactEvidenceByCandidate` and `nonExactTriggerByCandidate`. -/
structure Triggers where
  exactEvidence : String → Option EntryCandidateEvidence
  nonExactTrigger : String → Option Int

/-- One round of the loop over the evidence. -/
def collectTriggers (active : List EntryCandidate) (triggers : Triggers)
    (item : EntryCandidateEvidence) : Triggers :=
  if ∀ candidate ∈ active, candidate.candidateId ≠ item.candidateId then triggers
  else if isExactEligible item then
    { triggers with
      exactEvidence := keepLeast exactEvidenceRank triggers.exactEvidence item.candidateId item }
  else if item.proofPlane = .realtimeTick then triggers
  else
    match item.observedTriggerEpoch with
    | none => triggers
    | some trigger =>
      { triggers with
        nonExactTrigger := keepLeast id triggers.nonExactTrigger item.candidateId trigger }

def triggersOf (active : List EntryCandidate) (evidence : List EntryCandidateEvidence) : Triggers :=
  evidence.foldl (collectTriggers active) ⟨fun _ => none, fun _ => none⟩

/-- The trigger of the exact evidence of a candidate that has some. -/
def exactTrigger (exactEvidence : String → Option EntryCandidateEvidence)
    (candidate : EntryCandidate) : Int :=
  ((exactEvidence candidate.candidateId).bind (·.observedTriggerEpoch)).getD 0

/-- The order of the exact candidates: by trigger, model and identifier. -/
def exactCandidateRank (exactEvidence : String → Option EntryCandidateEvidence)
    (candidate : EntryCandidate) : Int ×ₗ String ×ₗ String :=
  toLex (exactTrigger exactEvidence candidate, toLex (candidate.model.name, candidate.candidateId))

/-! ## The decision -/

structure Decision where
  candidate : Option EntryCandidate
  evidence : Option EntryCandidateEvidence
  action : SelectionAction
  reason : SelectionReason
  deriving DecidableEq

def hasEarlierNonExactFlip (active : List EntryCandidate) (triggers : Triggers)
    (exactClose : EntryCandidate) : Bool :=
  active.any fun item =>
    item.model = .htfFlip ∧ triggers.exactEvidence item.candidateId = none ∧
      ∃ trigger ∈ triggers.nonExactTrigger item.candidateId,
        trigger < exactTrigger triggers.exactEvidence exactClose

/-- The models of the exact candidates at the trigger of the first. -/
def earliestModels (triggers : Triggers) (first : EntryCandidate) (exact : List EntryCandidate) :
    List EntryModelV2 :=
  ((exact.filter fun candidate => exactTrigger triggers.exactEvidence candidate =
    exactTrigger triggers.exactEvidence first).map (·.model)).dedup

def selectCanonicalDecision (invalidated : Bool) (active exact : List EntryCandidate)
    (triggers : Triggers) : Decision :=
  let canonical (candidate : EntryCandidate) (reason : SelectionReason) : Decision :=
    ⟨some candidate, triggers.exactEvidence candidate.candidateId, .paperEligible, reason⟩
  if invalidated then ⟨none, none, .none, .setupInvalidated⟩
  else if active = [] then ⟨none, none, .none, .noCandidate⟩
  else
    match exact with
    | [] => ⟨none, none, .shadowOnly, .noExactCandidate⟩
    | first :: rest =>
      let exactClose := exact.find? (·.model = .dirClose)
      match exactClose.filter (hasEarlierNonExactFlip active triggers) with
      | some exactClose => canonical exactClose .fallbackToConfirmedClose
      | none =>
        if rest = [] then canonical first .onlyExactTrigger
        else if (earliestModels triggers first exact).length > 1 then
          ⟨none, none, .shadowOnly, .unresolvedSourcePriority⟩
        else canonical first .earliestExactTrigger

/-- The active candidates that have exact evidence, in the order of their triggers. -/
def exactCandidates (active : List EntryCandidate) (triggers : Triggers) : List EntryCandidate :=
  sortBy (exactCandidateRank triggers.exactEvidence)
    (active.filter fun item => (triggers.exactEvidence item.candidateId).isSome)

def selectionIdentity (request : EntryArbitrationRequest) (active : List EntryCandidate)
    (decision : Decision) : EntrySelectionIdentity where
  setupId := request.setupId
  policyVersion := entryPolicyVersion
  revision := request.revision
  candidateIdsConsidered := sortBy id (active.map (·.candidateId))
  canonicalCandidateId := decision.candidate.map (·.candidateId)
  canonicalEvidenceId := decision.evidence.map (·.evidenceId)
  reason := decision.reason
  fidelity := decision.evidence.map (·.fidelity)
  action := decision.action

def selection (sha256 : Json → String) (request : EntryArbitrationRequest)
    (active : List EntryCandidate) (decision : Decision) : EntrySelection where
  toEntrySelectionIdentity := selectionIdentity request active decision
  selectionId := sha256 (selectionIdentity request active decision).toJson
  canonicalModel := decision.candidate.map (·.model)
  evaluatedAtEpoch := request.evaluatedAtEpoch

/-- The records of the request, indexed and checked. -/
def indexRecords (sha256 : Json → String) (request : EntryArbitrationRequest) :
    Except String (List EntryCandidate × List EntryCandidateEvidence) := do
  let candidates ← index (·.candidateId) (fun _ => .ok ())
    (fun candidate => "candidate identity conflict: " ++ candidate.candidateId) request.candidates
  forAll (validateCandidateOwner request.setupId) candidates
  forAll (validateCandidateDigest sha256) candidates
  forAll
    (fun candidate => failIf (candidate.observedAtEpoch > request.evaluatedAtEpoch)
      "candidate observed_at_epoch follows the evaluation epoch")
    candidates
  let evidence ← index (·.evidenceId) (fun _ => .ok ())
    (fun item => "evidence identity conflict: " ++ item.evidenceId) request.evidence
  forAll validateEvidenceCoverage evidence
  forAll (validateEvidencePayload sha256) evidence
  forAll (validateEvidenceDigest sha256) evidence
  forAll
    (fun item => do
      failIf (item.coverageEndEpoch > item.observedAtEpoch)
        "evidence coverage ends after evidence was observed"
      failIf (item.observedAtEpoch > request.evaluatedAtEpoch)
        "evidence observed_at_epoch follows the evaluation epoch"
      failIf (∀ candidate ∈ candidates, candidate.candidateId ≠ item.candidateId)
        ("evidence references unknown candidate: " ++ item.candidateId))
    evidence
  pure (candidates, evidence)

def arbitrateEntryCandidates (sha256 : Json → String) (request : EntryArbitrationRequest) :
    Except String EntrySelection := do
  requireClosedText request.setupId "setup_id"
  requireNonNegativeInteger request.revision "revision"
  requireNonNegativeInteger request.evaluatedAtEpoch "evaluated_at_epoch"
  let (candidates, evidence) ← indexRecords sha256 request
  let active := candidates.filter (·.isActive)
  let triggers := triggersOf active evidence
  pure (selection sha256 request active
    (selectCanonicalDecision request.setupInvalidated active (exactCandidates active triggers)
      triggers))

end TradeOps.EntryModels
