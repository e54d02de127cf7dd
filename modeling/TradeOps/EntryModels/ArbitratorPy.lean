import TradeOps.EntryModels.Arbitrator

/-!
# The Python arbitrator

Embeds `rd_entry_arbitrator.py` and the checks that the records of `rd_entry_models.py` make when
they are constructed. `arbitrate_entry_candidates` decides between the same cases as the TypeScript
code in the same order, so `selectCanonicalDecision` is shared; how the triggers are collected is
not.
-/

namespace TradeOps.EntryModels.Py

open Checks Keyed SortBy
open Entry.Py (requireNonNegative requirePositive requireSha256
  requireSortedUniqueContexts requireText requireUniqueTexts)

/-! ## Constructors -/

def candidatePostInit (candidate : EntryCandidate) : Except String Unit := do
  requireSha256 candidate.candidateId "candidate_id"
  requireText candidate.setupId "setup_id"
  requireNonNegative candidate.eventAnchorEpoch "event_anchor_epoch"
  requirePositive candidate.triggerOrdinal "trigger_ordinal"
  requireUniqueTexts candidate.sourceClaimIds "source_claim_ids"
  requireNonNegative candidate.observedAtEpoch "observed_at_epoch"

def evidencePostInit (evidence : EntryCandidateEvidence) : Except String Unit := do
  requireSha256 evidence.evidenceId "evidence_id"
  requireSha256 evidence.candidateId "candidate_id"
  failIf (evidence.observedTriggerEpoch.isNone ≠ evidence.observedTriggerTicks.isNone)
    "observed_trigger epoch and ticks must both be present or absent"
  whenSome evidence.observedTriggerEpoch (requireNonNegative · "observed_trigger_epoch")
  requireSortedUniqueContexts evidence.htfContextMinutes
  requirePositive evidence.proofResolutionSeconds "proof_resolution_seconds"
  requireNonNegative evidence.coverageStartEpoch "coverage_start_epoch"
  requireNonNegative evidence.coverageEndEpoch "coverage_end_epoch"
  failIf (evidence.coverageEndEpoch ≤ evidence.coverageStartEpoch) "coverage epochs must increase"
  failIf (¬ evidence.ambiguityCodes.Nodup) "ambiguity_codes must not contain duplicates"
  requireUniqueTexts evidence.passedRuleIds "passed_rule_ids"
  requireUniqueTexts evidence.failedRuleIds "failed_rule_ids"
  requireUniqueTexts evidence.sourceClaimIds "source_claim_ids"
  requireSha256 evidence.payloadSha256 "payload_sha256"
  requireNonNegative evidence.observedAtEpoch "observed_at_epoch"

def requestPostInit (request : EntryArbitrationRequest) : Except String Unit := do
  failIf (Entry.Py.strip request.setupId = []) "setup_id must be a non-empty string"
  requireNonNegative request.revision "revision"
  requireNonNegative request.evaluatedAtEpoch "evaluated_at_epoch"

def validateSelectionFields (identity : EntrySelectionIdentity) : Except String Unit := do
  requireText identity.setupId "setup_id"
  failIf (identity.policyVersion ≠ entryPolicyVersion)
    ("policy_version must be " ++ entryPolicyVersion)
  requireNonNegative identity.revision "revision"
  forAll (requireSha256 · "candidate_ids_considered") identity.candidateIdsConsidered
  failIf (sortBy id identity.candidateIdsConsidered ≠ identity.candidateIdsConsidered)
    "candidate_ids_considered must be sorted"
  failIf (¬ identity.candidateIdsConsidered.Nodup)
    "candidate_ids_considered must not contain duplicates"
  failIf (identity.canonicalCandidateId.isNone ≠ identity.canonicalEvidenceId.isNone)
    "canonical candidate and evidence IDs must both be present or absent"
  whenSome identity.canonicalCandidateId (requireSha256 · "canonical_candidate_id")
  whenSome identity.canonicalEvidenceId (requireSha256 · "canonical_evidence_id")

def selectionPostInit (selection : EntrySelection) : Except String Unit := do
  requireSha256 selection.selectionId "selection_id"
  validateSelectionFields selection.toEntrySelectionIdentity
  requireNonNegative selection.evaluatedAtEpoch "evaluated_at_epoch"

/-! ## Arbitration -/

def uniqueCandidates (request : EntryArbitrationRequest) : Except String (List EntryCandidate) :=
  index (·.candidateId)
    (fun candidate => failIf (candidate.setupId ≠ request.setupId)
      "candidate setup_id must match arbitration setup_id")
    (fun candidate => "candidate identity conflict: " ++ candidate.candidateId) request.candidates

def uniqueEvidence (evidence : List EntryCandidateEvidence) :
    Except String (List EntryCandidateEvidence) :=
  index (·.evidenceId) (fun _ => .ok ())
    (fun item => "evidence identity conflict: " ++ item.evidenceId)
    evidence

def validateEvidenceOwnership (candidates : List EntryCandidate)
    (evidence : List EntryCandidateEvidence) : Except String Unit :=
  forAll
    (fun item => failIf (∀ candidate ∈ candidates, candidate.candidateId ≠ item.candidateId)
      ("evidence references unknown candidate: " ++ item.candidateId))
    evidence

/-- The least exact evidence of every active candidate, from the groups of its candidates. -/
def canonicalExactEvidence (active : List EntryCandidate) (evidence : List EntryCandidateEvidence)
    (candidateId : String) : Option EntryCandidateEvidence :=
  let grouped := groupBy (·.candidateId) (evidence.filter fun item =>
    item.candidateId ∈ active.map (·.candidateId) ∧ isExactEligible item)
  (lookup Prod.fst grouped candidateId).bind fun group => minBy exactEvidenceRank group.2

/-- One round of the loop of `_earliest_nonexact_trigger`. -/
def collectNonexactTrigger (earliest : String → Option Int) (item : EntryCandidateEvidence) :
    String → Option Int :=
  match item.observedTriggerEpoch with
  | none => earliest
  | some trigger =>
    if item.proofPlane = .realtimeTick ∨ isExactEligible item = true then earliest
    else keepLeast id earliest item.candidateId trigger

def earliestNonexactTrigger (evidence : List EntryCandidateEvidence) : String → Option Int :=
  evidence.foldl collectNonexactTrigger fun _ => none

def triggersOf (active : List EntryCandidate) (evidence : List EntryCandidateEvidence) : Triggers :=
  ⟨canonicalExactEvidence active evidence, earliestNonexactTrigger evidence⟩

def arbitrateEntryCandidates (sha256 : Json → String) (request : EntryArbitrationRequest) :
    Except String EntrySelection := do
  let candidates ← uniqueCandidates request
  let evidence ← uniqueEvidence request.evidence
  validateEvidenceOwnership candidates evidence
  let active := candidates.filter (·.isActive)
  let triggers := triggersOf active evidence
  let decision := selectCanonicalDecision request.setupInvalidated active
    (exactCandidates active triggers) triggers
  let identity := selectionIdentity request active decision
  validateSelectionFields identity
  let selectionId ← Entry.Py.canonicalSha256 sha256 identity.toJson
  let result : EntrySelection :=
    { toEntrySelectionIdentity := identity
      selectionId := selectionId
      canonicalModel := decision.candidate.map (·.model)
      evaluatedAtEpoch := request.evaluatedAtEpoch }
  selectionPostInit result
  pure result

end TradeOps.EntryModels.Py
