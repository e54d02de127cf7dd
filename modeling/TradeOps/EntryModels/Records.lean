import TradeOps.EntryModels.Domain

/-!
# Candidates, evidence and selections

Embeds the records of `rd-entry-domain.ts` and `rd_entry_models.py` between which an arbitration
decides, and the JSON values of which their identifiers are digests. The two languages have the
same fields, so the types are shared. A text is a JavaScript string; Python has its code points,
among them what the string has of unpaired surrogates.
-/

namespace TradeOps.EntryModels

open JsString (js)
open scoped JsString

inductive EntryModelV2 where
  | dirClose | htfFlip | legacyBreakCandle | legacyRejectionRespect
  deriving DecidableEq, Repr

inductive CandidateState where
  | matched | blocked | rejected | normalized
  deriving DecidableEq, Repr

inductive SelectionAction where
  | observe | paperEligible | shadowOnly | none
  deriving DecidableEq, Repr

inductive SelectionReason where
  | onlyExactTrigger | earliestExactTrigger | fallbackToConfirmedClose | noExactCandidate
  | unresolvedSourcePriority | setupInvalidated | noCandidate
  deriving DecidableEq, Repr

def EntryDirection.name : EntryDirection → String
  | .long => "LONG"
  | .short => "SHORT"

def EntryModelV2.name : EntryModelV2 → String
  | .dirClose => "DIR_CLOSE"
  | .htfFlip => "HTF_FLIP"
  | .legacyBreakCandle => "LEGACY_BREAK_CANDLE"
  | .legacyRejectionRespect => "LEGACY_REJECTION_RESPECT"

def CandidateFidelity.name : CandidateFidelity → String
  | .exact => "EXACT"
  | .calibrated => "CALIBRATED"
  | .discretionary => "DISCRETIONARY"
  | .unresolved => "UNRESOLVED"

def ProofPlane.name : ProofPlane → String
  | .confirmed5m => "CONFIRMED_5M"
  | .lowerTimeframeReplay => "LOWER_TIMEFRAME_REPLAY"
  | .realtimeTick => "REALTIME_TICK"
  | .externalArchivedTick => "EXTERNAL_ARCHIVED_TICK"

def AmbiguityCode.name : AmbiguityCode → String
  | .sameChildBarOrder => "SHADOW_SAME_CHILD_BAR_ORDER"
  | .missingIntrabarCoverage => "SHADOW_MISSING_INTRABAR_COVERAGE"
  | .realtimeOnlyNotReplayable => "SHADOW_REALTIME_ONLY_NOT_REPLAYABLE"

def SelectionAction.name : SelectionAction → String
  | .observe => "OBSERVE"
  | .paperEligible => "PAPER_ELIGIBLE"
  | .shadowOnly => "SHADOW_ONLY"
  | .none => "NONE"

def SelectionReason.name : SelectionReason → String
  | .onlyExactTrigger => "ONLY_EXACT_TRIGGER"
  | .earliestExactTrigger => "EARLIEST_EXACT_TRIGGER"
  | .fallbackToConfirmedClose => "FALLBACK_TO_CONFIRMED_CLOSE"
  | .noExactCandidate => "NO_EXACT_CANDIDATE"
  | .unresolvedSourcePriority => "UNRESOLVED_SOURCE_PRIORITY"
  | .setupInvalidated => "SETUP_INVALIDATED"
  | .noCandidate => "NO_CANDIDATE"

/-- `ENTRY_POLICY_VERSION`. -/
def entryPolicyVersion : String := "rd-entry-arbitration-v2"

/-! ## Records -/

structure EntryCandidateIdentity where
  setupId : JsString
  model : EntryModelV2
  direction : EntryDirection
  eventAnchorEpoch : Int
  triggerOrdinal : Int
  deriving DecidableEq, Repr

structure EntryCandidate extends EntryCandidateIdentity where
  candidateId : String
  state : CandidateState
  sourceClaimIds : List JsString
  normalizedFrom : Option EntryModelV2
  observedAtEpoch : Int
  deriving DecidableEq, Repr

/-- The fields of evidence that its payload digest covers. -/
structure EvidencePayload where
  candidateId : String
  observedTriggerEpoch : Option Int
  observedTriggerTicks : Option Int
  htfContextMinutes : List Int
  fidelity : CandidateFidelity
  proofPlane : ProofPlane
  proofResolutionSeconds : Int
  coverageStartEpoch : Int
  coverageEndEpoch : Int
  ambiguityCodes : List AmbiguityCode
  passedRuleIds : List JsString
  failedRuleIds : List JsString
  sourceClaimIds : List JsString
  deriving DecidableEq, Repr

structure EntryCandidateEvidence extends EvidencePayload where
  evidenceId : String
  payloadSha256 : String
  observedAtEpoch : Int
  deriving DecidableEq, Repr

structure EntrySelectionIdentity where
  setupId : JsString
  policyVersion : String
  revision : Int
  candidateIdsConsidered : List String
  canonicalCandidateId : Option String
  canonicalEvidenceId : Option String
  reason : SelectionReason
  fidelity : Option CandidateFidelity
  action : SelectionAction
  deriving DecidableEq, Repr

structure EntrySelection extends EntrySelectionIdentity where
  selectionId : String
  canonicalModel : Option EntryModelV2
  evaluatedAtEpoch : Int
  deriving DecidableEq, Repr

/-- `EntryArbitrationRequest`; the policy version of the Python request is a constant. -/
structure EntryArbitrationRequest where
  setupId : JsString
  setupInvalidated : Bool
  revision : Int
  candidates : List EntryCandidate
  evidence : List EntryCandidateEvidence
  evaluatedAtEpoch : Int
  deriving DecidableEq, Repr

/-! ## Content digests -/

/-- What a candidate id is the digest of. -/
def EntryCandidateIdentity.toJson (identity : EntryCandidateIdentity) : Json :=
  .obj [
    ("direction", .str identity.direction.name),
    ("event_anchor_epoch", .num identity.eventAnchorEpoch),
    ("model", .str identity.model.name),
    ("setup_id", .str identity.setupId),
    ("trigger_ordinal", .num identity.triggerOrdinal)]

/-- What a payload digest is the digest of. -/
def EvidencePayload.toJson (payload : EvidencePayload) : Json :=
  .obj [
    ("ambiguity_codes", .strs (payload.ambiguityCodes.map (·.name))),
    ("candidate_id", .str payload.candidateId),
    ("coverage_end_epoch", .num payload.coverageEndEpoch),
    ("coverage_start_epoch", .num payload.coverageStartEpoch),
    ("failed_rule_ids", .strs payload.failedRuleIds),
    ("fidelity", .str payload.fidelity.name),
    ("htf_context_minutes", .nums payload.htfContextMinutes),
    ("observed_trigger_epoch", .ofOption .num payload.observedTriggerEpoch),
    ("observed_trigger_ticks", .ofOption .num payload.observedTriggerTicks),
    ("passed_rule_ids", .strs payload.passedRuleIds),
    ("proof_plane", .str payload.proofPlane.name),
    ("proof_resolution_seconds", .num payload.proofResolutionSeconds),
    ("source_claim_ids", .strs payload.sourceClaimIds)]

/-- What an evidence id is the digest of. -/
def EvidencePayload.identityJson (payload : EvidencePayload) (payloadSha256 : String) : Json :=
  .obj [
    ("candidate_id", .str payload.candidateId),
    ("coverage_end_epoch", .num payload.coverageEndEpoch),
    ("coverage_start_epoch", .num payload.coverageStartEpoch),
    ("observed_trigger_epoch", .ofOption .num payload.observedTriggerEpoch),
    ("payload_sha256", .str payloadSha256),
    ("proof_plane", .str payload.proofPlane.name),
    ("proof_resolution_seconds", .num payload.proofResolutionSeconds)]

/-- What a selection id is the digest of. -/
def EntrySelectionIdentity.toJson (identity : EntrySelectionIdentity) : Json :=
  .obj [
    ("action", .str identity.action.name),
    ("candidate_ids_considered", .strs (identity.candidateIdsConsidered.map js)),
    ("canonical_candidate_id", .ofOption (fun id => .str (js id)) identity.canonicalCandidateId),
    ("canonical_evidence_id", .ofOption (fun id => .str (js id)) identity.canonicalEvidenceId),
    ("fidelity", .ofOption (.str ·.name) identity.fidelity),
    ("policy_version", .str identity.policyVersion),
    ("reason", .str identity.reason.name),
    ("revision", .num identity.revision),
    ("setup_id", .str identity.setupId)]

/-! ## Ranks -/

/-- The order of the exact evidence of one candidate: by trigger, resolution, more contexts, end of
coverage and identifier. Exact evidence always has a trigger (`trigger_of_isExactEligible`). -/
def exactEvidenceRank (evidence : EntryCandidateEvidence) : Int ×ₗ Int ×ₗ Int ×ₗ Int ×ₗ String :=
  toLex (evidence.observedTriggerEpoch.getD 0, toLex (evidence.proofResolutionSeconds,
    toLex (-(evidence.htfContextMinutes.length : Int),
      toLex (evidence.coverageEndEpoch, evidence.evidenceId))))

/-- The planes on which a trigger counts as exact: `EXACT_PROOF_PLANES`. -/
def exactProofPlanes : List ProofPlane :=
  [.confirmed5m, .lowerTimeframeReplay, .externalArchivedTick]

def isExactEligible (evidence : EntryCandidateEvidence) : Bool :=
  evidence.fidelity = .exact ∧ evidence.proofPlane ∈ exactProofPlanes ∧
    evidence.observedTriggerEpoch ≠ none ∧ evidence.ambiguityCodes = []

/-- A candidate of an active model that is not rejected. -/
def EntryCandidate.isActive (candidate : EntryCandidate) : Bool :=
  (candidate.model = .dirClose ∨ candidate.model = .htfFlip) ∧ candidate.state ≠ .rejected

theorem trigger_of_isExactEligible {evidence : EntryCandidateEvidence}
    (h : isExactEligible evidence = true) :
    ∃ trigger, evidence.observedTriggerEpoch = some trigger := by
  have hfacts := of_decide_eq_true h
  exact Option.ne_none_iff_exists'.mp hfacts.2.2.1

end TradeOps.EntryModels
