import TradeOps.Lib.Checks
import TradeOps.Lib.Json
import TradeOps.Lib.SortBy
import Mathlib.Data.String.Basic

/-!
# The v3 entry records

Embeds `rd-entry-domain-v3.ts`: the candidate, evidence and selection records of the three entry
models, the raw proofs they are matched from, the content digests that identify them and the
validators that guard them.

Numbers of the source are integers here, with `isSafeInteger` where the source asks for it. The
checks of runtime types and of an object's exact keys have no counterpart: a record of these types
cannot fail them. `canonicalSha256` stands for the SHA-256 of the canonical JSON text; nothing is
assumed about it.
-/

namespace TradeOps.Entry

open Checks SortBy
open JsString (js)
open scoped JsString

/-! ## Vocabulary -/

inductive EntryModelV3 where
  | boc | dirClose | htfFlip
  deriving DecidableEq, Repr

inductive BocTier where
  | htfTimed | discretionary5m
  deriving DecidableEq, Repr

inductive EvidenceReplayability where
  | replayable | liveExactNonReplayable
  deriving DecidableEq, Repr

inductive EntryDirectionV3 where
  | long | short
  deriving DecidableEq, Repr

inductive CandidateStateV3 where
  | matched | blocked | rejected
  deriving DecidableEq, Repr

inductive CandidateFidelityV3 where
  | exact | calibrated | discretionary | unresolved
  deriving DecidableEq, Repr

inductive LiquidityCohortV3 where
  | oneCandle | twoPlusCandles
  deriving DecidableEq, Repr

inductive ProofPlaneV3 where
  | confirmed5m | lowerTimeframeReplay | realtimeTick | externalArchivedTick
  deriving DecidableEq, Repr

inductive AmbiguityCodeV3 where
  | shadowSameChildBarOrder | shadowMissingIntrabarCoverage | shadowRealtimeOnlyNotReplayable
  deriving DecidableEq, Repr

inductive SelectionActionV3 where
  | observe | paperEligible | shadowOnly | none
  deriving DecidableEq, Repr

inductive SelectionReasonV3 where
  | onlyExactTrigger | earliestExactTrigger | fallbackToConfirmedClose | coTriggerSameEvent
  | coTriggerPriceConflict | noExactCandidate | setupInvalidated | noCandidate
  deriving DecidableEq, Repr

def EntryModelV3.name : EntryModelV3 → String
  | .boc => "BOC"
  | .dirClose => "DIR_CLOSE"
  | .htfFlip => "HTF_FLIP"

def BocTier.name : BocTier → String
  | .htfTimed => "HTF_TIMED"
  | .discretionary5m => "DISCRETIONARY_5M"

def EvidenceReplayability.name : EvidenceReplayability → String
  | .replayable => "REPLAYABLE"
  | .liveExactNonReplayable => "LIVE_EXACT_NON_REPLAYABLE"

def EntryDirectionV3.name : EntryDirectionV3 → String
  | .long => "LONG"
  | .short => "SHORT"

def CandidateFidelityV3.name : CandidateFidelityV3 → String
  | .exact => "EXACT"
  | .calibrated => "CALIBRATED"
  | .discretionary => "DISCRETIONARY"
  | .unresolved => "UNRESOLVED"

def ProofPlaneV3.name : ProofPlaneV3 → String
  | .confirmed5m => "CONFIRMED_5M"
  | .lowerTimeframeReplay => "LOWER_TIMEFRAME_REPLAY"
  | .realtimeTick => "REALTIME_TICK"
  | .externalArchivedTick => "EXTERNAL_ARCHIVED_TICK"

def AmbiguityCodeV3.name : AmbiguityCodeV3 → String
  | .shadowSameChildBarOrder => "SHADOW_SAME_CHILD_BAR_ORDER"
  | .shadowMissingIntrabarCoverage => "SHADOW_MISSING_INTRABAR_COVERAGE"
  | .shadowRealtimeOnlyNotReplayable => "SHADOW_REALTIME_ONLY_NOT_REPLAYABLE"

def SelectionActionV3.name : SelectionActionV3 → String
  | .observe => "OBSERVE"
  | .paperEligible => "PAPER_ELIGIBLE"
  | .shadowOnly => "SHADOW_ONLY"
  | .none => "NONE"

def SelectionReasonV3.name : SelectionReasonV3 → String
  | .onlyExactTrigger => "ONLY_EXACT_TRIGGER"
  | .earliestExactTrigger => "EARLIEST_EXACT_TRIGGER"
  | .fallbackToConfirmedClose => "FALLBACK_TO_CONFIRMED_CLOSE"
  | .coTriggerSameEvent => "CO_TRIGGER_SAME_EVENT"
  | .coTriggerPriceConflict => "CO_TRIGGER_PRICE_CONFLICT"
  | .noExactCandidate => "NO_EXACT_CANDIDATE"
  | .setupInvalidated => "SETUP_INVALIDATED"
  | .noCandidate => "NO_CANDIDATE"

def policyVersionV3 : String := "rd-entry-arbitration-v3"

/-- The rule that exact evidence of a model must have passed. -/
def expectedRules : EntryModelV3 → JsString
  | .boc => "ENTRY_BOC_HTF_TIMED"
  | .dirClose => "ENTRY_DIR_CLOSE"
  | .htfFlip => "ENTRY_HTF_FLIP"

/-! ## Records -/

structure OrderedCandleV3 where
  openEpoch : Int
  closeEpoch : Int
  openTicks : Int
  highTicks : Int
  lowTicks : Int
  closeTicks : Int
  deriving DecidableEq, Repr

structure BocProofV3 where
  referenceCandle : OrderedCandleV3
  triggerCandleOpenEpoch : Int
  triggerEpoch : Int
  triggerSequence : Int
  triggerTicks : Int
  htfBoundaryEpoch : Option Int
  htfContextMinutes : List Int
  proofPlane : ProofPlaneV3
  replayability : EvidenceReplayability
  fidelity : CandidateFidelityV3
  coverageStartEpoch : Int
  coverageEndEpoch : Int
  isRealtime : Bool
  deriving DecidableEq, Repr

structure EntryTriggerProofV3 where
  eventAnchorEpoch : Int
  triggerEpoch : Int
  triggerSequence : Int
  triggerTicks : Int
  htfOpenTicks : Int
  htfContextMinutes : List Int
  proofPlane : ProofPlaneV3
  replayability : EvidenceReplayability
  fidelity : CandidateFidelityV3
  coverageStartEpoch : Int
  coverageEndEpoch : Int
  isRealtime : Bool
  contactCandle : Option OrderedCandleV3
  recrossCandle : Option OrderedCandleV3
  coverageGapDetected : Bool
  fullLifecycleOrdered : Bool
  destinationSeenBeforeContact : Bool
  ambiguityCodes : List AmbiguityCodeV3
  deriving DecidableEq, Repr

structure SetupEntryFactsV3 where
  setupId : JsString
  direction : EntryDirectionV3
  zoneTopTicks : Int
  zoneBottomTicks : Int
  zoneEngagedEpoch : Option Int
  invalidatedBeforeEntry : Bool
  commonFidelity : CandidateFidelityV3
  liquidityCohort : LiquidityCohortV3
  oneCandleEnabled : Bool
  deriving DecidableEq, Repr

structure EntryMatchRequestV3 where
  setup : SetupEntryFactsV3
  bocProof : Option BocProofV3
  directionalClose : Bool
  confirmedBar : Option OrderedCandleV3
  closeTriggerSequence : Int
  htfFlipProof : Option EntryTriggerProofV3
  observedAtEpoch : Int
  deriving DecidableEq, Repr

/-- The fields that `candidateIdV3` digests. -/
structure CandidateIdentityV3 where
  setupId : JsString
  model : EntryModelV3
  direction : EntryDirectionV3
  eventAnchorEpoch : Int
  triggerOrdinal : Int
  bocTier : Option BocTier
  referenceCandleOpenEpoch : Option Int
  deriving DecidableEq, Repr

structure EntryCandidateV3 extends CandidateIdentityV3 where
  candidateId : String
  state : CandidateStateV3
  sourceClaimIds : List JsString
  observedAtEpoch : Int
  deriving DecidableEq, Repr

/-- The fields that `evidencePayloadSha256V3` digests. -/
structure EvidencePayloadFields where
  candidateId : String
  observedTriggerEpoch : Option Int
  triggerSequence : Int
  observedTriggerTicks : Option Int
  htfContextMinutes : List Int
  fidelity : CandidateFidelityV3
  proofPlane : ProofPlaneV3
  replayability : EvidenceReplayability
  coverageStartEpoch : Int
  coverageEndEpoch : Int
  ambiguityCodes : List AmbiguityCodeV3
  bocTier : Option BocTier
  referenceCandleOpenEpoch : Option Int
  referenceCandleOpenTicks : Option Int
  referenceCandleHighTicks : Option Int
  referenceCandleLowTicks : Option Int
  referenceCandleCloseTicks : Option Int
  htfOpenTicks : Option Int
  contactCandle : Option OrderedCandleV3
  recrossCandle : Option OrderedCandleV3
  coverageGapDetected : Option Bool
  fullLifecycleOrdered : Option Bool
  destinationSeenBeforeContact : Option Bool
  passedRuleIds : List JsString
  failedRuleIds : List JsString
  sourceClaimIds : List JsString
  deriving DecidableEq, Repr

structure EntryCandidateEvidenceV3 extends EvidencePayloadFields where
  evidenceId : String
  payloadSha256 : String
  observedAtEpoch : Int
  deriving DecidableEq, Repr

/-- The fields that `selectionIdV3` digests. -/
structure SelectionIdentityV3 where
  setupId : JsString
  policyVersion : String
  revision : Int
  candidateIdsConsidered : List String
  canonicalCandidateId : Option String
  canonicalEvidenceId : Option String
  reason : SelectionReasonV3
  fidelity : Option CandidateFidelityV3
  action : SelectionActionV3
  coTriggeredModels : List EntryModelV3
  deriving DecidableEq, Repr

structure EntrySelectionV3 extends SelectionIdentityV3 where
  selectionId : String
  canonicalModel : Option EntryModelV3
  evaluatedAtEpoch : Int
  deriving DecidableEq, Repr

structure EntryEvaluationV3 where
  candidates : List EntryCandidateV3
  evidence : List EntryCandidateEvidenceV3
  selection : EntrySelectionV3
  deriving DecidableEq, Repr

structure OpenedSelectionSeedV3 where
  confirmedBar : OrderedCandleV3
  triggerSequence : Int
  revision : Int
  evaluatedAtEpoch : Int
  deriving DecidableEq, Repr

structure EntryArbitrationInputV3 where
  setupId : JsString
  direction : EntryDirectionV3
  zoneTopTicks : Int
  zoneBottomTicks : Int
  zoneEngagedEpoch : Option Int
  commonFidelity : CandidateFidelityV3
  liquidityCohort : Option LiquidityCohortV3
  oneCandleEnabled : Option Bool
  setupInvalidated : Bool
  bocProof : Option BocProofV3
  directionalClose : Bool
  confirmedBar : Option OrderedCandleV3
  closeTriggerSequence : Int
  htfFlipProof : Option EntryTriggerProofV3
  observedAtEpoch : Int
  policyVersion : String
  revision : Int
  evaluatedAtEpoch : Int
  openedSelectionSeed : Option OpenedSelectionSeedV3
  deriving DecidableEq, Repr

/-! ## Content digests -/

def OrderedCandleV3.toJson (candle : OrderedCandleV3) : Json :=
  .obj [("open_epoch", .num candle.openEpoch), ("close_epoch", .num candle.closeEpoch),
    ("open_ticks", .num candle.openTicks), ("high_ticks", .num candle.highTicks),
    ("low_ticks", .num candle.lowTicks), ("close_ticks", .num candle.closeTicks)]

/-- What a candidate id is the digest of. -/
def CandidateIdentityV3.toJson (identity : CandidateIdentityV3) : Json :=
  .obj [
    ("boc_tier", .ofOption (.str ·.name) identity.bocTier),
    ("direction", .str identity.direction.name),
    ("event_anchor_epoch", .num identity.eventAnchorEpoch),
    ("model", .str identity.model.name),
    ("reference_candle_open_epoch", .ofOption .num identity.referenceCandleOpenEpoch),
    ("setup_id", .str identity.setupId),
    ("trigger_ordinal", .num identity.triggerOrdinal)]

/-- What a payload digest is the digest of. -/
def EvidencePayloadFields.toJson (value : EvidencePayloadFields) : Json :=
  .obj [
    ("ambiguity_codes", .strs (value.ambiguityCodes.map (·.name))),
    ("boc_tier", .ofOption (.str ·.name) value.bocTier),
    ("candidate_id", .str value.candidateId),
    ("contact_candle", .ofOption (·.toJson) value.contactCandle),
    ("coverage_end_epoch", .num value.coverageEndEpoch),
    ("coverage_gap_detected", .ofOption .bool value.coverageGapDetected),
    ("coverage_start_epoch", .num value.coverageStartEpoch),
    ("destination_seen_before_contact", .ofOption .bool value.destinationSeenBeforeContact),
    ("failed_rule_ids", .strs value.failedRuleIds),
    ("fidelity", .str value.fidelity.name),
    ("full_lifecycle_ordered", .ofOption .bool value.fullLifecycleOrdered),
    ("htf_context_minutes", .nums value.htfContextMinutes),
    ("htf_open_ticks", .ofOption .num value.htfOpenTicks),
    ("observed_trigger_epoch", .ofOption .num value.observedTriggerEpoch),
    ("observed_trigger_ticks", .ofOption .num value.observedTriggerTicks),
    ("passed_rule_ids", .strs value.passedRuleIds),
    ("proof_plane", .str value.proofPlane.name),
    ("reference_candle_close_ticks", .ofOption .num value.referenceCandleCloseTicks),
    ("reference_candle_high_ticks", .ofOption .num value.referenceCandleHighTicks),
    ("reference_candle_low_ticks", .ofOption .num value.referenceCandleLowTicks),
    ("reference_candle_open_epoch", .ofOption .num value.referenceCandleOpenEpoch),
    ("reference_candle_open_ticks", .ofOption .num value.referenceCandleOpenTicks),
    ("recross_candle", .ofOption (·.toJson) value.recrossCandle),
    ("replayability", .str value.replayability.name),
    ("source_claim_ids", .strs value.sourceClaimIds),
    ("trigger_sequence", .num value.triggerSequence)]

/-- What an evidence id is the digest of: the payload digest and six fields of the payload. -/
def EvidencePayloadFields.identityJson (value : EvidencePayloadFields) (payloadSha256 : String) :
    Json :=
  .obj [
    ("candidate_id", .str value.candidateId),
    ("coverage_end_epoch", .num value.coverageEndEpoch),
    ("coverage_start_epoch", .num value.coverageStartEpoch),
    ("observed_trigger_epoch", .ofOption .num value.observedTriggerEpoch),
    ("payload_sha256", .str payloadSha256),
    ("proof_plane", .str value.proofPlane.name),
    ("trigger_sequence", .num value.triggerSequence)]

/-- What a selection id is the digest of. -/
def SelectionIdentityV3.toJson (value : SelectionIdentityV3) : Json :=
  .obj [
    ("action", .str value.action.name),
    ("candidate_ids_considered", .strs (value.candidateIdsConsidered.map js)),
    ("canonical_candidate_id", .ofOption (fun id => .str (js id)) value.canonicalCandidateId),
    ("canonical_evidence_id", .ofOption (fun id => .str (js id)) value.canonicalEvidenceId),
    ("co_triggered_models", .strs (value.coTriggeredModels.map (·.name))),
    ("fidelity", .ofOption (.str ·.name) value.fidelity),
    ("policy_version", .str value.policyVersion),
    ("reason", .str value.reason.name),
    ("revision", .num value.revision),
    ("setup_id", .str value.setupId)]

section Digests

variable (canonicalSha256 : Json → String)

def candidateIdV3 (identity : CandidateIdentityV3) : String :=
  canonicalSha256 identity.toJson

def evidencePayloadSha256V3 (value : EvidencePayloadFields) : String :=
  canonicalSha256 value.toJson

def evidenceIdV3 (value : EvidencePayloadFields) (payloadSha256 : String) : String :=
  canonicalSha256 (value.identityJson payloadSha256)

def selectionIdV3 (value : SelectionIdentityV3) : String :=
  canonicalSha256 value.toJson

end Digests

end TradeOps.Entry
