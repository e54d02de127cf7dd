import TradeOps.EntryV3.Payload

/-!
# Parsing the records of a v3 entry payload

Embeds the parsers of `rd-entry-wire-v3.ts` for candles, candidates, evidence and selections. A
record comes with its digests, or with the markers `EDGE_DERIVED` in their place; then the digests
are computed here. `canonicalSha256` is the digest of canonical JSON; nothing is assumed about it.
-/

namespace TradeOps.EntryV3

open Checks SortBy Entry
open JsString (js)
open scoped JsString

/-! ## Keys -/

def requiredCommonRuleIds : List String :=
  ["LIQ_ACTUAL_EXTREME_SWEPT", "LIQ_DISTANCE_INFLUENCES_ZONE", "LIQ_EVENT_ORDER",
    "LIQ_INTERNAL_REBREAK", "LIQ_NORMAL_TWO_OPPOSITE_CANDLES", "LIQ_ONE_CANDLE_EXCEPTION",
    "LIQ_OWN_EXTREME_SAME_LEG", "LIQ_REPLACEMENT_AFTER_STALE_MOVE",
    "LIQ_STRICT_OWN_EXTREME_BREAK", "TIMEFRAME_FIVE_MINUTE_ONLY", "ZONE_ACCURACY_BOUNDS",
    "ZONE_FRESH_UNTAPPED", "ZONE_ORIGIN_OPPOSITE_CANDLE", "ZONE_PRE_ENTRY_CLOSE_OUTSIDE"]

def topLevelKeys : List String :=
  ["schema_version", "strategy_id", "strategy_version", "rule_contract_version", "execution_mode",
    "producer_instance_id", "producer_sequence", "event_id", "is_realtime", "symbol", "ticker_id",
    "feed", "timeframe", "tick_size", "detector_code_hash", "settings_hash", "observed_at_epoch",
    "market_event", "exit_events", "setups"]

def setupBundleKeys : List String :=
  ["setup", "candidates", "evidence", "selection_proposal", "trade_plan"]

def setupKeysV30 : List String :=
  ["setup_id", "direction", "zone_top_ticks", "zone_bottom_ticks", "zone_engaged_epoch",
    "invalidated_before_entry", "common_fidelity", "common_rule_results"]

def setupKeysV31 : List String := setupKeysV30 ++ ["liquidity_cohort", "one_candle_enabled"]

def candidateKeys : List String :=
  ["candidate_id", "setup_id", "model", "state", "direction", "event_anchor_epoch",
    "trigger_ordinal", "boc_tier", "reference_candle_open_epoch", "source_claim_ids",
    "observed_at_epoch"]

def evidenceKeys : List String :=
  ["evidence_id", "candidate_id", "observed_trigger_epoch", "trigger_sequence",
    "observed_trigger_ticks", "htf_context_minutes", "fidelity", "proof_plane", "replayability",
    "coverage_start_epoch", "coverage_end_epoch", "ambiguity_codes", "boc_tier",
    "reference_candle_open_epoch", "reference_candle_open_ticks", "reference_candle_high_ticks",
    "reference_candle_low_ticks", "reference_candle_close_ticks", "htf_open_ticks",
    "contact_candle", "recross_candle", "coverage_gap_detected", "full_lifecycle_ordered",
    "destination_seen_before_contact", "passed_rule_ids", "failed_rule_ids", "source_claim_ids",
    "payload_sha256", "observed_at_epoch"]

def selectionKeys : List String :=
  ["selection_id", "setup_id", "policy_version", "revision", "candidate_ids_considered",
    "canonical_candidate_id", "canonical_evidence_id", "canonical_model", "reason", "fidelity",
    "action", "co_triggered_models", "evaluated_at_epoch"]

def candleKeys : List String :=
  ["open_epoch", "close_epoch", "open_ticks", "high_ticks", "low_ticks", "close_ticks"]

def marketEventKeys : List String :=
  ["epoch", "sequence", "tick_price_ticks", "barstate_isconfirmed", "confirmed_bar"]

def tradePlanKeys : List String := ["direction", "entry_ticks", "stop_ticks", "target_ticks"]

def exitEventKeys : List String :=
  ["event_id", "setup_id", "exit_reason", "epoch", "sequence", "price_ticks"]

def oneCandleExpectedFailedRules : List String :=
  ["LIQ_INTERNAL_REBREAK", "LIQ_NORMAL_TWO_OPPOSITE_CANDLES"]

inductive SchemaVersion where
  | v30 | v31
  deriving DecidableEq, Repr

/-- A validator of the records, whose exception becomes the common message. -/
def caught (check : Except String Unit) : Except String Unit :=
  match check with
  | .ok _ => .ok ()
  | .error _ => .error invalid

/-! ## Candles, candidates and evidence -/

def parseCandle (requireFiveMinutes : Bool := false) : Reader OrderedCandleV3 := fun value => do
  let result ← object value
  exactKeys result candleKeys
  let openEpoch ← integer 0 (result.lookup "open_epoch")
  let closeEpoch ← integer 0 (result.lookup "close_epoch")
  let openTicks ← signedInteger (result.lookup "open_ticks")
  let highTicks ← signedInteger (result.lookup "high_ticks")
  let lowTicks ← signedInteger (result.lookup "low_ticks")
  let closeTicks ← signedInteger (result.lookup "close_ticks")
  let candle : OrderedCandleV3 :=
    ⟨openEpoch, closeEpoch, openTicks, highTicks, lowTicks, closeTicks⟩
  caught (validateOrderedCandleV3 candle "candle")
  failIf
    (requireFiveMinutes ∧
      (candle.closeEpoch - candle.openEpoch ≠ 300 ∨ candle.openEpoch % 300 ≠ 0))
    invalid
  pure candle

def parseCandidate : Reader EntryCandidateV3 := fun value => do
  let result ← object value
  exactKeys result candidateKeys
  let candidateId ← digest (result.lookup "candidate_id")
  let setupId ← identifier (result.lookup "setup_id")
  let eventAnchorEpoch ← integer 0 (result.lookup "event_anchor_epoch")
  let triggerOrdinal ← integer 1 (result.lookup "trigger_ordinal")
  let referenceCandleOpenEpoch ← nullable (integer 0) (result.lookup "reference_candle_open_epoch")
  let sourceClaimIds ← stringValues 32 (result.lookup "source_claim_ids")
  let observedAtEpoch ← integer 0 (result.lookup "observed_at_epoch")
  let model ← named EntryModelV3.name models (result.lookup "model")
  let state ← named stateName states (result.lookup "state")
  let direction ← named EntryDirectionV3.name directions (result.lookup "direction")
  let bocTier ← nullable (named BocTier.name tiers) (result.lookup "boc_tier")
  let candidate : EntryCandidateV3 :=
    { candidateId, setupId, model, state, direction, eventAnchorEpoch, triggerOrdinal, bocTier,
      referenceCandleOpenEpoch, sourceClaimIds := sourceClaimIds.map js, observedAtEpoch }
  caught (validateEntryCandidateV3 candidate)
  pure candidate

def edgeDerivedDigest : String := "EDGE_DERIVED"

def edgeDerivedReference (model : EntryModelV3) : String := edgeDerivedDigest ++ ":" ++ model.name

/-- `EDGE_DERIVED:` with the name of a model. -/
def edgeDerivedModel : Reader EntryModelV3 := fun value => do
  let result ← text 256 value
  named edgeDerivedReference models (some (.str result))

/-- The digests that stand in while a record with markers is parsed. -/
def provisionalId : String :=
  "aaaaaaaaaaaaaaaaaaaaaaaaaaaaaaaaaaaaaaaaaaaaaaaaaaaaaaaaaaaaaaaa"

def provisionalPayload : String :=
  "bbbbbbbbbbbbbbbbbbbbbbbbbbbbbbbbbbbbbbbbbbbbbbbbbbbbbbbbbbbbbbbb"

def parseEvidence : Reader EntryCandidateEvidenceV3 := fun value => do
  let result ← object value
  exactKeys result evidenceKeys
  let evidenceId ← digest (result.lookup "evidence_id")
  let candidateId ← digest (result.lookup "candidate_id")
  let observedTriggerEpoch ← nullable (integer 0) (result.lookup "observed_trigger_epoch")
  let triggerSequence ← integer 0 (result.lookup "trigger_sequence")
  let observedTriggerTicks ← nullable signedInteger (result.lookup "observed_trigger_ticks")
  let contexts ← values 0 3 (result.lookup "htf_context_minutes")
  let htfContextMinutes ← eachItem (integer 15) contexts
  let coverageStartEpoch ← integer 0 (result.lookup "coverage_start_epoch")
  let coverageEndEpoch ← integer 0 (result.lookup "coverage_end_epoch")
  let codes ← stringValues 3 (result.lookup "ambiguity_codes")
  let referenceCandleOpenEpoch ← nullable (integer 0) (result.lookup "reference_candle_open_epoch")
  let referenceCandleOpenTicks ← nullable signedInteger
    (result.lookup "reference_candle_open_ticks")
  let referenceCandleHighTicks ← nullable signedInteger
    (result.lookup "reference_candle_high_ticks")
  let referenceCandleLowTicks ← nullable signedInteger (result.lookup "reference_candle_low_ticks")
  let referenceCandleCloseTicks ←
    nullable signedInteger (result.lookup "reference_candle_close_ticks")
  let htfOpenTicks ← nullable signedInteger (result.lookup "htf_open_ticks")
  let contactCandle ← nullable parseCandle (result.lookup "contact_candle")
  let recrossCandle ← nullable parseCandle (result.lookup "recross_candle")
  let coverageGapDetected ← nullable boolean (result.lookup "coverage_gap_detected")
  let fullLifecycleOrdered ← nullable boolean (result.lookup "full_lifecycle_ordered")
  let destinationSeenBeforeContact ←
    nullable boolean (result.lookup "destination_seen_before_contact")
  let passedRuleIds ← stringValues 32 (result.lookup "passed_rule_ids")
  let failedRuleIds ← stringValues 32 (result.lookup "failed_rule_ids")
  let sourceClaimIds ← stringValues 32 (result.lookup "source_claim_ids")
  let payloadSha256 ← digest (result.lookup "payload_sha256")
  let observedAtEpoch ← integer 0 (result.lookup "observed_at_epoch")
  let fidelity ← named CandidateFidelityV3.name fidelities (result.lookup "fidelity")
  let proofPlane ← named ProofPlaneV3.name planes (result.lookup "proof_plane")
  let replayability ←
    named EvidenceReplayability.name replayabilities (result.lookup "replayability")
  let codes ← membersNamed AmbiguityCodeV3.name ambiguityCodes codes
  let bocTier ← nullable (named BocTier.name tiers) (result.lookup "boc_tier")
  let evidence : EntryCandidateEvidenceV3 :=
    { evidenceId, candidateId, observedTriggerEpoch, triggerSequence, observedTriggerTicks,
      htfContextMinutes, fidelity, proofPlane, replayability, coverageStartEpoch,
      coverageEndEpoch, ambiguityCodes := codes, bocTier, referenceCandleOpenEpoch,
      referenceCandleOpenTicks, referenceCandleHighTicks, referenceCandleLowTicks,
      referenceCandleCloseTicks, htfOpenTicks, contactCandle, recrossCandle, coverageGapDetected,
      fullLifecycleOrdered, destinationSeenBeforeContact,
      passedRuleIds := passedRuleIds.map js, failedRuleIds := failedRuleIds.map js,
      sourceClaimIds := sourceClaimIds.map js, payloadSha256, observedAtEpoch }
  caught (validateEntryEvidenceV3 evidence)
  pure evidence

section EdgeDerived

variable (canonicalSha256 : Json → String)

def parseEdgeDerivedCandidate : Reader EntryCandidateV3 := fun value => do
  let result ← object value
  exactKeys result candidateKeys
  let referenceModel ← edgeDerivedModel (result.lookup "candidate_id")
  let provisional ←
    parseCandidate (some (.obj (override result "candidate_id" (.str provisionalId))))
  failIf (referenceModel ≠ provisional.model) invalid
  pure { provisional with
    candidateId := candidateIdV3 canonicalSha256 provisional.toCandidateIdentityV3 }

/-- The later of two candidates of one model is the one of the map. -/
def candidateByModel (candidates : List EntryCandidateV3) (model : EntryModelV3) :
    Option EntryCandidateV3 :=
  candidates.reverse.find? (·.model = model)

def parseEdgeDerivedEvidence (candidates : List EntryCandidateV3) :
    Reader EntryCandidateEvidenceV3 := fun value => do
  let result ← object value
  exactKeys result evidenceKeys
  let candidateModel ← edgeDerivedModel (result.lookup "candidate_id")
  let evidenceModel ← edgeDerivedModel (result.lookup "evidence_id")
  let payloadMarked :=
    match result.lookup "payload_sha256" with
    | some (.str value) => value = edgeDerivedDigest
    | _ => false
  match candidateByModel candidates candidateModel with
  | none => .error invalid
  | some candidate =>
    failIf (candidateModel ≠ evidenceModel ∨ payloadMarked = false) invalid
    let marked := override result "evidence_id" (.str provisionalId)
    let marked := override marked "candidate_id" (.str candidate.candidateId)
    let marked := override marked "payload_sha256" (.str provisionalPayload)
    let provisional ← parseEvidence (some (.obj marked))
    let payloadSha256 := evidencePayloadSha256V3 canonicalSha256 provisional.toEvidencePayloadFields
    pure { provisional with
      payloadSha256
      evidenceId :=
        evidenceIdV3 canonicalSha256 provisional.toEvidencePayloadFields payloadSha256 }

end EdgeDerived

/-! ## Selections -/

def parseSelection : Reader EntrySelectionV3 := fun value => do
  let result ← object value
  exactKeys result selectionKeys
  let selectionId ← digest (result.lookup "selection_id")
  let setupId ← identifier (result.lookup "setup_id")
  let revision ← integer 0 (result.lookup "revision")
  let candidateIdsConsidered ← stringValues 32 (result.lookup "candidate_ids_considered")
  let canonicalCandidateId ← nullable digest (result.lookup "canonical_candidate_id")
  let canonicalEvidenceId ← nullable digest (result.lookup "canonical_evidence_id")
  let coTriggered ← stringValues 3 (result.lookup "co_triggered_models")
  let evaluatedAtEpoch ← integer 0 (result.lookup "evaluated_at_epoch")
  let policyVersion ← named id [policyVersionV3] (result.lookup "policy_version")
  let canonicalModel ← nullable (named EntryModelV3.name models) (result.lookup "canonical_model")
  let reason ← named SelectionReasonV3.name reasons (result.lookup "reason")
  let fidelity ←
    nullable (named CandidateFidelityV3.name fidelities) (result.lookup "fidelity")
  let action ← named SelectionActionV3.name actions (result.lookup "action")
  let coTriggeredModels ← membersNamed EntryModelV3.name models coTriggered
  let selection : EntrySelectionV3 :=
    { selectionId, setupId, policyVersion, revision, candidateIdsConsidered, canonicalCandidateId,
      canonicalEvidenceId, canonicalModel, reason, fidelity, action, coTriggeredModels,
      evaluatedAtEpoch }
  caught (validateSelectionShapeV3 selection)
  pure selection

/-- `EdgeDerivedSelectionSeed`; a parsed selection is one too. -/
structure SelectionSeed where
  setupId : JsString
  revision : Int
  evaluatedAtEpoch : Int
  deriving DecidableEq, Repr

/-- `SELECTION_REASONS_V3`: the reasons of a selection, and one that only a producer gives. -/
def selectionReasonNames : List String :=
  reasons.map SelectionReasonV3.name ++ ["ONE_CANDLE_EXPERIMENT_NOT_PROMOTED"]

def parseEdgeDerivedSelectionSeed (candidateModels : List EntryModelV3) :
    Reader SelectionSeed := fun value => do
  let result ← object value
  exactKeys result selectionKeys
  let _ ← named id [edgeDerivedDigest] (result.lookup "selection_id")
  let _ ← named id [policyVersionV3] (result.lookup "policy_version")
  let setupId ← identifier (result.lookup "setup_id")
  let considered ← stringValues 3 (result.lookup "candidate_ids_considered")
  failIf
    (joinNul considered ≠ joinNul (sortBy Json.utf16 (candidateModels.map edgeDerivedReference)))
    invalid
  let candidateReference ← nullable edgeDerivedModel (result.lookup "canonical_candidate_id")
  let evidenceReference ← nullable edgeDerivedModel (result.lookup "canonical_evidence_id")
  failIf
    (candidateReference ≠ evidenceReference ∨
      ∃ model ∈ candidateReference, model ∉ candidateModels)
    invalid
  let canonicalModel ← nullable (named EntryModelV3.name models) (result.lookup "canonical_model")
  failIf (canonicalModel ≠ candidateReference) invalid
  let _ ← named id selectionReasonNames (result.lookup "reason")
  let _ ← nullable (named CandidateFidelityV3.name fidelities) (result.lookup "fidelity")
  let _ ← named SelectionActionV3.name actions (result.lookup "action")
  let coTriggered ← stringValues 3 (result.lookup "co_triggered_models")
  let _ ← membersNamed EntryModelV3.name models coTriggered
  failIf (joinNul coTriggered ≠ joinNul (sortBy Json.utf16 coTriggered)) invalid
  let revision ← integer 0 (result.lookup "revision")
  let evaluatedAtEpoch ← integer 0 (result.lookup "evaluated_at_epoch")
  pure { setupId, revision, evaluatedAtEpoch }

end TradeOps.EntryV3
