import TradeOps.Entry.ValidationV3

/-!
# Matching raw proofs to entry candidates

Embeds `rd-entry-matcher-v3.ts`: each of the three entry models turns its raw proof into one
candidate record and one evidence record, which carry the rule that passed or the first rule that
failed.
-/

namespace TradeOps.Entry

open SortBy
open scoped JsString

structure EntryMatchResultV3 where
  candidates : List EntryCandidateV3
  evidence : List EntryCandidateEvidenceV3
  deriving DecidableEq, Repr

/-! ## Rule checks -/

def bocBreaksReference (request : EntryMatchRequestV3) (proof : BocProofV3) : Bool :=
  match request.setup.direction with
  | .long => proof.triggerTicks > proof.referenceCandle.highTicks
  | .short => proof.triggerTicks < proof.referenceCandle.lowTicks

/-- The trigger candle opens on a boundary of every stated higher timeframe. -/
def strictBocContext (proof : BocProofV3) : Bool :=
  proof.htfBoundaryEpoch = some proof.triggerCandleOpenEpoch ∧
    proof.htfContextMinutes.length > 0 ∧
    ∀ context ∈ proof.htfContextMinutes,
      supportedContext context ∧ proof.triggerCandleOpenEpoch % (context * 60) = 0

def commonFailure (request : EntryMatchRequestV3) (triggerEpoch : Int) : List JsString :=
  if request.setup.commonFidelity ≠ .exact then ["COMMON_SETUP_NOT_EXACT"]
  else if request.setup.invalidatedBeforeEntry then ["SETUP_INVALIDATED"]
  else
    match request.setup.zoneEngagedEpoch with
    | none => ["ENTRY_BEFORE_ZONE_ENGAGEMENT"]
    | some engaged => if triggerEpoch < engaged then ["ENTRY_BEFORE_ZONE_ENGAGEMENT"] else []

def realtimeFailure (proofPlane : ProofPlaneV3) (replayability : EvidenceReplayability)
    (isRealtime : Bool) : List JsString :=
  if proofPlane = .realtimeTick then
    if isRealtime = false ∨ replayability ≠ .liveExactNonReplayable then
      ["REALTIME_EVIDENCE_NOT_LIVE"]
    else []
  else if replayability ≠ .replayable then ["EVIDENCE_REPLAYABILITY_MISMATCH"]
  else []

def contactsZone (request : EntryMatchRequestV3) (candle : OrderedCandleV3) : Bool :=
  candle.lowTicks ≤ request.setup.zoneTopTicks ∧ candle.highTicks ≥ request.setup.zoneBottomTicks

def candleCrossesHtfOpen (request : EntryMatchRequestV3) (proof : EntryTriggerProofV3)
    (candle : OrderedCandleV3) : Bool :=
  match request.setup.direction with
  | .long => candle.highTicks > proof.htfOpenTicks
  | .short => candle.lowTicks < proof.htfOpenTicks

def actualTickCrossesHtfOpen (request : EntryMatchRequestV3) (proof : EntryTriggerProofV3)
    (candle : OrderedCandleV3) : Bool :=
  match request.setup.direction with
  | .long => candle.closeTicks > proof.htfOpenTicks
  | .short => candle.closeTicks < proof.htfOpenTicks

def flipLifecycleFailure (request : EntryMatchRequestV3) (proof : EntryTriggerProofV3) :
    List JsString :=
  match proof.contactCandle, proof.recrossCandle with
  | some contact, some recross =>
    if proof.coverageGapDetected then ["HTF_FLIP_COVERAGE_GAP"]
    else if proof.fullLifecycleOrdered = false then ["HTF_FLIP_ORDER_UNPROVEN"]
    else if proof.destinationSeenBeforeContact then ["HTF_FLIP_DESTINATION_BEFORE_CONTACT"]
    else if proof.ambiguityCodes.length > 0 then ["HTF_FLIP_AMBIGUOUS"]
    else if proof.eventAnchorEpoch > contact.openEpoch then ["HTF_FLIP_ANCHOR_AFTER_CONTACT"]
    else if ∃ context ∈ proof.htfContextMinutes,
        proof.triggerEpoch ≥ proof.eventAnchorEpoch + context * 60 then
      ["HTF_FLIP_TRIGGER_OUTSIDE_CONTEXT"]
    else if contactsZone request contact = false then ["HTF_FLIP_CONTACT_OUTSIDE_ZONE"]
    else if candleCrossesHtfOpen request proof contact then ["HTF_FLIP_CONTACT_ALREADY_RECROSSED"]
    else if actualTickCrossesHtfOpen request proof recross = false then
      ["HTF_FLIP_OPEN_NOT_RECROSSED"]
    else if proof.htfContextMinutes.length = 0 ∨
        ∃ context ∈ proof.htfContextMinutes, proof.eventAnchorEpoch % (context * 60) ≠ 0 then
      ["HTF_FLIP_CONTEXT_MISALIGNED"]
    else []
  | _, _ => ["HTF_FLIP_INCOMPLETE_LIFECYCLE"]

/-! ## Records -/

/-- The part of an evidence record that a matcher decides. -/
structure EvidenceFieldsV3 where
  observedTriggerEpoch : Int
  triggerSequence : Int
  observedTriggerTicks : Int
  htfContextMinutes : List Int
  fidelity : CandidateFidelityV3
  proofPlane : ProofPlaneV3
  replayability : EvidenceReplayability
  coverageStartEpoch : Int
  coverageEndEpoch : Int
  bocTier : Option BocTier
  referenceCandle : Option OrderedCandleV3
  ambiguityCodes : List AmbiguityCodeV3
  htfOpenTicks : Option Int
  contactCandle : Option OrderedCandleV3
  recrossCandle : Option OrderedCandleV3
  coverageGapDetected : Option Bool
  fullLifecycleOrdered : Option Bool
  destinationSeenBeforeContact : Option Bool
  passedRuleIds : List JsString
  failedRuleIds : List JsString
  sourceClaimIds : List JsString

/-- The outcome of a matcher: the state, what passed and what failed. -/
structure MatchOutcomeV3 where
  state : CandidateStateV3
  fidelity : CandidateFidelityV3
  passedRuleIds : List JsString
  failedRuleIds : List JsString

section Matching

variable (canonicalSha256 : Json → String)

def candidate (request : EntryMatchRequestV3) (model : EntryModelV3) (state : CandidateStateV3)
    (eventAnchorEpoch : Int) (bocTier : Option BocTier) (referenceCandleOpenEpoch : Option Int)
    (sourceClaimIds : List JsString) : EntryCandidateV3 :=
  let identity : CandidateIdentityV3 :=
    { setupId := request.setup.setupId
      model := model
      direction := request.setup.direction
      eventAnchorEpoch := eventAnchorEpoch
      triggerOrdinal := 1
      bocTier := bocTier
      referenceCandleOpenEpoch := referenceCandleOpenEpoch }
  { toCandidateIdentityV3 := identity
    candidateId := candidateIdV3 canonicalSha256 identity
    state := state
    sourceClaimIds := sourceClaimIds
    observedAtEpoch := request.observedAtEpoch }

def evidence (request : EntryMatchRequestV3) (value : EntryCandidateV3)
    (fields : EvidenceFieldsV3) : EntryCandidateEvidenceV3 :=
  let payload : EvidencePayloadFields :=
    { candidateId := value.candidateId
      observedTriggerEpoch := some fields.observedTriggerEpoch
      triggerSequence := fields.triggerSequence
      observedTriggerTicks := some fields.observedTriggerTicks
      htfContextMinutes := fields.htfContextMinutes
      fidelity := fields.fidelity
      proofPlane := fields.proofPlane
      replayability := fields.replayability
      coverageStartEpoch := fields.coverageStartEpoch
      coverageEndEpoch := fields.coverageEndEpoch
      ambiguityCodes := fields.ambiguityCodes
      bocTier := fields.bocTier
      referenceCandleOpenEpoch := fields.referenceCandle.map (·.openEpoch)
      referenceCandleOpenTicks := fields.referenceCandle.map (·.openTicks)
      referenceCandleHighTicks := fields.referenceCandle.map (·.highTicks)
      referenceCandleLowTicks := fields.referenceCandle.map (·.lowTicks)
      referenceCandleCloseTicks := fields.referenceCandle.map (·.closeTicks)
      htfOpenTicks := fields.htfOpenTicks
      contactCandle := fields.contactCandle
      recrossCandle := fields.recrossCandle
      coverageGapDetected := fields.coverageGapDetected
      fullLifecycleOrdered := fields.fullLifecycleOrdered
      destinationSeenBeforeContact := fields.destinationSeenBeforeContact
      passedRuleIds := fields.passedRuleIds
      failedRuleIds := fields.failedRuleIds
      sourceClaimIds := fields.sourceClaimIds }
  let payloadSha256 := evidencePayloadSha256V3 canonicalSha256 payload
  { toEvidencePayloadFields := payload
    evidenceId := evidenceIdV3 canonicalSha256 payload payloadSha256
    payloadSha256 := payloadSha256
    observedAtEpoch := request.observedAtEpoch }

/-! ## The three matchers -/

/-- The decision of `matchBoc`; exact evidence that failed a rule is unresolved. -/
def bocOutcome (request : EntryMatchRequestV3) (proof : BocProofV3) : MatchOutcomeV3 :=
  let common := commonFailure request proof.triggerEpoch
  let realtime := realtimeFailure proof.proofPlane proof.replayability proof.isRealtime
  let outcome : MatchOutcomeV3 :=
    if common.length > 0 then ⟨.blocked, proof.fidelity, [], common⟩
    else if bocBreaksReference request proof = false then
      ⟨.rejected, proof.fidelity, [], ["BOC_WRONG_DIRECTION"]⟩
    else if realtime.length > 0 then ⟨.blocked, proof.fidelity, [], realtime⟩
    else if proof.fidelity ≠ .exact then
      ⟨.blocked, proof.fidelity, [], ["MODEL_EVIDENCE_NOT_EXACT"]⟩
    else if strictBocContext proof = false then
      ⟨.matched, .discretionary, [], ["BOC_DISCRETIONARY_CONTEXT_UNQUANTIFIED"]⟩
    else ⟨.matched, proof.fidelity, ["ENTRY_BOC_HTF_TIMED"], []⟩
  if outcome.failedRuleIds.length > 0 ∧ outcome.fidelity = .exact then
    { outcome with fidelity := .unresolved }
  else outcome

def bocTierOf (proof : BocProofV3) : BocTier :=
  if strictBocContext proof then .htfTimed else .discretionary5m

def bocClaimsOf (proof : BocProofV3) : List JsString :=
  if strictBocContext proof then sourceClaimsBocHtfTimed else sourceClaimsBocDiscretionary5m

def matchBoc (request : EntryMatchRequestV3) (proof : BocProofV3) :
    EntryCandidateV3 × EntryCandidateEvidenceV3 :=
  let outcome := bocOutcome request proof
  let matchedCandidate := candidate canonicalSha256 request .boc outcome.state
    proof.referenceCandle.openEpoch (some (bocTierOf proof))
    (some proof.referenceCandle.openEpoch) (bocClaimsOf proof)
  (matchedCandidate,
    evidence canonicalSha256 request matchedCandidate
      { observedTriggerEpoch := proof.triggerEpoch
        triggerSequence := proof.triggerSequence
        observedTriggerTicks := proof.triggerTicks
        htfContextMinutes := proof.htfContextMinutes
        fidelity := outcome.fidelity
        proofPlane := proof.proofPlane
        replayability := proof.replayability
        coverageStartEpoch := proof.coverageStartEpoch
        coverageEndEpoch := proof.coverageEndEpoch
        bocTier := some (bocTierOf proof)
        referenceCandle := some proof.referenceCandle
        ambiguityCodes := []
        htfOpenTicks := none
        contactCandle := none
        recrossCandle := none
        coverageGapDetected := none
        fullLifecycleOrdered := none
        destinationSeenBeforeContact := none
        passedRuleIds := outcome.passedRuleIds
        failedRuleIds := outcome.failedRuleIds
        sourceClaimIds := bocClaimsOf proof })

/-- A matched model has exact evidence, any other unresolved evidence. -/
def outcomeOf (failed : List JsString) (rule : JsString) : MatchOutcomeV3 :=
  if failed.length > 0 then ⟨.blocked, .unresolved, [], failed⟩
  else ⟨.matched, .exact, [rule], []⟩

def closeOutcome (request : EntryMatchRequestV3) (bar : OrderedCandleV3) : MatchOutcomeV3 :=
  let common := commonFailure request bar.closeEpoch
  outcomeOf
    (if common.length > 0 then common
    else if bar.closeEpoch - bar.openEpoch ≠ 300 then ["DIR_CLOSE_NOT_CONFIRMED_5M"]
    else [])
    "ENTRY_DIR_CLOSE"

def matchClose (request : EntryMatchRequestV3) (bar : OrderedCandleV3) :
    EntryCandidateV3 × EntryCandidateEvidenceV3 :=
  let outcome := closeOutcome request bar
  let matchedCandidate := candidate canonicalSha256 request .dirClose outcome.state bar.openEpoch
    none none sourceClaimsDirClose
  (matchedCandidate,
    evidence canonicalSha256 request matchedCandidate
      { observedTriggerEpoch := bar.closeEpoch
        triggerSequence := request.closeTriggerSequence
        observedTriggerTicks := bar.closeTicks
        htfContextMinutes := []
        fidelity := outcome.fidelity
        proofPlane := .confirmed5m
        replayability := .replayable
        coverageStartEpoch := bar.openEpoch
        coverageEndEpoch := bar.closeEpoch
        bocTier := none
        referenceCandle := none
        ambiguityCodes := []
        htfOpenTicks := none
        contactCandle := none
        recrossCandle := none
        coverageGapDetected := none
        fullLifecycleOrdered := none
        destinationSeenBeforeContact := none
        passedRuleIds := outcome.passedRuleIds
        failedRuleIds := outcome.failedRuleIds
        sourceClaimIds := sourceClaimsDirClose })

def flipOutcome (request : EntryMatchRequestV3) (proof : EntryTriggerProofV3) : MatchOutcomeV3 :=
  let common := commonFailure request proof.triggerEpoch
  let lifecycle := flipLifecycleFailure request proof
  let realtime := realtimeFailure proof.proofPlane proof.replayability proof.isRealtime
  outcomeOf
    (if common.length > 0 then common
    else if lifecycle.length > 0 then lifecycle
    else if realtime.length > 0 then realtime
    else if proof.fidelity ≠ .exact then ["MODEL_EVIDENCE_NOT_EXACT"]
    else [])
    "ENTRY_HTF_FLIP"

def matchFlip (request : EntryMatchRequestV3) (proof : EntryTriggerProofV3) :
    EntryCandidateV3 × EntryCandidateEvidenceV3 :=
  let outcome := flipOutcome request proof
  let matchedCandidate := candidate canonicalSha256 request .htfFlip outcome.state
    proof.eventAnchorEpoch none none sourceClaimsHtfFlip
  (matchedCandidate,
    evidence canonicalSha256 request matchedCandidate
      { observedTriggerEpoch := proof.triggerEpoch
        triggerSequence := proof.triggerSequence
        observedTriggerTicks := proof.triggerTicks
        htfContextMinutes := proof.htfContextMinutes
        fidelity := outcome.fidelity
        proofPlane := proof.proofPlane
        replayability := proof.replayability
        coverageStartEpoch := proof.coverageStartEpoch
        coverageEndEpoch := proof.coverageEndEpoch
        bocTier := none
        referenceCandle := none
        ambiguityCodes := proof.ambiguityCodes
        htfOpenTicks := some proof.htfOpenTicks
        contactCandle := proof.contactCandle
        recrossCandle := proof.recrossCandle
        coverageGapDetected := some proof.coverageGapDetected
        fullLifecycleOrdered := some proof.fullLifecycleOrdered
        destinationSeenBeforeContact := some proof.destinationSeenBeforeContact
        passedRuleIds := outcome.passedRuleIds
        failedRuleIds := outcome.failedRuleIds
        sourceClaimIds := sourceClaimsHtfFlip })

/-- The pair of a directional close, which needs its bar. -/
def closePairs (request : EntryMatchRequestV3) :
    Except String (List (EntryCandidateV3 × EntryCandidateEvidenceV3)) :=
  if request.directionalClose then
    match request.confirmedBar with
    | none => .error "directional_close requires confirmed_bar"
    | some bar => .ok [matchClose canonicalSha256 request bar]
  else .ok []

/-- The matched pairs, in the order BOC, close, flip. -/
def matchedPairs (request : EntryMatchRequestV3) :
    Except String (List (EntryCandidateV3 × EntryCandidateEvidenceV3)) := do
  let boc := (request.bocProof.map (matchBoc canonicalSha256 request)).toList
  let close ← closePairs canonicalSha256 request
  let flip := (request.htfFlipProof.map (matchFlip canonicalSha256 request)).toList
  pure (boc ++ close ++ flip)

def matchEntryCandidatesV3 (request : EntryMatchRequestV3) :
    Except String EntryMatchResultV3 := do
  let pairs ← matchedPairs canonicalSha256 request
  pure
    { candidates := sortBy (·.candidateId) (pairs.map Prod.fst)
      evidence := sortBy (·.evidenceId) (pairs.map Prod.snd) }

end Matching

end TradeOps.Entry
