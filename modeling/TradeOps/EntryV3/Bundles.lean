import TradeOps.EntryV3.Wire

/-!
# Validating a v3 entry payload

Embeds `validateEntryV3Payload` of `rd-entry-wire-v3.ts`. The selection of a bundle is arbitrated
anew from its candidates and evidence; a selection that makes the setup eligible for a paper trade
has to fit the market event and the trade plan of the payload. The hashes of the reviewed producer,
which the validator ignores, are left out.
-/

namespace TradeOps.EntryV3

open Checks SortBy Entry
open scoped JsString

/-! ## Setups and plans -/

def parseCommonRule : Reader CommonRuleResult := fun value => do
  let rule ← object value
  exactKeys rule ["rule_id", "passed"]
  let ruleId ← identifier (rule.lookup "rule_id")
  let passed ← boolean (rule.lookup "passed")
  pure { ruleId, passed }

def parseCommonRules : Reader (List CommonRuleResult) := fun value => do
  let items ← values requiredCommonRuleIds.length requiredCommonRuleIds.length value
  let result ← eachItem parseCommonRule items
  failIf (join (result.map (·.ruleId)) ≠ join requiredCommonRuleIds) invalid
  pure result

def passedRule (rules : List CommonRuleResult) (ruleId : String) : Bool :=
  (rules.find? (·.ruleId = ruleId)).any (·.passed)

def allowedFailedRules (setup : SetupEntryFactsV3) : List String :=
  oneCandleExpectedFailedRules ++
    if setup.commonFidelity = .unresolved then ["LIQ_DISTANCE_INFLUENCES_ZONE"] else []

def validateCommonRules (schemaVersion : SchemaVersion) (setup : SetupEntryFactsV3)
    (rules : List CommonRuleResult) (unreviewedProducer : Bool) : Except String Unit := do
  failIf (schemaVersion = .v30 ∧ passedRule rules "LIQ_NORMAL_TWO_OPPOSITE_CANDLES" = false)
    "ENTRY_V3_LEGACY_LIQUIDITY_CLASSIFICATION"
  match setup.liquidityCohort with
  | .twoPlusCandles =>
    failIf (unreviewedProducer = false ∧ ∃ rule ∈ rules, rule.passed = false) invalid
  | .oneCandle =>
    failIf (passedRule rules "LIQ_ONE_CANDLE_EXCEPTION" = false) invalid
    failIf (∃ rule ∈ rules, rule.passed = false ∧ rule.ruleId ∉ allowedFailedRules setup) invalid

def parseSetup (unreviewedProducer : Bool) (schemaVersion : SchemaVersion) :
    Reader (SetupEntryFactsV3 × List CommonRuleResult) := fun value => do
  let result ← object value
  exactKeys result (if schemaVersion = .v30 then setupKeysV30 else setupKeysV31)
  let setupId ← identifier (result.lookup "setup_id")
  let zoneTopTicks ← signedInteger (result.lookup "zone_top_ticks")
  let zoneBottomTicks ← signedInteger (result.lookup "zone_bottom_ticks")
  let zoneEngagedEpoch ← nullable (integer 0) (result.lookup "zone_engaged_epoch")
  let invalidatedBeforeEntry ← boolean (result.lookup "invalidated_before_entry")
  let oneCandleEnabled ←
    if schemaVersion = .v30 then pure false else boolean (result.lookup "one_candle_enabled")
  let direction ← named EntryDirectionV3.name directions (result.lookup "direction")
  failIf (zoneTopTicks ≤ zoneBottomTicks) invalid
  let commonFidelity ←
    named CandidateFidelityV3.name fidelities (result.lookup "common_fidelity")
  let liquidityCohort ←
    if schemaVersion = .v30 then pure .twoPlusCandles
    else named cohortName cohorts (result.lookup "liquidity_cohort")
  let facts : SetupEntryFactsV3 :=
    { setupId, direction, zoneTopTicks, zoneBottomTicks, zoneEngagedEpoch, invalidatedBeforeEntry,
      commonFidelity, liquidityCohort, oneCandleEnabled }
  caught (validateLiquidityCohortV3 facts)
  let commonRules ← parseCommonRules (result.lookup "common_rule_results")
  validateCommonRules schemaVersion facts commonRules unreviewedProducer
  pure (facts, commonRules)

/-- The stop and the target lie strictly on the two sides of the entry. -/
def TradePlan.sided (plan : TradePlan) : Prop :=
  match plan.direction with
  | .long => plan.stopTicks < plan.entryTicks ∧ plan.entryTicks < plan.targetTicks
  | .short => plan.targetTicks < plan.entryTicks ∧ plan.entryTicks < plan.stopTicks

instance (plan : TradePlan) : Decidable plan.sided := by
  unfold TradePlan.sided
  cases plan.direction <;> exact instDecidableAnd

def parseTradePlan (expectedDirection : EntryDirectionV3) : Reader TradePlan := fun value => do
  let result ← object value
  exactKeys result tradePlanKeys
  let entryTicks ← signedInteger (result.lookup "entry_ticks")
  let stopTicks ← signedInteger (result.lookup "stop_ticks")
  let targetTicks ← signedInteger (result.lookup "target_ticks")
  let direction ← named EntryDirectionV3.name directions (result.lookup "direction")
  let plan : TradePlan := { direction, entryTicks, stopTicks, targetTicks }
  failIf (direction ≠ expectedDirection ∨ ¬plan.sided) invalid
  pure plan

/-! ## Bundles -/

def isEdgeDerivedMarker : Option StrictJson → Bool
  | some (.str value) => edgeDerivedDigest.toList.isPrefixOf value.toList
  | _ => false

/-- The elements of a property that is an array. -/
def itemsOf : Option StrictJson → List StrictJson
  | some (.arr items) => items
  | _ => []

/-- The properties of a value that is an object. -/
def fieldsOf : Option StrictJson → Fields
  | some (.obj fields) => fields
  | _ => []

def bundleUsesEdgeDerivedIdentity (bundle : Fields) : Bool :=
  let selection := fieldsOf (bundle.lookup "selection_proposal")
  ((itemsOf (bundle.lookup "candidates")).any fun item =>
    isEdgeDerivedMarker ((fieldsOf (some item)).lookup "candidate_id")) ||
  ((itemsOf (bundle.lookup "evidence")).any fun item =>
    ["candidate_id", "evidence_id", "payload_sha256"].any fun key =>
      isEdgeDerivedMarker ((fieldsOf (some item)).lookup key)) ||
  (["selection_id", "canonical_candidate_id", "canonical_evidence_id"].any fun key =>
    isEdgeDerivedMarker (selection.lookup key)) ||
  (itemsOf (selection.lookup "candidate_ids_considered")).any fun item =>
    isEdgeDerivedMarker (some item)

def isText (value : Option StrictJson) (text : String) : Bool :=
  match value with
  | some (.str value) => value = text
  | _ => false

def isNull : Option StrictJson → Bool
  | some .null => true
  | _ => false

def noCanonical (selection : Fields) : Bool :=
  isNull (selection.lookup "canonical_candidate_id") &&
    isNull (selection.lookup "canonical_evidence_id") &&
    isNull (selection.lookup "canonical_model") && isNull (selection.lookup "fidelity")

/-- The selection that a producer has to propose for a setup of one candle. -/
def truthfulOneCandleTerminal (proposal : Fields) : Except String Bool :=
  if isText (proposal.lookup "action") "SHADOW_ONLY" &&
      isText (proposal.lookup "reason") "ONE_CANDLE_EXPERIMENT_NOT_PROMOTED" &&
      noCanonical proposal then do
    let models ← values 0 3 (proposal.lookup "co_triggered_models")
    pure (models.length = 0)
  else pure false

def expectedShadowReason (setup : SetupEntryFactsV3) : String :=
  match setup.liquidityCohort with
  | .oneCandle => "ONE_CANDLE_EXPERIMENT_NOT_PROMOTED"
  | .twoPlusCandles => "NO_EXACT_CANDIDATE"

def unreviewedPromotionAttempt : String := "ENTRY_V3_UNREVIEWED_PROMOTION_ATTEMPT"

def validateUnreviewedBundle (setup : SetupEntryFactsV3) (candidates : List EntryCandidateV3)
    (evidence : List EntryCandidateEvidenceV3) (proposal : Fields)
    (canonicalSelection : EntrySelectionV3) : Except String Unit := do
  let shadow := isText (proposal.lookup "action") "SHADOW_ONLY"
  failIf
    (setup.commonFidelity ≠ .unresolved ∨ (∃ candidate ∈ candidates, candidate.state = .matched) ∨
      (∃ item ∈ evidence, item.fidelity = .exact ∨ item.passedRuleIds ≠ [] ∨
        item.failedRuleIds ≠ ["COMMON_SETUP_NOT_EXACT"]) ∨
      (shadow = false ∧ isText (proposal.lookup "action") "NONE" = false) ∨
      (if shadow then isText (proposal.lookup "reason") (expectedShadowReason setup) = false
      else isText (proposal.lookup "reason") "SETUP_INVALIDATED" = false ∧
        isText (proposal.lookup "reason") "NO_CANDIDATE" = false) ∨
      noCanonical proposal = false)
    unreviewedPromotionAttempt
  let models ← values 0 3 (proposal.lookup "co_triggered_models")
  failIf
    (models.length ≠ 0 ∨
      (canonicalSelection.action ≠ .shadowOnly ∧ canonicalSelection.action ≠ .none) ∨
      canonicalSelection.canonicalCandidateId ≠ none ∨
      canonicalSelection.canonicalEvidenceId ≠ none ∨ canonicalSelection.canonicalModel ≠ none)
    unreviewedPromotionAttempt

section Bundles

variable (canonicalSha256 : Json → String)

def verifyCanonicalDigests (evaluation : EntryEvaluationV3) : Except String Unit := do
  forAll
    (fun candidate =>
      failIf
        (candidateIdV3 canonicalSha256 candidate.toCandidateIdentityV3 ≠ candidate.candidateId)
        invalid)
    evaluation.candidates
  forAll
    (fun evidence =>
      failIf
        (evidencePayloadSha256V3 canonicalSha256 evidence.toEvidencePayloadFields ≠
            evidence.payloadSha256 ∨
          evidenceIdV3 canonicalSha256 evidence.toEvidencePayloadFields evidence.payloadSha256 ≠
            evidence.evidenceId)
        invalid)
    evaluation.evidence
  failIf
    (selectionIdV3 canonicalSha256 evaluation.selection.toSelectionIdentityV3 ≠
      evaluation.selection.selectionId)
    invalid

/-- The candidates and the evidence of a bundle. -/
def parseRecords (edgeDerived : Bool) (result : Fields) :
    Except String (List EntryCandidateV3 × List EntryCandidateEvidenceV3) := do
  let candidateValues ← values 0 3 (result.lookup "candidates")
  let candidates ← eachItem
    (if edgeDerived then parseEdgeDerivedCandidate canonicalSha256 else parseCandidate)
    candidateValues
  let evidenceValues ← values 0 12 (result.lookup "evidence")
  let evidence ← eachItem
    (if edgeDerived then parseEdgeDerivedEvidence canonicalSha256 candidates else parseEvidence)
    evidenceValues
  pure (candidates, evidence)

/-- The seed of the arbitration, and the selection that it has to give. -/
def parseSeed (edgeDerived : Bool) (candidates : List EntryCandidateV3) (result : Fields) :
    Except String (SelectionSeed × Option EntrySelectionV3) :=
  if edgeDerived then do
    let seed ← parseEdgeDerivedSelectionSeed (candidates.map (·.model))
      (result.lookup "selection_proposal")
    pure (seed, none)
  else do
    let selection ← parseSelection (result.lookup "selection_proposal")
    pure (⟨selection.setupId, selection.revision, selection.evaluatedAtEpoch⟩, some selection)

def parseBundle (unreviewedProducer : Bool) (schemaVersion : SchemaVersion) : Reader Bundle :=
  fun value => do
  let result ← object value
  exactKeys result setupBundleKeys
  let (setup, commonRuleResults) ←
    parseSetup unreviewedProducer schemaVersion (result.lookup "setup")
  let edgeDerived := bundleUsesEdgeDerivedIdentity result
  let (candidates, evidence) ← parseRecords canonicalSha256 edgeDerived result
  failIf
    (¬(candidates.map (·.candidateId)).Nodup ∨
      (edgeDerived ∧ ¬(candidates.map (·.model)).Nodup) ∨
      ¬(evidence.map (·.evidenceId)).Nodup ∨
      (edgeDerived ∧
        (evidence.length ≠ candidates.length ∨ ¬(evidence.map (·.candidateId)).Nodup)) ∨
      ∃ item ∈ candidates, item.setupId ≠ setup.setupId ∨ item.direction ≠ setup.direction)
    invalid
  let (seed, proposed) ← parseSeed edgeDerived candidates result
  failIf (seed.setupId ≠ setup.setupId) invalid
  let canonicalSelection ← arbitrateEntryCandidatesV3 canonicalSha256 setup.setupId candidates
    evidence setup.invalidatedBeforeEntry seed.revision seed.evaluatedAtEpoch none
    setup.liquidityCohort
  let proposal ← object (result.lookup "selection_proposal")
  let truthful ← truthfulOneCandleTerminal proposal
  failIf (setup.liquidityCohort = .oneCandle ∧ truthful = false)
    "ENTRY_V3_ONE_CANDLE_TERMINAL_MISMATCH"
  failIf (∃ selection ∈ proposed, canonicalSelection ≠ selection) invalid
  (if unreviewedProducer then
    validateUnreviewedBundle setup candidates evidence proposal canonicalSelection
  else .ok ())
  let evaluation : EntryEvaluationV3 :=
    ⟨sortBy (·.candidateId) candidates, sortBy (·.evidenceId) evidence, canonicalSelection⟩
  caught (validateEntryEvaluationV3 evaluation)
  verifyCanonicalDigests canonicalSha256 evaluation
  failIf
    (canonicalSelection.action = .paperEligible ∧
      (setup.commonFidelity ≠ .exact ∨ setup.invalidatedBeforeEntry = true ∨
        setup.zoneEngagedEpoch = none ∨
        ∃ item ∈ evaluation.evidence, ∃ trigger ∈ item.observedTriggerEpoch,
          ∃ engaged ∈ setup.zoneEngagedEpoch, trigger < engaged))
    invalid
  let tradePlan ← parseTradePlan setup.direction (result.lookup "trade_plan")
  pure { setup, commonRuleResults, evaluation, tradePlan }

end Bundles

/-! ## The authority of a paper selection -/

/-- The models of the selection: those that triggered together, or the canonical one. -/
def selectedModels (selection : EntrySelectionV3) : List EntryModelV3 :=
  if selection.coTriggeredModels.length = 0 then selection.canonicalModel.toList
  else selection.coTriggeredModels

/-- The exact evidence at the event of the canonical evidence, with its candidates. -/
def selectedAuthoritativePairs (evaluation : EntryEvaluationV3) :
    Except String (List EligiblePair) :=
  let selection := evaluation.selection
  if selection.action ≠ .paperEligible ∨ selection.canonicalCandidateId = none ∨
      selection.canonicalEvidenceId = none then .ok []
  else
    match evaluation.evidence.find?
      fun item => some item.evidenceId = selection.canonicalEvidenceId with
    | none => .error invalid
    | some canonical => do
      failIf (canonical.observedTriggerEpoch = none) invalid
      let atEvent := evaluation.evidence.filter fun item =>
        item.fidelity = .exact ∧ item.observedTriggerEpoch = canonical.observedTriggerEpoch ∧
          item.triggerSequence = canonical.triggerSequence
      let pairs ← atEvent.mapM fun item =>
        match evaluation.candidates.find? (·.candidateId = item.candidateId) with
        | none => .error invalid
        | some candidate => .ok ⟨candidate, item⟩
      pure (pairs.filter fun pair => pair.candidate.model ∈ selectedModels selection)

/-- The trigger is the entry of the plan and, for an entry decision, the market event. -/
def triggerFits (marketEvent : MarketEvent) (tradePlan : TradePlan) (eventRole : EventRole)
    (evidence : EntryCandidateEvidenceV3) : Bool :=
  evidence.observedTriggerTicks = some tradePlan.entryTicks ∧
    (eventRole = .entryDecision →
      evidence.observedTriggerEpoch = some marketEvent.epoch ∧
        evidence.triggerSequence = marketEvent.sequence ∧
        evidence.observedTriggerTicks = some marketEvent.tickPriceTicks)

/-- The trigger breaks the reference candle. -/
def bocAuthority (candidate : EntryCandidateV3) (evidence : EntryCandidateEvidenceV3) : Bool :=
  match candidate.referenceCandleOpenEpoch, evidence.referenceCandleHighTicks,
    evidence.referenceCandleLowTicks, evidence.observedTriggerTicks with
  | some reference, some high, some low, some trigger =>
    candidate.eventAnchorEpoch = reference ∧ reference % 300 = 0 ∧
      evidence.referenceCandleOpenEpoch = some reference ∧
      (if candidate.direction = .long then high < trigger else trigger < low)
  | _, _, _, _ => false

/-- The coverage is one bar that closes beyond the zone. -/
def closeAuthority (setup : SetupEntryFactsV3) (candidate : EntryCandidateV3)
    (evidence : EntryCandidateEvidenceV3) : Bool :=
  match evidence.observedTriggerTicks with
  | some trigger =>
    candidate.eventAnchorEpoch = evidence.coverageStartEpoch ∧
      candidate.eventAnchorEpoch % 300 = 0 ∧
      evidence.coverageEndEpoch - evidence.coverageStartEpoch = 300 ∧
      evidence.observedTriggerEpoch = some evidence.coverageEndEpoch ∧
      (if candidate.direction = .long then setup.zoneTopTicks < trigger
      else trigger < setup.zoneBottomTicks)
  | none => false

/-- That bar is the confirmed bar of the market event. -/
def closesConfirmedBar (marketEvent : MarketEvent) (candidate : EntryCandidateV3)
    (evidence : EntryCandidateEvidenceV3) : Bool :=
  match marketEvent.confirmedBar with
  | some bar =>
    marketEvent.barstateIsConfirmed ∧ candidate.eventAnchorEpoch = bar.openEpoch ∧
      bar.openEpoch = evidence.coverageStartEpoch ∧ bar.closeEpoch = evidence.coverageEndEpoch ∧
      evidence.observedTriggerEpoch = some bar.closeEpoch ∧
      evidence.observedTriggerTicks = some bar.closeTicks
  | none => false

/-- The contact touches the zone without crossing the open of the context, which the recross
does. -/
def flipAuthority (setup : SetupEntryFactsV3) (candidate : EntryCandidateV3)
    (evidence : EntryCandidateEvidenceV3) : Bool :=
  match evidence.contactCandle, evidence.recrossCandle, evidence.observedTriggerEpoch,
    evidence.htfOpenTicks with
  | some contact, some recross, some trigger, some htfOpen =>
    evidence.htfContextMinutes ≠ [] ∧
      (∀ context ∈ evidence.htfContextMinutes,
        candidate.eventAnchorEpoch % (context * 60) = 0 ∧
          candidate.eventAnchorEpoch ≤ contact.openEpoch ∧
          trigger < candidate.eventAnchorEpoch + context * 60) ∧
      evidence.coverageStartEpoch ≤ contact.openEpoch ∧
      contact.closeEpoch ≤ evidence.coverageEndEpoch ∧
      evidence.coverageStartEpoch ≤ recross.openEpoch ∧
      recross.closeEpoch ≤ evidence.coverageEndEpoch ∧ trigger = recross.closeEpoch ∧
      evidence.observedTriggerTicks = some recross.closeTicks ∧
      (if candidate.direction = .long then htfOpen < recross.closeTicks
      else recross.closeTicks < htfOpen) ∧
      (if candidate.direction = .long then contact.highTicks ≤ htfOpen
      else htfOpen ≤ contact.lowTicks) ∧
      contact.lowTicks ≤ setup.zoneTopTicks ∧ setup.zoneBottomTicks ≤ contact.highTicks
  | _, _, _, _ => false

/-- What the loop over the pairs asks of one of them. -/
def modelAuthority (setup : SetupEntryFactsV3) (marketEvent : MarketEvent)
    (eventRole : EventRole) (pair : EligiblePair) : Bool :=
  match pair.candidate.model with
  | .boc => bocAuthority pair.candidate pair.evidence
  | .dirClose =>
    closeAuthority setup pair.candidate pair.evidence &&
      (eventRole = .exitFollowup || closesConfirmedBar marketEvent pair.candidate pair.evidence)
  | .htfFlip => flipAuthority setup pair.candidate pair.evidence

def validateAuthoritativePaperFacts (bundle : Bundle) (marketEvent : MarketEvent)
    (eventRole : EventRole) : Except String Unit := do
  let pairs ← selectedAuthoritativePairs bundle.evaluation
  if bundle.evaluation.selection.action = .paperEligible then
    failIf
      (pairs = [] ∨
        (∃ pair ∈ pairs,
          triggerFits marketEvent bundle.tradePlan eventRole pair.evidence = false) ∨
        (eventRole = .entryDecision ∧
          bundle.tradePlan.entryTicks ≠ marketEvent.tickPriceTicks))
      invalid
    failIf (∃ pair ∈ pairs, modelAuthority bundle.setup marketEvent eventRole pair = false) invalid

/-! ## Events -/

def parseMarketEvent : Reader MarketEvent := fun value => do
  let result ← object value
  exactKeys result marketEventKeys
  let barstateIsConfirmed ← boolean (result.lookup "barstate_isconfirmed")
  let confirmedBar ← nullable (parseCandle true) (result.lookup "confirmed_bar")
  failIf (barstateIsConfirmed ≠ confirmedBar.isSome) invalid
  let epoch ← integer 0 (result.lookup "epoch")
  let sequence ← integer 0 (result.lookup "sequence")
  let tickPriceTicks ← signedInteger (result.lookup "tick_price_ticks")
  failIf
    (∃ bar ∈ confirmedBar, epoch ≠ bar.closeEpoch ∨ tickPriceTicks ≠ bar.closeTicks) invalid
  pure { epoch, sequence, tickPriceTicks, barstateIsConfirmed, confirmedBar }

def exitReasons : List ExitReason := [.stopLoss, .target, .ambiguousSameBarExit]

def parseExitEvent : Reader ExitEvent := fun value => do
  let result ← object value
  exactKeys result exitEventKeys
  let exitReason ← named exitReasonName exitReasons (result.lookup "exit_reason")
  let eventId ← identifier (result.lookup "event_id")
  let setupId ← identifier (result.lookup "setup_id")
  let epoch ← integer 0 (result.lookup "epoch")
  let sequence ← integer 0 (result.lookup "sequence")
  let priceTicks ← signedInteger (result.lookup "price_ticks")
  pure { eventId, setupId, exitReason, epoch, sequence, priceTicks }

def validatedExitCausalEpoch (bundle : Bundle) : Except String Int :=
  let selection := bundle.evaluation.selection
  match selection.canonicalEvidenceId with
  | none => .ok selection.evaluatedAtEpoch
  | some id =>
    match bundle.evaluation.evidence.find? (·.evidenceId = id) with
    | none => .error invalid
    | some evidence => .ok (evidence.observedTriggerEpoch.getD selection.evaluatedAtEpoch)

/-- Which levels a position of a direction reaches: by the extremes of a closed bar, or by one
price. -/
def levelHits (direction : EntryDirectionV3) (low high stopTicks targetTicks : Int) : Bool × Bool :=
  match direction with
  | .long => (low ≤ stopTicks, high ≥ targetTicks)
  | .short => (high ≥ stopTicks, low ≤ targetTicks)

def exitLevelHits (bundle : Bundle) (marketEvent : MarketEvent) (isRealtime : Bool) :
    Bool × Bool :=
  let plan := bundle.tradePlan
  match isRealtime, marketEvent.confirmedBar with
  | false, some bar =>
    levelHits plan.direction bar.lowTicks bar.highTicks plan.stopTicks plan.targetTicks
  | _, _ =>
    levelHits plan.direction marketEvent.tickPriceTicks marketEvent.tickPriceTicks plan.stopTicks
      plan.targetTicks

def validateExitEvent (isRealtime : Bool) (marketEvent : MarketEvent)
    (entryBundles : List Bundle) (event : ExitEvent) : Except String Unit :=
  match entryBundles.reverse.find? (·.setup.setupId = event.setupId) with
  | none => .error "ENTRY_V3_EXIT_NOT_CAUSAL"
  | some bundle => do
    failIf
      (event.epoch ≠ marketEvent.epoch ∨ event.sequence ≠ marketEvent.sequence ∨
        event.priceTicks ≠ marketEvent.tickPriceTicks)
      "ENTRY_V3_EXIT_NOT_CAUSAL"
    let causalEpoch ← validatedExitCausalEpoch bundle
    failIf (event.epoch < causalEpoch) "ENTRY_V3_EXIT_NOT_CAUSAL"
    let (stopHit, targetHit) := exitLevelHits bundle marketEvent isRealtime
    match event.exitReason with
    | .ambiguousSameBarExit =>
      failIf
        (isRealtime = true ∨ marketEvent.barstateIsConfirmed = false ∨
          marketEvent.confirmedBar = none)
        "ENTRY_V3_AMBIGUOUS_EXIT_NOT_HISTORICAL"
      failIf (stopHit = false ∨ targetHit = false) "ENTRY_V3_AMBIGUOUS_EXIT_NOT_CAUSAL"
    | reason =>
      failIf
        ((isRealtime = false ∧
            (marketEvent.barstateIsConfirmed = false ∨ marketEvent.confirmedBar = none)) ∨
          (isRealtime = false ∧ stopHit = true ∧ targetHit = true) ∨
          (if reason = .stopLoss then stopHit = false else targetHit = false))
        "ENTRY_V3_EXIT_LEVEL_NOT_HIT"

/-- Two lists of setup ids that are the same text once they are sorted and joined. -/
def SameSetups (ids ids' : List JsString) : Prop :=
  [0].intercalate (sortBy (·.map UInt16.toNat) ids) =
    [0].intercalate (sortBy (·.map UInt16.toNat) ids')

instance decidableSameSetups (ids ids' : List JsString) : Decidable (SameSetups ids ids') :=
  inferInstanceAs (Decidable (_ = _))

def validateExitFollowup (exitEvents : List ExitEvent) (isRealtime : Bool)
    (marketEvent : MarketEvent) (entryBundles : List Bundle) : Except String Unit :=
  if exitEvents.length = 0 then .ok ()
  else do
    failIf (¬(exitEvents.map (·.eventId)).Nodup ∨ ¬(exitEvents.map (·.setupId)).Nodup)
      "ENTRY_V3_EXIT_EVENT_CONFLICT"
    failIf
      (¬SameSetups (exitEvents.map (·.setupId)) (entryBundles.map (·.setup.setupId)))
      "ENTRY_V3_EXIT_SETUP_MISMATCH"
    forAll (validateExitEvent isRealtime marketEvent entryBundles) exitEvents

/-! ## Payloads -/

def maxPayloadCharacters : Nat := 35000

/-- `POSITIVE_DECIMAL`, the pattern `^(?:0\.[0-9]*[1-9][0-9]*|[1-9][0-9]*(?:\.[0-9]+)?)$`. -/
def positiveDecimal (value : String) : Bool :=
  let digits (chars : List Char) : Bool := chars.all Char.isDigit
  let whole := value.toList.takeWhile (· ≠ '.')
  match whole, value.toList.drop whole.length with
  | ['0'], '.' :: fraction => digits fraction ∧ fraction.any (· ≠ '0')
  | first :: rest, [] => first.isDigit ∧ first ≠ '0' ∧ digits rest
  | first :: rest, '.' :: fraction =>
    first.isDigit ∧ first ≠ '0' ∧ digits rest ∧ fraction ≠ [] ∧ digits fraction
  | _, _ => false

/-- The schema with the versions that belong to it. -/
def parseVersions (payload : Fields) : Except String SchemaVersion := do
  let is (key text : String) : Bool := isText (payload.lookup key) text
  let isLegacyV30 := is "schema_version" "3.0" && is "strategy_version" "3.0.0-contract3" &&
    is "rule_contract_version" "3.0.0"
  let isCohortAwareV31 := is "schema_version" "3.1" && is "strategy_version" "3.1.0-contract3" &&
    is "rule_contract_version" "3.1.0"
  failIf
    ((isLegacyV30 = false ∧ isCohortAwareV31 = false) ∨
      is "strategy_id" "rd_liquidity_sd_5m_v1" = false ∨
      is "execution_mode" "PAPER_ONLY" = false ∨ is "timeframe" "5" = false)
    invalid
  pure (if isLegacyV30 then .v30 else .v31)

/-- The hashes of the producer, or the two markers of one that was not reviewed. -/
def parseHashes (payload : Fields) : Except String (Bool × String × String) := do
  let detectorUnreviewed := isText (payload.lookup "detector_code_hash") "UNREVIEWED"
  let settingsUnreviewed := isText (payload.lookup "settings_hash") "UNREVIEWED"
  failIf (detectorUnreviewed ≠ settingsUnreviewed) "ENTRY_V3_PROMOTION_IDENTITY_MISMATCH"
  if detectorUnreviewed then pure (true, "UNREVIEWED", "UNREVIEWED")
  else do
    let detectorCodeHash ← digest (payload.lookup "detector_code_hash")
    let settingsHash ← digest (payload.lookup "settings_hash")
    pure (false, detectorCodeHash, settingsHash)

/-- The epochs and the authority of a bundle, against the rest of the payload. -/
def validateBundle (isRealtime : Bool) (observedAtEpoch : Int) (marketEvent : MarketEvent)
    (eventRole : EventRole) (bundle : Bundle) : Except String Unit := do
  failIf
    ((∃ candidate ∈ bundle.evaluation.candidates, candidate.observedAtEpoch > observedAtEpoch) ∨
      (∃ evidence ∈ bundle.evaluation.evidence,
        evidence.observedAtEpoch > observedAtEpoch ∨
          (eventRole = .entryDecision ∧ evidence.proofPlane = .realtimeTick ∧
            isRealtime = false)) ∨
      bundle.evaluation.selection.evaluatedAtEpoch > observedAtEpoch)
    invalid
  validateAuthoritativePaperFacts bundle marketEvent eventRole

def schemaVersionName : SchemaVersion → String
  | .v30 => "3.0"
  | .v31 => "3.1"

def strategyVersionName : SchemaVersion → String
  | .v30 => "3.0.0-contract3"
  | .v31 => "3.1.0-contract3"

def validateEntryV3Payload (canonicalSha256 : Json → String) (raw : StrictJson) :
    Except String Observation := do
  failIf (raw.plain = false) invalid
  failIf (raw.serializedLength ≥ maxPayloadCharacters) "ENTRY_V3_MESSAGE_TOO_LARGE"
  let payload ← object (some raw)
  exactKeys payload topLevelKeys
  let schemaVersion ← parseVersions payload
  let producerInstanceId ← identifier (payload.lookup "producer_instance_id")
  let producerSequence ← integer 0 (payload.lookup "producer_sequence")
  let eventId ← identifier (payload.lookup "event_id")
  let isRealtime ← boolean (payload.lookup "is_realtime")
  let symbol ← identifier (payload.lookup "symbol")
  let tickerId ← identifier (payload.lookup "ticker_id")
  let feed ← identifier (payload.lookup "feed")
  let tickSize ← text 64 (payload.lookup "tick_size")
  failIf (positiveDecimal tickSize = false) invalid
  let (unreviewedProducer, detectorCodeHash, settingsHash) ← parseHashes payload
  let observedAtEpoch ← integer 0 (payload.lookup "observed_at_epoch")
  let marketEvent ← parseMarketEvent (payload.lookup "market_event")
  failIf (marketEvent.epoch > observedAtEpoch) invalid
  let exitValues ← values 0 32 (payload.lookup "exit_events")
  let exitEvents ← eachItem parseExitEvent exitValues
  let eventRole : EventRole := if exitEvents.length = 0 then .entryDecision else .exitFollowup
  let setupValues ← values 1 32 (payload.lookup "setups")
  let entryBundles ←
    eachItem (parseBundle canonicalSha256 unreviewedProducer schemaVersion) setupValues
  failIf (¬(entryBundles.map (·.setup.setupId)).Nodup) invalid
  validateExitFollowup exitEvents isRealtime marketEvent entryBundles
  forAll (validateBundle isRealtime observedAtEpoch marketEvent eventRole) entryBundles
  pure
    { metadata :=
        { idempotencyKey := eventId
          schemaVersion := schemaVersionName schemaVersion
          strategyId := "rd_liquidity_sd_5m_v1"
          strategyVersion := strategyVersionName schemaVersion
          producerInstanceId
          sequence := producerSequence
          symbol
          tickerId
          feed
          timeframe := "5"
          kind := .incremental }
      eventRole
      producerSequence
      eventId
      isRealtime
      detectorCodeHash
      settingsHash
      tickSize
      observedAtEpoch
      marketEvent
      exitEvents
      entryBundles }

end TradeOps.EntryV3
