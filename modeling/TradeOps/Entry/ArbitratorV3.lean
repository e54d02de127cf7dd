import TradeOps.Entry.MatcherV3
import TradeOps.Lib.Keyed

/-!
# Arbitration between entry candidates

Embeds `rd-entry-arbitrator-v3.ts`: which candidate and evidence records form an exact trigger, the
choice of the earliest one and the evaluation of a whole input. Identifiers are compared by code
point; two records have the same JSON text when they are equal.

The loop that collects the eligible evidence and the choice among the eligible pairs are written
over the eligibility predicate: the Python implementation has the same shape.
-/

namespace TradeOps.Entry

open Checks Keyed SortBy

structure EligiblePair where
  candidate : EntryCandidateV3
  evidence : EntryCandidateEvidenceV3
  deriving DecidableEq, Repr

/-- Events are ordered by trigger epoch, then by sequence. -/
abbrev EventKey := Int ×ₗ Int

/-- The event of eligible evidence, which always has a trigger epoch
(`triggerEpoch_of_exactEligibleV3`). -/
def eventKey (evidence : EntryCandidateEvidenceV3) : EventKey :=
  toLex (evidence.observedTriggerEpoch.getD 0, evidence.triggerSequence)

/-- Evidence of one candidate is ordered by event, then by evidence id. -/
def evidenceKey (evidence : EntryCandidateEvidenceV3) : EventKey ×ₗ String :=
  toLex (eventKey evidence, evidence.evidenceId)

/-- Pairs are ordered by event, then by candidate id. -/
def pairKey (pair : EligiblePair) : EventKey ×ₗ String :=
  toLex (eventKey pair.evidence, pair.candidate.candidateId)

/-! ## Exact eligibility -/

/-- The reference candle is aligned, anchors the event and closed before the trigger candle, which
opens on a boundary of every context. -/
def bocGeometryV3 (candidate : EntryCandidateV3) (evidence : EntryCandidateEvidenceV3)
    (trigger : Int) : Bool :=
  match candidate.referenceCandleOpenEpoch, evidence.referenceCandleOpenEpoch with
  | some candidateReference, some reference =>
    let triggerOpen := trigger / 300 * 300
    candidate.bocTier = some .htfTimed ∧ candidate.eventAnchorEpoch = candidateReference ∧
      candidateReference % 300 = 0 ∧ ¬ reference + 300 > triggerOpen ∧
      evidence.htfContextMinutes ≠ [] ∧
      ∀ context ∈ evidence.htfContextMinutes, triggerOpen % (context * 60) = 0
  | _, _ => false

/-- The coverage is one five-minute bar that opens at the anchor and closes at the trigger. -/
def closeGeometryV3 (candidate : EntryCandidateV3) (evidence : EntryCandidateEvidenceV3)
    (trigger : Int) : Bool :=
  candidate.eventAnchorEpoch = evidence.coverageStartEpoch ∧
    evidence.coverageEndEpoch - evidence.coverageStartEpoch = 300 ∧
    trigger = evidence.coverageEndEpoch

/-- A complete ordered lifecycle whose recross, and not its contact, crossed the open. -/
def flipGeometryV3 (candidate : EntryCandidateV3) (evidence : EntryCandidateEvidenceV3)
    (trigger : Int) : Bool :=
  match evidence.htfOpenTicks, evidence.contactCandle, evidence.recrossCandle with
  | some htfOpen, some contact, some recross =>
    let recrossed :=
      if candidate.direction = .long then recross.closeTicks > htfOpen
      else recross.closeTicks < htfOpen
    let contactAlreadyRecrossed :=
      if candidate.direction = .long then contact.highTicks > htfOpen
      else contact.lowTicks < htfOpen
    evidence.coverageGapDetected = some false ∧ evidence.fullLifecycleOrdered = some true ∧
      evidence.destinationSeenBeforeContact = some false ∧ recrossed ∧
      ¬ contactAlreadyRecrossed ∧ ¬ candidate.eventAnchorEpoch > contact.openEpoch ∧
      evidence.htfContextMinutes ≠ [] ∧
      ¬ ∃ context ∈ evidence.htfContextMinutes,
        trigger ≥ candidate.eventAnchorEpoch + context * 60
  | _, _, _ => false

/-- The geometry of the candidate's model. -/
def geometryV3 (candidate : EntryCandidateV3) (evidence : EntryCandidateEvidenceV3)
    (trigger : Int) : Bool :=
  match candidate.model with
  | .boc => bocGeometryV3 candidate evidence trigger
  | .dirClose => closeGeometryV3 candidate evidence trigger
  | .htfFlip => flipGeometryV3 candidate evidence trigger

/-- The proof planes on which a model may trigger exactly. -/
def planeEligibleV3 (model : EntryModelV3) (evidence : EntryCandidateEvidenceV3) : Bool :=
  evidence.proofPlane = .lowerTimeframeReplay ∨ evidence.proofPlane = .externalArchivedTick ∨
    (evidence.proofPlane = .realtimeTick ∧ evidence.replayability = .liveExactNonReplayable) ∨
    (model = .dirClose ∧ evidence.proofPlane = .confirmed5m ∧
      evidence.replayability = .replayable)

def exactEligibleV3 (candidate : EntryCandidateV3) (evidence : EntryCandidateEvidenceV3) : Bool :=
  match evidence.observedTriggerEpoch with
  | none => false
  | some trigger =>
    candidate.state = .matched ∧ evidence.fidelity = .exact ∧ evidence.ambiguityCodes = [] ∧
      evidence.passedRuleIds = [expectedRules candidate.model] ∧ evidence.failedRuleIds = [] ∧
      evidence.bocTier = candidate.bocTier ∧
      evidence.referenceCandleOpenEpoch = candidate.referenceCandleOpenEpoch ∧
      geometryV3 candidate evidence trigger ∧
      ¬ (candidate.model ≠ .htfFlip ∧ true ∈ evidence.flipPresent) ∧
      planeEligibleV3 candidate.model evidence

/-! ## Collecting the eligible pairs -/

/-- Go through the evidence in order and push what is eligible onto the group of its candidate. -/
def groupEligible
    (eligible : EntryCandidateV3 → EntryCandidateEvidenceV3 → Except String Bool)
    (unknown : EntryCandidateEvidenceV3 → String) (candidatesById : List EntryCandidateV3) :
    List EntryCandidateEvidenceV3 → List (String × List EntryCandidateEvidenceV3) →
      Except String (List (String × List EntryCandidateEvidenceV3))
  | [], grouped => .ok grouped
  | item :: rest, grouped =>
    match lookup (·.candidateId) candidatesById item.candidateId with
    | none => .error (unknown item)
    | some candidate => do
      let isEligible ← eligible candidate item
      groupEligible eligible unknown candidatesById rest
        (if isEligible then push candidate.candidateId item grouped else grouped)

/-- The pair of a group: its candidate and the evidence that `pick` chooses. -/
def pairOf (pick : List EntryCandidateEvidenceV3 → Option EntryCandidateEvidenceV3)
    (candidatesById : List EntryCandidateV3)
    (group : String × List EntryCandidateEvidenceV3) : Option EligiblePair := do
  let candidate ← lookup (·.candidateId) candidatesById group.1
  let evidence ← pick group.2
  some ⟨candidate, evidence⟩

/-- The messages of the collecting loops. -/
structure CollectMessages where
  setup : String
  candidate : EntryCandidateV3 → String
  evidence : EntryCandidateEvidenceV3 → String
  unknown : EntryCandidateEvidenceV3 → String

/-- Index the candidates and the evidence and sort the eligible pairs. -/
def collectPairs (messages : CollectMessages)
    (eligible : EntryCandidateV3 → EntryCandidateEvidenceV3 → Except String Bool)
    (pick : List EntryCandidateEvidenceV3 → Option EntryCandidateEvidenceV3) (setupId : JsString)
    (candidates : List EntryCandidateV3) (evidence : List EntryCandidateEvidenceV3) :
    Except String (List EntryCandidateV3 × List EligiblePair) := do
  let candidatesById ← index (·.candidateId)
    (fun candidate => failIf (candidate.setupId ≠ setupId) messages.setup) messages.candidate
    candidates
  let evidenceById ← index (·.evidenceId) (fun _ => .ok ()) messages.evidence evidence
  let grouped ← groupEligible eligible messages.unknown candidatesById evidenceById []
  pure (candidatesById, sortBy pairKey (grouped.filterMap (pairOf pick candidatesById)))

/-! ## Choosing -/

section Arbitration

variable (canonicalSha256 : Json → String)

/-- What a selection is made for: the same in every branch. -/
structure SelectionContext where
  setupId : JsString
  revision : Int
  evaluatedAtEpoch : Int
  candidateIdsConsidered : List String

def selection (context : SelectionContext) (canonical : Option EligiblePair)
    (reason : SelectionReasonV3) (action : SelectionActionV3)
    (coTriggeredModels : List EntryModelV3) : EntrySelectionV3 :=
  let identity : SelectionIdentityV3 :=
    { setupId := context.setupId
      policyVersion := policyVersionV3
      revision := context.revision
      candidateIdsConsidered := context.candidateIdsConsidered
      canonicalCandidateId := canonical.map (·.candidate.candidateId)
      canonicalEvidenceId := canonical.map (·.evidence.evidenceId)
      reason := reason
      fidelity := canonical.map (·.evidence.fidelity)
      action := action
      coTriggeredModels := coTriggeredModels }
  { toSelectionIdentityV3 := identity
    selectionId := selectionIdV3 canonicalSha256 identity
    canonicalModel := canonical.map (·.candidate.model)
    evaluatedAtEpoch := context.evaluatedAtEpoch }

/-- The pairs at the event of the first pair. -/
def earliestOf (first : EligiblePair) (eligible : List EligiblePair) : List EligiblePair :=
  eligible.filter fun pair => eventKey pair.evidence = eventKey first.evidence

/-- Some BOC or flip candidate is not among the eligible ones. -/
def hasBlockedAggressive (candidatesById : List EntryCandidateV3) (eligible : List EligiblePair) :
    Bool :=
  candidatesById.any fun candidate =>
    (candidate.model = .boc ∨ candidate.model = .htfFlip) ∧
      candidate.candidateId ∉ eligible.map (·.candidate.candidateId)

/-- The selection among eligible pairs that are sorted by `pairKey`. -/
def chooseEarliest (context : SelectionContext) (candidatesById : List EntryCandidateV3)
    (first : EligiblePair) (eligible : List EligiblePair) : EntrySelectionV3 :=
  let earliest := earliestOf first eligible
  let models := (earliest.map (·.candidate.model)).dedup
  if models.length > 1 then
    if (earliest.map (·.evidence.observedTriggerTicks)).dedup.length > 1 then
      selection canonicalSha256 context none .coTriggerPriceConflict .shadowOnly []
    else
      selection canonicalSha256 context (sortBy (·.candidate.candidateId) earliest).head?
        .coTriggerSameEvent .paperEligible (sortBy (·.name) models)
  else
    let reason : SelectionReasonV3 :=
      if first.candidate.model = .dirClose ∧ hasBlockedAggressive candidatesById eligible then
        .fallbackToConfirmedClose
      else if candidatesById.length = 1 then .onlyExactTrigger
      else .earliestExactTrigger
    selection canonicalSha256 context earliest.head? reason .paperEligible []

/-- The decision once candidates are indexed and the eligible pairs sorted. -/
def chooseSelection (setupId : JsString) (candidatesById : List EntryCandidateV3)
    (eligible : List EligiblePair) (setupInvalidated : Bool) (revision evaluatedAtEpoch : Int)
    (liquidityCohort : LiquidityCohortV3) : EntrySelectionV3 :=
  let context : SelectionContext :=
    ⟨setupId, revision, evaluatedAtEpoch, sortBy id (candidatesById.map (·.candidateId))⟩
  if setupInvalidated then
    selection canonicalSha256 context none .setupInvalidated .none []
  else if candidatesById.length = 0 then
    selection canonicalSha256 context none .noCandidate .none []
  else
    match eligible with
    | [] => selection canonicalSha256 context none .noExactCandidate .shadowOnly []
    | first :: _ =>
      if liquidityCohort = .oneCandle then
        selection canonicalSha256 context none .noExactCandidate .shadowOnly []
      else chooseEarliest canonicalSha256 context candidatesById first eligible

/-- The checks on the scalar arguments of `arbitrateEntryCandidatesV3`. -/
def validateRequestV3 (setupId : JsString) (candidates : List EntryCandidateV3)
    (evidence : List EntryCandidateEvidenceV3) (revision evaluatedAtEpoch : Int) :
    Except String Unit :=
  failIf
    (setupId = [] ∨ trim setupId ≠ setupId ∨ ¬ isSafeInteger revision ∨ revision < 0 ∨
      ¬ isSafeInteger evaluatedAtEpoch ∨ evaluatedAtEpoch < 0 ∨
      (∃ candidate ∈ candidates, candidate.observedAtEpoch > evaluatedAtEpoch) ∨
      ∃ item ∈ evidence, item.observedAtEpoch > evaluatedAtEpoch)
    "invalid v3 arbitration request"

def collectMessagesV3 : CollectMessages where
  setup := "candidate setup_id conflicts with arbitration"
  candidate := fun _ => "candidate identity conflict"
  evidence := fun _ => "evidence identity conflict"
  unknown := fun _ => "evidence references unknown candidate"

/-- The collecting loops, which take the first of the sorted evidence of a candidate. -/
def collectPairsV3 (setupId : JsString) (candidates : List EntryCandidateV3)
    (evidence : List EntryCandidateEvidenceV3) :
    Except String (List EntryCandidateV3 × List EligiblePair) :=
  collectPairs collectMessagesV3 (fun candidate item => .ok (exactEligibleV3 candidate item))
    (fun values => (sortBy evidenceKey values).head?) setupId candidates evidence

def arbitrateEntryCandidatesV3 (setupId : JsString) (candidates : List EntryCandidateV3)
    (evidence : List EntryCandidateEvidenceV3) (setupInvalidated : Bool)
    (revision evaluatedAtEpoch : Int) (openedSelection : Option EntrySelectionV3)
    (liquidityCohort : LiquidityCohortV3) : Except String EntrySelectionV3 := do
  validateRequestV3 setupId candidates evidence revision evaluatedAtEpoch
  match openedSelection with
  | some opened =>
    failIf
      (liquidityCohort = .oneCandle ∨ opened.setupId ≠ setupId ∨
        opened.action ≠ .paperEligible ∨ opened.evaluatedAtEpoch > evaluatedAtEpoch)
      "invalid opened v3 selection"
    pure opened
  | none =>
    let (candidatesById, eligible) ← collectPairsV3 setupId candidates evidence
    pure (chooseSelection canonicalSha256 setupId candidatesById eligible setupInvalidated revision
      evaluatedAtEpoch liquidityCohort)

/-! ## Evaluating an input -/

/-- The request that an input makes of the matchers. -/
def EntryArbitrationInputV3.matchRequest (input : EntryArbitrationInputV3) :
    EntryMatchRequestV3 where
  setup := input.setupFacts
  bocProof := input.bocProof
  directionalClose := input.directionalClose
  confirmedBar := input.confirmedBar
  closeTriggerSequence := input.closeTriggerSequence
  htfFlipProof := input.htfFlipProof
  observedAtEpoch := input.observedAtEpoch

def evaluateWithoutOpenedSeed (input : EntryArbitrationInputV3) :
    Except String EntryEvaluationV3 := do
  let matched ← matchEntryCandidatesV3 canonicalSha256 input.matchRequest
  let selected ← arbitrateEntryCandidatesV3 canonicalSha256 input.setupId matched.candidates
    matched.evidence input.setupInvalidated input.revision input.evaluatedAtEpoch none
    (input.liquidityCohort.getD .twoPlusCandles)
  let result : EntryEvaluationV3 := ⟨matched.candidates, matched.evidence, selected⟩
  validateEntryEvaluationV3 result
  pure result

def evaluateEntryV3Bundle (input : EntryArbitrationInputV3) : Except String EntryEvaluationV3 := do
  validateEntryArbitrationInputV3 input
  match input.openedSelectionSeed with
  | none => evaluateWithoutOpenedSeed canonicalSha256 input
  | some seed =>
    evaluateWithoutOpenedSeed canonicalSha256
      { input with
        commonFidelity := .exact
        setupInvalidated := false
        bocProof := none
        directionalClose := true
        confirmedBar := some seed.confirmedBar
        closeTriggerSequence := seed.triggerSequence
        htfFlipProof := none
        observedAtEpoch := seed.evaluatedAtEpoch
        revision := seed.revision
        evaluatedAtEpoch := seed.evaluatedAtEpoch
        openedSelectionSeed := none }

end Arbitration

end TradeOps.Entry
