import TradeOps.EntryV3.Tables
import TradeOps.Lib.Doubles

/-!
# What the v3 entry store decides

Embeds the pure part of `rd-entry-store-v3.ts`: the prepared paper intents, the effective action of
a selection, the shadow pairs, the rows of a bundle and what an exit does to a link or to a shadow
position. Numbers of a double that are not integers occur in one place, the quotient of
`targetRMillis`, which is rounded as a double is.
-/

namespace TradeOps.EntryV3

open Checks SortBy Entry
open JsString (js)
open scoped JsString

/-! ## The environment -/

/-- What `parsePaperConfiguration` makes of the variables. The accounts stand in the order of
`localeCompare`. -/
structure PaperConfiguration where
  accountIds : List String
  riskBps : Int
  nodup : accountIds.Nodup
  nonempty : accountIds ≠ []
  bounds : 1 ≤ riskBps ∧ riskBps ≤ 500

/-- The variables of the environment and the digest of canonical JSON. -/
structure Env where
  detectorCodeHash : Option String
  reviewedSettingsHashForTicker : String → Option String
  paperConfiguration : Option PaperConfiguration
  paperIntentCreationEnabled : Bool
  isToday : String → Bool
  canonicalSha256 : Json → String

/-- The identifiers and the time that an attempt draws. -/
structure Drawn where
  receiptId : String
  recordedAt : String
  allocationId : String → String → String

/-- `NONZERO_SHA256`. -/
def nonzeroSha256 (value : String) : Bool := sha256Text value ∧ value ≠ zeroSha256

def reviewedIdentityMatches (env : Env) (o : Observation) : Bool :=
  (env.detectorCodeHash.any fun hash => nonzeroSha256 hash ∧ o.detectorCodeHash = hash) &&
    (env.reviewedSettingsHashForTicker o.metadata.tickerId).any fun hash => o.settingsHash = hash

def qualifiedId (env : Env) (eventId kind : String) (id : JsString) : String :=
  env.canonicalSha256
    (.obj [("event_id", .str eventId), ("kind", .str kind), ("logical_id", .str id)])

/-! ## Paper intents -/

/-- `PaperTradeIntentCommand`. -/
structure PaperIntent where
  intentId : String
  symbol : String
  side : Side
  entryPrice : String
  stopLoss : String
  takeProfit : String
  riskBps : Int
  accountIds : List String
  deriving DecidableEq, Repr

def sideName : Side → String
  | .buy => "BUY"
  | .sell => "SELL"

def PaperIntent.json (intent : PaperIntent) : Json :=
  .obj [("schema_version", .str "1.0"), ("intent_id", .str intent.intentId),
    ("symbol", .str intent.symbol), ("side", .str (sideName intent.side)),
    ("entry_price", .str intent.entryPrice), ("stop_loss", .str intent.stopLoss),
    ("take_profit", .str intent.takeProfit), ("risk_bps", .num intent.riskBps),
    ("account_ids", .strs (intent.accountIds.map js))]

/-- The digits before and after the point. -/
def decimalParts (value : String) : List Char × List Char :=
  let whole := value.toList.takeWhile (· ≠ '.')
  (whole, value.toList.drop (whole.length + 1))

def ticksToDecimal (ticks : Int) (tickSize : String) : Option String :=
  if ¬isSafeInteger ticks ∨ ticks ≤ 0 then none
  else
    let (whole, fractional) := decimalParts tickSize
    let scale := fractional.length
    let units := Nat.ofDigitChars 10 (whole ++ fractional) 0 * ticks.toNat
    let digits := Nat.toDigits 10 units
    let padded := List.replicate (scale + 1 - digits.length) '0' ++ digits
    let integer := padded.take (padded.length - scale)
    let fraction := ((padded.drop (padded.length - scale)).reverse.dropWhile (· = '0')).reverse
    some (String.ofList (if fraction = [] then integer else integer ++ '.' :: fraction))

/-- `DECIMAL_PRICE`, the pattern `^(?:0|[1-9][0-9]{0,11})(?:\.[0-9]{1,8})?$`. -/
def decimalPrice (value : String) : Bool :=
  let (whole, fractional) := decimalParts value
  whole.all Char.isDigit ∧ whole ≠ [] ∧ whole.length ≤ 12 ∧
    (whole = ['0'] ∨ whole.head? ≠ some '0') ∧ fractional.all Char.isDigit ∧
    fractional.length ≤ 8 ∧ (fractional = [] → value.toList = whole)

/-- The value in units of `10 ^ -8`. -/
def scaledPrice (value : String) : Nat :=
  let (whole, fractional) := decimalParts value
  Nat.ofDigitChars 10 (whole ++ fractional) 0 * 10 ^ (8 - fractional.length)

def validPrice (value : String) : Bool := decimalPrice value ∧ 0 < scaledPrice value

/-- `SYMBOL` with its length. -/
def validSymbol (value : String) : Bool :=
  value.toList ≠ [] ∧ value.toList.length ≤ 32 ∧ value.toList.all fun c =>
    ('A' ≤ c ∧ c ≤ 'Z') ∨ ('0' ≤ c ∧ c ≤ '9') ∨ c = '.' ∨ c = '_' ∨ c = ':' ∨ c = '-'

/-- The checks of `validatePaperTradeIntent` that a command of the store can fail. -/
def validatePaperTradeIntent (intent : PaperIntent) : Bool :=
  let entry := scaledPrice intent.entryPrice
  let stop := scaledPrice intent.stopLoss
  let target := scaledPrice intent.takeProfit
  validPrice intent.entryPrice ∧ validPrice intent.stopLoss ∧ validPrice intent.takeProfit ∧
    (if intent.side = .buy then stop < entry ∧ entry < target
      else entry < stop ∧ target < entry) ∧
    validSymbol intent.symbol ∧ intent.accountIds.length ≤ 50

def paperIntentId (bundle : Bundle) : String :=
  "rd-entry-v3:" ++ bundle.evaluation.selection.selectionId

def validatedPaperIntent (o : Observation) (bundle : Bundle) (evidence : EntryCandidateEvidenceV3)
    (configuration : PaperConfiguration) : Option PaperIntent := do
  let entryTicks ← evidence.observedTriggerTicks
  let entryPrice ← ticksToDecimal entryTicks o.tickSize
  let stopLoss ← ticksToDecimal bundle.tradePlan.stopTicks o.tickSize
  let takeProfit ← ticksToDecimal bundle.tradePlan.targetTicks o.tickSize
  let intent : PaperIntent :=
    { intentId := paperIntentId bundle
      symbol := o.metadata.symbol
      side := if bundle.setup.direction = .long then .buy else .sell
      entryPrice, stopLoss, takeProfit
      riskBps := configuration.riskBps
      accountIds := configuration.accountIds }
  if validatePaperTradeIntent intent then some intent else none

def selectedEvidence (bundle : Bundle) : Option EntryCandidateEvidenceV3 := do
  let id ← bundle.evaluation.selection.canonicalEvidenceId
  bundle.evaluation.evidence.find? (·.evidenceId = id)

/-! ## Preflight -/

/-- What an attempt knows before it goes through the bundles. -/
structure Preflight where
  identityMatches : Bool
  links : List LinkRow
  experimentalOwners : List JsString
  configurationUsable : Bool
  forceConfigurationUnavailable : Bool

def Preflight.existingLink (preflight : Preflight) (setupId : JsString) : Option LinkRow :=
  preflight.links.find? (·.setupId = setupId)

/-- An entry of `preparedPaperIntents`. -/
structure PreparedIntent where
  intent : PaperIntent
  evidence : EntryCandidateEvidenceV3

def preparedIntent (env : Env) (o : Observation) (preflight : Preflight) (bundle : Bundle) :
    Option PreparedIntent := do
  let configuration ← env.paperConfiguration
  let evidence ← selectedEvidence bundle
  if preflight.identityMatches = false ∨ o.eventRole ≠ .entryDecision ∨
      preflight.forceConfigurationUnavailable = true ∨
      bundle.setup.liquidityCohort = .oneCandle ∨
      bundle.evaluation.selection.action ≠ .paperEligible ∨
      (preflight.existingLink bundle.setup.setupId).isSome = true ∨
      bundle.setup.setupId ∈ preflight.experimentalOwners ∨
      evidence.observedTriggerEpoch = none ∨ evidence.observedTriggerTicks = none then none
  else
    let intent ← validatedPaperIntent o bundle evidence configuration
    some { intent, evidence }

/-- Whether an account may carry so many more positions. -/
def accountUsable (configuration : PaperConfiguration) (candidatePositions : Nat)
    (metric : Paper.ReadinessMetric) : Bool :=
  let riskPerPosition := (metric.balanceMinor * configuration.riskBps).tdiv 10000
  let risk := riskPerPosition * candidatePositions
  SafeIntegers.isSafeInteger metric.balanceMinor ∧ 0 < metric.balanceMinor ∧ 0 < risk ∧
    risk ≤ SafeIntegers.maxSafeInteger ∧
    Paper.paperAccountAllowsNewOpen metric risk candidatePositions

/-- The two reads of `paperConfigurationReadiness` agree to open. -/
def metricsUsable (env : Env) (configuration : PaperConfiguration) (candidatePositions : Nat)
    (db : Database) : Bool :=
  configuration.accountIds.all fun accountId =>
    (db.paper.readinessMetric env.isToday accountId).any
      (accountUsable configuration candidatePositions)

/-! ## The decision for a bundle -/

structure Decision where
  effectiveAction : SelectionActionV3
  effectiveActionReason : Option EffectiveActionReason
  deriving DecidableEq, Repr

def effectiveDecision (env : Env) (o : Observation) (preflight : Preflight) (bundle : Bundle) :
    Decision :=
  let action := bundle.evaluation.selection.action
  if bundle.setup.liquidityCohort = .oneCandle then
    ⟨.shadowOnly, some .oneCandleExperimentNotPromoted⟩
  else if action ≠ .paperEligible then ⟨action, none⟩
  else if preflight.identityMatches = false then ⟨.shadowOnly, some .promotionIdentityMismatch⟩
  else if o.eventRole ≠ .entryDecision ∨
      (preflight.existingLink bundle.setup.setupId).isSome = true ∨
      bundle.setup.setupId ∈ preflight.experimentalOwners then
    ⟨.shadowOnly, some .notSelectedAlreadyOpen⟩
  else if preflight.configurationUsable = false ∨ env.paperConfiguration.isNone = true ∨
      (preparedIntent env o preflight bundle).isNone = true then
    ⟨.shadowOnly, some .paperConfigurationUnavailable⟩
  else ⟨action, none⟩

/-- The matched candidates of a one-candle setup with their evidence, the earliest first. -/
def experimentalOneCandlePair (bundle : Bundle) : Option EligiblePair :=
  if bundle.setup.liquidityCohort ≠ .oneCandle ∨ bundle.setup.oneCandleEnabled = false ∨
      bundle.evaluation.selection.action ≠ .shadowOnly then none
  else
    let pairs := bundle.evaluation.candidates.filterMap fun candidate => do
      let evidence ← bundle.evaluation.evidence.find? (·.candidateId = candidate.candidateId)
      if candidate.state = .matched ∧ evidence.observedTriggerEpoch ≠ none ∧
          evidence.observedTriggerTicks ≠ none then
        some ⟨candidate, evidence⟩
      else none
    (sortBy pairKey pairs).head?

def discretionaryBocPair (bundle : Bundle) : Option EligiblePair := do
  let candidate ← bundle.evaluation.candidates.find? fun candidate =>
    candidate.model = .boc ∧ candidate.state = .matched ∧
      candidate.bocTier = some .discretionary5m
  let evidence ← bundle.evaluation.evidence.find? (·.candidateId = candidate.candidateId)
  if evidence.observedTriggerEpoch = none then none else some ⟨candidate, evidence⟩

def selectedShadowPair (bundle : Bundle) : Option EligiblePair := do
  let candidateId ← bundle.evaluation.selection.canonicalCandidateId
  let evidence ← selectedEvidence bundle
  if evidence.observedTriggerEpoch = none ∨ evidence.observedTriggerTicks = none then none
  else
    let candidate ← bundle.evaluation.candidates.find? fun candidate =>
      candidate.candidateId = candidateId ∧ candidate.state = .matched
    some ⟨candidate, evidence⟩

def shadowPair (env : Env) (o : Observation) (preflight : Preflight) (bundle : Bundle) :
    Option EligiblePair :=
  if bundle.setup.liquidityCohort = .oneCandle ∧
      (preflight.existingLink bundle.setup.setupId).isSome = true then none
  else
    (experimentalOneCandlePair bundle).orElse fun _ =>
      (discretionaryBocPair bundle).orElse fun _ =>
        if preflight.identityMatches = true ∧
            (effectiveDecision env o preflight bundle).effectiveActionReason =
              some .paperConfigurationUnavailable then selectedShadowPair bundle
        else none

/-! ## Parity -/

/-- The difference that a comparison finds. -/
def difference (differs : Bool) (name : ParityMismatchReason) : List ParityMismatchReason :=
  if differs then [name] else []

def parityFor (proposal edge : EntrySelectionV3) : ParityStatus × Option ParityMismatchReason :=
  let differences :=
    difference (joinNul proposal.candidateIdsConsidered ≠ joinNul edge.candidateIdsConsidered)
        .candidateIdentities ++
      difference (proposal.canonicalEvidenceId ≠ edge.canonicalEvidenceId) .evidenceIdentities ++
      difference (proposal.canonicalCandidateId ≠ edge.canonicalCandidateId ∨
        proposal.canonicalModel ≠ edge.canonicalModel) .selectedCandidate ++
      difference (proposal.reason ≠ edge.reason) .reason ++
      difference (proposal.action ≠ edge.action) .action
  match differences with
  | [] => (.match_, none)
  | [name] => (.mismatch, some name)
  | _ => (.mismatch, some .multiple)

/-! ## The rows of a bundle -/

section Rows

variable (env : Env) (o : Observation) (drawn : Drawn) (bundle : Bundle)

def candidateRowId (candidateId : String) : String :=
  qualifiedId env o.eventId "candidate" candidateId

def evidenceRowId (evidenceId : String) : String := qualifiedId env o.eventId "evidence" evidenceId

def selectionRowId : String :=
  qualifiedId env o.eventId "selection" bundle.evaluation.selection.selectionId

def candidateRows : List CandidateRow :=
  bundle.evaluation.candidates.map fun candidate =>
    { candidateId := candidateRowId env o candidate.candidateId
      eventId := o.eventId
      candidate }

def evidenceRows : List EvidenceRow :=
  bundle.evaluation.evidence.map fun evidence =>
    { evidenceId := evidenceRowId env o evidence.evidenceId
      eventId := o.eventId
      candidateId := candidateRowId env o evidence.candidateId
      evidence }

def memberRows : List MemberRow :=
  (bundle.evaluation.candidates.map fun candidate =>
    ⟨selectionRowId env o bundle, .candidate, candidateRowId env o candidate.candidateId⟩) ++
  bundle.evaluation.evidence.map fun evidence =>
    ⟨selectionRowId env o bundle, .evidence, evidenceRowId env o evidence.evidenceId⟩

def selectionRow (decision : Decision) : SelectionRow :=
  let selection := bundle.evaluation.selection
  let evidence := selectedEvidence bundle
  { selectionId := selectionRowId env o bundle
    eventId := o.eventId
    selection
    canonicalCandidateId := selection.canonicalCandidateId.map (candidateRowId env o)
    canonicalEvidenceId := selection.canonicalEvidenceId.map (evidenceRowId env o)
    action := decision.effectiveAction
    effectiveActionReason := decision.effectiveActionReason
    liquidityCohort := bundle.setup.liquidityCohort
    oneCandleEnabled := bundle.setup.oneCandleEnabled
    selectedTriggerEpoch := evidence.bind (·.observedTriggerEpoch)
    selectedTriggerSequence := evidence.map (·.triggerSequence)
    tradePlan := bundle.tradePlan }

def parityRow : ParityRow :=
  let selection := bundle.evaluation.selection
  let parity := parityFor selection selection
  { parityId := qualifiedId env o.eventId "parity" selection.selectionId
    eventId := o.eventId
    selectionId := selectionRowId env o bundle
    parityStatus := parity.1
    mismatchReason := parity.2
    comparedAt := drawn.recordedAt }

/-- The position of a bundle that triggered with some evidence at a price. -/
def position (evidence : EntryCandidateEvidenceV3) (triggerEpoch entryTicks : Int) : Position :=
  { setupId := bundle.setup.setupId
    direction := bundle.setup.direction
    triggerEpoch
    triggerSequence := evidence.triggerSequence
    evaluatedAtEpoch := bundle.evaluation.selection.evaluatedAtEpoch
    entryTicks
    stopTicks := bundle.tradePlan.stopTicks
    targetTicks := bundle.tradePlan.targetTicks }

def intentRow (intent : PaperIntent) : IntentRow :=
  { intentId := intent.intentId
    payloadSha256 := env.canonicalSha256 intent.json
    symbol := intent.symbol
    side := intent.side
    entryPrice := intent.entryPrice
    stopLoss := intent.stopLoss
    takeProfit := intent.takeProfit
    riskBps := intent.riskBps
    createdAt := drawn.recordedAt }

def allocationRequest (intent : PaperIntent) (accountId : String) : AllocationRequest :=
  { allocationId := drawn.allocationId intent.intentId accountId
    intentId := intent.intentId
    payloadSha256 := env.canonicalSha256 intent.json
    accountId
    riskBps := intent.riskBps
    createdAt := drawn.recordedAt }

def linkRow (intent : PaperIntent) (evidence : EntryCandidateEvidenceV3) (triggerEpoch : Int) :
    LinkRow :=
  { toPosition := position bundle evidence triggerEpoch bundle.tradePlan.entryTicks
    selectionId := selectionRowId env o bundle
    intentId := intent.intentId
    createdAt := drawn.recordedAt }

/-- The intent, its allocations and the link. -/
def openStatements (intent : PaperIntent) (evidence : EntryCandidateEvidenceV3)
    (triggerEpoch : Int) : List Statement :=
  .insertIntent (intentRow env drawn intent) ::
    (intent.accountIds.map fun accountId =>
      .insertAllocation (allocationRequest env drawn intent accountId) : List Statement) ++
    ([.insertLink (linkRow env o drawn bundle intent evidence triggerEpoch)] : List Statement)

/-- The paper trade that a bundle opens. -/
def paperStatements (preflight : Preflight) : List Statement :=
  match (effectiveDecision env o preflight bundle).effectiveAction,
    preparedIntent env o preflight bundle with
  | .paperEligible, some prepared =>
    match prepared.evidence.observedTriggerEpoch with
    | some triggerEpoch =>
      openStatements env o drawn bundle prepared.intent prepared.evidence triggerEpoch
    | none => []
  | _, _ => []

/-- The row of a shadow position, unless a column is missing. -/
def shadowRow (pair : EligiblePair) : Option ShadowRow := do
  let triggerEpoch ← pair.evidence.observedTriggerEpoch
  let entryTicks ← pair.evidence.observedTriggerTicks
  some
    { toPosition := position bundle pair.evidence triggerEpoch entryTicks
      candidateId := candidateRowId env o pair.candidate.candidateId
      state := .open_
      exitEventId := none
      outcomeRMillis := none
      liquidityCohort := bundle.setup.liquidityCohort
      oneCandleEnabled := bundle.setup.oneCandleEnabled
      createdAt := drawn.recordedAt
      terminalAt := none }

end Rows

/-! ## Exits -/

def eventTupleAfter (epoch sequence anchorEpoch anchorSequence : Int) : Bool :=
  epoch > anchorEpoch ∨ (epoch = anchorEpoch ∧ sequence > anchorSequence)

def exitIsCausallyEconomic (o : Observation) (exit : ExitEvent) (boundary : Position) : Bool :=
  eventTupleAfter exit.epoch exit.sequence boundary.triggerEpoch boundary.triggerSequence &&
    !decide (exit.epoch < boundary.evaluatedAtEpoch) &&
    (o.isRealtime || o.marketEvent.confirmedBar.any fun bar =>
      bar.openEpoch ≥ max boundary.triggerEpoch boundary.evaluatedAtEpoch)

/-- The bar reaches the stop of a position. -/
def barHitsStop (bar : OrderedCandleV3) (position : Position) : Bool :=
  if position.direction = .long then bar.lowTicks ≤ position.stopTicks
  else bar.highTicks ≥ position.stopTicks

/-- The bar reaches the target of a position. -/
def barHitsTarget (bar : OrderedCandleV3) (position : Position) : Bool :=
  if position.direction = .long then bar.highTicks ≥ position.targetTicks
  else bar.lowTicks ≤ position.targetTicks

def barHits (bar : OrderedCandleV3) (position : Position) : ExitReason → Bool
  | .ambiguousSameBarExit => barHitsStop bar position && barHitsTarget bar position
  | .stopLoss => barHitsStop bar position && !barHitsTarget bar position
  | .target => barHitsTarget bar position && !barHitsStop bar position

def priceHits (price : Int) (position : Position) : ExitReason → Bool
  | .ambiguousSameBarExit => false
  | .stopLoss =>
    if position.direction = .long then price ≤ position.stopTicks else price ≥ position.stopTicks
  | .target =>
    if position.direction = .long then price ≥ position.targetTicks
    else price ≤ position.targetTicks

def exitHitsStoredPlan (o : Observation) (exit : ExitEvent) (position : Position) : Bool :=
  match o.isRealtime, o.marketEvent.confirmedBar with
  | false, some bar => barHits bar position exit.exitReason
  | _, _ => priceHits exit.priceTicks position exit.exitReason

def targetRMillis (position : Position) : Option Int :=
  let risk := (position.entryTicks - position.stopTicks).natAbs
  let reward := (position.targetTicks - position.entryTicks).natAbs
  if risk = 0 then none
  else
    let result := Double.truncDiv (Double.ofNat (reward * 1000)) risk
    if result ≤ 10000 then some result else none

/-- Risks of up to `2 ^ 39` ticks lose nothing to the rounding. -/
theorem targetRMillis_eq_some_iff {position : Position} {result : Int}
    (hsmall : (position.entryTicks - position.stopTicks).natAbs ≤ 2 ^ 39) :
    targetRMillis position = some result ↔
      position.entryTicks ≠ position.stopTicks ∧
        (position.targetTicks - position.entryTicks).natAbs * 1000 /
          (position.entryTicks - position.stopTicks).natAbs ≤ 10000 ∧
        result = ((position.targetTicks - position.entryTicks).natAbs * 1000 /
          (position.entryTicks - position.stopTicks).natAbs : Nat) := by
  unfold targetRMillis
  dsimp only
  have hne : position.entryTicks ≠ position.stopTicks ↔
      (position.entryTicks - position.stopTicks).natAbs ≠ 0 := by omega
  rw [hne]
  generalize (position.entryTicks - position.stopTicks).natAbs = risk at *
  generalize (position.targetTicks - position.entryTicks).natAbs * 1000 = reward
  by_cases hrisk : risk = 0
  · simp [hrisk]
  have hpos : 0 < risk := Nat.pos_of_ne_zero hrisk
  rw [if_neg hrisk]
  by_cases hresult : reward / risk ≤ 10000
  · have hreward : reward < 2 ^ 53 := by
      have hlt : reward < 10001 * risk := (Nat.div_lt_iff_lt_mul hpos).mp (by omega)
      omega
    rw [Double.ofNat_eq hreward, Double.truncDiv_eq_div hpos hsmall (by omega), if_pos hresult]
    simp [hrisk, hresult, eq_comm]
  · have hlarge : 10001 ≤ Double.ofNat reward / risk := by
      rw [Nat.le_div_iff_mul_le hpos]
      by_cases hreward : reward < 2 ^ 53
      · rw [Double.ofNat_eq hreward, ← Nat.le_div_iff_mul_le hpos]
        omega
      · have hbound := Double.le_ofNat (Nat.le_of_not_lt hreward)
        omega
    have htrunc : 10001 ≤ Double.truncDiv (Double.ofNat reward) risk :=
      Double.le_truncDiv hpos (by decide) hlarge
    rw [if_neg (by omega)]
    simp [hresult]

def outcomeRMillis (position : Position) : ExitReason → Option Int
  | .stopLoss => some (-1000)
  | .target => targetRMillis position
  | .ambiguousSameBarExit => none

def terminalOf : ExitReason → Option Terminal
  | .stopLoss => some .stop
  | .target => some .target
  | .ambiguousSameBarExit => none

def shadowStateOf : ExitReason → ShadowState
  | .stopLoss => .stopped
  | .target => .targetHit
  | .ambiguousSameBarExit => .ambiguous

/-- What an exit does to a link or to a shadow. -/
inductive ExitPlan where
  | apply (statements : List Statement)
  | nothing
  | conflict
  deriving DecidableEq, Repr

def ExitPlan.statements : ExitPlan → List Statement
  | apply statements => statements
  | _ => []

def terminalName : Terminal → String
  | .stop => "STOP"
  | .target => "TARGET"

/-- The stored end of a link is the one that the exit gives. -/
def terminalMatches (exit : ExitEvent) (link : LinkRow) (settled : Option SettlementRow)
    (application : Option ApplicationRow) : Bool :=
  match terminalOf exit.exitReason, outcomeRMillis link.toPosition exit.exitReason, settled,
    application with
  | some terminal, some outcome, some settled, some application =>
    settled.exitReason = terminal ∧ settled.outcomeRMillis = outcome ∧
      application.exitEventId = exit.eventId ∧
      application.target = .paper link.intentId terminal ∧
      application.outcomeRMillis = some outcome
  | _, _, _, _ => false

section Plans

variable (env : Env) (o : Observation) (drawn : Drawn) (exit : ExitEvent)

def settlementRow (link : LinkRow) (outcome : Int) (terminal : Terminal) : SettlementRow :=
  { settlementId := qualifiedId env exit.eventId "settlement" link.intentId
    intentId := link.intentId
    payloadSha256 := env.canonicalSha256 (.obj [("intent_id", .str link.intentId),
      ("schema_version", .str "1.0"), ("outcome_r_millis", .num outcome),
      ("exit_reason", .str (terminalName terminal))])
    outcomeRMillis := outcome
    exitReason := terminal
    settledAt := drawn.recordedAt }

def applicationRow (setupId : JsString) (kind : String) (target : ExitTarget)
    (outcome : Option Int) : ApplicationRow :=
  { applicationId := qualifiedId env exit.eventId "exit-application"
      (js (kind ++ ":") ++ setupId ++ js ":INITIAL")
    eventId := o.eventId
    exitEventId := exit.eventId
    setupId
    target
    outcomeRMillis := outcome
    appliedAt := drawn.recordedAt }

def paperExitPlan (bundle : Bundle) (link : LinkRow) (settled : Option SettlementRow)
    (application : Option ApplicationRow) : ExitPlan :=
  if settled.isSome = true ∨ application.isSome = true then
    if terminalMatches exit link settled application then .nothing else .conflict
  else
    match terminalOf exit.exitReason, outcomeRMillis link.toPosition exit.exitReason with
    | some terminal, some outcome =>
      if exitIsCausallyEconomic o exit link.toPosition ∧
          exitHitsStoredPlan o exit link.toPosition then
        .apply
          [.insertSettlement (settlementRow env drawn exit link outcome terminal),
            .insertApplication (applicationRow env o drawn exit bundle.setup.setupId "PAPER"
              (.paper link.intentId terminal) (some outcome))]
      else .nothing
    | _, _ => .nothing

/-- The stored end of a shadow is the one that the exit gives. -/
def shadowMatches (shadow : ShadowRow) (application : Option ApplicationRow) : Bool :=
  let outcome := outcomeRMillis shadow.toPosition exit.exitReason
  let state := shadowStateOf exit.exitReason
  shadow.state = state ∧ shadow.exitEventId = some exit.eventId ∧
    shadow.outcomeRMillis = outcome ∧
    application.any fun application => application.exitEventId = exit.eventId ∧
      application.target = .shadow shadow.candidateId state ∧ application.outcomeRMillis = outcome

def shadowExitPlan (bundle : Bundle) (shadow : ShadowRow) (application : Option ApplicationRow) :
    ExitPlan :=
  let outcome := outcomeRMillis shadow.toPosition exit.exitReason
  let state := shadowStateOf exit.exitReason
  let canApply : Bool := exitHitsStoredPlan o exit shadow.toPosition ∧
    exitIsCausallyEconomic o exit shadow.toPosition ∧
    (exit.exitReason = .ambiguousSameBarExit ∨ outcome ≠ none)
  if shadow.state ≠ .open_ then
    if shadowMatches exit shadow application then .nothing else .conflict
  else if canApply ∧ application.isSome = true then .conflict
  else if canApply then
    .apply
      [.terminateShadow
        { candidateId := shadow.candidateId
          state
          exitEventId := exit.eventId
          outcomeRMillis := outcome
          terminalAt := drawn.recordedAt },
        .insertApplication (applicationRow env o drawn exit bundle.setup.setupId "SHADOW"
          (.shadow shadow.candidateId state) outcome)]
  else .nothing

end Plans

end TradeOps.EntryV3
