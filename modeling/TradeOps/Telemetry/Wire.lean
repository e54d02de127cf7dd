import TradeOps.Telemetry.Records
import Mathlib.Data.String.Basic

/-!
# The telemetry wire

Embeds `parseTelemetryV2`, `responseBytesV2` and `validateResponseV2` of `telemetry-wire-v2.ts`,
with `deriveCoverageV2` of `telemetry-coverage-v2.ts` and the tracking boundary of
`telemetry-cutover-v2.ts`. SHA-256 is a parameter: the digests of a request are compared with it,
and a response is signed with it.
-/

namespace TradeOps.Telemetry

open JsString JsValue Checks Patterns SortBy

/-! ## Tracking boundary -/

/-- The boundary with its exclusions sorted; two equal exclusions are refused. -/
def makeBoundaryV2 (input : BoundaryV2) : Except Code BoundaryV2 := do
  let started := input.startedAtBrokerMsc.val
  failIf (started % 1000 ≠ 0 ∨ started > maxSafeInteger - 1000) Code.boundaryInvalid
  failIf (¬ input.excludedBoundaryDealIds.val.Nodup) Code.boundaryInvalid
  return { input with
    excludedBoundaryDealIds :=
      ⟨sortBy (fun ticket : Ticket => ticket.val) input.excludedBoundaryDealIds.val,
        (length_sortBy _ _).trans_le input.excludedBoundaryDealIds.property⟩ }

def includesDealV2 (boundary : BoundaryV2) (brokerTimeMsc : Instant) (dealId : Ticket) : Bool :=
  if brokerTimeMsc.val < boundary.startedAtBrokerMsc.val then false
  else if brokerTimeMsc.val < boundary.startedAtBrokerMsc.val + 1000 then
    dealId ∉ boundary.excludedBoundaryDealIds.val
  else true

/-! ## Coverage -/

inductive CoverageState where
  | notStarted | catchingUp | upToDate | dataMissing
  deriving DecidableEq, Repr

instance : Choice CoverageState where
  name
    | .notStarted => "NOT_STARTED"
    | .catchingUp => "CATCHING_UP"
    | .upToDate => "UP_TO_DATE"
    | .dataMissing => "DATA_MISSING"
  values := [.notStarted, .catchingUp, .upToDate, .dataMissing]
  complete := by rintro ⟨⟩ <;> decide
  distinct := by decide
  ascii := by rintro ⟨⟩ <;> exact ascii_of_all (by decide)

structure CoverageV2 where
  state : CoverageState
  throughBrokerMsc : Option Instant
  pendingEvents : Counter
  reason : Option RecordGap
  observationGap : Bool
  deriving DecidableEq

def coverageKeys : List String :=
  ["observation_gap", "pending_events", "reason", "state", "through_broker_msc"]

def CoverageV2.json (coverage : CoverageV2) : JsValue :=
  object coverageKeys
    [.bool coverage.observationGap, coverage.pendingEvents.json,
     nullableJson choiceJson coverage.reason, choiceJson coverage.state,
     nullableJson CounterFrom.json coverage.throughBrokerMsc]

def readCoverage : Reader CoverageV2 := fun value => do
  let [observationGap, pendingEvents, reason, state, throughBrokerMsc] ←
    exactPlain value coverageKeys
    | .error .invalid
  let state ← readChoice CoverageState state
  let throughBrokerMsc ← readNullable (readCounterV2 1) throughBrokerMsc
  let pendingEvents ← readCounterV2 0 pendingEvents
  let reason ← readNullable (readChoice RecordGap) reason
  let observationGap ← readBoolean observationGap
  return ⟨state, throughBrokerMsc, pendingEvents, reason, observationGap⟩

theorem coverageKeys_ordered : namesOrdered (coverageKeys.map js) = true := by
  decide

@[simp] theorem readCoverage_json (coverage : CoverageV2) :
    readCoverage coverage.json = .ok coverage := by
  rw [readCoverage, CoverageV2.json, exactPlain_object coverageKeys_ordered rfl]
  simp

@[simp] theorem CoverageV2.plain (coverage : CoverageV2) (d : Nat) :
    coverage.json.Plain (d + 1) := by
  refine plain_object coverageKeys_ordered rfl ?_
  simp

/-- What is left of a counter. -/
def Counter.minus (n m : Counter) : Counter :=
  ⟨n.val - m.val, Nat.zero_le _, (Nat.sub_le _ _).trans n.property.2⟩

def deriveCoverageV2 (started : Bool) (collection : CollectionV2) (acknowledged : Counter) :
    Except Code CoverageV2 := do
  let produced := collection.producedEvents
  failIf (acknowledged.val > produced.val) Code.coverageInvalid
  if ¬ started then
    failIf (produced.val ≠ 0 ∨ acknowledged.val ≠ 0 ∨ collection.scanThroughBrokerMsc ≠ none ∨
      collection.scanFinished) Code.coverageInvalid
  else
    failIf (collection.scanFinished ∧ collection.scanThroughBrokerMsc = none) Code.coverageInvalid
  let pending := produced.minus acknowledged
  let state : CoverageState :=
    if ¬ started then .notStarted
    else if collection.recordGap ≠ none then .dataMissing
    else if ¬ collection.scanFinished ∨ pending.val ≠ 0 then .catchingUp
    else .upToDate
  return { state := state
           throughBrokerMsc := if state = .upToDate then collection.scanThroughBrokerMsc else none
           pendingEvents := pending
           reason := collection.recordGap
           observationGap := collection.observationGap }

/-! ## Validation of a request -/

/-- `^0\.0+$`. -/
def isZeroFraction (value : String) : Bool :=
  match value.toList with
  | '0' :: '.' :: zeros => zeros ≠ [] ∧ zeros.all (· = '0')
  | _ => false

def positive (fixed : Fixed) : Bool :=
  fixed.val.value.toList.head? ≠ some '-' ∧ fixed.val.value ≠ "0" ∧
    ¬ isZeroFraction fixed.val.value

def Reading.isKnown : Reading → Bool
  | .known _ => true
  | .missing _ => false

def requireScale (reading : Reading) (scale : Nat) : Except Code Unit :=
  match reading with
  | .known value => failIf (value.val.scale ≠ scale) Code.invalid
  | .missing _ => .ok ()

def validatePositions (scale : Nat) : (tickets positionIds : List Ticket) → List PositionV2 →
    Except Code Unit
  | _, _, [] => .ok ()
  | tickets, positionIds, position :: rest => do
    failIf (position.ticket ∈ tickets ∨ position.positionId ∈ positionIds ∨
      ¬ positive position.volume) Code.invalid
    requireScale position.floatingProfit scale
    requireScale position.swap scale
    validatePositions scale (position.ticket :: tickets) (position.positionId :: positionIds) rest

/-- The volume of an order that is filled: the sum with the negated rest. -/
def filledVolume (order : OrderV2) : Except Code FixedDecimalV2 :=
  sumFixedV2
    [order.volumeInitial.val, ⟨"-" ++ order.volumeCurrent.val.value, order.volumeCurrent.val.scale⟩]
    order.volumeInitial.val.scale

def validateOrders : (tickets : List Ticket) → List OrderV2 → Except Code Unit
  | _, [] => .ok ()
  | tickets, order :: rest => do
    failIf (order.ticket ∈ tickets ∨ ¬ positive order.volumeInitial ∨
      ¬ positive order.volumeCurrent ∨
      order.volumeInitial.val.scale ≠ order.volumeCurrent.val.scale) Code.invalid
    let remainder ← filledVolume order
    failIf (remainder.value.toList.head? = some '-') Code.invalid
    validateOrders (order.ticket :: tickets) rest

def validateExposure (exposure : ExposureV2) (scale : Nat) (completeRequired : Bool) :
    Except Code Unit := do
  validatePositions scale [] [] exposure.positions.val
  validateOrders [] exposure.orders.val
  failIf ((exposure.status = .complete ∨ completeRequired) ∧
    (exposure.positionCount.map (·.val) ≠ some exposure.positions.val.length ∨
      exposure.orderCount.map (·.val) ≠ some exposure.orders.val.length)) Code.invalid
  failIf (exposure.status ≠ .complete ∧
    (exposure.positions.val.length ≠ 0 ∨ exposure.orders.val.length ≠ 0)) Code.invalid

def AccountV2.core (account : AccountV2) : List Reading :=
  [account.balance, account.equity, account.marginUsed, account.marginFree]

def validateAccount (account : AccountV2) (scale : Nat) : Except Code Unit := do
  failIf (account.status = .complete ∧ account.core.any fun entry => !entry.isKnown) Code.invalid
  failIf (account.status = .captureFailed ∧
    (account.core ++ [account.marginLevel]).any Reading.isKnown) Code.invalid
  forAll (fun entry => requireScale entry scale) account.core

def DealType.isTrading : DealType → Bool
  | .buy | .sell | .buyCanceled | .sellCanceled => true
  | _ => false

/-- The four amounts of a deal. -/
def DealV2.amounts (deal : DealV2) : List Reading :=
  [deal.profit, deal.commission, deal.swap, deal.fee]

/-- A split reverses a position: its volumes are positive and add up to the deal's. -/
def validateSplit (deal : DealV2) (split : ReversalSplit) : Except Code Unit :=
  match deal.volume with
  | none => .error .invalid
  | some volume => do
    failIf (deal.entry ≠ .inout ∨ ¬ positive split.closingVolume ∨ ¬ positive split.openingVolume ∨
      volume.val.scale ≠ split.closingVolume.val.scale ∨
      volume.val.scale ≠ split.openingVolume.val.scale) Code.invalid
    let sum ← sumFixedV2 [split.closingVolume.val, split.openingVolume.val] volume.val.scale
    failIf (sum ≠ volume.val) Code.invalid

/-- A trading deal has its position, order, symbol and volume; any other deal has no entry. -/
def validateEntry (deal : DealV2) : Except Code Unit :=
  if deal.type.isTrading then
    failIf (deal.positionId = none ∨ deal.orderId = none ∨ deal.symbol = none ∨
      ¬ deal.volume.any positive ∨ deal.entry = .none_) Code.invalid
  else
    failIf (deal.entry ≠ .none_ ∨ deal.reversalSplit ≠ none) Code.invalid

def validateDeal (deal : DealV2) (boundary : BoundaryV2) (scale : Nat) : Except Code Unit := do
  failIf (¬ includesDealV2 boundary deal.brokerTimeMsc deal.dealId) Code.beforeTracking
  failIf (¬ (deal.revision.val = 1 ↔ deal.previousRecordSha256 = none)) Code.invalid
  validateEntry deal
  forAll (fun item => requireScale item scale) deal.amounts
  failIf (deal.protectionSource = .unavailable ∧ (deal.sl.isKnown ∨ deal.tp.isKnown)) Code.invalid
  whenSome deal.reversalSplit (validateSplit deal)

def validateEvent (event : JournalEventV2) (boundary : BoundaryV2) (scale : Nat) :
    Except Code Unit :=
  match event.record with
  | .protection record =>
    failIf (record.observedAtBrokerMsc.val < boundary.startedAtBrokerMsc.val) Code.beforeTracking
  | .deal deal => validateDeal deal boundary scale

/-- The deal that an event records. -/
def JournalEventV2.dealId (event : JournalEventV2) : Option Ticket :=
  match event.record with
  | .deal deal => some deal.dealId
  | .protection _ => none

section Digests

variable (sha256Hex : String → String)

/-- The digest of a record's canonical text. -/
def digestOf (value : JsValue) : Except Code String :=
  (canonicalStringify value).map sha256Hex

/-- Check the events in order; the result is the highest sequence. -/
def validateEvents (boundary : BoundaryV2) (scale : Nat) :
    (ids : List Identifier) → (deals : List Ticket) → (highest : Nat) → List JournalEventV2 →
      Except Code Nat
  | _, _, highest, [] => .ok highest
  | ids, deals, highest, event :: rest => do
    failIf (event.eventId ∈ ids ∨ ∃ deal ∈ event.dealId, deal ∈ deals) Code.invalid
    validateEvent event boundary scale
    let digest ← digestOf sha256Hex event.record.json
    failIf (event.recordSha256.val ≠ digest) Code.invalid
    validateEvents boundary scale (event.eventId :: ids) (event.dealId.toList ++ deals)
      (max highest event.sequence.val) rest

/-- The request without its digest. -/
def envelope (raw : JsValue) : JsValue :=
  match raw with
  | .obj fields => .obj (fields.filter fun f => f.1 ≠ js "body_sha256")
  | other => other

/-- The clock readings of a request, which lie between the start of the tracking and the sending. -/
def TelemetryRequestV2.times (request : TelemetryRequestV2) : List Instant :=
  [request.account.observedAtUtcSeconds, request.exposure.observedAtUtcSeconds,
    request.diagnostics.observedAtUtcSeconds] ++
    request.events.val.map fun event => event.observedAtUtcSeconds

def validateRequest (request : TelemetryRequestV2) (raw : JsValue) : Except Code Unit := do
  let registration := request.registration
  let boundary ← makeBoundaryV2 registration.boundary
  failIf (canonicalStringify boundary.json ≠ canonicalStringify registration.boundary.json ∨
    request.identity.trackingId ≠ boundary.trackingId ∨
    request.identity.accountFingerprintSha256 ≠ boundary.accountFingerprintSha256) Code.invalid
  let scale := registration.display.currencyScale.val
  failIf (scale > 16) Code.invalid
  validateExposure registration.baseline scale true
  validateExposure request.exposure scale false
  validateAccount request.account scale
  failIf (registration.baseline.status ≠ .complete ∨
    registration.baseline.observedAtUtcSeconds ≠ boundary.initializedAtUtcSeconds ∨
    registration.baseline.observedAtBrokerMsc.val / 1000 * 1000 ≠ boundary.startedAtBrokerMsc.val ∨
    boundary.initializedAtUtcSeconds.val > request.sentAtUtcSeconds.val) Code.invalid
  forAll (fun time => failIf (time.val < boundary.initializedAtUtcSeconds.val ∨
    time.val > request.sentAtUtcSeconds.val) Code.invalid) request.times
  let highest ← validateEvents sha256Hex boundary scale [] []
    request.lastAcknowledgedEventSequence.val request.events.val
  failIf (request.collection.producedEvents.val < highest ∨
    (request.diagnostics.localUnsentEvents.val : Int) ≠
      request.collection.producedEvents.val - request.lastAcknowledgedEventSequence.val ∨
    (request.diagnostics.lastAcceptedRequestSequence.val : Int) ≠ request.requestSequence.val - 1)
    Code.invalid
  whenSome request.diagnostics.lastSuccessfulUploadUtcSeconds fun time =>
    failIf (time.val < boundary.initializedAtUtcSeconds.val ∨
      time.val > request.sentAtUtcSeconds.val) Code.invalid
  whenSome request.collection.scanThroughBrokerMsc fun through =>
    failIf (through.val < boundary.startedAtBrokerMsc.val ∨
      through.val > max request.account.observedAtBrokerMsc.val
        request.exposure.observedAtBrokerMsc.val) Code.invalid
  let _ ← deriveCoverageV2 true request.collection request.lastAcknowledgedEventSequence
  let boundaryDigest ← digestOf sha256Hex registration.boundary.json
  failIf (request.identity.trackingBoundarySha256.val ≠ boundaryDigest) Code.invalid
  let bodyDigest ← digestOf sha256Hex (envelope raw)
  failIf (request.bodySha256.val ≠ bodyDigest) Code.digestInvalid

def parseTelemetryV2 (bytes : ByteArray) : Except Code TelemetryRequestV2 := do
  let raw ← canonicalInput bytes (256 * 1024)
  let parsed ← readRequest raw
  validateRequest sha256Hex parsed raw
  return parsed

end Digests

/-! ## Responses -/

/-- What a response says, before it is signed. -/
structure ResponseBodyV2 where
  identity : IdentityV2
  requestSequence : Instant
  requestBodySha256 : Digest
  acceptedAtUtcSeconds : Instant
  acknowledgedEventSequence : Counter
  coverage : CoverageV2
  deriving DecidableEq

structure TelemetryResponseV2 where
  body : ResponseBodyV2
  responseBodySha256 : Digest
  deriving DecidableEq

def responseBodyKeys : List String :=
  ["accepted_at_utc_seconds", "acknowledged_event_sequence", "command", "coverage", "identity",
   "mode", "request_body_sha256", "request_sequence", "schema_version"]

def responseKeys : List String :=
  ["accepted_at_utc_seconds", "acknowledged_event_sequence", "command", "coverage", "identity",
   "mode", "request_body_sha256", "request_sequence", "response_body_sha256", "schema_version"]

def ResponseBodyV2.json (body : ResponseBodyV2) : JsValue :=
  object responseBodyKeys
    [body.acceptedAtUtcSeconds.json, body.acknowledgedEventSequence.json, .null,
     body.coverage.json, body.identity.json, .str (js "DRY_RUN"), body.requestBodySha256.json,
     body.requestSequence.json, .str (js "AgentSyncResponseV2")]

/-- A body with its digest. -/
def ResponseBodyV2.signed (body : ResponseBodyV2) (digest : String) : JsValue :=
  object responseKeys
    [body.acceptedAtUtcSeconds.json, body.acknowledgedEventSequence.json, .null,
     body.coverage.json, body.identity.json, .str (js "DRY_RUN"), body.requestBodySha256.json,
     body.requestSequence.json, .str (js digest), .str (js "AgentSyncResponseV2")]

def readNull : Reader Unit
  | .null => .ok ()
  | _ => .error .invalid

def readResponse : Reader TelemetryResponseV2 := fun value => do
  let [acceptedAtUtcSeconds, acknowledgedEventSequence, command, coverage, identity, mode,
     requestBodySha256, requestSequence, responseBodySha256, schemaVersion] ←
    exactPlain value responseKeys
    | .error .invalid
  readConst "AgentSyncResponseV2" schemaVersion
  let identity ← readIdentityV2 identity
  let requestSequence ← readCounterV2 1 requestSequence
  let requestBodySha256 ← readDigestV2 requestBodySha256
  let acceptedAtUtcSeconds ← readCounterV2 1 acceptedAtUtcSeconds
  let acknowledgedEventSequence ← readCounterV2 0 acknowledgedEventSequence
  let coverage ← readCoverage coverage
  readConst "DRY_RUN" mode
  readNull command
  let responseBodySha256 ← readDigestV2 responseBodySha256
  return ⟨⟨identity, requestSequence, requestBodySha256, acceptedAtUtcSeconds,
    acknowledgedEventSequence, coverage⟩, responseBodySha256⟩

/-- The last event of a request, or what it says was acknowledged before. -/
def TelemetryRequestV2.expectedAck (request : TelemetryRequestV2) : Nat :=
  match request.events.val.getLast? with
  | some event => event.sequence.val
  | none => request.lastAcknowledgedEventSequence.val

section Responses

variable (sha256Hex : String → String)

/-- The response body that a request is answered with. -/
def responseBody (request : TelemetryRequestV2) (acknowledged : Counter) (acceptedAt : Instant)
    (coverage : CoverageV2) : ResponseBodyV2 :=
  ⟨request.identity, request.requestSequence, request.bodySha256, acceptedAt,
  acknowledged, coverage⟩

def responseBytesV2 (request : TelemetryRequestV2) (acknowledged : Counter) (acceptedAt : Instant) :
    Except Code String := do
  failIf (acknowledged.val ≠ request.expectedAck) Code.invalid
  let coverage ← deriveCoverageV2 true request.collection acknowledged
  let body := responseBody request acknowledged acceptedAt coverage
  let digest ← digestOf sha256Hex body.json
  canonicalStringify (body.signed digest)

def validateResponseV2 (bytes : ByteArray) (request : TelemetryRequestV2) : Except Code String := do
  let raw ← canonicalInput bytes (16 * 1024)
  let response ← readResponse raw
  let acknowledged := response.body.acknowledgedEventSequence
  failIf (acknowledged.val ≠ request.expectedAck) Code.invalid
  match String.fromUTF8? bytes with
  | none => .error .invalid
  | some actual =>
    let expected ← responseBytesV2 sha256Hex request acknowledged response.body.acceptedAtUtcSeconds
    failIf (actual ≠ expected) Code.invalid
    return actual

end Responses

theorem responseBodyKeys_ordered : namesOrdered (responseBodyKeys.map js) = true := by
  decide

theorem responseKeys_ordered : namesOrdered (responseKeys.map js) = true := by
  decide

@[simp] theorem null_plain (d : Nat) : JsValue.null.Plain d := .null

theorem ResponseBodyV2.plain (body : ResponseBodyV2) (d : Nat) : body.json.Plain (d + 2) := by
  refine plain_object responseBodyKeys_ordered rfl ?_
  simp

theorem ResponseBodyV2.signed_plain (body : ResponseBodyV2) (digest : String) (d : Nat) :
    (body.signed digest).Plain (d + 2) := by
  refine plain_object responseKeys_ordered rfl ?_
  simp

/-- A signed body is read back. -/
theorem readResponse_signed (body : ResponseBodyV2) (digest : Digest) :
    readResponse (body.signed digest.val) = .ok ⟨body, digest⟩ := by
  have hdigest := readDigestV2_json digest
  rw [Matching.json] at hdigest
  rw [readResponse, ResponseBodyV2.signed, exactPlain_object responseKeys_ordered rfl]
  simp [readNull, hdigest]

end TradeOps.Telemetry
