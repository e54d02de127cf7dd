import TradeOps.Telemetry.Responses

/-!
# Journal projection and admission

Embeds `projectDealV2` of `telemetry-journal-projection-v2.ts`, which derives what a deal
contributes to the journal, and the pure admission `decideAdmissionV2` of
`telemetry-admission-v2.ts`, which compares a request with the last accepted state of its stream.
-/

namespace TradeOps.Telemetry

open JsString JsValue Checks

/-! ## Projection -/

inductive Category where
  | tradeDeal | accountActivity
  deriving DecidableEq, Repr

inductive OpeningOrigin where
  | manual | eaOrScript | unknown
  deriving DecidableEq, Repr

inductive PortionReason where
  | reversalSplitUnknown | reconstructedNotBrokerAttested
  deriving DecidableEq, Repr

inductive PortionCostAllocation where
  | singlePortion | unknown
  deriving DecidableEq, Repr

/-- What a deal contributes to the journal; `lifetime_complete`, `initial_risk` and `strategy` are
constants. -/
structure JournalContributionV2 where
  category : Category
  positionId : Option Ticket
  brokerType : DealType
  entry : DealEntry
  cancelled : Bool
  grossRecorded : Reading
  commission : Reading
  swap : Reading
  fee : Reading
  netRecorded : Option FixedDecimalV2
  openedBeforeTracking : Bool
  openingOrigin : OpeningOrigin
  exitReason : Option DealReason
  openingVolume : Option Fixed
  closingVolume : Option Fixed
  portionReason : Option PortionReason
  portionCostAllocation : PortionCostAllocation
  sl : Reading
  tp : Reading
  protectionSource : ProtectionSource
  deriving DecidableEq

def Category.name : Category → String
  | .tradeDeal => "TRADE_DEAL"
  | .accountActivity => "ACCOUNT_ACTIVITY"

def OpeningOrigin.name : OpeningOrigin → String
  | .manual => "MANUAL"
  | .eaOrScript => "EA_OR_SCRIPT"
  | .unknown => "UNKNOWN"

def PortionReason.name : PortionReason → String
  | .reversalSplitUnknown => "REVERSAL_SPLIT_UNKNOWN"
  | .reconstructedNotBrokerAttested => "RECONSTRUCTED_NOT_BROKER_ATTESTED"

def PortionCostAllocation.name : PortionCostAllocation → String
  | .singlePortion => "SINGLE_PORTION"
  | .unknown => "UNKNOWN"

def FixedDecimalV2.json (fixed : FixedDecimalV2) : JsValue :=
  object fixedKeys [.num fixed.scale, .str (js fixed.value)]

def contributionKeys : List String :=
  ["broker_type", "cancelled", "category", "closing_volume", "commission", "entry", "exit_reason",
   "fee", "gross_recorded", "initial_risk", "lifetime_complete", "net_recorded",
   "opened_before_tracking", "opening_origin", "opening_volume", "portion_cost_allocation",
   "portion_reason", "position_id", "protection_source", "result_reason", "sl", "strategy", "swap",
   "tp"]

def JournalContributionV2.json (c : JournalContributionV2) : JsValue :=
  object contributionKeys
    [choiceJson c.brokerType, .bool c.cancelled, .str (js c.category.name),
     nullableJson Fixed.json c.closingVolume, c.commission.json, choiceJson c.entry,
     nullableJson choiceJson c.exitReason, c.fee.json, c.grossRecorded.json, .null, .bool false,
     nullableJson FixedDecimalV2.json c.netRecorded, .bool c.openedBeforeTracking,
     .str (js c.openingOrigin.name), nullableJson Fixed.json c.openingVolume,
     .str (js c.portionCostAllocation.name),
     nullableJson (fun reason : PortionReason => .str (js reason.name)) c.portionReason,
     nullableJson Matching.json c.positionId, choiceJson c.protectionSource,
     if c.netRecorded = none then .str (js "MISSING_BROKER_AMOUNT") else .null, c.sl.json,
     .str (js "UNKNOWN"), c.swap.json, c.tp.json]

/-- The decimals of readings that are all known. -/
def knownAmounts : List Reading → Option (List FixedDecimalV2)
  | [] => some []
  | .known value :: rest => (knownAmounts rest).map (value.val :: ·)
  | .missing _ :: _ => none

/-- The sum of the amounts, when every one of them is known. -/
def recordedNet (values : List Reading) (scale : Nat) : Except Code (Option FixedDecimalV2) :=
  match knownAmounts values with
  | none => .ok none
  | some amounts => (sumFixedV2 amounts scale).map some

def DealType.isCancelled : DealType → Bool
  | .buyCanceled | .sellCanceled => true
  | _ => false

def openingOrigin (deal : DealV2) : OpeningOrigin :=
  if !deal.type.isTrading || deal.entry ≠ .in_ then .unknown
  else
    match deal.reason with
    | .client | .mobile | .web => .manual
    | .expert => .eaOrScript
    | _ => .unknown

def openingVolume (deal : DealV2) : Option Fixed :=
  if !deal.type.isTrading then none
  else
    match deal.entry with
    | .in_ => deal.volume
    | .inout => deal.reversalSplit.map (·.openingVolume)
    | _ => none

def closingVolume (deal : DealV2) : Option Fixed :=
  if !deal.type.isTrading then none
  else
    match deal.entry with
    | .out | .outBy => deal.volume
    | .inout => deal.reversalSplit.map (·.closingVolume)
    | _ => none

def projectDealV2 (deal : DealV2) (registration : RegistrationV2) :
    Except Code JournalContributionV2 := do
  let net ← recordedNet deal.amounts registration.display.currencyScale.val
  let trading := deal.type.isTrading
  let isInOut : Bool := deal.entry = .inout
  return {
    category := if trading then .tradeDeal else .accountActivity
    positionId := deal.positionId
    brokerType := deal.type
    entry := deal.entry
    cancelled := deal.type.isCancelled
    grossRecorded := deal.profit
    commission := deal.commission
    swap := deal.swap
    fee := deal.fee
    netRecorded := net
    openedBeforeTracking := deal.positionId.any fun positionId =>
      registration.baseline.positions.val.any fun position => position.positionId = positionId
    openingOrigin := openingOrigin deal
    exitReason :=
      if trading && (deal.entry = .out || deal.entry = .outBy || isInOut) then some deal.reason
      else none
    openingVolume := openingVolume deal
    closingVolume := closingVolume deal
    portionReason :=
      if !isInOut then none
      else if deal.reversalSplit = none then some .reversalSplitUnknown
      else some .reconstructedNotBrokerAttested
    portionCostAllocation := if isInOut then .unknown else .singlePortion
    sl := deal.sl
    tp := deal.tp
    protectionSource := deal.protectionSource }

/-! ## Admission -/

structure AcceptedStateV2 where
  identity : IdentityV2
  lastRequestSequence : Instant
  lastEventSequence : Counter
  deriving DecidableEq

structure ReceiptMetaV2 where
  identity : IdentityV2
  requestSequence : Instant
  requestBodySha256 : Digest
  responseBytes : String
  deriving DecidableEq

inductive AdmissionV2 where
  | new (eventSequenceIfCommitted : Counter)
  | replay (responseBytes : String)
  | reject (code : Code)
  deriving DecidableEq

/-- The canonical text of an identity, which `canonicalStringify` always has. -/
def identityKey (identity : IdentityV2) : String := String.ofList identity.json.text

theorem canonicalStringify_identity (identity : IdentityV2) :
    canonicalStringify identity.json = .ok (identityKey identity) :=
  canonicalStringify_plain (identity.plain 0)

/-- Identities with one key are equal. -/
theorem identityKey_injective {a b : IdentityV2} (h : identityKey a = identityKey b) : a = b := by
  have htext := congrArg String.toList h
  rw [identityKey, identityKey, String.toList_ofList, String.toList_ofList] at htext
  have hjson := text_injective (a.plain 0).ordered (b.plain 0).ordered htext
  have hread : (.ok a : Except Code IdentityV2) = .ok b := by
    rw [← readIdentityV2_json a, ← readIdentityV2_json b, hjson]
  exact Except.ok.inj hread

def Instant.toCounter (n : Instant) : Counter := ⟨n.val, Nat.zero_le _, n.property.2⟩

/-- The last of a gapless continuation. -/
def proposeEvents (lastEvent : Counter) : List Instant → Option Counter
  | [] => some lastEvent
  | sequence :: rest =>
    if lastEvent.val = maxSafeInteger ∨ sequence.val ≠ lastEvent.val + 1 then none
    else proposeEvents sequence.toCounter rest

/-- A continuation is accepted when it goes on by ones; it ends with the last of its members. -/
theorem proposeEvents_some {lastEvent proposed : Counter} {sequences : List Instant}
    (h : proposeEvents lastEvent sequences = some proposed) :
    sequences.map (·.val) = List.range' (lastEvent.val + 1) sequences.length ∧
      proposed.val = lastEvent.val + sequences.length := by
  induction sequences generalizing lastEvent with
  | nil =>
    rw [proposeEvents, Option.some.injEq] at h
    rw [h]
    exact ⟨rfl, rfl⟩
  | cons sequence rest ih =>
    rw [proposeEvents] at h
    split at h
    · cases h
    · rename_i hnext
      push Not at hnext
      obtain ⟨hrest, hlast⟩ := ih h
      have hval : sequence.toCounter.val = lastEvent.val + 1 := hnext.2
      rw [hval] at hrest hlast
      refine ⟨?_, ?_⟩
      · rw [List.map_cons, List.length_cons, List.range'_succ, hrest]
        exact congrArg (· :: _) hnext.2
      · rw [List.length_cons]
        omega

/-- A response that can have been stored: not empty, and of a bounded length. -/
def storedResponse (bytes : String) : Bool :=
  (js bytes).length ≠ 0 ∧ (js bytes).length ≤ 128 * 1024

def decideAdmissionV2 (state : Option AcceptedStateV2) (receipt : Option ReceiptMetaV2)
    (request : TelemetryRequestV2) (fresh : Bool) : AdmissionV2 :=
  let lastRequest := (state.map (·.lastRequestSequence.val)).getD 0
  let lastEvent : Counter := (state.map (·.lastEventSequence)).getD ⟨0, by decide⟩
  if state.any fun s => identityKey s.identity ≠ identityKey request.identity then
    .reject .identityMismatch
  else
    match receipt with
    | some receipt =>
      if state = none then .reject .receiptInvalid
      else if identityKey receipt.identity ≠ identityKey request.identity then
        .reject .receiptInvalid
      else if receipt.requestSequence ≠ request.requestSequence ∨
          receipt.requestSequence.val > lastRequest then .reject .receiptInvalid
      else if ¬ storedResponse receipt.responseBytes then .reject .receiptInvalid
      else if receipt.requestBodySha256 ≠ request.bodySha256 then .reject .replayConflict
      else .replay receipt.responseBytes
    | none =>
      if request.requestSequence.val ≤ lastRequest then .reject .receiptMissing
      else if lastRequest = maxSafeInteger ∨ request.requestSequence.val ≠ lastRequest + 1 then
        .reject .sequenceInvalid
      else if ¬ fresh then .reject .staleEnvelope
      else
        match proposeEvents lastEvent (request.events.val.map (·.sequence)) with
        | none => .reject .eventSequenceInvalid
        | some proposed => .new proposed

end TradeOps.Telemetry
