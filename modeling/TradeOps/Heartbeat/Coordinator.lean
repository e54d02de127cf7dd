import TradeOps.Lib.Checks
import TradeOps.Lib.JsParse

/-!
# The account coordinator of heartbeats

Embeds `coordinateAgentSyncV1` and `loadCoordinatorSyncStateV1` of `account-coordinator-v1.ts` and
`createDryRunResponse` of `agent-sync-v1.ts`. A call reads and writes the storage of one durable
object and nothing runs in between, so it is a function of the storage. Of a request's events only
the sequences are read; of its snapshot only the fingerprint, the heartbeat summary and what the
health projection shows.

Numbers are integers, with the check for safe ones where the source makes it. A call that throws
leaves the storage as it was and answers nothing.
-/

namespace TradeOps.Heartbeat

open Checks JsString JsValue

/-! ## Requests and responses -/

/-- What a request must keep for ever. -/
structure AgentIdentity where
  installationId : String
  accountProfileSha256 : String
  accountFingerprintSha256 : String
  safetyEpoch : Int
  deriving DecidableEq, Repr

inductive Freshness where
  | fresh | stale
  deriving DecidableEq, Repr

structure HeartbeatSummary where
  observedAtEpoch : Int
  terminalConnectionState : String
  accountTradePermission : String
  terminalTradePermission : String
  algoTradingPermission : String
  deriving DecidableEq, Repr

/-- `AgentSyncRequestV1`. -/
structure AgentSyncRequest where
  accountId : String
  identity : AgentIdentity
  requestSequence : Int
  sentAtEpoch : Int
  freshness : Freshness
  bodySha256 : String
  summary : HeartbeatSummary
  terminalBuild : Int
  sourceSymbol : String
  eventSequences : List Int
  deriving DecidableEq, Repr

def safeInteger (value minimum : Int) : Bool :=
  minimum ≤ value ∧ value.natAbs ≤ maxSafeInteger

/-- The fields of `AgentSyncResponseV1` that vary, without its digest. -/
structure ResponseBody where
  serverSequence : Int
  serverTimeEpoch : Int
  acknowledgedEventSequence : Int
  deriving DecidableEq, Repr

/-- The names of a response, in order; the digest stands between the mode and the sequence. -/
def ResponseBody.fields (body : ResponseBody) (digest : List (JsString × JsValue)) :
    List (JsString × JsValue) :=
  ([(js "acknowledged_event_sequence", .num body.acknowledgedEventSequence),
    (js "command", .null), (js "evidence_requests", .arr []), (js "freeze_reasons", .arr []),
    (js "mode", .str (js "DRY_RUN"))] : List (JsString × JsValue)) ++ digest ++
  ([(js "schema_version", .str (js "AgentSyncResponseV1")),
    (js "server_sequence", .num body.serverSequence),
    (js "server_time_epoch", .num body.serverTimeEpoch)] : List (JsString × JsValue))

def ResponseBody.digest (sha256Hex : String → String) (body : ResponseBody) : String :=
  sha256Hex (String.ofList (text (.obj (body.fields []))))

/-- The signed response. -/
def ResponseBody.response (sha256Hex : String → String) (body : ResponseBody) : JsValue :=
  .obj (body.fields [(js "response_body_sha256", .str (js (body.digest sha256Hex)))])

/-- `canonicalStringify` of the signed response. -/
def ResponseBody.bytes (sha256Hex : String → String) (body : ResponseBody) : String :=
  String.ofList (text (body.response sha256Hex))

def maximumEventSequence (request : AgentSyncRequest) : Int :=
  request.eventSequences.foldl max 0

/-- `createDryRunResponse`. -/
def createDryRunResponse (request : AgentSyncRequest)
    (acknowledged nextServerSequence nowEpoch : Int) : Except Unit ResponseBody := do
  failIf (¬safeInteger nextServerSequence 1) ()
  failIf (¬safeInteger nowEpoch 0) ()
  failIf (¬safeInteger acknowledged 0) ()
  failIf (¬request.eventSequences.all fun sequence => safeInteger sequence 1) ()
  return ⟨nextServerSequence, nowEpoch, request.eventSequences.foldl max acknowledged⟩

/-! ## The stored state -/

/-- `AccountCoordinatorSyncStateV1`. -/
structure SyncState where
  installationId : Option String
  accountProfileSha256 : Option String
  accountFingerprintSha256 : Option String
  safetyEpoch : Option Int
  lastAcceptedRequestSequence : Option Int
  lastAcceptedRequestDigest : Option String
  lastCanonicalResponseBytes : Option String
  lastCanonicalResponseDigest : Option String
  lastAcknowledgedEventSequence : Option Int
  heartbeatSummary : Option HeartbeatSummary
  deriving DecidableEq, Repr

def SyncState.absent : SyncState :=
  ⟨none, none, none, none, none, none, none, none, none, none⟩

/-- The value under `sync_state_v1`, and the values that an earlier version kept under one key
each. -/
structure Storage where
  syncState : Option SyncState
  legacy : SyncState
  deriving DecidableEq, Repr

def Storage.empty : Storage := ⟨none, .absent⟩

def loadCoordinatorSyncState (storage : Storage) : SyncState :=
  storage.syncState.getD storage.legacy

/-- `storedResponse`: what the stored bytes spell, when it is an object with the stored digest. -/
def storedResponse (bytes digest : String) : Option Document :=
  match parseDocument bytes.toList with
  | some (.obj fields) =>
    match Document.property fields (js "response_body_sha256") with
    | some (.str value) => if value = js digest then some (.obj fields) else none
    | _ => none
  | _ => none

-- The numbers of a stored response may have a fraction or an exponent.
example : (storedResponse
    "\x7b\"server_time_epoch\":1.5e9,\"response_body_sha256\":\"aa\"\x7d" "aa").isSome = true := by
  decide +kernel

/-! ## A call -/

inductive Rejection where
  | replayConflict | sequenceInvalid | identityMismatch | staleTimestamp
  deriving DecidableEq, Repr

/-- `AccountCoordinatorResultV1`, or a throw. -/
inductive Outcome where
  | ok (replayed : Bool) (responseBytes : String)
  | rejected (code : Rejection)
  | thrown
  deriving DecidableEq, Repr

def SyncState.sameIdentity (state : SyncState) (identity : AgentIdentity) : Bool :=
  state.installationId = some identity.installationId ∧
    state.accountProfileSha256 = some identity.accountProfileSha256 ∧
    state.accountFingerprintSha256 = some identity.accountFingerprintSha256 ∧
    state.safetyEpoch = some identity.safetyEpoch

/-- The answer to the sequence that was accepted last. -/
def SyncState.replay (state : SyncState) (request : AgentSyncRequest) : Outcome :=
  if state.lastAcceptedRequestDigest ≠ some request.bodySha256 then .rejected .replayConflict
  else
    match state.lastCanonicalResponseBytes, state.lastCanonicalResponseDigest with
    | some bytes, some digest =>
      if (storedResponse bytes digest).isSome then .ok true bytes else .rejected .sequenceInvalid
    | _, _ => .rejected .sequenceInvalid

/-- The answer that needs no acceptance, if there is one. -/
def SyncState.refusal (state : SyncState) (request : AgentSyncRequest) : Option Outcome :=
  match state.lastAcceptedRequestSequence with
  | some last =>
    if !state.sameIdentity request.identity then some (.rejected .identityMismatch)
    else if request.requestSequence = last then some (state.replay request)
    else if request.freshness = .stale then some (.rejected .staleTimestamp)
    else if request.requestSequence ≠ last + 1 then some (.rejected .sequenceInvalid)
    else none
  | none =>
    if request.freshness = .stale then some (.rejected .staleTimestamp)
    else if request.requestSequence ≠ 1 then some (.rejected .sequenceInvalid)
    else none

/-- `Math.max(acknowledgedSequence ?? 0, maximumEventSequence(request))`. -/
def SyncState.nextAcknowledged (state : SyncState) (request : AgentSyncRequest) : Int :=
  max (state.lastAcknowledgedEventSequence.getD 0) (maximumEventSequence request)

/-- The state after an acceptance. -/
def acceptedState (sha256Hex : String → String) (request : AgentSyncRequest) (acknowledged : Int)
    (body : ResponseBody) : SyncState :=
  { installationId := some request.identity.installationId
    accountProfileSha256 := some request.identity.accountProfileSha256
    accountFingerprintSha256 := some request.identity.accountFingerprintSha256
    safetyEpoch := some request.identity.safetyEpoch
    lastAcceptedRequestSequence := some request.requestSequence
    lastAcceptedRequestDigest := some request.bodySha256
    lastCanonicalResponseBytes := some (body.bytes sha256Hex)
    lastCanonicalResponseDigest := some (body.digest sha256Hex)
    lastAcknowledgedEventSequence := some acknowledged
    heartbeatSummary := some request.summary }

def coordinateAgentSync (sha256Hex : String → String) (storage : Storage)
    (request : AgentSyncRequest) (nowEpoch : Int) : Outcome × Storage :=
  let state := loadCoordinatorSyncState storage
  match state.refusal request with
  | some outcome => (outcome, storage)
  | none =>
    let acknowledged := state.nextAcknowledged request
    match createDryRunResponse request acknowledged request.requestSequence nowEpoch with
    | .error _ => (.thrown, storage)
    | .ok body =>
      (.ok false (body.bytes sha256Hex),
        { storage with syncState := some (acceptedState sha256Hex request acknowledged body) })

end TradeOps.Heartbeat
