import TradeOps.Lib.Runs
import TradeOps.Telemetry.Database

/-!
# The telemetry repository

Embeds `telemetry-repository-v2.ts`. A call of `acceptTelemetryV2` reads the session and the receipt
in one batch, decides, computes the response and the statements, sends them in one batch, and reads
again before it answers. Between two of these steps other calls may take theirs, and each of them
may fail; a batch may also take effect while its answer is lost, which looks the same to the call.

The system records every request whose batch took effect, with its response.
-/

namespace TradeOps.Telemetry

open JsString JsValue Checks

/-- What the repository calls: SHA-256 in hexadecimal, and SQLite's `json_valid`. -/
structure Env where
  sha256Hex : String → String
  jsonValid : String → Bool

def scopeV2 (env : Env) (request : TelemetryRequestV2) : String :=
  env.sha256Hex (identityKey request.identity)

/-- The canonical text of a registration, which `canonicalStringify` always has. -/
def registrationKey (registration : RegistrationV2) : String :=
  String.ofList registration.json.text

theorem canonicalStringify_registration (registration : RegistrationV2) :
    canonicalStringify registration.json = .ok (registrationKey registration) :=
  canonicalStringify_plain (registration.plain 0)

/-! ## Loading -/

structure Loaded where
  state : Option AcceptedStateV2
  receipt : Option ReceiptMetaV2
  deriving DecidableEq

/-- `readCounterV2` of a stored number. -/
def storedCounter (minimum n : Nat) : Except Code (CounterFrom minimum) :=
  readCounterV2 minimum (.num n)

/-- `JSON.parse` and a reader, on stored text. -/
def readStored {α : Type} (reader : Reader α) (text : String) : Except Code α :=
  match parse text.toList with
  | some value => reader value
  | none => .error .storageUnavailable

/-- The state of a stored session, which must be the one of the request. -/
def loadSession (env : Env) (request : TelemetryRequestV2) (session : SessionRow) :
    Except Code AcceptedStateV2 := do
  let identity ← readStored readIdentityV2 session.identityJson
  let registration ← readStored readRegistrationV2 session.registrationJson
  failIf (session.scope ≠ env.sha256Hex (identityKey identity) ∨
    session.identityJson ≠ identityKey identity ∨
    session.registrationJson ≠ registrationKey registration) Code.storageUnavailable
  failIf (session.scope ≠ scopeV2 env request ∨
    identityKey identity ≠ identityKey request.identity ∨
    registrationKey registration ≠ registrationKey request.registration) Code.identityMismatch
  let lastRequestSequence ← storedCounter 1 session.lastRequestSequence
  let lastEventSequence ← storedCounter 0 session.lastEventSequence
  return ⟨identity, lastRequestSequence, lastEventSequence⟩

/-- A number under a key of an object. -/
def hasNumber (value : JsValue) (key : String) (n : Nat) : Bool :=
  match value with
  | .obj fields =>
    match field fields key with
    | .num m => m = n
    | _ => false
  | _ => false

/-- The stored response is the one for this request. -/
def checkStoredResponse (env : Env) (request : TelemetryRequestV2) (receipt : ReceiptRow) :
    Except Code Unit := do
  let _ ← validateResponseV2 env.sha256Hex receipt.responseBytes.toUTF8 request
  match parse receipt.responseBytes.toList with
  | none => .error .storageUnavailable
  | some response =>
    failIf (¬ hasNumber response "accepted_at_utc_seconds" receipt.acceptedAt ∨
      ¬ hasNumber response "acknowledged_event_sequence" receipt.acknowledgedEvents)
      Code.storageUnavailable

def loadReceipt (env : Env) (request : TelemetryRequestV2) (state : Option AcceptedStateV2)
    (receipt : ReceiptRow) : Except Code ReceiptMetaV2 :=
  match state with
  | none => .error .storageUnavailable
  | some state => do
    let digest ← readDigestV2 (.str (js receipt.requestDigest))
    let _ ← storedCounter 1 receipt.acceptedAt
    let ack ← storedCounter 0 receipt.acknowledgedEvents
    failIf (ack.val > state.lastEventSequence.val) Code.storageUnavailable
    -- another digest is left to the admission
    if digest = request.bodySha256 then
      checkStoredResponse env request receipt
    return ⟨state.identity, request.requestSequence, digest, receipt.responseBytes⟩

/-- Run a reader on a row that may be missing. -/
def onRow {α β : Type} (row : Option α) (read : α → Except Code β) : Except Code (Option β) :=
  match row with
  | none => .ok none
  | some row => (read row).map some

/-- Everything but a mismatch of the identity is a storage error. -/
def storageError (code : Code) : Code :=
  if code = .identityMismatch then code else .storageUnavailable

def loadV2 (env : Env) (db : Db) (request : TelemetryRequestV2) : Except Code Loaded :=
  (do
    let state ← onRow (db.session request.identity.accountId.val) (loadSession env request)
    let receipt ← onRow (db.receipt (scopeV2 env request) request.requestSequence.val)
      (loadReceipt env request state)
    return Loaded.mk state receipt).mapError storageError

/-! ## Statements -/

def EventKind.name : EventKind → String
  | .deal => "DEAL"
  | .protectionObservation => "PROTECTION_OBSERVATION"

def draftKeys : List String :=
  ["deal_id", "event_id", "event_json", "kind", "previous_digest", "projection_json",
   "record_digest", "revision", "sequence"]

/-- The row as the statement gets it: an object of a bound JSON array. -/
def EventRow.draft (row : EventRow) : JsValue :=
  object draftKeys
    [nullableJson (fun text => .str (js text)) row.dealId, .str (js row.eventId),
     .str (js row.eventJson), .str (js row.kind.name),
     nullableJson (fun text => .str (js text)) row.previousDigest,
     nullableJson (fun text => .str (js text)) row.projectionJson, .str (js row.recordDigest),
     nullableJson (fun n : Nat => .num n) row.revision, .num row.sequence]

def eventRow (registration : RegistrationV2) (scope : String) (event : JournalEventV2) :
    Except Code EventRow := do
  let eventJson ← canonicalStringify event.json
  match event.record with
  | .deal deal =>
    let contribution ← projectDealV2 deal registration
    let projectionJson ← canonicalStringify contribution.json
    return ⟨scope, event.sequence.val, event.eventId.val, .deal, some deal.dealId.val,
      some deal.revision.val, deal.previousRecordSha256.map (·.val), event.recordSha256.val,
      eventJson, some projectionJson⟩
  | .protection _ =>
    return ⟨scope, event.sequence.val, event.eventId.val, .protectionObservation, none, none, none,
      event.recordSha256.val, eventJson, none⟩

def latestKeys : List String :=
  ["account_attempt", "collection", "coverage", "diagnostics", "exposure_attempt"]

def latestJson (request : TelemetryRequestV2) (coverage : CoverageV2) : JsValue :=
  object latestKeys
    [request.account.json, request.collection.json, coverage.json, request.diagnostics.json,
     request.exposure.json]

/-- The text of a record that is stored only when it is complete. -/
def whenComplete (complete : Bool) (json : JsValue) : Except Code (Option String) :=
  if complete then (canonicalStringify json).map some else .ok none

def eventRows (registration : RegistrationV2) (scope : String) :
    List JournalEventV2 → Except Code (List EventRow)
  | [] => .ok []
  | event :: rest => do
    let row ← eventRow registration scope event
    let rows ← eventRows registration scope rest
    return row :: rows

def statementsV2 (request : TelemetryRequestV2) (scope : String) (previous : Nat) (ack : Counter)
    (now : Instant) (response : String) : Except Code Batch := do
  failIf (request.events.val.length > 32) Code.tooLarge
  let coverage ← deriveCoverageV2 true request.collection ack
  let latest ← canonicalStringify (latestJson request coverage)
  let events ← eventRows request.registration scope request.events.val
  let _ ← canonicalStringify (.arr (events.map EventRow.draft))
  let identityJson ← canonicalStringify request.identity.json
  let registrationJson ← canonicalStringify request.registration.json
  let accountJson ← whenComplete (request.account.status = .complete) request.account.json
  let exposureJson ← whenComplete (request.exposure.status = .complete) request.exposure.json
  return {
    session := {
      accountId := request.identity.accountId.val
      scope := scope
      identityJson := identityJson
      registrationJson := registrationJson
      lastRequestSequence := request.requestSequence.val
      lastEventSequence := ack.val
      requestDigest := request.bodySha256.val
      acceptedAt := now.val
      latestJson := latest
      accountJson := accountJson
      exposureJson := exposureJson }
    previous := previous
    receipt := ⟨scope, request.requestSequence.val, request.bodySha256.val, response, now.val,
      ack.val⟩
    events := events }

/-! ## Calls -/

/-- The part of `acceptTelemetryV2` between the admission and the batch. -/
def prepareCommit (env : Env) (state : Option AcceptedStateV2) (request : TelemetryRequestV2)
    (ack : Counter) (now : Instant) : Except Code Batch := do
  failIf (request.lastAcknowledgedEventSequence.val ≠
    (state.map (·.lastEventSequence.val)).getD 0) Code.eventSequenceInvalid
  let response ← responseBytesV2 env.sha256Hex request ack now
  let _ ← validateResponseV2 env.sha256Hex response.toUTF8 request
  statementsV2 request (scopeV2 env request) ((state.map (·.lastRequestSequence.val)).getD 0) ack
    now response

/-- The envelope was sent at most thirty seconds from now. -/
def fresh (request : TelemetryRequestV2) (now : Int) : Bool :=
  (now - request.sentAtUtcSeconds.val).natAbs ≤ 30

inductive Phase where
  | begin
  | ready (batch : Batch)
  | confirm
  | returned (responseBytes : String)
  | failed (code : Code)
  | crashed
  deriving DecidableEq

/-- A running or ended call; `committed` says whether its batch took effect. -/
structure Call where
  request : TelemetryRequestV2
  now : Int
  phase : Phase
  committed : Bool
  deriving DecidableEq

/-- `readCounterV2(now, 1)`. -/
def readNow (now : Int) : Except Code Instant := readCounterV2 1 (.num now)

/-- Everything up to the batch. -/
def Call.load (env : Env) (db : Db) (call : Call) : Phase :=
  match readNow call.now with
  | .error code => .failed code
  | .ok now =>
    match loadV2 env db call.request with
    | .error code => .failed code
    | .ok loaded =>
      match decideAdmissionV2 loaded.state loaded.receipt call.request
          (fresh call.request call.now) with
      | .reject code => .failed code
      | .replay responseBytes => .returned responseBytes
      | .new ack =>
        match prepareCommit env loaded.state call.request ack now with
        | .error code => .failed code
        | .ok batch => .ready batch

/-- `committedBytes`: the answer is what the tables hold. -/
def Call.reload (env : Env) (db : Db) (call : Call) : Phase :=
  match loadV2 env db call.request with
  | .error code => .failed code
  | .ok loaded =>
    match decideAdmissionV2 loaded.state loaded.receipt call.request
        (fresh call.request call.now) with
    | .replay responseBytes => .returned responseBytes
    | .reject .replayConflict => .failed .replayConflict
    | _ => .failed .storageUnavailable

/-! ## The system -/

structure World where
  db : Db
  calls : List Call
  accepted : List (TelemetryRequestV2 × String)

def World.initial : World := ⟨.empty, [], []⟩

inductive Action where
  | accept (request : TelemetryRequestV2) (now : Int)
  | load (call : Nat)
  | commit (call : Nat) (reached : Bool)
  | reload (call : Nat)
  | fault (call : Nat)
  | crash (call : Nat)

def World.put (w : World) (i : Nat) (call : Call) : World :=
  { w with calls := w.calls.set i call }

/-- The batch of a call, when it reaches the database. A constraint that fails leaves everything as
it was; whether the answer comes back makes no difference to the call. -/
def World.commit (env : Env) (w : World) (i : Nat) (call : Call) (batch : Batch) : World :=
  match batch.exec env.jsonValid w.db with
  | .error _ => w.put i { call with phase := .confirm }
  | .ok db' =>
    { db := db'
      calls := w.calls.set i { call with phase := .confirm, committed := true }
      accepted := w.accepted ++ [(call.request, batch.receipt.responseBytes)] }

def World.act (env : Env) (w : World) : Action → Option World
  | .accept request now => some { w with calls := w.calls ++ [⟨request, now, .begin, false⟩] }
  | .load i => do
    let call ← w.calls[i]?
    match call.phase with
    | .begin => some (w.put i { call with phase := call.load env w.db })
    | _ => none
  | .commit i reached => do
    let call ← w.calls[i]?
    match call.phase with
    | .ready batch =>
      if reached then some (w.commit env i call batch)
      else some (w.put i { call with phase := .confirm })
    | _ => none
  | .reload i => do
    let call ← w.calls[i]?
    match call.phase with
    | .confirm => some (w.put i { call with phase := call.reload env w.db })
    | _ => none
  | .fault i => do
    let call ← w.calls[i]?
    match call.phase with
    | .begin | .confirm => some (w.put i { call with phase := .failed .storageUnavailable })
    | _ => none
  | .crash i => do
    let call ← w.calls[i]?
    match call.phase with
    | .begin | .ready _ | .confirm => some (w.put i { call with phase := .crashed })
    | _ => none

/-- Any interleaving of calls, from empty tables. -/
def telemetry (env : Env) : System World Action where
  init w := w = World.initial
  step action w w' := w.act env action = some w'

end TradeOps.Telemetry
