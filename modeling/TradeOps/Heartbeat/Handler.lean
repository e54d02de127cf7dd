import TradeOps.Heartbeat.Acceptance

/-!
# The agent sync handler

Embeds the route `/api/v1/agent/sync` of `index.ts` with `validateCoordinatorResponse`,
`writeSyncAudit`, `writeAcceptedSyncAuditAndHealth` and `projectAcceptedHeartbeatV1`. A call parses
its body with the clock it reads on entry, asks the coordinator of the account, writes to the
database and answers; calls run side by side, and between any two of these steps other calls may
take theirs.

Of the body the fields that are read afterwards are kept. That a body is refused by the parser, that
the coordinator cannot be reached or its answer is lost, that a batch fails, or is applied and
reported as failed, and that a call ends without an answer, are choices of the event.
-/

namespace TradeOps.Heartbeat

open JsString JsValue

/-- The body of a request. -/
structure Payload where
  accountId : String
  identity : AgentIdentity
  requestSequence : Int
  lastAcknowledgedServerSequence : Int
  sentAtEpoch : Int
  bodySha256 : String
  summary : HeartbeatSummary
  terminalBuild : Int
  sourceSymbol : String
  eventSequences : List Int
  deriving DecidableEq, Repr

/-- `parseAgentSyncRequest` of a body that it accepts. -/
def parseAgentSyncRequest (payload : Payload) (nowEpoch : Int) : AgentSyncRequest :=
  { accountId := payload.accountId
    identity := payload.identity
    requestSequence := payload.requestSequence
    sentAtEpoch := payload.sentAtEpoch
    freshness := if (payload.sentAtEpoch - nowEpoch).natAbs > 30 then .stale else .fresh
    bodySha256 := payload.bodySha256
    summary := payload.summary
    terminalBuild := payload.terminalBuild
    sourceSymbol := payload.sourceSymbol
    eventSequences := payload.eventSequences }

inductive Response where
  | ok (bytes : String)
  | agentSyncInvalid
  | timestampInvalid
  | replayConflict
  | agentSyncConflict
  | coordinatorUnavailable
  | auditUnavailable
  deriving DecidableEq, Repr

/-! ## The coordinator's answer -/

def agentSyncResponseKeys : List JsString :=
  ["schema_version", "response_body_sha256", "server_sequence", "server_time_epoch", "mode",
    "freeze_reasons", "acknowledged_event_sequence", "evidence_requests", "command"].map js

/-- `sort()` of strings: by their code units. -/
def sortedNames (names : List JsString) : List JsString :=
  SortBy.sortBy (fun name => name.map UInt16.toNat) names

/-- `/^[a-f0-9]{64}$/`. -/
def isSha256 (s : JsString) : Bool :=
  s.length = 64 ∧ s.all fun u =>
    (97 ≤ u.toNat ∧ u.toNat ≤ 102) ∨ (48 ≤ u.toNat ∧ u.toNat ≤ 57)

def field (fields : List (JsString × JsValue)) (name : String) : Option JsValue :=
  (fields.find? (·.1 = js name)).map Prod.snd

/-- The value under a name is the given text. -/
def isText (fields : List (JsString × JsValue)) (name expected : String) : Bool :=
  match field fields name with
  | some (.str s) => s = js expected
  | _ => false

def isNull (fields : List (JsString × JsValue)) (name : String) : Bool :=
  match field fields name with
  | some .null => true
  | _ => false

def isEmptyArray (fields : List (JsString × JsValue)) (name : String) : Bool :=
  match field fields name with
  | some (.arr items) => items.isEmpty
  | _ => false

/-- The safe integer under a name. -/
def safeField (fields : List (JsString × JsValue)) (name : String) (minimum : Int) : Option Int :=
  match field fields name with
  | some (.num n) => if safeInteger n minimum then some n else none
  | _ => none

def validateCoordinatorResponse (sha256Hex : String → String) (responseBytes : String)
    (expectedServerSequence minimumAcknowledgedEventSequence : Int) : Option Int := do
  let some (.obj fields) := parse responseBytes.toList | none
  guard (sortedNames (fields.map Prod.fst) = sortedNames agentSyncResponseKeys)
  guard (isText fields "schema_version" "AgentSyncResponseV1")
  guard (isText fields "mode" "DRY_RUN" ∧ isNull fields "command")
  let some (.str digest) := field fields "response_body_sha256" | none
  guard (isSha256 digest ∧ digest ≠ List.replicate 64 48)
  let serverSequence ← safeField fields "server_sequence" 1
  guard (serverSequence = expectedServerSequence)
  let _ ← safeField fields "server_time_epoch" 0
  let acknowledged ← safeField fields "acknowledged_event_sequence" (-maxSafeInteger)
  guard (minimumAcknowledgedEventSequence ≤ acknowledged)
  guard (isEmptyArray fields "freeze_reasons" ∧ isEmptyArray fields "evidence_requests")
  guard (responseBytes = String.ofList (text (.obj fields)))
  let body := fields.filter (·.1 ≠ js "response_body_sha256")
  guard (js (sha256Hex (String.ofList (text (.obj body)))) = digest)
  return serverSequence

section Valid

variable {sha256Hex : String → String}

theorem guard_pos {p : Prop} [Decidable p] (h : p) : (guard p : Option Unit) = some () :=
  if_pos h

/-- The fields of a signed response. -/
def ResponseBody.signed (sha256Hex : String → String) (body : ResponseBody) :
    List (JsString × JsValue) :=
  body.fields [(js "response_body_sha256", .str (js (body.digest sha256Hex)))]

theorem sortedNames_signed (body : ResponseBody) :
    sortedNames ((body.signed sha256Hex).map Prod.fst) = sortedNames agentSyncResponseKeys := by
  show sortedNames [js "acknowledged_event_sequence", js "command", js "evidence_requests",
      js "freeze_reasons", js "mode", js "response_body_sha256", js "schema_version",
      js "server_sequence", js "server_time_epoch"] = _
  decide +kernel

/-- A response that the coordinator signs is valid for the sequence it names. -/
theorem validateCoordinatorResponse_bytes {body : ResponseBody} {minimum : Int}
    (hdigest : isSha256 (js (body.digest sha256Hex)) = true)
    (hzero : js (body.digest sha256Hex) ≠ List.replicate 64 48)
    (hsequence : safeInteger body.serverSequence 1 = true)
    (htime : safeInteger body.serverTimeEpoch 0 = true)
    (hacknowledged : safeInteger body.acknowledgedEventSequence (-maxSafeInteger) = true)
    (hminimum : minimum ≤ body.acknowledgedEventSequence) :
    validateCoordinatorResponse sha256Hex (body.bytes sha256Hex) body.serverSequence minimum =
      some body.serverSequence := by
  have hparse : parse (body.bytes sha256Hex).toList = some (.obj (body.signed sha256Hex)) := by
    rw [ResponseBody.bytes, String.toList_ofList]
    exact parse_text (response_ordered body)
  have hserver : safeField (body.signed sha256Hex) "server_sequence" 1 =
      some body.serverSequence := by
    show (if _ then _ else _) = _
    rw [hsequence, if_pos rfl]
  have hclock : safeField (body.signed sha256Hex) "server_time_epoch" 0 =
      some body.serverTimeEpoch := by
    show (if _ then _ else _) = _
    rw [htime, if_pos rfl]
  have hack : safeField (body.signed sha256Hex) "acknowledged_event_sequence" (-maxSafeInteger) =
      some body.acknowledgedEventSequence := by
    show (if _ then _ else _) = _
    rw [hacknowledged, if_pos rfl]
  have hfield : field (body.signed sha256Hex) "response_body_sha256" =
      some (.str (js (body.digest sha256Hex))) := rfl
  have hschema : isText (body.signed sha256Hex) "schema_version" "AgentSyncResponseV1" = true := rfl
  have hmode : isText (body.signed sha256Hex) "mode" "DRY_RUN" = true := rfl
  have hcommand : isNull (body.signed sha256Hex) "command" = true := rfl
  have hfreeze : isEmptyArray (body.signed sha256Hex) "freeze_reasons" = true := rfl
  have hevidence : isEmptyArray (body.signed sha256Hex) "evidence_requests" = true := rfl
  have hbytes : body.bytes sha256Hex = String.ofList (text (.obj (body.signed sha256Hex))) := rfl
  have hsigned : js (sha256Hex (String.ofList (text (.obj ((body.signed sha256Hex).filter
      (·.1 ≠ js "response_body_sha256")))))) = js (body.digest sha256Hex) := rfl
  unfold validateCoordinatorResponse
  rw [hparse]
  dsimp only
  rw [hserver, hclock, hack, hfield]
  simp only [guard_pos (sortedNames_signed body), guard_pos hschema,
    guard_pos (And.intro hmode hcommand), guard_pos (And.intro hdigest hzero), guard_pos hminimum,
    guard_pos (And.intro hfreeze hevidence), guard_pos hbytes, guard_pos hsigned,
    guard_pos trivial, Option.bind_eq_bind, Option.bind_some, Option.pure_def]

end Valid

/-- The result code of an audit row. -/
inductive ResultCode where
  | accepted | exactRetry | rejected (code : Rejection)
  deriving DecidableEq, Repr

/-- What a call goes on with after the coordinator: what it will write and answer. -/
structure Coordinated where
  code : ResultCode
  serverSequence : Option Int
  response : Response
  deriving DecidableEq, Repr

def rejectionResponse : Rejection → Response
  | .replayConflict => .replayConflict
  | .staleTimestamp => .timestampInvalid
  | .sequenceInvalid => .agentSyncConflict
  | .identityMismatch => .agentSyncConflict

/-- `none` is answered that the coordinator is unavailable. -/
def readOutcome (sha256Hex : String → String) (request : AgentSyncRequest) :
    Outcome → Option Coordinated
  | .ok replayed bytes => do
    let serverSequence ← validateCoordinatorResponse sha256Hex bytes request.requestSequence
      (maximumEventSequence request)
    return ⟨if replayed then .exactRetry else .accepted, some serverSequence, .ok bytes⟩
  | .rejected code => some ⟨.rejected code, none, rejectionResponse code⟩
  | .thrown => none

/-! ## The database -/

/-- A row of `agent_sync_audit_v1`, without its random key. -/
structure AuditRow where
  accountId : String
  installationId : String
  requestSequence : Int
  requestBodySha256 : String
  resultCode : ResultCode
  serverSequence : Option Int
  receivedAtEpoch : Int
  deriving DecidableEq, Repr

/-- A row of `agent_health_current_v1`; the first two fields are its key. -/
structure HealthRow where
  accountId : String
  installationId : String
  lastAcceptedEpoch : Int
  requestSequence : Int
  serverSequence : Int
  terminalBuild : Int
  sourceSymbol : String
  terminalConnectionState : String
  accountTradePermission : String
  terminalTradePermission : String
  algoTradingPermission : String
  deriving DecidableEq, Repr

def projectAcceptedHeartbeat (request : AgentSyncRequest) (serverSequence receivedAtEpoch : Int) :
    HealthRow :=
  { accountId := request.accountId
    installationId := request.identity.installationId
    lastAcceptedEpoch := receivedAtEpoch
    requestSequence := request.requestSequence
    serverSequence
    terminalBuild := request.terminalBuild
    sourceSymbol := request.sourceSymbol
    terminalConnectionState := request.summary.terminalConnectionState
    accountTradePermission := request.summary.accountTradePermission
    terminalTradePermission := request.summary.terminalTradePermission
    algoTradingPermission := request.summary.algoTradingPermission }

structure Database where
  audit : List AuditRow
  health : String × String → Option HealthRow

def HealthRow.key (row : HealthRow) : String × String := (row.accountId, row.installationId)

/-- `INSERT ... ON CONFLICT DO UPDATE ... WHERE excluded.request_sequence > request_sequence`. -/
def Database.upsertHealth (db : Database) (row : HealthRow) : Database :=
  { db with
    health := Function.update db.health row.key (some (match db.health row.key with
      | none => row
      | some old => if old.requestSequence < row.requestSequence then row else old)) }

def Database.insertAudit (db : Database) (request : AgentSyncRequest) (code : ResultCode)
    (serverSequence : Option Int) (receivedAtEpoch : Int) : Database :=
  { db with
    audit := db.audit ++ [⟨request.accountId, request.identity.installationId,
      request.requestSequence, request.bodySha256, code, serverSequence, receivedAtEpoch⟩] }

/-- The batch that follows the coordinator's answer. -/
def Database.write (db : Database) (request : AgentSyncRequest) (nowEpoch : Int)
    (answer : Coordinated) : Database :=
  let audited := db.insertAudit request answer.code answer.serverSequence nowEpoch
  match answer.code, answer.serverSequence with
  | .accepted, some serverSequence =>
    audited.upsertHealth (projectAcceptedHeartbeat request serverSequence nowEpoch)
  | _, _ => audited

/-! ## Calls side by side -/

/-- A call on its way; before the coordinator has answered there is nothing to write. -/
structure Handler where
  connection : Nat
  request : AgentSyncRequest
  nowEpoch : Int
  coordinated : Option Coordinated
  deriving DecidableEq, Repr

/-- An answer that was given; `code` is none when the call ended before its audit. -/
structure Answer where
  connection : Nat
  request : Option AgentSyncRequest
  code : Option ResultCode
  response : Response
  deriving DecidableEq, Repr

structure Server where
  nowEpoch : Int
  coordinators : String → Storage
  db : Database
  handlers : List Handler
  answers : List Answer

def Server.initial (nowEpoch : Int) : Server :=
  ⟨nowEpoch, fun _ => .empty, ⟨[], fun _ => none⟩, [], []⟩

/-- How a batch ends. -/
inductive Written where
  | committed | failed | committedUnreported
  deriving DecidableEq, Repr

inductive Event where
  | tick (seconds : Nat)
  | receive (connection : Nat) (payload : Payload)
  | refuseBody (connection : Nat)
  | unavailable (handler : Handler)
  | coordinate (handler : Handler) (returned : Bool)
  | write (handler : Handler) (written : Written)
  | abandon (handler : Handler)
  deriving DecidableEq, Repr

variable (sha256Hex : String → String)

/-- The coordinator of the account runs, and the call reads its answer. -/
def Server.coordinate (server : Server) (handler : Handler) (returned : Bool) : Server :=
  let result := coordinateAgentSync sha256Hex (server.coordinators handler.request.accountId)
    handler.request handler.nowEpoch
  let rest := server.handlers.erase handler
  let server := { server with
    coordinators := Function.update server.coordinators handler.request.accountId result.2 }
  match if returned then readOutcome sha256Hex handler.request result.1 else none with
  | some coordinated =>
    { server with handlers := { handler with coordinated := some coordinated } :: rest }
  | none =>
    { server with
      handlers := rest
      answers := ⟨handler.connection, some handler.request, none, .coordinatorUnavailable⟩ ::
        server.answers }

/-- The batch is sent, and the call answers. -/
def Server.write (server : Server) (handler : Handler) (coordinated : Coordinated)
    (written : Written) : Server :=
  { server with
    db := match written with
      | .failed => server.db
      | _ => server.db.write handler.request handler.nowEpoch coordinated
    handlers := server.handlers.erase handler
    answers := ⟨handler.connection, some handler.request, some coordinated.code,
      match written with
      | .committed => coordinated.response
      | _ => .auditUnavailable⟩ :: server.answers }

def Server.step (server : Server) : Event → Option Server
  | .tick seconds => some { server with nowEpoch := server.nowEpoch + seconds }
  | .receive connection payload =>
    some { server with
      handlers := ⟨connection, parseAgentSyncRequest payload server.nowEpoch, server.nowEpoch,
        none⟩ :: server.handlers }
  | .refuseBody connection =>
    some { server with
      answers := ⟨connection, none, none, .agentSyncInvalid⟩ :: server.answers }
  | .unavailable handler =>
    if handler ∈ server.handlers ∧ handler.coordinated = none then
      some { server with
        handlers := server.handlers.erase handler
        answers := ⟨handler.connection, some handler.request, none, .coordinatorUnavailable⟩ ::
          server.answers }
    else none
  | .coordinate handler returned =>
    if handler ∈ server.handlers ∧ handler.coordinated = none then
      some (server.coordinate sha256Hex handler returned)
    else none
  | .write handler written =>
    match handler.coordinated with
    | some coordinated =>
      if handler ∈ server.handlers then some (server.write handler coordinated written) else none
    | none => none
  | .abandon handler =>
    if handler ∈ server.handlers then
      some { server with handlers := server.handlers.erase handler }
    else none

/-- A list of events, one after the other. -/
def Server.run (server : Server) (events : List Event) : Option Server :=
  events.foldlM (fun s event => s.step sha256Hex event) server

end TradeOps.Heartbeat
