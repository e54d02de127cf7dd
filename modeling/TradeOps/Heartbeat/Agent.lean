import TradeOps.Heartbeat.Handler

/-!
# The agent's heartbeat and the network

Embeds `TradeOpsSaveSyncState`, `TradeOpsLoadSyncState`, `TradeOpsPostHeartbeat` of
`TradeOpsSync.mqh` and `TradeOpsResponseIsSafe` of `TradeOpsCanonicalJson.mqh`. The journal and the
payload in it are kept as the records that their texts stand for; the digest of a body is a function
of the body without it. A call of `TradeOpsPostHeartbeat` is cut where the agent can crash: at the
save of a new payload, at the request and at its return.

A request opens a connection. The network delivers copies of what was sent on it, any number of
times and at any time; the agent, as long as it waits, is given one of the answers on its own
connection or a transport error.
-/

namespace TradeOps.Heartbeat

open Checks

/-! ## The response as the agent reads it -/

/-- `TradeOpsReadNonnegativeInteger`: digits without a leading zero that fit a `long`, and the
suffix. -/
def readNonnegativeInteger (input : List Char) (suffix : String) : Option (Nat × List Char) := do
  let digits := input.takeWhile Char.isDigit
  guard (digits ≠ [])
  let rest ← (input.dropWhile Char.isDigit).dropPrefix? suffix.toList
  let number := Nat.ofDigitChars 10 digits 0
  guard (number < 2 ^ 63 ∧ Nat.toDigits 10 number = digits)
  return (number, rest)

/-- `TradeOpsIsLowerHexSha256`. -/
def isLowerHexSha256 (digest : List Char) : Bool :=
  digest.length = 64 ∧ digest.all fun ch => ('0' ≤ ch ∧ ch ≤ '9') ∨ ('a' ≤ ch ∧ ch ≤ 'f')

/-- `TradeOpsResponseIsSafe`: the server sequence and the acknowledged event sequence. -/
def responseIsSafe (sha256Hex : String → String) (response : String)
    (expectedServerSequence : Int) : Option (Nat × Nat) := do
  let rest ← response.toList.dropPrefix? "\x7b\"acknowledged_event_sequence\":".toList
  let (acknowledged, rest) ← readNonnegativeInteger rest
    (",\"command\":null,\"evidence_requests\":[],\"freeze_reasons\":[]," ++
      "\"mode\":\"DRY_RUN\",\"response_body_sha256\":\"")
  let digest := rest.take 64
  guard (64 < rest.length ∧ isLowerHexSha256 digest)
  let rest ← (rest.drop 64).dropPrefix?
    "\",\"schema_version\":\"AgentSyncResponseV1\",\"server_sequence\":".toList
  let (serverSequence, rest) ← readNonnegativeInteger rest ",\"server_time_epoch\":"
  let (serverTime, rest) ← readNonnegativeInteger rest "\x7d"
  guard (rest = [] ∧ (serverSequence : Int) = expectedServerSequence)
  guard (ResponseBody.digest sha256Hex ⟨serverSequence, serverTime, acknowledged⟩ =
    String.ofList digest)
  return (serverSequence, acknowledged)

/-! ## The agent's state -/

/-- `TradeOpsSyncState`. -/
structure AgentState where
  requestSequence : Int
  lastAcknowledgedServerSequence : Int
  pendingPayload : Option Payload
  deriving DecidableEq, Repr

/-- What `TradeOpsLoadSyncState` starts from when there is no journal. -/
def AgentState.first : AgentState := ⟨1, 0, none⟩

/-- What the terminal and the clock give to a new payload. -/
structure Snapshot where
  identity : AgentIdentity
  sentAtEpoch : Int
  summary : HeartbeatSummary
  terminalBuild : Int
  sourceSymbol : String
  deriving DecidableEq, Repr

section Payloads

variable (account : String) (bodyDigest : Payload → String)

/-- `TradeOpsBuildHeartbeatRequest`. -/
def buildHeartbeatRequest (state : AgentState) (snapshot : Snapshot) : Payload :=
  let body : Payload :=
    { accountId := account
      identity := snapshot.identity
      requestSequence := state.requestSequence
      lastAcknowledgedServerSequence := state.lastAcknowledgedServerSequence
      sentAtEpoch := snapshot.sentAtEpoch
      bodySha256 := ""
      summary := snapshot.summary
      terminalBuild := snapshot.terminalBuild
      sourceSymbol := snapshot.sourceSymbol
      eventSequences := [] }
  { body with bodySha256 := bodyDigest body }

/-- `TradeOpsPendingPayloadMatchesState`. -/
def pendingPayloadMatchesState (payload : Payload) (state : AgentState) : Bool :=
  payload.bodySha256 = bodyDigest { payload with bodySha256 := "" } ∧
    payload.lastAcknowledgedServerSequence = state.lastAcknowledgedServerSequence ∧
    payload.requestSequence = state.requestSequence

/-- The checks of a state that is loaded, and that is made before it is saved. -/
def AgentState.valid (state : AgentState) : Bool :=
  1 ≤ state.requestSequence ∧ 0 ≤ state.lastAcknowledgedServerSequence ∧
    state.pendingPayload.all fun payload => pendingPayloadMatchesState bodyDigest payload state

end Payloads

/-! ## The two sides and the network between them -/

/-- The agent, what it has sent on each connection, and the server. `memory` is none while the
agent is down. -/
structure World where
  journal : AgentState
  memory : Option AgentState
  waiting : Option Nat
  nextConnection : Nat
  sent : List (Nat × Payload)
  server : Server

def World.initial (nowEpoch : Int) : World := ⟨.first, none, none, 0, [], .initial nowEpoch⟩

inductive Step where
  | start
  | crash
  | build (snapshot : Snapshot) (saved : Bool)
  | post
  | receive (response : Option Response) (saved : Bool)
  | server (event : Event)
  deriving DecidableEq, Repr

variable (sha256Hex : String → String) (account : String) (bodyDigest : Payload → String)

/-- `TradeOpsSaveSyncState`, and the state in memory when it succeeds. -/
def World.save (world : World) (state : AgentState) (saved : Bool) : World :=
  if saved ∧ state.valid bodyDigest then { world with journal := state, memory := some state }
  else world

/-- What the agent does with the return of its request. -/
def World.handleResponse (world : World) (state : AgentState) (response : Option Response)
    (saved : Bool) : World :=
  match response with
  | some .timestampInvalid => world.save bodyDigest { state with pendingPayload := none } saved
  | some (.ok bytes) =>
    match responseIsSafe sha256Hex bytes state.requestSequence with
    | some (serverSequence, 0) =>
      world.save bodyDigest
        { requestSequence := state.requestSequence + 1
          lastAcknowledgedServerSequence := serverSequence
          pendingPayload := none } saved
    | _ => world
  | _ => world

/-- Only copies of what was sent reach the server. -/
def World.delivers (world : World) : Event → Bool
  | .receive connection payload => (connection, payload) ∈ world.sent
  | _ => true

def World.step (world : World) : Step → Option World
  | .start =>
    if world.memory = none ∧ world.journal.valid bodyDigest then
      some { world with memory := some world.journal }
    else none
  | .crash => some { world with memory := none, waiting := none }
  | .build snapshot saved => do
    let state ← world.memory
    guard (world.waiting = none ∧ state.pendingPayload = none)
    return world.save bodyDigest
      { state with pendingPayload := buildHeartbeatRequest account bodyDigest state snapshot } saved
  | .post => do
    let state ← world.memory
    let payload ← state.pendingPayload
    guard (world.waiting = none ∧ pendingPayloadMatchesState bodyDigest payload state)
    return { world with
      waiting := some world.nextConnection
      nextConnection := world.nextConnection + 1
      sent := (world.nextConnection, payload) :: world.sent }
  | .receive response saved => do
    let state ← world.memory
    let connection ← world.waiting
    guard (response.all fun r => world.server.answers.any fun answer =>
      answer.connection = connection ∧ answer.response = r)
    return { world with waiting := none }.handleResponse sha256Hex bodyDigest state response saved
  | .server event => do
    guard (world.delivers event)
    let server ← world.server.step sha256Hex event
    return { world with server }

def World.run (world : World) (steps : List Step) : Option World :=
  steps.foldlM (fun w step => w.step sha256Hex account bodyDigest step) world

end TradeOps.Heartbeat
