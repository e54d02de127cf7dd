import TradeOps.Agent.State

/-!
# Operations of the telemetry state

The transitions of `TradeOpsTelemetryState.mqh`: the first generation, new events, the request that
waits to be sent, its acknowledgement or replacement, a diagnostic, and compaction.
-/

namespace TradeOps.Agent

open Prog

/-! ## Arguments -/

structure AppendCandidate where
  eventId : Text
  recordSha : Text
  dealId : Text
  revision : Nat
  deriving DecidableEq, Repr

def appendCandidateValid (c : AppendCandidate) : Bool :=
  identifier c.eventId ∧ digest c.recordSha ∧ counter c.revision ∧
    if c.dealId = dash then c.revision = 0 else ticket c.dealId ∧ 1 ≤ c.revision

structure OutboxContext where
  state : LocalState
  rootSha : Text

structure OutboxCandidate where
  expectedGeneration : Nat
  expectedRootSha : Text
  registrationSha : Text
  requestSequence : Nat
  bodySha : Text
  prefixCount : Nat
  frozenProduced : Nat
  deriving DecidableEq, Repr

structure OutboxAcceptance where
  identity : Text
  registrationSha : Text
  requestSequence : Nat
  bodySha : Text
  pendingSha : Text
  finalEvent : Nat
  acceptedAt : Nat
  deriving DecidableEq, Repr

inductive OutboxBuild where
  | ok (candidate : OutboxCandidate) (request : Bytes)
  | sizeLimit
  | invalid

/-- `ITov2TelemetryOutboxAdapter`. -/
structure OutboxAdapter where
  build : OutboxContext → (registration arena : Bytes) → (ends : List Nat) →
    (prefixCount : Nat) → OutboxBuild
  validateRequest : OutboxContext → (registration arena : Bytes) → (ends : List Nat) →
    OutboxCandidate → (request : Bytes) → Bool
  validateResponse : LocalState → (pending response : Bytes) → Option OutboxAcceptance
  validateReplacement : LocalState → (pending rejection replacement : Bytes) →
    (bodySha : Text) → Bool

def responseMax : Nat := 16384

/-- The bytes of an arena from one end to the next. -/
def slice (arena : Bytes) (first last : Nat) : Bytes := (arena.drop first).take (last - first)

namespace TelemetryState

variable (A : TelemetryState)

/-! ## The first generation -/

/-- The state of the first generation. -/
def initialState (registrationSha captureSha captureSchema : Text) : LocalState :=
  { LocalState.empty with
    generation := 1
    identity := A.identity
    registration := makeRef .registration 1 0 registrationSha
    capture := makeRef .capture 1 1 captureSha
    captureSchema := captureSchema
    completeness := .catchingUp }

/-- The records of the first generation. -/
def firstPublication (registration capture : Bytes) (captureSchema : Text) :
    Option (List StoredRecord) := do
  let (registrationFrame, registrationSha) ← A.makeFrame registrationKind 1 registration
  let (captureFrame, captureSha) ← A.makeFrame checkpointKind 1 capture
  A.publication .init (A.initialState registrationSha captureSha captureSchema) dash 0
    registrationSha [⟨registrationLocator, registrationFrame⟩, ⟨objectLocator 1 1, captureFrame⟩]

def initializeNew (registration capture : Bytes) (captureSchema : Text) : Act Unit := do
  let _ ← A.guard false
  let m ← fields
  require (!m.loaded ∧ m.emptyReady ∧ identifier captureSchema) .invalid
  let listed ← A.refreshInventory
  -- Only a storage without an inventory is initialized.
  require (!listed) .conflict
  let m ← fields
  require (inventoryHasOnlyEmptyOwner m.inventory) .notStarted
  require (A.validator.registration registration A.identity ∧
    A.validator.capture capture captureSchema A.identity) .invalid
  match A.firstPublication registration capture captureSchema with
  | none => fail .invalid
  | some records => do
    require (storagePreflight m.inventory .init (records.map fun f => f.bytes.length).sum
      records.length) .limit
    A.createAll records
    A.reload

/-! ## New events -/

/-- What the loop over the candidates of `Append` has found. -/
structure Replay where
  previous : Nat
  prefixCount : Nat
  replayStart : Option Nat
  sawNew : Bool
  accepted : List (AppendCandidate × Bytes)

/-- The place of the event with this id; the ids of a state differ. -/
def findEvent (events : List LocalRef) (eventId : Text) : Option (LocalRef × Nat) :=
  events.zipIdx.find? fun p => p.1.eventId = eventId

/-- A candidate that is stored already: it has to be the next one of the stored events. -/
def matchStored (c : AppendCandidate) (payload : Bytes) (replay : Replay) : Act Replay := do
  let m ← fields
  match findEvent m.state.events c.eventId with
  | none => pure { replay with sawNew := true }
  | some (event, found) => do
    require (!replay.sawNew) .conflict
    require (found = replay.replayStart.getD found + replay.accepted.length) .conflict
    require (event.recordSha = c.recordSha ∧ event.dealId = c.dealId ∧ event.revision = c.revision)
      .conflict
    let committed ← A.readPresent event
    require (committed = payload ∧ A.validator.event committed event.eventId event.recordSha
      event.dealId event.revision A.identity) .conflict
    pure { replay with
      prefixCount := replay.prefixCount + 1
      replayStart := some (replay.replayStart.getD found) }

/-- One turn of the loop over the candidates. -/
def appendStep (arena : Bytes) (c : AppendCandidate) (last : Nat) (replay : Replay) :
    Act Replay := do
  let m ← fields
  require (appendCandidateValid c ∧ replay.previous < last ∧ last ≤ arena.length) .invalid
  let payload := slice arena replay.previous last
  require (payload.length ≤ payloadMax ∧ localHash A.sha payload = some c.recordSha) .invalid
  require (A.validator.event payload c.eventId c.recordSha c.dealId c.revision A.identity) .invalid
  require (!m.state.events.any fun e => c.dealId ≠ dash ∧ e.dealId = c.dealId ∧
    e.revision = c.revision ∧ e.eventId ≠ c.eventId) .conflict
  let replay ← A.matchStored c payload replay
  require (!replay.accepted.any fun p => p.1.eventId = c.eventId ∨
    (c.dealId ≠ dash ∧ p.1.dealId = c.dealId ∧ p.1.revision = c.revision)) .conflict
  pure { replay with previous := last, accepted := replay.accepted ++ [(c, payload)] }

def appendLoop (arena : Bytes) : List (AppendCandidate × Nat) → Replay → Act Replay
  | [], replay => pure replay
  | (c, last) :: rest, replay => do
    let replay ← A.appendStep arena c last replay
    appendLoop arena rest replay

/-- The reference and the record of the new event with this index. -/
def stageEvent (generation produced : Nat) (p : (AppendCandidate × Bytes) × Nat) :
    Option (LocalRef × StoredRecord) := do
  let (frame, digest) ← A.makeFrame eventKind generation p.1.2
  some (⟨.event, generation, p.2 + 1, digest, produced + 1 + p.2, p.1.1.eventId, p.1.1.recordSha,
    p.1.1.dealId, p.1.1.revision⟩, ⟨objectLocator generation (p.2 + 1), frame⟩)

/-- The state that follows a state: the next free generation, with the root as parent. -/
def successor (m : Fields) : LocalState :=
  { m.state with
    generation := m.highestObserved + 1
    parentGeneration := m.state.generation
    parentCommit := m.commitSha }

def currentCaptureMatches (capture : Bytes) (captureSchema : Text) : Act Bool := do
  let m ← fields
  if m.state.captureSchema ≠ captureSchema then pure false
  else do
    let stored ← A.readPresent m.state.capture
    pure (stored = capture)

/-- Publish the events that are new. -/
def appendNew (replay : Replay) (capture : Bytes) (captureSchema : Text) : Act (List Nat) := do
  let m ← fields
  let fresh := replay.accepted.drop replay.prefixCount
  let start := replay.replayStart.getD 0
  require (replay.prefixCount = 0 ∨ start + replay.prefixCount = m.state.events.length) .conflict
  require (m.state.events.length + fresh.length ≤ maxEvents) .limit
  require (m.highestObserved < maxCounter) .limit
  let generation := m.highestObserved + 1
  match fresh.zipIdx.mapM (A.stageEvent generation m.state.produced),
      A.makeFrame checkpointKind generation capture with
  | some staged, some (captureFrame, captureSha) => do
    let candidate := { successor m with
      captureSchema := captureSchema
      events := m.state.events ++ staged.map Prod.fst
      produced := m.state.produced + fresh.length
      capture := makeRef .capture generation (fresh.length + 1) captureSha }
    A.publish .append candidate
      (staged.map Prod.snd ++ [⟨objectLocator generation (fresh.length + 1), captureFrame⟩])
    pure ((((m.state.events.drop start).take replay.prefixCount) ++ staged.map Prod.fst).map
      (·.sequence))
  | _, _ => fail .ioError

/-- The sequences of the events of a batch, stored or new. -/
def append (candidates : List AppendCandidate) (arena : Bytes) (ends : List Nat) (capture : Bytes)
    (captureSchema : Text) : Act (List Nat) := do
  let _ ← A.guard false
  let m ← fields
  require (m.loaded ∧ identifier captureSchema) .invalid
  A.requireInventory
  A.verifyCurrentRootFresh
  require (candidates.length ≤ maxBatch ∧ ends.length = candidates.length) .limit
  let replay ← A.appendLoop arena (candidates.zip ends) ⟨0, 0, none, false, []⟩
  require (replay.previous = arena.length) .invalid
  let m ← fields
  let previousCapture ← A.readPresent m.state.capture
  require (A.validator.captureAdvance previousCapture m.state.captureSchema capture captureSchema
    A.identity) .invalid
  if replay.prefixCount = candidates.length ∧ candidates ≠ [] then do
    let same ← A.currentCaptureMatches capture captureSchema
    require same .conflict
    pure (((m.state.events.drop (replay.replayStart.getD 0)).take candidates.length).map
      (·.sequence))
  else A.appendNew replay capture captureSchema

/-! ## Contexts -/

/-- The state and its root, with the payloads of the registration and the capture. -/
def readCaptureContext : Act (OutboxContext × Bytes × Bytes) := do
  A.freshOutboxRoot
  let m ← fields
  let registration ← A.readPresent m.state.registration
  let capture ← A.readPresent m.state.capture
  A.typedPayloadValid m.state.registration m.state registration .recoveryRequired
  A.typedPayloadValid m.state.capture m.state capture .recoveryRequired
  pure (⟨m.state, m.commitSha⟩, registration, capture)

/-- The longest run of events from the front that no deal stands in twice, up to a batch. -/
def batchFrom (taken : List LocalRef) : List LocalRef → List LocalRef
  | [] => []
  | e :: rest =>
    if taken.length < maxBatch ∧ ¬ taken.any (fun f => e.dealId ≠ dash ∧ f.dealId = e.dealId) then
      e :: batchFrom (taken ++ [e]) rest
    else []

/-- Append the payloads of references to an arena. -/
def readArena : List LocalRef → Bytes → List Nat → Act (Bytes × List Nat)
  | [], arena, ends => pure (arena, ends)
  | r :: rest, arena, ends => do
    let payload ← A.readPresent r
    readArena rest (arena ++ payload) (ends ++ [arena.length + payload.length])

def readOutboxContext : Act (OutboxContext × Bytes × Bytes × List Nat) := do
  A.freshOutboxRoot
  let m ← fields
  let registration ← A.readPresent m.state.registration
  let (arena, ends) ← A.readArena (batchFrom [] m.state.events) [] []
  pure (⟨m.state, m.commitSha⟩, registration, arena, ends)

/-! ## The request that waits -/

def readPending : Act Bytes := do
  A.freshOutboxRoot
  let m ← fields
  require (m.state.pending.kind ≠ .absent) .notStarted
  let stored ← A.readPresent m.state.pending
  A.typedPayloadValid m.state.pending m.state stored .recoveryRequired
  pure stored

def outboxCandidateMatches (m : Fields) (c : OutboxCandidate) : Bool :=
  c.expectedGeneration = m.state.generation ∧ c.expectedRootSha = m.commitSha ∧
    c.registrationSha = m.state.registration.sha ∧ m.state.acceptedRequest < maxCounter ∧
    c.requestSequence = m.state.acceptedRequest + 1 ∧ digest c.bodySha ∧
    c.prefixCount ≤ maxBatch ∧ c.prefixCount ≤ m.state.events.length ∧
    c.frozenProduced = m.state.produced ∧ ¬ (c.prefixCount = 0 ∧ m.state.events ≠ []) ∧
    (m.state.events.take c.prefixCount).map (·.sequence) =
      List.range' (m.state.acceptedEvent + 1) c.prefixCount ∧
    (m.state.events.take c.prefixCount).Pairwise (fun e f => LocalState.dealsDiffer e f)

/-- The state in which a request waits. -/
def preparedState (m : Fields) (c : OutboxCandidate) (sha : Text) : LocalState :=
  { successor m with
    pending := makeRef .pending (m.highestObserved + 1) 1 sha c.requestSequence
    pendingRequest := c.requestSequence
    pendingBody := c.bodySha
    pendingPrior := m.state.acceptedEvent
    pendingFinal := m.state.acceptedEvent + c.prefixCount
    pendingCount := c.prefixCount
    pendingProduced := m.state.produced
    completeness :=
      if m.state.completeness = .upToDate then .catchingUp else m.state.completeness }

/-- The request that is stored: one that waits already wins over the new one. -/
def preparePending (adapter : OutboxAdapter) (candidate : OutboxCandidate) (request : Bytes) :
    Act Bytes := do
  A.freshOutboxRoot
  let m ← fields
  if m.state.pending.kind ≠ .absent then A.readPending
  else do
    require (m.highestObserved < maxCounter ∧ m.state.acceptedRequest < maxCounter) .limit
    require (1 ≤ request.length ∧ request.length ≤ payloadMax ∧
      outboxCandidateMatches m candidate) .invalid
    let (context, registration, arena, ends) ← A.readOutboxContext
    require (adapter.validateRequest context registration arena ends candidate request) .invalid
    A.freshOutboxRoot
    let m ← fields
    require (outboxCandidateMatches m candidate ∧ m.state.pending.kind = .absent) .conflict
    require (m.highestObserved < maxCounter) .limit
    match A.makeFrame pendingKind (m.highestObserved + 1) request with
    | none => fail .invalid
    | some (frame, sha) => do
      let next := preparedState m candidate sha
      A.typedPayloadValid next.pending next request .invalid
      A.publish .prepare next [⟨objectLocator next.generation 1, frame⟩]
      A.readPending

/-- The state after the request that waits was acknowledged. -/
def acceptedState (m : Fields) (sha : Text) (acceptedAt : Nat) : LocalState :=
  { successor m with
    ack := makeRef .ack (m.highestObserved + 1) 2 sha m.state.pendingRequest
    acceptedRequest := m.state.pendingRequest
    acceptedEvent := m.state.pendingFinal
    ackRequest := m.state.pendingRequest
    ackBody := m.state.pendingBody
    ackPendingSha := m.state.pending.sha
    ackEvent := m.state.pendingFinal
    acceptedAt := acceptedAt
    events := m.state.events.drop m.state.pendingCount
    pending := .empty
    pendingRequest := 0
    pendingBody := dash
    pendingPrior := 0
    pendingFinal := 0
    pendingCount := 0
    pendingProduced := 0 }

def ackPayloadValid (state : LocalState) (response pending : Bytes) : Bool :=
  if A.validator.requiresAckWitness then
    A.validator.ackWithPending response pending state A.identity
  else A.validator.ack response state A.identity

/-- The acknowledgement is about the request that waits. -/
def acceptanceMatches (m : Fields) (accepted : OutboxAcceptance) : Bool :=
  accepted.identity = m.state.identity ∧
    accepted.registrationSha = m.state.registration.sha ∧
    accepted.requestSequence = m.state.pendingRequest ∧
    accepted.bodySha = m.state.pendingBody ∧ accepted.pendingSha = m.state.pending.sha ∧
    accepted.finalEvent = m.state.pendingFinal ∧ counter accepted.acceptedAt 1

/-- The stored bytes of the request make up the record that its reference names. -/
def pendingReframed (m : Fields) (pending : Bytes) : Bool :=
  match recordEncode A.sha pendingKind m.state.pending.generation pending with
  | some frame => (localFrameMatches A.sha m.state.pending frame).isSome
  | none => false

/-- Publish the acknowledgement of the request that waits. -/
def acceptNew (adapter : OutboxAdapter) (response : Bytes) : Act Unit := do
  let m ← fields
  require (m.state.pending.kind ≠ .absent) .invalid
  let pending ← A.readPresent m.state.pending
  match adapter.validateResponse m.state pending response with
  | none => fail .invalid
  | some accepted => do
    require (acceptanceMatches m accepted) .invalid
    let expectedRootSha := m.commitSha
    A.freshOutboxRoot
    let m ← fields
    require (m.commitSha = expectedRootSha) .conflict
    require (m.highestObserved < maxCounter) .limit
    match A.makeFrame ackKind (m.highestObserved + 1) response with
    | none => fail .invalid
    | some (frame, sha) => do
      let next := acceptedState m sha accepted.acceptedAt
      require (A.pendingReframed m pending ∧ m.state.pending.generation < next.ack.generation ∧
        A.ackPayloadValid next response pending) .invalid
      A.publish .ack next [⟨objectLocator next.generation 2, frame⟩]

def acceptResponse (adapter : OutboxAdapter) (response : Bytes) : Act Unit := do
  A.freshOutboxRoot
  require (1 ≤ response.length ∧ response.length ≤ responseMax) .invalid
  let m ← fields
  if m.state.ack.kind ≠ .absent then do
    let witness ← A.readPresent m.state.ack
    -- The acknowledgement that is stored may come again.
    if witness = response then pure () else A.acceptNew adapter response
  else A.acceptNew adapter response

/-- The state in which another request waits in the place of the rejected one. -/
def replacedState (m : Fields) (sha bodySha : Text) : LocalState :=
  { successor m with
    pending := makeRef .pending (m.highestObserved + 1) 1 sha m.state.pendingRequest
    pendingBody := bodySha }

def replaceRejected (adapter : OutboxAdapter) (rejection replacement : Bytes) (bodySha : Text) :
    Act Bytes := do
  A.freshOutboxRoot
  let m ← fields
  require (m.state.pending.kind ≠ .absent ∧ 1 ≤ rejection.length ∧
    rejection.length ≤ responseMax ∧ 1 ≤ replacement.length ∧ replacement.length ≤ payloadMax ∧
    digest bodySha) .invalid
  let pending ← A.readPresent m.state.pending
  let expectedRootSha := m.commitSha
  require (adapter.validateReplacement m.state pending rejection replacement bodySha) .invalid
  A.freshOutboxRoot
  let m ← fields
  require (m.commitSha = expectedRootSha) .conflict
  require (m.highestObserved < maxCounter) .limit
  match A.makeFrame pendingKind (m.highestObserved + 1) replacement with
  | none => fail .invalid
  | some (frame, sha) => do
    let next := replacedState m sha bodySha
    A.typedPayloadValid next.pending next replacement .invalid
    A.publish .replace next [⟨objectLocator next.generation 1, frame⟩]
    A.readPending

/-! ## Diagnostics -/

def publishDiagnostic (completeness : Completeness) (namedError : LocalError) : Act Unit := do
  let _ ← A.guard false
  let m ← fields
  require (m.loaded ∧ localCompleteness completeness) .invalid
  A.requireInventory
  A.verifyCurrentRootFresh
  let m ← fields
  require (m.highestObserved < maxCounter) .limit
  A.publish .diagnostic
    { successor m with completeness := completeness, lastError := namedError } []

end TelemetryState

end TradeOps.Agent
