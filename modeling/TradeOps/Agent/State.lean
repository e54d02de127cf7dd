import TradeOps.Agent.Storage

/-!
# The telemetry state

Embeds `TradeOpsTelemetryState.mqh`: the store of one installation as a chain of generations. Every
transition writes its objects, then the state, then the commit, each read back after it was
written; the root is the state of the highest commit.

A status other than `TOV2_STATE_OK` is the failure of a program. Validators and adapters are
functions of what they are given: the source refuses calls while one of them runs, so they cannot
change the store. They stay alive while the state is open, and arrays can be allocated.
-/

namespace TradeOps.Agent

open Prog

/-- The results other than `TOV2_STATE_OK`. -/
inductive Status where
  | notStarted | busy | recoveryRequired | identityMismatch | conflict | limit | ownershipLost
  | ioError | invalid | unsupported | reloadRequired
  deriving DecidableEq, Repr

/-- `ITov2TelemetryStatePayloadValidator`. -/
structure PayloadValidator where
  registration : (payload : Bytes) → (identity : Text) → Bool
  capture : (payload : Bytes) → (schema identity : Text) → Bool
  captureAdvance : (previous : Bytes) → (previousSchema : Text) → (candidate : Bytes) →
    (candidateSchema identity : Text) → Bool
  event : (payload : Bytes) → (eventId recordSha dealId : Text) → (revision : Nat) →
    (identity : Text) → Bool
  pending : (payload : Bytes) → LocalState → (identity : Text) → Bool
  ack : (payload : Bytes) → LocalState → (identity : Text) → Bool
  requiresAckWitness : Bool
  ackWithPending : (response pending : Bytes) → LocalState → (identity : Text) → Bool

/-- What a `CTov2TelemetryState` is constructed with. -/
structure TelemetryState where
  sha : Sha256
  validator : PayloadValidator
  identity : Text

/-- The member variables. -/
structure Fields where
  session : Option Nat
  isOpen : Bool
  loaded : Bool
  emptyReady : Bool
  reloadRequired : Bool
  state : LocalState
  commitSha : Text
  inventory : List StorageEntry
  highestObserved : Nat

/-- The member variables of a new object. -/
def Fields.initial : Fields where
  session := none
  isOpen := false
  loaded := false
  emptyReady := false
  reloadRequired := false
  state := .empty
  commitSha := []
  inventory := []
  highestObserved := 0

abbrev Act := Prog storage Fields Status

/-! ## Failures of the storage -/

def failureStatus : StoreFailure → Status
  | .ownershipLost => .ownershipLost
  | .limit => .limit
  | .conflict => .conflict
  | .invalid => .invalid
  | .ioError | .busy => .ioError

/-- `StoreFailure` with `attempted`: after these failures the root has to be loaded again. -/
def storeFailure (f : StoreFailure) (m : Fields) : Status × Fields :=
  (failureStatus f,
    if f = .ioError ∨ f = .ownershipLost ∨ f = .limit then { m with reloadRequired := true } else m)

/-- `CreateFailure` and `DeleteFailure`. -/
def writeFailure (f : StoreFailure) (m : Fields) : Status × Fields :=
  if f = .conflict then (.conflict, m) else (failureStatus f, { m with reloadRequired := true })

/-- How `Open` fails. -/
def openFailure (f : StoreFailure) (m : Fields) : Status × Fields :=
  if f = .busy then (.busy, m) else storeFailure f m

/-! ## Calls of the storage -/

def acquire (installationKey : Text) : Act Nat := call (.acquire installationKey) openFailure done

def revalidate (session : Nat) : Act Unit := call (.revalidate session) storeFailure done

def listEntries (session : Nat) : Act (Option (List StorageEntry)) :=
  call (.inventory session) storeFailure done

def readRecord (session : Nat) (l : Locator) : Act (Option Bytes) :=
  call (.read session l) storeFailure done

def createExact (session : Nat) (f : StoredRecord) : Act CreateReply :=
  call (.createExact session f.locator f.bytes) writeFailure done

def deleteExact (session : Nat) (l : Locator) (expectedSha : Text) : Act DeleteReply :=
  call (.deleteExact session l expectedSha) writeFailure done

namespace TelemetryState

variable (A : TelemetryState)

def installationKey : Option Text :=
  (localIdentity A.identity).bind (localInstallationKey A.sha)

/-! ## Reading -/

/-- The session, if the storage still grants it. -/
def guard (allowReload : Bool) : Act Nat := do
  let m ← fields
  require m.isOpen .ownershipLost
  match m.session with
  | none => fail .ownershipLost
  | some session => do
    require (!m.reloadRequired || allowReload) .reloadRequired
    require A.installationKey.isSome .invalid
    revalidate session
    require (!m.loaded || m.state.identity = A.identity) .identityMismatch
    pure session

/-- Whether the storage has an inventory. -/
def refreshInventory : Act Bool := do
  let session ← A.guard true
  update fun m => { m with inventory := [] }
  let reply ← listEntries session
  match reply with
  | none => do
    update fun m => { m with highestObserved := 0 }
    pure false
  | some entries => do
    update fun m => { m with inventory := entries }
    match storageBudget entries with
    | none => fail .recoveryRequired
    | some b => do
      update fun m => { m with highestObserved := b.highest }
      pure true

/-- The operations on a root end when there is no inventory. -/
def requireInventory : Act Unit := do
  let listed ← A.refreshInventory
  require listed .notStarted

def readExact (l : Locator) : Act (Option Bytes) := do
  let session ← A.guard true
  readRecord session l

/-- The frame at a locator. -/
def readFrame (l : Locator) : Act Bytes := do
  let frame ← A.readExact l
  match frame with
  | none => fail .notStarted
  | some bytes => pure bytes

def refLocator (r : LocalRef) : Locator :=
  match r.kind with
  | .registration => registrationLocator
  | .state => stateLocator r.generation
  | .commit => commitLocator r.generation
  | _ => objectLocator r.generation r.ordinal

def readReferencePayload (r : LocalRef) : Act (Option Bytes) := do
  let frame ← A.readExact (refLocator r)
  match frame with
  | none => pure none
  | some frame =>
    match localFrameMatches A.sha r frame with
    | some payload => pure (some payload)
    | none => fail .recoveryRequired

/-- The payload of a record that has to be there. -/
def readPresent (r : LocalRef) : Act Bytes := do
  let payload ← A.readReferencePayload r
  match payload with
  | none => fail .notStarted
  | some payload => pure payload

/-- The one record with the digest that an acknowledgement names, and its payload. -/
def readAckWitness (state : LocalState) : Act (Locator × Bytes) := do
  let m ← fields
  require (state.ack.kind = .ack ∧ digest state.ackPendingSha ∧ m.inventory.length ≤ inventoryMax)
    .recoveryRequired
  match m.inventory.filter fun e => e.sha = state.ackPendingSha with
  | [entry] => do
    require (entry.locator.kind = .object ∧ storageLocatorValid entry.locator) .recoveryRequired
    let frame ← A.readExact entry.locator
    match frame with
    | none => fail .recoveryRequired
    | some frame =>
      match recordDecode A.sha frame with
      | none => fail .recoveryRequired
      | some (kind, generation, payload) => do
        require (localHash A.sha frame = some state.ackPendingSha ∧ kind = pendingKind ∧
          generation = entry.locator.generation ∧ generation < state.ack.generation)
          .recoveryRequired
        pure (entry.locator, payload)
  | _ => fail .recoveryRequired

/-- `TypedPayloadValid`, with the status of a payload that is not valid. -/
def typedPayloadValid (r : LocalRef) (state : LocalState) (payload : Bytes) (e : Status) :
    Act Unit :=
  match r.kind with
  | .ack =>
    if A.validator.requiresAckWitness then do
      let (_, pending) ← mapFail (fun _ => e) (A.readAckWitness state)
      require (A.validator.ackWithPending payload pending state A.identity) e
    else require (A.validator.ack payload state A.identity) e
  | .registration => require (A.validator.registration payload A.identity) e
  | .capture => require (A.validator.capture payload state.captureSchema A.identity) e
  | .event =>
    require (A.validator.event payload r.eventId r.recordSha r.dealId r.revision A.identity) e
  | .pending => require (A.validator.pending payload state A.identity) e
  | _ => fail e

def verifyTypedReference (r : LocalRef) (state : LocalState) : Act Unit := do
  let payload ← A.readPresent r
  A.typedPayloadValid r state payload .recoveryRequired

def verifyTypedReferences (state : LocalState) : List LocalRef → Act Unit
  | [] => pure ()
  | r :: rest => do
    A.verifyTypedReference r state
    verifyTypedReferences state rest

/-- A reference that is not there is not verified. -/
def verifyOptional (r : LocalRef) (state : LocalState) : Act Unit :=
  if r.kind = .absent then pure () else A.verifyTypedReference r state

/-- The commit of a generation and the digest of its frame. -/
def readCommitMetadata (generation : Nat) : Act (LocalCommit × Text) := do
  let frame ← mapFail (fun _ => .recoveryRequired) (A.readFrame (commitLocator generation))
  match localHash A.sha frame, recordDecode A.sha frame with
  | some commitSha, some (kind, decoded, payload) =>
    match localCommitDecode payload with
    | some commit => do
      require (kind = checkpointKind ∧ decoded = generation ∧ commit.generation = generation)
        .recoveryRequired
      pure (commit, commitSha)
    | none => fail .recoveryRequired
  | _, _ => fail .recoveryRequired

/-- The state that a commit names. -/
def readStateMetadata (generation : Nat) (stateSha : Text) : Act LocalState := do
  let frame ← mapFail (fun _ => .recoveryRequired) (A.readFrame (stateLocator generation))
  match localHash A.sha frame, recordDecode A.sha frame with
  | some actual, some (kind, decoded, payload) =>
    match localStateDecode payload with
    | some state => do
      require (actual = stateSha ∧ kind = checkpointKind ∧ decoded = generation ∧
        state.generation = generation) .recoveryRequired
      pure state
    | none => fail .recoveryRequired
  | _, _ => fail .recoveryRequired

def loadRoot (generation : Nat) : Act (LocalState × Text) := do
  let (commit, commitSha) ← A.readCommitMetadata generation
  let state ← A.readStateMetadata generation commit.stateSha
  require (state.identity = A.identity ∧ state.registration.sha = commit.registrationSha)
    .identityMismatch
  require (commit.parentGeneration = state.parentGeneration ∧ commit.parentSha = state.parentCommit)
    .recoveryRequired
  mapFail (fun _ => .recoveryRequired) do
    A.verifyTypedReference state.registration state
    A.verifyTypedReference state.capture state
    A.verifyTypedReferences state state.events
    A.verifyOptional state.pending state
    A.verifyOptional state.ack state
  pure (state, commitSha)

/-! ## The current root -/

def inventoryHasOnlyEmptyOwner (entries : List StorageEntry) : Bool :=
  match entries with
  | [] => true
  | [e] => e.locator.kind = .owner ∧ e.relativePath = ownerPath ∧ e.size = 0 ∧ e.sha = dash
  | _ => false

def highestCommit : List StorageEntry → Nat
  | [] => 0
  | e :: rest =>
    if e.locator.kind = .commit then max e.locator.generation (highestCommit rest)
    else highestCommit rest

def sameState (a b : LocalState) : Bool :=
  (localStateEncode a).isSome ∧ localStateEncode a = localStateEncode b

def verifyCurrentRootFresh : Act Unit := do
  let m ← fields
  require (m.loaded ∧ highestCommit m.inventory = m.state.generation) .recoveryRequired
  let (current, commitSha) ← A.loadRoot m.state.generation
  require (commitSha = m.commitSha ∧ sameState current m.state) .recoveryRequired

def freshOutboxRoot : Act Unit := do
  let _ ← A.guard false
  let m ← fields
  require m.loaded .recoveryRequired
  A.requireInventory
  A.verifyCurrentRootFresh

def openSession : Act Unit := do
  let m ← fields
  match A.installationKey with
  | none => fail .invalid
  | some key => do
    require (!m.isOpen) .invalid
    let session ← acquire key
    update fun m => { m with
      session := some session, isOpen := true, loaded := false, emptyReady := false,
      reloadRequired := false }

/-- Whether a root was loaded; otherwise the store is empty. -/
def recover : Act Bool := do
  let m ← fields
  require m.isOpen .ownershipLost
  update fun m => { m with
    loaded := false, emptyReady := false, state := .empty, commitSha := [],
    reloadRequired := false }
  let listed ← A.refreshInventory
  let m ← fields
  if listed ∧ highestCommit m.inventory ≠ 0 then do
    let (state, commitSha) ← A.loadRoot (highestCommit m.inventory)
    update fun m => { m with state := state, commitSha := commitSha, loaded := true }
    pure true
  else do
    require (!listed || inventoryHasOnlyEmptyOwner m.inventory) .recoveryRequired
    update fun m => { m with emptyReady := true }
    pure false

/-! ## Writing -/

def makeFrame (kind : Text) (generation : Nat) (payload : Bytes) : Option (Bytes × Text) := do
  let frame ← recordEncode A.sha kind generation payload
  let digest ← localHash A.sha frame
  some (frame, digest)

/-- `MakeRef` of a record that is not an event. -/
def makeRef (kind : RefKind) (generation ordinal : Nat) (sha : Text) (sequence : Nat := 0) :
    LocalRef :=
  { LocalRef.empty with kind, generation, ordinal, sha, sequence }

def createAndVerify (f : StoredRecord) : Act Unit := do
  let session ← A.guard false
  let _ ← createExact session f
  -- A record that cannot be read back, or reads otherwise, makes the root uncertain.
  update fun m => { m with reloadRequired := true }
  let frame ← A.readFrame f.locator
  require (f.bytes = frame) .conflict
  update fun m => { m with reloadRequired := false }

def createAll : List StoredRecord → Act Unit
  | [] => pure ()
  | f :: rest => do
    A.createAndVerify f
    createAll rest

/-- The status of `Recover` where only a loaded root will do. -/
def reload : Act Unit := do
  update fun m => { m with reloadRequired := true }
  let loaded ← A.recover
  require loaded .notStarted

/-- The records of a transition: its objects, its state and its commit. -/
def publication (transition : Transition) (candidate : LocalState) (parentSha : Text)
    (parentGeneration : Nat) (registrationSha : Text) (objects : List StoredRecord) :
    Option (List StoredRecord) := do
  let statePayload ← localStateEncode candidate
  let (stateFrame, stateSha) ← A.makeFrame checkpointKind candidate.generation statePayload
  let commitPayload ← localCommitEncode
    { generation := candidate.generation
      parentGeneration := parentGeneration
      parentSha := parentSha
      registrationSha := registrationSha
      stateSha := stateSha
      transition := transition }
  let (commitFrame, _) ← A.makeFrame checkpointKind candidate.generation commitPayload
  some (objects ++ [⟨stateLocator candidate.generation, stateFrame⟩,
    ⟨commitLocator candidate.generation, commitFrame⟩])

def publish (transition : Transition) (candidate : LocalState) (objects : List StoredRecord) :
    Act Unit := do
  let m ← fields
  require (transition ≠ .init ∧ m.loaded ∧ candidate.identity = A.identity) .invalid
  require (objects.all fun f => f.bytes ≠ []) .invalid
  match A.publication transition candidate m.commitSha m.state.generation m.state.registration.sha
      objects with
  | none => fail .invalid
  | some records => do
    require (storagePreflight m.inventory transition (records.map fun f => f.bytes.length).sum
      records.length) .limit
    A.createAll records
    A.reload

end TelemetryState

end TradeOps.Agent
