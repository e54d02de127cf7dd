import TradeOps.Agent.Operations
import TradeOps.Lib.SortBy

/-!
# Compaction

`Compact` of `TradeOpsTelemetryState.mqh`. The current root and its parent are kept; the records of
the grandparent that neither names are deleted in batches, objects first, then the state, then the
commit. A record is deleted only if its kind allows it, and the pending request that an
acknowledgement answers goes after the acknowledgement.
-/

namespace TradeOps.Agent

open Prog

def addLocator (set : List Locator) (l : Locator) : List Locator :=
  if l ∈ set then set else set ++ [l]

def inventoryEntry (entries : List StorageEntry) (l : Locator) : Option StorageEntry :=
  entries.find? fun e => e.locator = l

/-- The order in which `SortLocators` leaves locators. -/
def locatorKey (l : Locator) : ℕ ×ₗ ℕ := toLex (l.generation, l.ordinal)

/-- What may be deleted of a retired generation, and whether something has to stay. -/
structure Retirement where
  eligible : List Locator
  ineligible : Bool

namespace TelemetryState

variable (A : TelemetryState)

/-! ## What the kept roots need -/

/-- The locators that a root names, without the witness of its acknowledgement. -/
def namedLocators (state : LocalState) : List Locator :=
  [registrationLocator, stateLocator state.generation, commitLocator state.generation,
    refLocator state.capture] ++ state.events.map refLocator ++
    (if state.pending.kind = .absent then [] else [refLocator state.pending]) ++
    (if state.ack.kind = .absent then [] else [refLocator state.ack])

/-- The locators that a root names, with the witness of its acknowledgement. -/
def rootLocators (state : LocalState) : Act (List Locator) :=
  if state.ack.kind = .ack ∧ A.validator.requiresAckWitness then do
    let (l, _) ← mapFail (fun _ => .recoveryRequired) (A.readAckWitness state)
    pure (namedLocators state ++ [l])
  else pure (namedLocators state)

/-- Whether a root holds on to a reference; two references to one record have to be the same. -/
def matchProtectedCandidate (reference candidate : LocalRef) (retired root : LocalState) :
    Option Bool :=
  if candidate.kind = .absent ∨ refLocator reference ≠ refLocator candidate then some false
  else if localRefText reference ≠ localRefText candidate then none
  else if reference.kind = .capture ∧ retired.captureSchema ≠ root.captureSchema then none
  else some true

def matchProtected (reference : LocalRef) (retired root : LocalState) :
    List LocalRef → Option Bool
  | [] => some false
  | candidate :: rest => do
    let here ← matchProtectedCandidate reference candidate retired root
    let there ← matchProtected reference retired root rest
    some (here || there)

def rootProtectedAssociation (reference : LocalRef) (retired root : LocalState) : Act Bool :=
  match matchProtected reference retired root
      (root.capture :: root.events ++ [root.pending, root.ack]) with
  | none => fail .recoveryRequired
  | some matched =>
    if root.ack.kind = .ack ∧ A.validator.requiresAckWitness then do
      let (l, _) ← A.readAckWitness root
      if refLocator reference = l then do
        require (reference.kind = .pending ∧ reference.sha = root.ackPendingSha ∧
          reference.sequence = root.ackRequest ∧ reference.sequence = root.ack.sequence ∧
          retired.identity = root.identity ∧
          retired.registration.sha = root.registration.sha) .recoveryRequired
        pure true
      else pure matched
    else pure matched

def protectedAssociation (reference : LocalRef) (retired current previous : LocalState) :
    Act Bool := do
  let byCurrent ← A.rootProtectedAssociation reference retired current
  let byPrevious ← A.rootProtectedAssociation reference retired previous
  if byCurrent || byPrevious then do
    A.verifyTypedReference reference retired
    pure true
  else pure false

/-! ## What may be deleted -/

def pendingHasRetainedAck (pending : LocalRef) (root : LocalState) : Bool :=
  root.ack.kind = .ack ∧ root.ackPendingSha = pending.sha ∧
    root.ackRequest = pending.sequence ∧ root.ack.sequence = pending.sequence

def retiredReferenceEligible (reference : LocalRef) (current previous : LocalState) : Bool :=
  match reference.kind with
  | .capture => true
  | .event => reference.sequence ≤ current.acceptedEvent
  | .pending =>
    let retained :=
      pendingHasRetainedAck reference current || pendingHasRetainedAck reference previous
    if A.validator.requiresAckWitness then
      reference.sequence ≤ current.acceptedRequest && !retained
    else retained
  | .ack => reference.sequence ≤ current.acceptedRequest
  | _ => false

def classifyRetiredReference (retired current previous : LocalState) (reference : LocalRef)
    (found : Retirement) : Act Retirement := do
  let isProtected ← A.protectedAssociation reference retired current previous
  if isProtected then pure found
  else do
    let eligible := A.retiredReferenceEligible reference current previous
    let payload ← mapFail (fun _ => .recoveryRequired) (A.readReferencePayload reference)
    match payload with
    | none => do
      -- An earlier, interrupted compaction deleted it.
      require eligible .recoveryRequired
      pure found
    | some payload => do
      A.typedPayloadValid reference retired payload .recoveryRequired
      if eligible then
        pure { found with eligible := addLocator found.eligible (refLocator reference) }
      else pure { found with ineligible := true }

def classifyRetiredReferences (retired current previous : LocalState) :
    List LocalRef → Retirement → Act Retirement
  | [], found => pure found
  | r :: rest, found => do
    let found ← A.classifyRetiredReference retired current previous r found
    classifyRetiredReferences retired current previous rest found

/-- The references of a state that lie among the objects. -/
def objectRefs (state : LocalState) : List LocalRef :=
  state.capture :: state.events ++
    (if state.pending.kind = .absent then [] else [state.pending]) ++
    (if state.ack.kind = .absent then [] else [state.ack])

def classifyRetiredAckWitness (retired current previous : LocalState) (found : Retirement) :
    Act Retirement := do
  let m ← fields
  if retired.ack.kind = .ack ∧ A.validator.requiresAckWitness ∧
      ¬ ((m.inventory.all fun e => e.sha ≠ retired.ackPendingSha) ∧
        inventoryEntry m.inventory (refLocator retired.ack) = none) then do
    let (l, _) ← A.readAckWitness retired
    let reference :=
      makeRef .pending l.generation l.ordinal retired.ackPendingSha retired.ackRequest
    let byCurrent ← A.rootProtectedAssociation reference retired current
    let byPrevious ← A.rootProtectedAssociation reference retired previous
    let currentSet ← A.rootLocators current
    let previousSet ← A.rootLocators previous
    if byCurrent || byPrevious || l ∈ currentSet || l ∈ previousSet then pure found
    else do
      require (retired.identity = current.identity ∧
        retired.registration.sha = current.registration.sha) .recoveryRequired
      if A.retiredReferenceEligible reference current previous then
        pure { found with eligible := addLocator found.eligible l }
      else pure { found with ineligible := true }
  else pure found

/-- An object of a generation that its state does not name. -/
def strayObject (state : LocalState) (entries : List StorageEntry) : Bool :=
  entries.any fun e => e.locator.kind = .object ∧ e.locator.generation = state.generation ∧
    e.locator ∉ namedLocators state

def loadRetiredMetadata (generation : Nat) (expectedCommitSha : Text)
    (current previous : LocalState) : Act Retirement := do
  let (commit, commitSha) ← A.readCommitMetadata generation
  require (commitSha = expectedCommitSha) .recoveryRequired
  let retired ← A.readStateMetadata generation commit.stateSha
  require (retired.identity = A.identity ∧ retired.registration.sha = commit.registrationSha ∧
    commit.parentGeneration = retired.parentGeneration ∧
    commit.parentSha = retired.parentCommit) .recoveryRequired
  require (retired.registration.sha = current.registration.sha) .recoveryRequired
  mapFail (fun _ => .recoveryRequired) (A.verifyTypedReference retired.registration retired)
  let found ← A.classifyRetiredReferences retired current previous (objectRefs retired) ⟨[], false⟩
  let m ← fields
  A.classifyRetiredAckWitness retired current previous
    { eligible := SortBy.sortBy locatorKey found.eligible
      ineligible := found.ineligible || strayObject retired m.inventory }

/-! ## Deleting -/

def deleteAuthorized (l : Locator) (attempts : Nat) : Act Unit := do
  require (attempts < deleteBatch) .limit
  let m ← fields
  match inventoryEntry m.inventory l with
  | none => fail .conflict
  | some entry => do
    require (digest entry.sha) .conflict
    let session ← A.guard false
    let _ ← deleteExact session l entry.sha
    pure ()

def deleteAll : List Locator → Nat → Act Unit
  | [], _ => pure ()
  | l :: rest, attempts => do
    A.deleteAuthorized l attempts
    deleteAll rest (attempts + 1)

/-- The current root, loaded again and found unchanged. -/
def verifiedCurrent : Act LocalState := do
  let m ← fields
  let (current, commitSha) ← mapFail (fun _ => .recoveryRequired) (A.loadRoot m.state.generation)
  require (commitSha = m.commitSha ∧ sameState current m.state) .recoveryRequired
  pure current

/-- The parent of the current root. -/
def parentRoot : Act LocalState := do
  let m ← fields
  let (previous, commitSha) ← mapFail (fun _ => .recoveryRequired)
    (A.loadRoot m.state.parentGeneration)
  require (commitSha = m.state.parentCommit) .recoveryRequired
  pure previous

/-- Both kept roots, loaded from a new inventory. -/
def revalidateRoots : Act Unit := do
  mapFail (fun _ => .recoveryRequired) A.requireInventory
  let m ← fields
  let (_, commitSha) ← mapFail (fun _ => .recoveryRequired) (A.loadRoot m.state.generation)
  require (commitSha = m.commitSha) .recoveryRequired
  let _ ← A.parentRoot
  pure ()

/-- The parent of the current root, if the cleanup that its checkpoint began is not finished. -/
def unfinishedCleanup (transition : Transition) : Act (Option LocalState) := do
  let m ← fields
  if transition = .checkpoint ∧ 0 < m.state.parentGeneration then do
    let previous ← A.parentRoot
    if 0 < previous.parentGeneration then
      match inventoryEntry m.inventory (commitLocator previous.parentGeneration),
          inventoryEntry m.inventory (stateLocator previous.parentGeneration) with
      | some _, some _ => pure (some previous)
      | some commit, none => do
        require (commit.sha = previous.parentCommit) .recoveryRequired
        pure (some previous)
      | none, some _ => fail .recoveryRequired
      | none, none => pure none
    else pure none
  else pure none

/-- Publish a checkpoint of the current root. -/
def publishCheckpoint : Act Unit := do
  let m ← fields
  require (m.highestObserved < maxCounter) .limit
  A.publish .checkpoint (successor m) []
  mapFail (fun _ => .recoveryRequired) A.requireInventory

/-- Delete what was found, and the metadata when nothing is left to keep. -/
def deleteRetired (generation : Nat) (found : Retirement) : Act Unit := do
  let limit := if found.ineligible then deleteBatch else deleteBatch - 2
  let batch := found.eligible.take limit
  A.deleteAll batch 0
  if limit < found.eligible.length ∨ found.ineligible then pure ()
  else A.deleteAll [stateLocator generation, commitLocator generation] batch.length

/-- Delete what the two kept roots do not need of their ancestor. -/
def retire (current previous : LocalState) : Act Unit := do
  let m ← fields
  let generation := previous.parentGeneration
  match inventoryEntry m.inventory (commitLocator generation),
      inventoryEntry m.inventory (stateLocator generation) with
  | some commit, none => do
    require (commit.sha = previous.parentCommit) .recoveryRequired
    A.revalidateRoots
    A.deleteAuthorized (commitLocator generation) 0
  | _, _ => do
    let found ← A.loadRetiredMetadata generation previous.parentCommit current previous
    A.revalidateRoots
    A.deleteRetired generation found

def compact : Act Unit := do
  let _ ← A.guard false
  let m ← fields
  require m.loaded .invalid
  A.requireInventory
  A.verifyCurrentRootFresh
  let current ← A.verifiedCurrent
  let (commit, commitSha) ← A.readCommitMetadata m.state.generation
  require (commitSha = m.commitSha) .recoveryRequired
  let unfinished ← A.unfinishedCleanup commit.transition
  match unfinished with
  | some previous => A.retire current previous
  | none => do
    A.publishCheckpoint
    let current ← A.verifiedCurrent
    if current.parentGeneration < 1 then pure ()
    else do
      let previous ← A.parentRoot
      if previous.parentGeneration < 1 then pure () else A.retire current previous

end TelemetryState

end TradeOps.Agent
