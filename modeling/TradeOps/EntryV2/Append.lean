import TradeOps.EntryV2.Tables
import TradeOps.Lib.SortBy

/-!
# Appending an entry observation

Embeds `assembleValidatedChunks`, `replayResult`, `appendEntryV2ObservationAttempt` and
`appendEntryV2Observation` of `rd-entry-store.ts`. Every `SELECT` is a read of its own and
`env.DB.batch` is one atomic step, so other calls run in between. The reads of the batch row and of
the chunks are noted: the statements of the call rest on these two. The quarantine of a conflict is
left out: it touches no other table, and the call ends with the conflict.

The assembled setups are evaluated one by one (`loadEvaluationState`, `prepareEvaluation`,
`evaluationStatements`). How a setup is matched and its candidates are arbitrated is a parameter,
and so are the rows that the evaluation writes to the tables of facts; what is used of it is that
the selection of a setup names that setup.
-/

namespace TradeOps.EntryV2

open SortBy

variable {ι φ : Type}

/-- `EntryStoreConflictCode`. -/
inductive ConflictCode where
  | inconsistentChunkCount | inconsistentBatchMetadata | duplicateSetupAcrossChunks
  | batchSetupLimit | immutableIdConflict | eventStreamContextMissing | eventStreamConflict
  | terminalFactConflict
  deriving DecidableEq, Repr

inductive ContinuityCode where
  | sequenceConflict | barCloseConflict | sequenceTimeConflict | producerIdentityConflict
  deriving DecidableEq, Repr

/-- What a call throws. -/
inductive Error where
  | conflict (code : ConflictCode)
  | idempotencyConflict
  | refused (failure : Failure)
  | unavailable
  deriving DecidableEq, Repr

inductive AssemblyStatus where
  | complete | incomplete
  deriving DecidableEq, Repr

/-- `EntryAppendResult`. -/
inductive AppendResult where
  | accepted (inserted : Bool) (assemblyStatus : AssemblyStatus) (batchId : String)
      (missingChunkIndexes : List Nat)
  | continuityConflict (code : ContinuityCode) (batchId : String)
  deriving DecidableEq, Repr

/-! ## Assembly -/

/-- `StoredValidatedChunk`. -/
structure StoredChunk (ι : Type) where
  batchId : String
  document : ChunkDocument ι
  payloadSha256 : String
  receiptId : String

/-- `AssembledValidatedSetup`. -/
structure AssembledSetup (ι : Type) extends EntryBatch ι where
  receiptId : String
  chunkIndex : Nat

inductive Assembly (ι : Type) where
  | incomplete (missingIndexes : List Nat)
  | complete (setups : List (AssembledSetup ι)) (chunks : List (Nat × String))

def maxEntrySetupsPerBatch : Nat := 256

def missingIndexes (count : Nat) (present : List Nat) : List Nat :=
  (List.range count).filter fun index => index ∉ present

def chunkSetups (chunk : StoredChunk ι) : List (AssembledSetup ι) :=
  chunk.document.entryBatches.map fun setup =>
    { setup with receiptId := chunk.receiptId, chunkIndex := chunk.document.chunkIndex }

def sameBatch (first chunk : StoredChunk ι) : Bool :=
  chunk.batchId = first.batchId ∧ chunk.document.batchIdentity = first.document.batchIdentity ∧
    chunk.document.batchMetadata = first.document.batchMetadata

/-- `assembleValidatedChunks`; the digest of the chunks is taken by the caller. -/
def assembleValidatedChunks (chunks : List (StoredChunk ι)) : Except ConflictCode (Assembly ι) :=
  let ordered := sortBy (·.document.chunkIndex) chunks
  match ordered with
  | [] => .error .inconsistentChunkCount
  | first :: _ =>
    let count := first.document.chunkCount
    if count < 1 ∨ ordered.any (·.document.chunkCount ≠ count) then .error .inconsistentChunkCount
    else if ordered.any (!sameBatch first ·) then .error .inconsistentBatchMetadata
    else
      let missing := missingIndexes count (ordered.map (·.document.chunkIndex))
      if missing ≠ [] then .ok (.incomplete missing)
      else
        let setups := ordered.flatMap chunkSetups
        if setups.length > maxEntrySetupsPerBatch then .error .batchSetupLimit
        else if ¬(setups.map (·.setupId)).Nodup then .error .duplicateSetupAcrossChunks
        else .ok (.complete setups
          (ordered.map fun chunk => (chunk.document.chunkIndex, chunk.payloadSha256)))

/-! ## The environment -/

/-- What is read for the evaluation of a setup: the facts with its stored events, and the greatest
revision of its selections. -/
structure LoadedSetup (ι φ : Type) where
  entry : AssembledSetup ι
  facts : φ
  maxRevision : Int

/-- `PreparedEvaluation`: the keys of the effective selection, and the rest. -/
structure PreparedEvaluation (β : Type) where
  selectionId : String
  setupId : String
  policyVersion : String
  revision : Int
  rest : β

/-- The digests, the evaluation of one setup and the statements on the tables of facts. -/
structure Env (ι φ : Type) where
  Rest : Type
  batchId : BatchIdentity → String
  payloadSha256 : Observation ι → String
  assembledPayloadSha256 : List (Nat × String) → String
  completionId : String → String → String
  prepareEvaluation : AssembledSetup ι → String → BatchMetadata → φ → Int →
    Except ConflictCode (PreparedEvaluation Rest)
  /-- The statements before and after the insert of the selections, from the terminals, the
  identities and the source catalog that were read. -/
  factStatements : String → String → List (PreparedEvaluation Rest) → Option φ → φ → φ → φ →
    Except ConflictCode (List (φ → Except Failure φ) × List (φ → Except Failure φ))
  verifyRepeatedIdentities : List (PreparedEvaluation Rest) → Database ι φ → Bool

/-- The evaluation of a setup ends with a selection of that setup. -/
def Env.SelectsOwn (env : Env ι φ) : Prop :=
  ∀ entry batchId metadata facts revision evaluation,
    env.prepareEvaluation entry batchId metadata facts revision = .ok evaluation →
      evaluation.setupId = entry.setupId

/-! ## Evaluation -/

/-- The greatest revision among the selections of a setup. -/
def maxRevision (setupId : String) (db : Database ι φ) : Int :=
  ((db.selections.filter (·.setupId = setupId)).map (·.revision)).max?.getD 0

/-- `loadEvaluationState`: the setups with their events and revisions, and the terminals. -/
def loadEvaluationState : List (AssembledSetup ι) →
    Reads (Database ι φ) (List (LoadedSetup ι φ) × Option φ)
  | [] => return ([], none)
  | setups => do
    let facts ← Reads.get fun db : Database ι φ => db.facts
    let revisions ← Reads.get fun (db : Database ι φ) (setup : AssembledSetup ι) =>
      maxRevision setup.setupId db
    let terminals ← Reads.get fun db : Database ι φ => db.facts
    return (setups.map fun setup => ⟨setup, facts, revisions setup⟩, some terminals)

section Evaluation

variable (env : Env ι φ)

/-- `evaluationStatements`, with the evaluations they store. -/
structure Prepared where
  evaluations : List (PreparedEvaluation env.Rest)
  before : List (φ → Except Failure φ)
  selections : List SelectionRow
  after : List (φ → Except Failure φ)

/-- The conflicts of `preflightIdentities` and `sourceCatalogStatements` are found when all is
read. -/
def evaluationStatements (batchId receivedAt : String)
    (evaluations : List (PreparedEvaluation env.Rest)) (terminals : Option φ) :
    Reads (Database ι φ) (Except ConflictCode (Prepared env)) := do
  let identities ← Reads.get fun db : Database ι φ => db.facts
  let claims ← Reads.get fun db : Database ι φ => db.facts
  let relationships ← Reads.get fun db : Database ι φ => db.facts
  return do
    let (before, after) ← env.factStatements batchId receivedAt evaluations terminals identities
      claims relationships
    return { evaluations, before, after
             selections := evaluations.map fun evaluation =>
               { evaluation with batchId } }

/-- The evaluation of the setups of a complete batch. -/
def evaluateSetups (batchId : String) (metadata : BatchMetadata) (receivedAt : String)
    (setups : List (AssembledSetup ι)) :
    Reads (Database ι φ) (Except ConflictCode (Prepared env)) := do
  let (loaded, terminals) ← loadEvaluationState setups
  match loaded.mapM fun setup =>
      env.prepareEvaluation setup.entry batchId metadata setup.facts (setup.maxRevision + 1) with
  | .error code => return .error code
  | .ok evaluations => evaluationStatements env batchId receivedAt evaluations terminals

end Evaluation

/-- The identifier and the time that an attempt draws. -/
structure Drawn where
  receiptId : String
  receivedAt : String
  deriving DecidableEq, Repr

abbrev Call (ι φ α : Type) := Job (database ι φ) Error α

/-! ## Reads -/

def selectReceipt (idempotencyKey : String) (db : Database ι φ) : Option ReceiptRow :=
  db.receipts.find? (·.idempotencyKey = idempotencyKey)

def selectBatch (batchId : String) (db : Database ι φ) : Option BatchRow :=
  db.batches.find? (·.batchId = batchId)

def selectBatchBySequence (identity : BatchIdentity) (db : Database ι φ) : Option BatchRow :=
  db.batches.find? fun row => row.identity.producerInstanceId = identity.producerInstanceId ∧
    row.identity.sequence = identity.sequence

def selectBatchByClose (identity : BatchIdentity) (db : Database ι φ) : Option BatchRow :=
  db.batches.find? fun row => row.identity.producerInstanceId = identity.producerInstanceId ∧
    row.identity.barCloseEpoch = identity.barCloseEpoch

/-- The batches of the producer next before and next after. -/
def sequenceNeighbors (identity : BatchIdentity) (db : Database ι φ) : List BatchRow :=
  let rows := db.batches.filter (·.identity.producerInstanceId = identity.producerInstanceId)
  let before := rows.filter (·.identity.sequence < identity.sequence)
  let after := rows.filter (·.identity.sequence > identity.sequence)
  before.filter (fun row => before.all (·.identity.sequence ≤ row.identity.sequence)) ++
    after.filter fun row => after.all (·.identity.sequence ≥ row.identity.sequence)

def listChunks (batchId : String) (db : Database ι φ) : List (ChunkRow ι) :=
  sortBy (·.chunkIndex) (db.chunks.filter (·.batchId = batchId))

def selectCompletion (batchId : String) (db : Database ι φ) : Option CompletionRow :=
  db.completions.find? (·.batchId = batchId)

/-! ## An attempt -/

def replayResult (o : Observation ι) (batchId : String) : Call ι φ AppendResult := do
  let chunks ← Job.query (listChunks batchId)
  let missing := missingIndexes o.chunkCount (chunks.map (·.chunkIndex))
  let completion ← Job.query (selectCompletion batchId)
  return .accepted false
    (if completion.isSome ∨ missing = [] then .complete else .incomplete) batchId
    (if completion.isSome then [] else missing)

/-- Some neighbour belongs to another producer or stands in the wrong order. -/
def neighborConflict (o : Observation ι) : List BatchRow → Option ContinuityCode
  | [] => none
  | neighbor :: rest =>
    if !sameProducerIdentity neighbor.metadata o.batchMetadata then
      some .producerIdentityConflict
    else if outOfOrder neighbor.identity o.batchIdentity then some .sequenceTimeConflict
    else neighborConflict o rest

/-- The reads up to the neighbours: a conflict, or the stored row of the batch. -/
def checkContinuity (o : Observation ι) (batchId : String) :
    Call ι φ (ContinuityCode ⊕ Option BatchRow) := do
  let other (row : BatchRow) : Bool := ¬(row.batchId = batchId ∧ row.identity = o.batchIdentity)
  let bySequence ← Job.query (selectBatchBySequence o.batchIdentity)
  if bySequence.any other then return .inl .sequenceConflict
  else
    let byClose ← Job.query (selectBatchByClose o.batchIdentity)
    if byClose.any other then return .inl .barCloseConflict
    else
      let stored ← Job.note (selectBatch batchId)
      if stored.any (·.chunkCount ≠ o.chunkCount) then
        .throw (.conflict .inconsistentChunkCount)
      else if stored.any (·.metadata ≠ o.batchMetadata) then
        .throw (.conflict .inconsistentBatchMetadata)
      else
        let neighbors ← Job.query (sequenceNeighbors o.batchIdentity)
        match neighborConflict o neighbors with
        | some code => return .inl code
        | none => return .inr stored

section Rows

variable (env : Env ι φ) (o : Observation ι) (batchId : String) (drawn : Drawn)

def receiptRow : ReceiptRow :=
  { o.metadata with
    receiptId := drawn.receiptId
    receivedAt := drawn.receivedAt
    payloadSha256 := env.payloadSha256 o }

def batchRow : BatchRow :=
  { batchId
    identity := o.batchIdentity
    metadata := o.batchMetadata
    chunkCount := o.chunkCount
    firstReceiptId := drawn.receiptId
    firstSeenAt := drawn.receivedAt }

def heartbeatRow : HeartbeatRow :=
  { receiptId := drawn.receiptId
    batchId
    schemaVersion := "2.0"
    producerInstanceId := o.batchIdentity.producerInstanceId
    producerSequence := o.batchIdentity.sequence
    strategyVersion := o.batchMetadata.strategyVersion
    symbol := o.batchMetadata.symbol
    tickerId := o.batchMetadata.tickerId
    feed := o.batchMetadata.feed
    timeframe := o.batchMetadata.timeframe
    barOpenEpoch := o.batchMetadata.barOpenEpoch
    barCloseEpoch := o.batchIdentity.barCloseEpoch
    detectorCodeHash := o.batchMetadata.detectorCodeHash
    settingsHash := o.batchMetadata.settingsHash
    recordedAt := drawn.receivedAt }

def chunkRow : ChunkRow ι :=
  { batchId
    chunkIndex := o.chunkIndex
    chunkCount := o.chunkCount
    receiptId := drawn.receiptId
    payloadSha256 := env.payloadSha256 o
    document := o.toChunkDocument
    recordedAt := drawn.receivedAt }

def baseStatements (stored : Option BatchRow) : List (Statement ι φ) :=
  ([.insertReceipt (receiptRow env o drawn)] : List (Statement ι φ)) ++
    (if stored.isNone then [.insertBatch (batchRow o batchId drawn)] else [] :
      List (Statement ι φ)) ++
    ([.insertHeartbeat (heartbeatRow o batchId drawn),
      .insertChunk (chunkRow env o batchId drawn)] : List (Statement ι φ))

def completionStatements (prepared : Prepared env) (chunks : List (Nat × String)) :
    List (Statement ι φ) :=
  (prepared.before.map .writeFacts : List (Statement ι φ)) ++
    ([.insertSelections prepared.selections] : List (Statement ι φ)) ++
    (prepared.after.map .writeFacts : List (Statement ι φ)) ++
    ([.insertCompletion
      { completionId := env.completionId (env.assembledPayloadSha256 chunks) batchId
        batchId
        assembledPayloadSha256 := env.assembledPayloadSha256 chunks
        completedAt := drawn.receivedAt }] : List (Statement ι φ))

end Rows

/-- `storedValidatedChunk`. -/
def ChunkRow.stored (row : ChunkRow ι) : StoredChunk ι :=
  { batchId := row.batchId
    document := row.document
    payloadSha256 := row.payloadSha256
    receiptId := row.receiptId }

/-- The receipt is read back after the batch. -/
def confirmReceipt (o : Observation ι) (drawn : Drawn) (result : AppendResult) :
    Call ι φ AppendResult := do
  let record ← Job.query (selectReceipt o.metadata.idempotencyKey)
  if record.any (·.receiptId = drawn.receiptId) then return result else .throw .unavailable

section Attempt

variable [DecidableEq ι] (env : Env ι φ)

/-- From the read of the chunks on. -/
def storeChunk (o : Observation ι) (batchId : String) (drawn : Drawn)
    (storedBatch : Option BatchRow) : Call ι φ AppendResult := do
  let existing ← Job.note (listChunks batchId)
  let current := chunkRow env o batchId drawn
  if (existing.find? (·.chunkIndex = o.chunkIndex)).any fun row =>
      row.payloadSha256 ≠ current.payloadSha256 ∨ row.document ≠ current.document then
    .throw (.conflict .immutableIdConflict)
  else
    let base := baseStatements env o batchId drawn storedBatch
    match assembleValidatedChunks ((existing ++ [current]).map ChunkRow.stored) with
    | .error code => .throw (.conflict code)
    | .ok (.incomplete missing) => do
      Job.commit base Error.refused
      confirmReceipt o drawn (.accepted true .incomplete batchId missing)
    | .ok (.complete setups chunks) => do
      let evaluated ← Job.ofReads
        (evaluateSetups env batchId o.batchMetadata drawn.receivedAt setups)
      match evaluated with
      | .error code => .throw (.conflict code)
      | .ok prepared => do
        Job.commit (base ++ completionStatements env batchId drawn prepared chunks) Error.refused
        let verified ← Job.query (env.verifyRepeatedIdentities prepared.evaluations)
        if verified then confirmReceipt o drawn (.accepted true .complete batchId [])
        else .throw .unavailable

def appendEntryV2ObservationAttempt (o : Observation ι) (drawn : Drawn) :
    Call ι φ AppendResult := do
  let batchId := env.batchId o.batchIdentity
  let existing ← Job.query (selectReceipt o.metadata.idempotencyKey)
  match existing with
  | some receipt =>
    if receipt.payloadSha256 ≠ env.payloadSha256 o then .throw .idempotencyConflict
    else replayResult o batchId
  | none => do
    let continuity ← checkContinuity o batchId
    match continuity with
    | .inl code => return .continuityConflict code batchId
    | .inr stored => storeChunk env o batchId drawn stored

/-- One more attempt after a race that is worth one. -/
def appendEntryV2Observation (o : Observation ι) (first second : Drawn) : Call ι φ AppendResult :=
  (appendEntryV2ObservationAttempt env o first).catch_ fun error =>
    match error with
    | .refused failure =>
      if failure.retryable then appendEntryV2ObservationAttempt env o second else .throw error
    | _ => .throw error

end Attempt

end TradeOps.EntryV2
