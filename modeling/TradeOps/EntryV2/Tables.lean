import TradeOps.Lib.Checks
import TradeOps.Lib.Jobs

/-!
# The batches and chunks of entry observations

Embeds the tables of `0023_observation_entries.sql` that the assembly of chunks reads and writes,
the receipts, and the statements that `rd-entry-store.ts` sends: which rows they add, and which
unique keys, references and triggers refuse them. A canonical JSON text is held as the value it
encodes. `CHECK` clauses on the form of a single value, which a validated observation meets, are
left out; so are the quarantine rows, which nothing here reads.

The tables of setup events, terminals, source claims, candidates, evidence, handling, diagnostics,
members and parity are the facts `φ` of the evaluation; `ι` is what an entry batch says of a setup
besides its identifier.
-/

namespace TradeOps.EntryV2

open Checks

/-! ## Observations -/

inductive Kind where
  | snapshot | incremental
  deriving DecidableEq, Repr

/-- `EntryBatchSemanticIdentity`. -/
structure BatchIdentity where
  producerInstanceId : String
  sequence : Int
  kind : Kind
  barCloseEpoch : Int
  deriving DecidableEq, Repr

/-- `EntryBatchImmutableMetadata`. -/
structure BatchMetadata where
  strategyId : String
  strategyVersion : String
  ruleContractVersion : String
  executionMode : String
  symbol : String
  tickerId : String
  feed : String
  timeframe : String
  tickSize : String
  barOpenEpoch : Int
  detectorCodeHash : String
  settingsHash : String
  deriving DecidableEq, Repr

/-- What an observation says for its receipt. -/
structure ReceiptMetadata where
  idempotencyKey : String
  schemaVersion : String
  strategyId : String
  strategyVersion : String
  producerInstanceId : String
  sequence : Int
  symbol : String
  tickerId : String
  feed : String
  timeframe : String
  kind : Kind
  deriving DecidableEq, Repr

/-- `ValidatedEntryWireBatch`. -/
structure EntryBatch (ι : Type) where
  setupId : String
  content : ι
  deriving DecidableEq, Repr

/-- What is stored of a chunk, `sanitizedChunkDocument`. -/
structure ChunkDocument (ι : Type) where
  batchIdentity : BatchIdentity
  batchMetadata : BatchMetadata
  chunkIndex : Nat
  chunkCount : Nat
  entryBatches : List (EntryBatch ι)
  deriving DecidableEq, Repr

/-- A validated observation of one chunk. -/
structure Observation (ι : Type) extends ChunkDocument ι where
  metadata : ReceiptMetadata
  deriving DecidableEq, Repr

/-! ## Rows -/

structure ReceiptRow extends ReceiptMetadata where
  receiptId : String
  receivedAt : String
  payloadSha256 : String
  deriving DecidableEq, Repr

structure BatchRow where
  batchId : String
  identity : BatchIdentity
  metadata : BatchMetadata
  chunkCount : Nat
  firstReceiptId : String
  firstSeenAt : String
  deriving DecidableEq, Repr

structure HeartbeatRow where
  receiptId : String
  batchId : String
  schemaVersion : String
  producerInstanceId : String
  producerSequence : Int
  strategyVersion : String
  symbol : String
  tickerId : String
  feed : String
  timeframe : String
  barOpenEpoch : Int
  barCloseEpoch : Int
  detectorCodeHash : String
  settingsHash : String
  recordedAt : String
  deriving DecidableEq, Repr

structure ChunkRow (ι : Type) where
  batchId : String
  chunkIndex : Nat
  chunkCount : Nat
  receiptId : String
  payloadSha256 : String
  document : ChunkDocument ι
  recordedAt : String
  deriving DecidableEq, Repr

structure CompletionRow where
  completionId : String
  batchId : String
  assembledPayloadSha256 : String
  completedAt : String
  deriving DecidableEq, Repr

/-- The keys of a selection; its other columns are the evaluation's. -/
structure SelectionRow where
  selectionId : String
  batchId : String
  setupId : String
  policyVersion : String
  revision : Int
  deriving DecidableEq, Repr

structure Database (ι φ : Type) where
  receipts : List ReceiptRow
  batches : List BatchRow
  heartbeats : List HeartbeatRow
  chunks : List (ChunkRow ι)
  completions : List CompletionRow
  selections : List SelectionRow
  facts : φ

/-- No rows but the given facts. -/
def Database.empty {ι φ : Type} (facts : φ) : Database ι φ := ⟨[], [], [], [], [], [], facts⟩

/-! ## Statements -/

/-- What refuses a statement. -/
inductive Failure where
  | receiptKeys
  | batchFirstReceipt | batchProducerIdentity | batchSequenceTime | batchConflict
  | heartbeatReceipt | heartbeatBatch | heartbeatConflict
  | chunkConflict | chunkIndexOutOfRange
  | completionConflict
  | selectionConflict
  | reference
  | facts (retryable : Bool)
  deriving DecidableEq, Repr

/-- `entryStoreRaceIsRetryable`: the immutable-insert conflicts, the continuity conflicts and the
unique keys, by the texts of the two lists of the source. -/
def Failure.retryable : Failure → Bool
  | .receiptKeys | .batchProducerIdentity | .batchSequenceTime | .batchConflict
  | .heartbeatConflict | .chunkConflict | .completionConflict | .selectionConflict => true
  | .batchFirstReceipt | .heartbeatReceipt | .heartbeatBatch | .chunkIndexOutOfRange
  | .reference => false
  | .facts retryable => retryable

inductive Statement (ι φ : Type) where
  | insertReceipt (row : ReceiptRow)
  | insertBatch (row : BatchRow)
  | insertHeartbeat (row : HeartbeatRow)
  | insertChunk (row : ChunkRow ι)
  | insertSelections (rows : List SelectionRow)
  | insertCompletion (row : CompletionRow)
  | writeFacts (write : φ → Except Failure φ)

section Triggers

variable {ι φ : Type}

/-- `observation_entry_batches_validate_first_receipt`. -/
def firstReceiptMatches (row : BatchRow) (receipt : ReceiptRow) : Bool :=
  receipt.receiptId = row.firstReceiptId ∧ receipt.schemaVersion = "2.0" ∧
    receipt.strategyId = row.metadata.strategyId ∧
    receipt.strategyVersion = row.metadata.strategyVersion ∧
    receipt.producerInstanceId = row.identity.producerInstanceId ∧
    receipt.sequence = row.identity.sequence ∧ receipt.symbol = row.metadata.symbol ∧
    receipt.tickerId = row.metadata.tickerId ∧ receipt.feed = row.metadata.feed ∧
    receipt.timeframe = row.metadata.timeframe ∧ receipt.kind = row.identity.kind

/-- `sameProducerIdentity`: the columns that a producer keeps for ever. The trigger asks the same of
`execution_mode`. -/
def sameProducerIdentity (stored presented : BatchMetadata) : Bool :=
  stored.strategyId = presented.strategyId ∧ stored.strategyVersion = presented.strategyVersion ∧
    stored.ruleContractVersion = presented.ruleContractVersion ∧
    stored.symbol = presented.symbol ∧ stored.tickerId = presented.tickerId ∧
    stored.feed = presented.feed ∧ stored.timeframe = presented.timeframe ∧
    stored.tickSize = presented.tickSize ∧
    stored.detectorCodeHash = presented.detectorCodeHash ∧
    stored.settingsHash = presented.settingsHash

/-- Two batches of a producer in the wrong order. -/
def outOfOrder (stored presented : BatchIdentity) : Bool :=
  (stored.sequence < presented.sequence ∧ stored.barCloseEpoch ≥ presented.barCloseEpoch) ∨
    (stored.sequence > presented.sequence ∧ stored.barCloseEpoch ≤ presented.barCloseEpoch)

def batchConflicts (row stored : BatchRow) : Bool :=
  stored.batchId = row.batchId ∨
    (stored.identity.producerInstanceId = row.identity.producerInstanceId ∧
      (stored.identity.sequence = row.identity.sequence ∨
        stored.identity.barCloseEpoch = row.identity.barCloseEpoch))

def heartbeatReceiptMatches (row : HeartbeatRow) (receipt : ReceiptRow) : Bool :=
  receipt.receiptId = row.receiptId ∧ receipt.schemaVersion = row.schemaVersion ∧
    receipt.strategyVersion = row.strategyVersion ∧
    receipt.producerInstanceId = row.producerInstanceId ∧
    receipt.sequence = row.producerSequence ∧ receipt.symbol = row.symbol ∧
    receipt.tickerId = row.tickerId ∧ receipt.feed = row.feed ∧ receipt.timeframe = row.timeframe

def heartbeatBatchMatches (row : HeartbeatRow) (batch : BatchRow) (receipt : ReceiptRow) : Bool :=
  receipt.receiptId = row.receiptId ∧ batch.batchId = row.batchId ∧
    batch.identity.producerInstanceId = row.producerInstanceId ∧
    batch.identity.sequence = row.producerSequence ∧
    batch.metadata.strategyVersion = row.strategyVersion ∧ batch.metadata.symbol = row.symbol ∧
    batch.metadata.tickerId = row.tickerId ∧ batch.metadata.feed = row.feed ∧
    batch.metadata.timeframe = row.timeframe ∧ batch.metadata.barOpenEpoch = row.barOpenEpoch ∧
    batch.identity.barCloseEpoch = row.barCloseEpoch ∧
    batch.metadata.detectorCodeHash = row.detectorCodeHash ∧
    batch.metadata.settingsHash = row.settingsHash ∧ batch.identity.kind = receipt.kind

def selectionConflicts (row stored : SelectionRow) : Bool :=
  stored.selectionId = row.selectionId ∨
    (stored.setupId = row.setupId ∧ stored.policyVersion = row.policyVersion ∧
      stored.revision = row.revision)

end Triggers

section Exec

variable {ι φ : Type}

def insertReceipt (row : ReceiptRow) (db : Database ι φ) : Except Failure (Database ι φ) := do
  failIf (db.receipts.any fun stored =>
    stored.idempotencyKey = row.idempotencyKey ∨ stored.receiptId = row.receiptId) .receiptKeys
  return { db with receipts := db.receipts ++ [row] }

def insertBatch (row : BatchRow) (db : Database ι φ) : Except Failure (Database ι φ) := do
  let sameInstance (stored : BatchRow) : Bool :=
    stored.identity.producerInstanceId = row.identity.producerInstanceId
  failIf (db.batches.any fun stored => sameInstance stored &&
    (!sameProducerIdentity stored.metadata row.metadata ||
      stored.metadata.executionMode ≠ row.metadata.executionMode)) .batchProducerIdentity
  failIf (db.batches.any fun stored => sameInstance stored &&
    outOfOrder stored.identity row.identity) .batchSequenceTime
  failIf (db.batches.any (batchConflicts row)) .batchConflict
  failIf (¬db.receipts.any (firstReceiptMatches row)) .batchFirstReceipt
  return { db with batches := db.batches ++ [row] }

def insertHeartbeat (row : HeartbeatRow) (db : Database ι φ) : Except Failure (Database ι φ) := do
  failIf (db.heartbeats.any fun stored => stored.receiptId = row.receiptId) .heartbeatConflict
  failIf (¬db.receipts.any (heartbeatReceiptMatches row)) .heartbeatReceipt
  failIf (¬db.batches.any fun batch => db.receipts.any (heartbeatBatchMatches row batch))
    .heartbeatBatch
  return { db with heartbeats := db.heartbeats ++ [row] }

def insertChunk (row : ChunkRow ι) (db : Database ι φ) : Except Failure (Database ι φ) := do
  failIf (db.chunks.any fun stored =>
    (stored.batchId = row.batchId ∧ stored.chunkIndex = row.chunkIndex) ∨
      stored.receiptId = row.receiptId) .chunkConflict
  failIf (row.chunkIndex ≥ row.chunkCount) .chunkIndexOutOfRange
  failIf (¬db.batches.any (·.batchId = row.batchId)) .reference
  failIf (¬db.receipts.any (·.receiptId = row.receiptId)) .reference
  return { db with chunks := db.chunks ++ [row] }

def insertSelection (db : Database ι φ) (row : SelectionRow) : Except Failure (Database ι φ) := do
  failIf (db.selections.any (selectionConflicts row)) .selectionConflict
  failIf (¬db.batches.any (·.batchId = row.batchId)) .reference
  return { db with selections := db.selections ++ [row] }

def insertCompletion (row : CompletionRow) (db : Database ι φ) :
    Except Failure (Database ι φ) := do
  failIf (db.completions.any fun stored =>
    stored.completionId = row.completionId ∨ stored.batchId = row.batchId) .completionConflict
  failIf (¬db.batches.any (·.batchId = row.batchId)) .reference
  return { db with completions := db.completions ++ [row] }

def exec : Statement ι φ → Database ι φ → Except Failure (Database ι φ)
  | .insertReceipt row, db => insertReceipt row db
  | .insertBatch row, db => insertBatch row db
  | .insertHeartbeat row, db => insertHeartbeat row db
  | .insertChunk row, db => insertChunk row db
  | .insertSelections rows, db => rows.foldlM insertSelection db
  | .insertCompletion row, db => insertCompletion row db
  | .writeFacts write, db => do
    let facts ← write db.facts
    return { db with facts }

/-- The database, with its batches of statements. -/
abbrev database (ι φ : Type) : Store where
  State := Database ι φ
  Statement := Statement ι φ
  Failure := Failure
  exec := exec

/-! ## What a statement does -/

/-- Rows are only ever added. -/
structure Grows (db db' : Database ι φ) : Prop where
  receipts : db.receipts <+: db'.receipts
  batches : db.batches <+: db'.batches
  chunks : db.chunks <+: db'.chunks
  completions : db.completions <+: db'.completions
  selections : db.selections <+: db'.selections

theorem Grows.refl (db : Database ι φ) : Grows db db :=
  ⟨List.prefix_rfl, List.prefix_rfl, List.prefix_rfl, List.prefix_rfl, List.prefix_rfl⟩

theorem Grows.trans {a b c : Database ι φ} (h : Grows a b) (h' : Grows b c) : Grows a c :=
  ⟨h.receipts.trans h'.receipts, h.batches.trans h'.batches, h.chunks.trans h'.chunks,
    h.completions.trans h'.completions, h.selections.trans h'.selections⟩

variable {db db' : Database ι φ}

theorem insertReceipt_ok {row : ReceiptRow} (h : insertReceipt row db = .ok db') :
    db' = { db with receipts := db.receipts ++ [row] } := by
  simp only [insertReceipt, then_ok_iff, pure_ok_iff] at h
  exact h.2.symm

theorem insertBatch_ok {row : BatchRow} (h : insertBatch row db = .ok db') :
    (∀ batch ∈ db.batches, batch.batchId ≠ row.batchId) ∧
      db' = { db with batches := db.batches ++ [row] } := by
  simp only [insertBatch, then_ok_iff, pure_ok_iff, failIf_ok_iff, List.any_eq_true, not_exists,
    not_and] at h
  obtain ⟨-, -, hfresh, -, hdb⟩ := h
  refine ⟨fun batch hmem hid => hfresh batch hmem ?_, hdb.symm⟩
  simp [batchConflicts, hid]

theorem insertHeartbeat_ok {row : HeartbeatRow} (h : insertHeartbeat row db = .ok db') :
    db' = { db with heartbeats := db.heartbeats ++ [row] } := by
  simp only [insertHeartbeat, then_ok_iff, pure_ok_iff] at h
  exact h.2.2.2.symm

theorem insertChunk_ok {row : ChunkRow ι} (h : insertChunk row db = .ok db') :
    (∀ chunk ∈ db.chunks, chunk.batchId = row.batchId → chunk.chunkIndex ≠ row.chunkIndex) ∧
      row.chunkIndex < row.chunkCount ∧ db' = { db with chunks := db.chunks ++ [row] } := by
  simp only [insertChunk, then_ok_iff, pure_ok_iff, failIf_ok_iff, List.any_eq_true, not_exists,
    not_and] at h
  obtain ⟨hfresh, hindex, -, -, hdb⟩ := h
  refine ⟨fun chunk hmem hbatch hsame => hfresh chunk hmem ?_, by omega, hdb.symm⟩
  simp [hbatch, hsame]

theorem insertSelections_ok {rows : List SelectionRow}
    (h : rows.foldlM insertSelection db = .ok db') :
    db' = { db with selections := db.selections ++ rows } := by
  induction rows generalizing db with
  | nil =>
    rw [List.foldlM_nil, pure_ok_iff] at h
    rw [List.append_nil, ← h]
  | cons row rest ih =>
    rw [List.foldlM_cons, bind_ok_iff] at h
    obtain ⟨mid, hrow, hrest⟩ := h
    simp only [insertSelection, then_ok_iff, pure_ok_iff] at hrow
    obtain ⟨-, -, rfl⟩ := hrow
    rw [ih hrest, List.append_assoc, List.singleton_append]

theorem insertCompletion_ok {row : CompletionRow} (h : insertCompletion row db = .ok db') :
    (∀ completion ∈ db.completions, completion.batchId ≠ row.batchId) ∧
      db' = { db with completions := db.completions ++ [row] } := by
  simp only [insertCompletion, then_ok_iff, pure_ok_iff, failIf_ok_iff, List.any_eq_true,
    not_exists, not_and] at h
  obtain ⟨hfresh, -, hdb⟩ := h
  refine ⟨fun completion hmem hid => hfresh completion hmem ?_, hdb.symm⟩
  simp [hid]

theorem writeFacts_ok {writes : List (φ → Except Failure φ)}
    (h : (database ι φ).batch (writes.map .writeFacts) db = .ok db') :
    ∃ facts, db' = { db with facts } := by
  induction writes generalizing db with
  | nil => exact ⟨db.facts, (Except.ok.inj h).symm⟩
  | cons write rest ih =>
    rw [List.map_cons, Store.batch, bind_ok_iff] at h
    obtain ⟨mid, hwrite, hrest⟩ := h
    obtain ⟨facts, -, hmid⟩ := bind_ok_iff.mp hwrite
    obtain ⟨facts', rfl⟩ := ih hrest
    rw [pure_ok_iff] at hmid
    exact ⟨facts', by rw [← hmid]⟩

end Exec

end TradeOps.EntryV2
