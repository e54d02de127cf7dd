import TradeOps.EntryV2.Append

/-!
# Completed batches

The invariant `Complete` ties the chunks of a batch to its completion and to its selections. It is
kept by the statements of a call that stores a chunk of a batch with another one missing, and by
those of a call that stores the last chunk together with the completion.
-/

namespace TradeOps.EntryV2

open Checks

variable {ι φ : Type}

/-! ## The invariant -/

/-- The chunk of a batch at an index is stored. -/
def HasChunk (db : Database ι φ) (batchId : String) (index : Nat) : Prop :=
  ∃ chunk ∈ db.chunks, chunk.batchId = batchId ∧ chunk.chunkIndex = index

instance decidableHasChunk (db : Database ι φ) (batchId : String) (index : Nat) :
    Decidable (HasChunk db batchId index) :=
  inferInstanceAs (Decidable (∃ chunk ∈ db.chunks, _))

def HasCompletion (db : Database ι φ) (batchId : String) : Prop :=
  ∃ completion ∈ db.completions, completion.batchId = batchId

/-- How many selections a batch has for a setup. -/
def selectionCount (db : Database ι φ) (batchId setupId : String) : Nat :=
  (db.selections.map fun row => (row.batchId, row.setupId)).count (batchId, setupId)

/-- A stored chunk with the batch it belongs to. -/
structure ChunkOf (db : Database ι φ) (chunk : ChunkRow ι) (batch : BatchRow) : Prop where
  mem : batch ∈ db.batches
  batchId : batch.batchId = chunk.batchId
  count : batch.chunkCount = chunk.chunkCount
  index : chunk.chunkIndex < chunk.chunkCount
  documentIndex : chunk.document.chunkIndex = chunk.chunkIndex

/-- The keys of the tables, and where chunks and receipts belong. `admits` holds of the observations
that are delivered. -/
structure Keyed (env : Env ι φ) (admits : Observation ι → Prop) (db : Database ι φ) : Prop where
  batchKeys : ∀ b ∈ db.batches, ∀ b' ∈ db.batches, b.batchId = b'.batchId → b = b'
  chunkKeys : ∀ c ∈ db.chunks, ∀ c' ∈ db.chunks,
    c.batchId = c'.batchId → c.chunkIndex = c'.chunkIndex → c = c'
  chunkOf : ∀ chunk ∈ db.chunks, ∃ batch, ChunkOf db chunk batch
  receipts : ∀ receipt ∈ db.receipts, ∃ o, admits o ∧ receipt.payloadSha256 = env.payloadSha256 o ∧
    ∃ chunk ∈ db.chunks, chunk.batchId = env.batchId o.batchIdentity ∧
      chunk.chunkCount = o.chunkCount

/-- A batch is completed when all its chunks are there, and only then; it has one completion and,
for each setup of its chunks, one selection. -/
structure Complete (env : Env ι φ) (admits : Observation ι → Prop) (db : Database ι φ) : Prop
    extends Keyed env admits db where
  completionKeys : (db.completions.map (·.batchId)).Nodup
  completionBatch : ∀ completion ∈ db.completions,
    ∃ batch ∈ db.batches, batch.batchId = completion.batchId
  completed : ∀ batch ∈ db.batches,
    (∀ index < batch.chunkCount, HasChunk db batch.batchId index) → HasCompletion db batch.batchId
  whole : ∀ batch ∈ db.batches, HasCompletion db batch.batchId →
    ∀ index < batch.chunkCount, HasChunk db batch.batchId index
  selected : ∀ chunk ∈ db.chunks, HasCompletion db chunk.batchId →
    ∀ setup ∈ chunk.document.entryBatches, selectionCount db chunk.batchId setup.setupId = 1
  unselected : ∀ row ∈ db.selections, HasCompletion db row.batchId

theorem complete_empty (env : Env ι φ) (admits : Observation ι → Prop) (facts : φ) :
    Complete env admits (Database.empty facts) := by
  refine ⟨⟨?_, ?_, ?_, ?_⟩, ?_, ?_, ?_, ?_, ?_, ?_⟩ <;> simp [Database.empty]

section Growth

variable {db db' : Database ι φ} {batchId : String} {index : Nat}

theorem HasChunk.grows (h : HasChunk db batchId index) (hgrows : Grows db db') :
    HasChunk db' batchId index := by
  obtain ⟨chunk, hmem, hchunk⟩ := h
  exact ⟨chunk, hgrows.chunks.subset hmem, hchunk⟩

theorem HasCompletion.grows (h : HasCompletion db batchId) (hgrows : Grows db db') :
    HasCompletion db' batchId := by
  obtain ⟨completion, hmem, hcompletion⟩ := h
  exact ⟨completion, hgrows.completions.subset hmem, hcompletion⟩

end Growth

/-! ## Storing a chunk -/

/-- What a call knows of the row of its batch. -/
def Known (o : Observation ι) (batchId : String) (stored : Option BatchRow) (db : Database ι φ) :
    Prop :=
  ∀ row, stored = some row →
    row ∈ db.batches ∧ row.batchId = batchId ∧ row.chunkCount = o.chunkCount

/-- The statements for the receipt, the batch and the chunk took effect. -/
structure Stored (env : Env ι φ) (o : Observation ι) (batchId : String) (drawn : Drawn)
    (stored : Option BatchRow) (db db' : Database ι φ) : Prop where
  receipts : db'.receipts = db.receipts ++ [receiptRow env o drawn]
  batches : db'.batches = db.batches ++ (if stored.isNone then [batchRow o batchId drawn] else [])
  chunks : db'.chunks = db.chunks ++ [chunkRow env o batchId drawn]
  completions : db'.completions = db.completions
  selections : db'.selections = db.selections
  freshBatch : stored = none → ∀ batch ∈ db.batches, batch.batchId ≠ batchId
  freshChunk : ¬HasChunk db batchId o.chunkIndex
  index : o.chunkIndex < o.chunkCount

section Base

variable {env : Env ι φ} {o : Observation ι} {batchId : String} {drawn : Drawn}
  {stored : Option BatchRow} {db db' : Database ι φ}

theorem baseStatements_ok
    (h : (database ι φ).batch (baseStatements env o batchId drawn stored) db = .ok db') :
    Stored env o batchId drawn stored db db' := by
  have hlast : ∀ {mid : Database ι φ},
      (database ι φ).batch [.insertHeartbeat (heartbeatRow o batchId drawn),
        .insertChunk (chunkRow env o batchId drawn)] mid = .ok db' →
      ∃ heartbeats, db' =
        { mid with heartbeats, chunks := mid.chunks ++ [chunkRow env o batchId drawn] } ∧
        ¬HasChunk mid batchId o.chunkIndex ∧ o.chunkIndex < o.chunkCount := by
    intro mid hmid
    obtain ⟨mid', hheartbeat, hmid⟩ := bind_ok_iff.mp hmid
    obtain ⟨mid'', hchunk, hmid⟩ := bind_ok_iff.mp hmid
    obtain rfl := Except.ok.inj hmid
    obtain rfl := insertHeartbeat_ok hheartbeat
    obtain ⟨hfresh, hindex, rfl⟩ := insertChunk_ok hchunk
    refine ⟨_, rfl, ?_, hindex⟩
    rintro ⟨chunk, hmem, hbatch, hsame⟩
    exact hfresh chunk hmem hbatch hsame
  unfold baseStatements at h
  obtain ⟨mid, hreceipt, h⟩ := bind_ok_iff.mp h
  obtain rfl := insertReceipt_ok hreceipt
  cases hstored : stored with
  | none =>
    rw [hstored] at h
    obtain ⟨mid, hbatch, h⟩ := bind_ok_iff.mp h
    obtain ⟨hfresh, rfl⟩ := insertBatch_ok hbatch
    obtain ⟨heartbeats, rfl, hchunk, hindex⟩ := hlast h
    exact ⟨rfl, rfl, rfl, rfl, rfl, fun _ => hfresh, hchunk, hindex⟩
  | some row =>
    rw [hstored] at h
    obtain ⟨heartbeats, rfl, hchunk, hindex⟩ := hlast h
    exact ⟨rfl, (List.append_nil _).symm, rfl, rfl, rfl,
      fun hnone => absurd hnone (by simp), hchunk, hindex⟩

namespace Stored

variable (hs : Stored env o batchId drawn stored db db')
include hs

theorem grows : Grows db db' := by
  refine ⟨?_, ?_, ?_, ?_, ?_⟩
  · rw [hs.receipts]
    exact List.prefix_append _ _
  · rw [hs.batches]
    exact List.prefix_append _ _
  · rw [hs.chunks]
    exact List.prefix_append _ _
  · rw [hs.completions]
  · rw [hs.selections]

theorem mem_chunks {chunk : ChunkRow ι} :
    chunk ∈ db'.chunks ↔ chunk ∈ db.chunks ∨ chunk = chunkRow env o batchId drawn := by
  rw [hs.chunks, List.mem_append, List.mem_singleton]

theorem hasChunk_iff {b : String} {index : Nat} :
    HasChunk db' b index ↔ HasChunk db b index ∨ (b = batchId ∧ index = o.chunkIndex) := by
  constructor
  · rintro ⟨chunk, hmem, rfl, rfl⟩
    rcases hs.mem_chunks.mp hmem with hold | rfl
    · exact .inl ⟨chunk, hold, rfl, rfl⟩
    · exact .inr ⟨rfl, rfl⟩
  · rintro (hold | ⟨rfl, rfl⟩)
    · exact hold.grows hs.grows
    · exact ⟨chunkRow env o b drawn, hs.mem_chunks.mpr (.inr rfl), rfl, rfl⟩

theorem hasCompletion_iff {b : String} : HasCompletion db' b ↔ HasCompletion db b := by
  unfold HasCompletion
  rw [hs.completions]

theorem mem_batches {batch : BatchRow} (hmem : batch ∈ db'.batches) :
    batch ∈ db.batches ∨ (stored = none ∧ batch = batchRow o batchId drawn) := by
  rw [hs.batches, List.mem_append] at hmem
  rcases hmem with hold | hnew
  · exact .inl hold
  · cases hstored : stored with
    | none =>
      rw [hstored] at hnew
      exact .inr ⟨rfl, List.mem_singleton.mp hnew⟩
    | some row =>
      rw [hstored] at hnew
      exact absurd hnew List.not_mem_nil

/-- The batch has a row, and the row has the count of the observation. -/
theorem exists_batch (hknown : Known o batchId stored db) :
    ∃ batch ∈ db'.batches, batch.batchId = batchId ∧ batch.chunkCount = o.chunkCount := by
  cases hstored : stored with
  | none =>
    refine ⟨batchRow o batchId drawn, ?_, rfl, rfl⟩
    rw [hs.batches, hstored]
    exact List.mem_append_right _ List.mem_cons_self
  | some row =>
    obtain ⟨hmem, hid, hcount⟩ := hknown row hstored
    exact ⟨row, hs.grows.batches.subset hmem, hid, hcount⟩

variable {admits : Observation ι → Prop}

theorem batchKeys (hkeys : Keyed env admits db) :
    ∀ b ∈ db'.batches, ∀ b' ∈ db'.batches, b.batchId = b'.batchId → b = b' := by
  intro b hb b' hb' heq
  rcases hs.mem_batches hb with hold | ⟨hnone, rfl⟩
  · rcases hs.mem_batches hb' with hold' | ⟨hnone', rfl⟩
    · exact hkeys.batchKeys b hold b' hold' heq
    · exact absurd heq (hs.freshBatch hnone' b hold)
  · rcases hs.mem_batches hb' with hold' | ⟨-, rfl⟩
    · exact absurd heq.symm (hs.freshBatch hnone b' hold')
    · rfl

theorem keyed (hkeys : Keyed env admits db) (hknown : Known o batchId stored db)
    (hadmits : admits o) (hbatchId : env.batchId o.batchIdentity = batchId) :
    Keyed env admits db' where
  batchKeys := hs.batchKeys hkeys
  chunkKeys := by
    intro c hc c' hc' hbatch hindex
    rcases hs.mem_chunks.mp hc with hold | rfl
    · rcases hs.mem_chunks.mp hc' with hold' | rfl
      · exact hkeys.chunkKeys c hold c' hold' hbatch hindex
      · exact absurd ⟨c, hold, hbatch, hindex⟩ hs.freshChunk
    · rcases hs.mem_chunks.mp hc' with hold' | rfl
      · exact absurd ⟨c', hold', hbatch.symm, hindex.symm⟩ hs.freshChunk
      · rfl
  chunkOf := by
    intro chunk hmem
    rcases hs.mem_chunks.mp hmem with hold | rfl
    · obtain ⟨batch, hof⟩ := hkeys.chunkOf chunk hold
      exact ⟨batch, { hof with mem := hs.grows.batches.subset hof.mem }⟩
    · obtain ⟨batch, hbatch, hid, hcount⟩ := hs.exists_batch hknown
      exact ⟨batch, hbatch, hid, hcount, hs.index, rfl⟩
  receipts := by
    intro receipt hmem
    rw [hs.receipts, List.mem_append, List.mem_singleton] at hmem
    rcases hmem with hold | rfl
    · obtain ⟨o', hadmits', hsha, chunk, hchunk, hrest⟩ := hkeys.receipts receipt hold
      exact ⟨o', hadmits', hsha, chunk, hs.grows.chunks.subset hchunk, hrest⟩
    · exact ⟨o, hadmits, rfl, chunkRow env o batchId drawn, hs.mem_chunks.mpr (.inr rfl),
        hbatchId.symm, rfl⟩

theorem count_eq (hkeys : Keyed env admits db) (hknown : Known o batchId stored db)
    {batch : BatchRow} (hmem : batch ∈ db'.batches) (hid : batch.batchId = batchId) :
    batch.chunkCount = o.chunkCount := by
  obtain ⟨row, hrow, hrowId, hcount⟩ := hs.exists_batch hknown
  rw [hs.batchKeys hkeys batch hmem row hrow (hid.trans hrowId.symm), hcount]

/-- A completed batch takes no chunk. -/
theorem not_completed (hinv : Complete env admits db) (hknown : Known o batchId stored db) :
    ¬HasCompletion db batchId := by
  intro hcompletion
  obtain ⟨completion, hmem, hid⟩ := hcompletion
  obtain ⟨batch, hbatch, hbatchId⟩ := hinv.completionBatch completion hmem
  have hbatchId := hbatchId.trans hid
  have hcount := hs.count_eq hinv.toKeyed hknown (hs.grows.batches.subset hbatch) hbatchId
  have hwhole := hinv.whole batch hbatch (by rw [hbatchId]; exact ⟨completion, hmem, hid⟩)
  apply hs.freshChunk
  rw [← hbatchId]
  exact hwhole o.chunkIndex (by rw [hcount]; exact hs.index)

/-- A chunk of a batch that misses another one. -/
theorem incomplete (hinv : Complete env admits db) (hknown : Known o batchId stored db)
    (hadmits : admits o) (hbatchId : env.batchId o.batchIdentity = batchId)
    (hmissing : ∃ index < o.chunkCount, index ≠ o.chunkIndex ∧ ¬HasChunk db batchId index) :
    Complete env admits db' := by
  have hnot := hs.not_completed hinv hknown
  refine { hs.keyed hinv.toKeyed hknown hadmits hbatchId with
    completionKeys := by rw [hs.completions]; exact hinv.completionKeys
    completionBatch := ?_, completed := ?_, whole := ?_, selected := ?_, unselected := ?_ }
  · intro completion hmem
    rw [hs.completions] at hmem
    obtain ⟨batch, hbatch, hid⟩ := hinv.completionBatch completion hmem
    exact ⟨batch, hs.grows.batches.subset hbatch, hid⟩
  · intro batch hmem hall
    rw [hs.hasCompletion_iff]
    by_cases hid : batch.batchId = batchId
    · obtain ⟨index, hindex, hother, habsent⟩ := hmissing
      have hcount := hs.count_eq hinv.toKeyed hknown hmem hid
      rcases hs.hasChunk_iff.mp (hall index (by omega)) with hchunk | ⟨-, hsame⟩
      · exact absurd (hid ▸ hchunk) habsent
      · exact absurd hsame hother
    · rcases hs.mem_batches hmem with hold | ⟨-, rfl⟩
      · apply hinv.completed batch hold
        intro index hindex
        rcases hs.hasChunk_iff.mp (hall index hindex) with hchunk | ⟨hsame, -⟩
        · exact hchunk
        · exact absurd hsame hid
      · exact absurd rfl hid
  · intro batch hmem hcompletion index hindex
    rw [hs.hasCompletion_iff] at hcompletion
    rcases hs.mem_batches hmem with hold | ⟨-, rfl⟩
    · exact (hinv.whole batch hold hcompletion index hindex).grows hs.grows
    · exact absurd hcompletion hnot
  · intro chunk hmem hcompletion setup hsetup
    rw [hs.hasCompletion_iff] at hcompletion
    rcases hs.mem_chunks.mp hmem with hold | rfl
    · unfold selectionCount
      rw [hs.selections]
      exact hinv.selected chunk hold hcompletion setup hsetup
    · exact absurd hcompletion hnot
  · intro row hmem
    rw [hs.selections] at hmem
    exact hs.hasCompletion_iff.mpr (hinv.unselected row hmem)

end Stored

/-! ## Completing a batch -/

section Selecting

variable {env : Env ι φ} {batchId receivedAt : String} {metadata : BatchMetadata}
  {setups : List (AssembledSetup ι)}

theorem loadEvaluationState_entries {loaded : List (LoadedSetup ι φ)} {terminals : Option φ}
    (h : (loadEvaluationState setups).Yields (loaded, terminals)) :
    loaded.map (·.entry) = setups := by
  cases setups with
  | nil =>
    obtain ⟨rfl, -⟩ := Prod.mk.inj h
    rfl
  | cons setup rest =>
    obtain ⟨db₁, db₂, db₃, h⟩ := h
    obtain ⟨rfl, -⟩ := Prod.mk.inj h
    rw [List.map_map]
    exact List.map_id _

/-- A complete batch has one selection for each setup. -/
theorem evaluateSetups_selects (hselects : env.SelectsOwn) {prepared : Prepared env}
    (h : (evaluateSetups env batchId metadata receivedAt setups).Yields (.ok prepared)) :
    prepared.selections.map (fun row => (row.batchId, row.setupId)) =
      setups.map fun setup => (batchId, setup.setupId) := by
  obtain ⟨⟨loaded, terminals⟩, hloaded, h⟩ := Reads.yields_bind.mp h
  dsimp only at h
  split at h
  · cases h
  next evaluations hevaluations =>
    obtain ⟨db₁, db₂, db₃, h⟩ := h
    obtain ⟨⟨before, after⟩, -, h⟩ := bind_ok_iff.mp h
    obtain rfl := Except.ok.inj h
    have hown : evaluations.map (·.setupId) = loaded.map (·.entry.setupId) :=
      mapM_map (fun setup evaluation => hselects setup.entry batchId metadata _ _ evaluation)
        hevaluations
    calc (evaluations.map fun evaluation => ({ evaluation with batchId } : SelectionRow)).map
          (fun row => (row.batchId, row.setupId))
        = (evaluations.map (·.setupId)).map (batchId, ·) := by simp only [List.map_map]; rfl
      _ = (loaded.map (·.entry)).map fun setup => (batchId, setup.setupId) := by
        rw [hown]
        simp only [List.map_map]
        rfl
      _ = setups.map fun setup => (batchId, setup.setupId) := by
        rw [loadEvaluationState_entries hloaded]

end Selecting

/-- The selections and the completion of a batch took effect. -/
structure Finished (prepared : Prepared env) (batchId : String) (db db' : Database ι φ) : Prop where
  receipts : db'.receipts = db.receipts
  batches : db'.batches = db.batches
  chunks : db'.chunks = db.chunks
  selections : db'.selections = db.selections ++ prepared.selections
  completions : ∃ row : CompletionRow, row.batchId = batchId ∧
    db'.completions = db.completions ++ [row]
  fresh : ¬HasCompletion db batchId

theorem completionStatements_ok {prepared : Prepared env} {chunks : List (Nat × String)}
    (h : (database ι φ).batch (completionStatements env batchId drawn prepared chunks) db =
      .ok db') : Finished prepared batchId db db' := by
  unfold completionStatements at h
  rw [Store.batch_append, Store.batch_append, Store.batch_append, bind_ok_iff] at h
  obtain ⟨mid₃, h, hcompletion⟩ := h
  obtain ⟨mid₂, h, hafter⟩ := bind_ok_iff.mp h
  obtain ⟨mid₁, hbefore, hselections⟩ := bind_ok_iff.mp h
  rw [Store.batch_singleton] at hselections hcompletion
  obtain ⟨facts, rfl⟩ := writeFacts_ok hbefore
  obtain rfl := insertSelections_ok hselections
  obtain ⟨facts', rfl⟩ := writeFacts_ok hafter
  obtain ⟨hfresh, rfl⟩ := insertCompletion_ok hcompletion
  refine ⟨rfl, rfl, rfl, rfl, ⟨_, rfl, rfl⟩, ?_⟩
  rintro ⟨completion, hmem, hid⟩
  exact hfresh completion hmem hid

namespace Finished

variable {prepared : Prepared env} {mid : Database ι φ} (hf : Finished prepared batchId mid db')
include hf

theorem grows : Grows mid db' := by
  obtain ⟨row, -, hcompletions⟩ := hf.completions
  refine ⟨?_, ?_, ?_, ?_, ?_⟩
  · rw [hf.receipts]
  · rw [hf.batches]
  · rw [hf.chunks]
  · rw [hcompletions]
    exact List.prefix_append _ _
  · rw [hf.selections]
    exact List.prefix_append _ _

theorem hasChunk_iff {b : String} {index : Nat} : HasChunk db' b index ↔ HasChunk mid b index := by
  unfold HasChunk
  rw [hf.chunks]

theorem hasCompletion_iff {b : String} :
    HasCompletion db' b ↔ HasCompletion mid b ∨ b = batchId := by
  obtain ⟨row, hid, hcompletions⟩ := hf.completions
  unfold HasCompletion
  rw [hcompletions]
  constructor
  · rintro ⟨completion, hmem, rfl⟩
    rcases List.mem_append.mp hmem with hold | hnew
    · exact .inl ⟨completion, hold, rfl⟩
    · rw [List.mem_singleton.mp hnew]
      exact .inr hid
  · rintro (⟨completion, hmem, rfl⟩ | rfl)
    · exact ⟨completion, List.mem_append_left _ hmem, rfl⟩
    · exact ⟨row, List.mem_append_right _ List.mem_cons_self, hid⟩

theorem keyed {admits : Observation ι → Prop} (hkeys : Keyed env admits mid) :
    Keyed env admits db' where
  batchKeys := by rw [hf.batches]; exact hkeys.batchKeys
  chunkKeys := by rw [hf.chunks]; exact hkeys.chunkKeys
  chunkOf := by
    intro chunk hmem
    rw [hf.chunks] at hmem
    obtain ⟨batch, hof⟩ := hkeys.chunkOf chunk hmem
    exact ⟨batch, { hof with mem := hf.grows.batches.subset hof.mem }⟩
  receipts := by rw [hf.receipts, hf.chunks]; exact hkeys.receipts

theorem selectionCount_eq (b setupId : String) : selectionCount db' b setupId =
    selectionCount mid b setupId +
      (prepared.selections.map fun row => (row.batchId, row.setupId)).count (b, setupId) := by
  unfold selectionCount
  rw [hf.selections, List.map_append, List.count_append]

end Finished

/-- The last chunk of a batch, stored together with the completion. -/
theorem Stored.complete {admits : Observation ι → Prop} {prepared : Prepared env}
    {mid : Database ι φ} {setups : List (AssembledSetup ι)}
    (hs : Stored env o batchId drawn stored db mid) (hf : Finished prepared batchId mid db')
    (hinv : Complete env admits db) (hknown : Known o batchId stored db) (hadmits : admits o)
    (hbatchId : env.batchId o.batchIdentity = batchId)
    (hall : ∀ index < o.chunkCount, index = o.chunkIndex ∨ HasChunk db batchId index)
    (hselects : prepared.selections.map (fun row => (row.batchId, row.setupId)) =
      setups.map fun setup => (batchId, setup.setupId))
    (hnodup : (setups.map (·.setupId)).Nodup)
    (hsetups : ∀ chunk ∈ mid.chunks, chunk.batchId = batchId →
      ∀ setup ∈ chunk.document.entryBatches, ∃ assembled ∈ setups,
        assembled.setupId = setup.setupId) :
    Complete env admits db' := by
  have hnot := hs.not_completed hinv hknown
  have hkeyed := hs.keyed hinv.toKeyed hknown hadmits hbatchId
  have hcompletion_iff : ∀ {b : String}, HasCompletion db' b ↔
    HasCompletion db b ∨ b = batchId := by
    intro b
    rw [hf.hasCompletion_iff, hs.hasCompletion_iff]
  refine { hf.keyed hkeyed with
    completionKeys := ?_, completionBatch := ?_, completed := ?_, whole := ?_, selected := ?_
    unselected := ?_ }
  · obtain ⟨row, hid, hcompletions⟩ := hf.completions
    rw [hcompletions, hs.completions, List.map_append, List.map_singleton, List.nodup_append]
    refine ⟨hinv.completionKeys, List.nodup_singleton _, ?_⟩
    intro b hb b' hb' heq
    rw [List.mem_singleton.mp hb', hid] at heq
    obtain ⟨completion, hmem, rfl⟩ := List.mem_map.mp hb
    exact hnot ⟨completion, hmem, heq⟩
  · intro completion hmem
    rw [hf.batches]
    rcases hcompletion_iff.mp ⟨completion, hmem, rfl⟩ with ⟨old, hold, hid⟩ | hid
    · obtain ⟨batch, hbatch, hbatch'⟩ := hinv.completionBatch old hold
      exact ⟨batch, hs.grows.batches.subset hbatch, hbatch'.trans hid⟩
    · obtain ⟨batch, hbatch, hbatch', -⟩ := hs.exists_batch hknown
      exact ⟨batch, hbatch, hbatch'.trans hid.symm⟩
  · intro batch hmem hchunks
    rw [hf.batches] at hmem
    rw [hcompletion_iff]
    by_cases hid : batch.batchId = batchId
    · exact .inr hid
    · rcases hs.mem_batches hmem with hold | ⟨-, rfl⟩
      · refine .inl (hinv.completed batch hold fun index hindex => ?_)
        rcases hs.hasChunk_iff.mp (hf.hasChunk_iff.mp (hchunks index hindex)) with
          hchunk | ⟨hsame, -⟩
        · exact hchunk
        · exact absurd hsame hid
      · exact absurd rfl hid
  · intro batch hmem hcompletion index hindex
    rw [hf.batches] at hmem
    rw [hf.hasChunk_iff, hs.hasChunk_iff]
    by_cases hid : batch.batchId = batchId
    · rw [hs.count_eq hinv.toKeyed hknown hmem hid] at hindex
      rw [hid]
      exact (hall index hindex).symm.imp_right fun hsame => ⟨rfl, hsame⟩
    · rcases hs.mem_batches hmem with hold | ⟨-, rfl⟩
      · exact .inl (hinv.whole batch hold ((hcompletion_iff.mp hcompletion).resolve_right hid)
          index hindex)
      · exact absurd rfl hid
  · intro chunk hmem hcompletion setup hsetup
    rw [hf.chunks] at hmem
    rw [hf.selectionCount_eq, hselects]
    have hbefore : selectionCount mid chunk.batchId setup.setupId =
        selectionCount db chunk.batchId setup.setupId := by
      unfold selectionCount
      rw [hs.selections]
    rw [hbefore]
    by_cases hid : chunk.batchId = batchId
    · have hzero : selectionCount db chunk.batchId setup.setupId = 0 := by
        apply List.count_eq_zero_of_not_mem
        intro hrow
        obtain ⟨row, hrow, heq⟩ := List.mem_map.mp hrow
        have hrowId : row.batchId = batchId := (Prod.mk.inj heq).1.trans hid
        exact hnot (hrowId ▸ hinv.unselected row hrow)
      obtain ⟨assembled, hassembled, hsame⟩ := hsetups chunk hmem hid setup hsetup
      have hone : (setups.map fun setup => (batchId, setup.setupId)).count
          (chunk.batchId, setup.setupId) = 1 := by
        apply List.count_eq_one_of_mem
        · have hmap : (setups.map fun setup => (batchId, setup.setupId)) =
              (setups.map (·.setupId)).map (Prod.mk batchId) := by rw [List.map_map]; rfl
          rw [hmap]
          exact hnodup.map fun x y hxy => (Prod.mk.inj hxy).2
        · exact List.mem_map.mpr ⟨assembled, hassembled, by rw [hid, hsame]⟩
      omega
    · have hold : chunk ∈ db.chunks := by
        rcases hs.mem_chunks.mp hmem with hold | rfl
        · exact hold
        · exact absurd rfl hid
      have hzero : (setups.map fun setup => (batchId, setup.setupId)).count
          (chunk.batchId, setup.setupId) = 0 := by
        apply List.count_eq_zero_of_not_mem
        intro hrow
        obtain ⟨assembled, -, heq⟩ := List.mem_map.mp hrow
        exact hid (Prod.mk.inj heq).1.symm
      rw [hzero]
      exact hinv.selected chunk hold ((hcompletion_iff.mp hcompletion).resolve_right hid) setup
        hsetup
  · intro row hmem
    rw [hcompletion_iff]
    rw [hf.selections, List.mem_append, hs.selections] at hmem
    rcases hmem with hold | hnew
    · exact .inl (hinv.unselected row hold)
    · have hrow : (row.batchId, row.setupId) ∈
          setups.map fun setup => (batchId, setup.setupId) := by
        rw [← hselects]
        exact List.mem_map.mpr ⟨row, hnew, rfl⟩
      obtain ⟨assembled, -, heq⟩ := List.mem_map.mp hrow
      exact .inr (Prod.mk.inj heq).1.symm

end Base

end TradeOps.EntryV2
