import TradeOps.EntryV2.Completion
import Mathlib.Tactic.IntervalCases

/-!
# Every stored batch is completed

A call decides from the chunks it read whether its chunk is the last one of the batch, and stores
the chunk later. Two calls that each read before the other stores its chunk both leave the batch
incomplete, and once all chunks are stored no call comes back to it. The batch row serialises only
calls that read before it was stored.

Every batch is completed in the runs in which no call is overtaken: between its read of the chunks
and its batch, the others never store all the chunks that it found missing.
-/

namespace TradeOps.EntryV2

open Checks Jobs

variable {ι φ : Type}

/-! ## The calls -/

/-- The call that is about to store its chunk has been overtaken: it read the chunks while another
one was missing, and by now the others are all there. Only then nothing stops it: its own chunk is
not stored, and the batch row was there when the call read it, so that it is not inserted. -/
def Overtaken (env : Env ι φ) (o : Observation ι) (chunksRead batchRead db : Database ι φ) : Prop :=
  (selectBatch (env.batchId o.batchIdentity) batchRead).isSome = true ∧
    ¬HasChunk db (env.batchId o.batchIdentity) o.chunkIndex ∧
    (∀ index < o.chunkCount,
      index = o.chunkIndex ∨ HasChunk db (env.batchId o.batchIdentity) index) ∧
    ∃ index < o.chunkCount,
      index ≠ o.chunkIndex ∧ ¬HasChunk chunksRead (env.batchId o.batchIdentity) index

instance decidableOvertaken (env : Env ι φ) (o : Observation ι)
    (chunksRead batchRead db : Database ι φ) :
    Decidable (Overtaken env o chunksRead batchRead db) :=
  inferInstanceAs (Decidable (_ ∧ _ ∧ _ ∧ _))

/-- No call is overtaken between its last two noted reads, of the batch row and of the chunks, and
its batch. -/
def InTime (env : Env ι φ) (o : Observation ι) : List (Database ι φ) → Database ι φ → Prop
  | chunksRead :: batchRead :: _, db => ¬Overtaken env o chunksRead batchRead db
  | _, _ => True

instance decidableInTime (env : Env ι φ) (o : Observation ι) :
    (seen : List (Database ι φ)) → (db : Database ι φ) → Decidable (InTime env o seen db)
  | [], _ => inferInstanceAs (Decidable True)
  | [_], _ => inferInstanceAs (Decidable True)
  | _ :: _ :: _, _ => inferInstanceAs (Decidable ¬_)

/-- What a call answers: a complete batch has its completion. -/
def Promise : Except Error AppendResult → Database ι φ → Prop
  | .ok (.accepted _ .complete batchId _), db => HasCompletion db batchId
  | _, _ => True

theorem Promise.grows {result : Except Error AppendResult} {db db' : Database ι φ}
    (h : Promise result db) (hgrows : Grows db db') : Promise result db' := by
  unfold Promise at h ⊢
  split
  · exact HasCompletion.grows h hgrows
  · trivial

theorem Known.grows {o : Observation ι} {batchId : String} {stored : Option BatchRow}
    {db db' : Database ι φ} (h : Known o batchId stored db) (hgrows : Grows db db') :
    Known o batchId stored db' := by
  intro row hrow
  obtain ⟨hmem, hrest⟩ := h row hrow
  exact ⟨hgrows.batches.subset hmem, hrest⟩

/-- An incomplete batch misses a chunk of each of its counts. -/
theorem assembleValidatedChunks_incomplete {chunks : List (StoredChunk ι)} {missing : List Nat}
    (h : assembleValidatedChunks chunks = .ok (.incomplete missing)) {chunk : StoredChunk ι}
    (hmem : chunk ∈ chunks) : ∃ index < chunk.document.chunkCount,
      ∀ chunk' ∈ chunks, chunk'.document.chunkIndex ≠ index := by
  unfold assembleValidatedChunks at h
  dsimp only at h
  have hsorted : ∀ {chunk : StoredChunk ι}, chunk ∈ chunks →
      chunk ∈ SortBy.sortBy (·.document.chunkIndex) chunks := fun hchunk =>
    (SortBy.mem_sortBy _).mpr hchunk
  generalize SortBy.sortBy (·.document.chunkIndex) chunks = ordered at h hsorted
  cases ordered with
  | nil => exact absurd (hsorted hmem) List.not_mem_nil
  | cons first rest =>
    dsimp only at h
    split at h
    · exact absurd h (by simp)
    next hcount =>
      have hsame : chunk.document.chunkCount = first.document.chunkCount := by
        by_contra hne
        exact hcount (.inr (List.any_eq_true.mpr ⟨chunk, hsorted hmem, by simpa using hne⟩))
      split at h
      · exact absurd h (by simp)
      · split at h
        next hmissing =>
          obtain ⟨index, hindex⟩ := List.exists_mem_of_ne_nil _ hmissing
          obtain ⟨hrange, habsent⟩ := List.mem_filter.mp hindex
          refine ⟨index, ?_, fun chunk' hmem' heq => ?_⟩
          · rw [hsame]
            exact List.mem_range.mp hrange
          · exact of_decide_eq_true habsent (List.mem_map.mpr ⟨chunk', hsorted hmem', heq⟩)
        next =>
          split at h
          · exact absurd h (by simp)
          · split at h
            · exact absurd h (by simp)
            · exact absurd h (by simp)

theorem assembleValidatedChunks_complete {chunks : List (StoredChunk ι)}
    {setups : List (AssembledSetup ι)} {digests : List (Nat × String)}
    (h : assembleValidatedChunks chunks = .ok (.complete setups digests)) :
    (∀ chunk ∈ chunks, ∀ index < chunk.document.chunkCount,
      ∃ chunk' ∈ chunks, chunk'.document.chunkIndex = index) ∧
    (setups.map (·.setupId)).Nodup ∧
    ∀ chunk ∈ chunks, ∀ setup ∈ chunk.document.entryBatches,
      ∃ assembled ∈ setups, assembled.setupId = setup.setupId := by
  unfold assembleValidatedChunks at h
  dsimp only at h
  have hmem : ∀ {chunk : StoredChunk ι}, chunk ∈ chunks →
      chunk ∈ SortBy.sortBy (·.document.chunkIndex) chunks := fun hchunk =>
    (SortBy.mem_sortBy _).mpr hchunk
  have hmem' : ∀ {chunk : StoredChunk ι}, chunk ∈ SortBy.sortBy (·.document.chunkIndex) chunks →
      chunk ∈ chunks := fun hchunk => (SortBy.mem_sortBy _).mp hchunk
  generalize SortBy.sortBy (·.document.chunkIndex) chunks = ordered at h hmem hmem'
  cases ordered with
  | nil => exact absurd h (by simp)
  | cons first rest =>
    dsimp only at h
    split at h
    · exact absurd h (by simp)
    next hcount =>
      split at h
      · exact absurd h (by simp)
      · split at h
        · exact absurd h (by simp)
        next hmissing =>
          split at h
          · exact absurd h (by simp)
          · split at h
            · exact absurd h (by simp)
            next hnodup =>
              obtain ⟨rfl, -⟩ := Assembly.complete.inj (Except.ok.inj h)
              refine ⟨?_, not_not.mp hnodup, ?_⟩
              · intro chunk hchunk index hindex
                have hsame : chunk.document.chunkCount = first.document.chunkCount := by
                  by_contra hne
                  exact hcount (.inr (List.any_eq_true.mpr
                    ⟨chunk, hmem hchunk, by simpa using hne⟩))
                have hpresent : index ∈ (first :: rest).map (·.document.chunkIndex) := by
                  by_contra habsent
                  have hempty := not_not.mp hmissing
                  have hin : index ∈ missingIndexes first.document.chunkCount
                      ((first :: rest).map (·.document.chunkIndex)) := by
                    apply List.mem_filter.mpr
                    exact ⟨List.mem_range.mpr (by omega), by simpa using habsent⟩
                  rw [hempty] at hin
                  exact absurd hin List.not_mem_nil
                obtain ⟨chunk', hchunk', rfl⟩ := List.mem_map.mp hpresent
                exact ⟨chunk', hmem' hchunk', rfl⟩
              · intro chunk hchunk setup hsetup
                have hassembled : ⟨setup, chunk.receiptId, chunk.document.chunkIndex⟩ ∈
                    chunkSetups chunk := List.mem_map.mpr ⟨setup, hsetup, rfl⟩
                exact ⟨_, List.mem_flatMap.mpr ⟨chunk, hmem hchunk, hassembled⟩, rfl⟩

section Safe

variable {env : Env ι φ} {admits : Observation ι → Prop} {o : Observation ι} {batchId : String}
  {drawn : Drawn} {stored : Option BatchRow} {seen : List (Database ι φ)} {db : Database ι φ}

/-- Safe among calls that keep the invariant and are not overtaken. -/
abbrev SafeCall (env : Env ι φ) (admits : Observation ι → Prop) (o : Observation ι) {α : Type}
    (call : Call ι φ α) (promise : Except Error α → List (Database ι φ) → Database ι φ → Prop)
    (seen : List (Database ι φ)) (db : Database ι φ) : Prop :=
  call.Safe (Complete env admits) Grows (InTime env o) promise seen db

theorem confirmReceipt_safe {result : AppendResult} (h : Promise (.ok result) db) :
    SafeCall env admits o (confirmReceipt o drawn result) (fun r _ => Promise r) seen db := by
  apply Job.Safe.query_bind
  intro db' hgrows _
  split
  · exact h.grows hgrows
  · exact trivial

/-- The chunks of the batch at the time of the commit are those that were read and the new one. -/
theorem Stored.mem_read {read mid : Database ι φ} (hs : Stored env o batchId drawn stored db mid)
    (hkeys : Keyed env admits db) (hknown : Known o batchId stored db) (hgrows : Grows read db)
    (hall : ∀ index < o.chunkCount, index = o.chunkIndex ∨ HasChunk read batchId index)
    {chunk : ChunkRow ι} (hmem : chunk ∈ mid.chunks) (hid : chunk.batchId = batchId) :
    chunk ∈ listChunks batchId read ++ [chunkRow env o batchId drawn] := by
  rcases hs.mem_chunks.mp hmem with hold | rfl
  · obtain ⟨batch, hof⟩ := hkeys.chunkOf chunk hold
    have hcount := hs.count_eq hkeys hknown (hs.grows.batches.subset hof.mem)
      (hof.batchId.trans hid)
    have hindex : chunk.chunkIndex < o.chunkCount := by
      have hlt := hof.index
      have hcount' := hof.count
      omega
    rcases hall chunk.chunkIndex hindex with hsame | ⟨row, hrow, hrowId, hrowIndex⟩
    · exact absurd ⟨chunk, hold, hid, hsame⟩ hs.freshChunk
    · have heq := hkeys.chunkKeys chunk hold row (hgrows.chunks.subset hrow)
        (hid.trans hrowId.symm) hrowIndex.symm
      apply List.mem_append_left
      rw [heq]
      exact (SortBy.mem_sortBy _).mpr (List.mem_filter.mpr ⟨hrow, by simpa using hrowId⟩)
  · exact List.mem_append_right _ List.mem_cons_self

/-- A call that found a chunk missing and was not overtaken leaves one missing. -/
theorem Stored.missing {chunksRead batchRead mid : Database ι φ}
    (hs : Stored env o batchId drawn (selectBatch batchId batchRead) db mid)
    (hbatchId : env.batchId o.batchIdentity = batchId) (hkeys : Keyed env admits db)
    (hread : ∃ index < o.chunkCount, index ≠ o.chunkIndex ∧ ¬HasChunk chunksRead batchId index)
    (hintime : ¬Overtaken env o chunksRead batchRead db) :
    ∃ index < o.chunkCount, index ≠ o.chunkIndex ∧ ¬HasChunk db batchId index := by
  by_cases hrow : (selectBatch batchId batchRead).isSome = true
  · by_contra hnone
    apply hintime
    rw [Overtaken, hbatchId]
    refine ⟨hrow, hs.freshChunk, fun index hindex => ?_, hread⟩
    by_contra habsent
    rw [not_or] at habsent
    exact hnone ⟨index, hindex, habsent.1, habsent.2⟩
  · -- the batch row is inserted, so no chunk of the batch was there
    have hfresh := hs.freshBatch (Option.not_isSome_iff_eq_none.mp hrow)
    obtain ⟨index, hindex, hother, -⟩ := hread
    refine ⟨index, hindex, hother, ?_⟩
    rintro ⟨chunk, hmem, hid, -⟩
    obtain ⟨batch, hof⟩ := hkeys.chunkOf chunk hmem
    exact hfresh batch hof.mem (hof.batchId.trans hid)

/-- What an overtaken call stores completes the chunks of the batch and not the batch. -/
theorem Overtaken.loses_batch {chunksRead batchRead mid : Database ι φ}
    (h : Overtaken env o chunksRead batchRead db) (hbatchId : env.batchId o.batchIdentity = batchId)
    (hs : Stored env o batchId drawn stored db mid) (hinv : Complete env admits db)
    (hknown : Known o batchId stored db) :
    (∀ index < o.chunkCount, HasChunk mid batchId index) ∧ ¬HasCompletion mid batchId := by
  obtain ⟨-, -, hothers, -⟩ := h
  rw [hbatchId] at hothers
  refine ⟨fun index hindex => ?_, fun hcompletion => ?_⟩
  · apply hs.hasChunk_iff.mpr
    obtain hown | hother := hothers index hindex
    · exact .inr ⟨rfl, hown⟩
    · exact .inl hother
  · exact hs.not_completed hinv hknown (hs.hasCompletion_iff.mp hcompletion)

theorem storeChunk_safe [DecidableEq ι] (hselects : env.SelectsOwn) (hadmits : admits o)
    (hbatchId : env.batchId o.batchIdentity = batchId) {batchRead : Database ι φ}
    (hknown : Known o batchId (selectBatch batchId batchRead) db) :
    SafeCall env admits o (storeChunk env o batchId drawn (selectBatch batchId batchRead))
      (fun r _ => Promise r) (batchRead :: seen) db := by
  apply Job.Safe.note_bind
  intro read hread hinv
  dsimp only
  split
  · exact trivial
  · split
    · exact trivial
    next missing hassembly =>
      apply Job.Safe.commit_bind
      intro db' hgrows hinv' hallowed
      refine ⟨fun db'' hbatch => ?_, fun failure hbatch => trivial⟩
      have hs := baseStatements_ok hbatch
      have hknown' := (hknown.grows hread).grows hgrows
      have hfound : ∃ index < o.chunkCount, index ≠ o.chunkIndex ∧
        ¬HasChunk read batchId index := by
        obtain ⟨index, hindex, habsent⟩ := assembleValidatedChunks_incomplete hassembly
          (List.mem_map_of_mem (List.mem_append_right _ List.mem_cons_self))
        refine ⟨index, hindex, ?_, ?_⟩
        · rintro rfl
          exact habsent _ (List.mem_map_of_mem (List.mem_append_right _ List.mem_cons_self)) rfl
        · rintro ⟨row, hrow, hid, rfl⟩
          obtain ⟨batch, hof⟩ := hinv.chunkOf row hrow
          refine habsent row.stored (List.mem_map_of_mem (List.mem_append_left _ ?_))
            hof.documentIndex
          exact (SortBy.mem_sortBy _).mpr (List.mem_filter.mpr ⟨hrow, decide_eq_true hid⟩)
      have hmissing := hs.missing hbatchId hinv'.toKeyed hfound hallowed
      exact ⟨hs.incomplete hinv' hknown' hadmits hbatchId hmissing, hs.grows,
        confirmReceipt_safe trivial⟩
    next setups digests hassembly =>
      obtain ⟨hcover, hnodup, hsetups⟩ := assembleValidatedChunks_complete hassembly
      refine Job.Safe.ofReads_bind (V := database ι φ) (R := Grows) Grows.refl
        (fun _ _ _ => Grows.trans) ?_
      intro evaluated db₂ hyields hgrows₂
      cases evaluated with
      | error code => exact trivial
      | ok prepared =>
        apply Job.Safe.commit_bind
        intro db' hgrows hinv' _
        refine ⟨fun db'' hbatch => ?_, fun failure hbatch => trivial⟩
        rw [Store.batch_append] at hbatch
        obtain ⟨mid, hbase, hcompletion⟩ := bind_ok_iff.mp hbatch
        have hs := baseStatements_ok hbase
        have hf := completionStatements_ok hcompletion
        have hgrows' := hgrows₂.trans hgrows
        have hknown' := (hknown.grows hread).grows hgrows'
        have hall : ∀ index < o.chunkCount, index = o.chunkIndex ∨ HasChunk read batchId index := by
          intro index hindex
          have hcurrent : (chunkRow env o batchId drawn).stored ∈
              (listChunks batchId read ++ [chunkRow env o batchId drawn]).map ChunkRow.stored :=
            List.mem_map_of_mem (List.mem_append_right _ List.mem_cons_self)
          obtain ⟨chunk, hchunk, hsame⟩ := hcover _ hcurrent index hindex
          obtain ⟨row, hrow, rfl⟩ := List.mem_map.mp hchunk
          rcases List.mem_append.mp hrow with hold | hnew
          · obtain ⟨hmem, hid⟩ := List.mem_filter.mp ((SortBy.mem_sortBy _).mp hold)
            obtain ⟨batch, hof⟩ := hinv.chunkOf row hmem
            exact .inr ⟨row, hmem, of_decide_eq_true hid, hof.documentIndex.symm.trans hsame⟩
          · rw [List.mem_singleton.mp hnew] at hsame
            exact .inl hsame.symm
        have hcomplete := hs.complete hf hinv' hknown' hadmits hbatchId
          (fun index hindex => (hall index hindex).imp_right fun h => h.grows hgrows')
          (evaluateSetups_selects hselects hyields) hnodup (by
            intro chunk hmem hid setup hsetup
            have hmem := hs.mem_read hinv'.toKeyed hknown' hgrows' hall hmem hid
            exact hsetups _ (List.mem_map_of_mem hmem) setup hsetup)
        refine ⟨hcomplete, hs.grows.trans hf.grows, ?_⟩
        apply Job.Safe.query_bind
        intro db₃ hgrows₃ _
        split
        · apply confirmReceipt_safe
          exact (hf.hasCompletion_iff.mpr (.inr rfl)).grows hgrows₃
        · exact trivial

/-- A replayed chunk belongs to a batch with its count. -/
theorem replayResult_safe (hbatch : ∃ batch ∈ db.batches,
      batch.batchId = batchId ∧ batch.chunkCount = o.chunkCount) :
    SafeCall env admits o (replayResult o batchId) (fun r _ => Promise r) seen db := by
  obtain ⟨batch, hmem, hid, hcount⟩ := hbatch
  apply Job.Safe.query_bind
  intro db₁ hgrows₁ hinv₁
  apply Job.Safe.query_bind
  intro db₂ hgrows₂ _
  show Promise (.ok (.accepted false (if _ then _ else _) batchId _)) db₂
  split
  next hcomplete =>
    show HasCompletion db₂ batchId
    rcases hcomplete with hsome | hmissing
    · obtain ⟨completion, hfind⟩ := Option.isSome_iff_exists.mp hsome
      have hfound := List.find?_some hfind
      exact ⟨completion, List.mem_of_find?_eq_some hfind, of_decide_eq_true hfound⟩
    · rw [← hid]
      apply HasCompletion.grows _ hgrows₂
      apply hinv₁.completed batch (hgrows₁.batches.subset hmem)
      intro index hindex
      by_contra habsent
      have hin : index ∈ missingIndexes o.chunkCount
          ((listChunks batchId db₁).map (·.chunkIndex)) := by
        apply List.mem_filter.mpr
        refine ⟨List.mem_range.mpr (by omega), decide_eq_true fun hpresent => habsent ?_⟩
        obtain ⟨chunk, hchunk, hsame⟩ := List.mem_map.mp hpresent
        obtain ⟨hchunk, hchunkId⟩ := List.mem_filter.mp ((SortBy.mem_sortBy _).mp hchunk)
        exact ⟨chunk, hchunk, (of_decide_eq_true hchunkId).trans hid.symm, hsame⟩
      rw [hmissing] at hin
      exact absurd hin List.not_mem_nil
  next => exact trivial

theorem checkContinuity_safe :
    SafeCall env admits o (checkContinuity o batchId) (fun result seen' db => match result with
      | .ok (.inr stored) => ∃ batchRead, seen' = batchRead :: seen ∧
          stored = selectBatch batchId batchRead ∧ Known o batchId stored db
      | _ => True) seen db := by
  apply Job.Safe.query_bind
  intro db₁ _ _
  split
  · exact trivial
  apply Job.Safe.query_bind
  intro db₂ _ _
  split
  · exact trivial
  apply Job.Safe.note_bind
  intro db₃ _ _
  split
  · exact trivial
  next hcount =>
    split
    · exact trivial
    apply Job.Safe.query_bind
    intro db₄ hgrows _
    split
    · exact trivial
    · refine ⟨db₃, rfl, rfl, ?_⟩
      apply Known.grows _ hgrows
      intro row hrow
      rw [hrow] at hcount
      have hfound := List.find?_some hrow
      refine ⟨List.mem_of_find?_eq_some hrow, of_decide_eq_true hfound, ?_⟩
      by_contra hne
      exact hcount (decide_eq_true hne)

section

variable [DecidableEq ι] (hselects : env.SelectsOwn)
  (hdigests : ∀ o o', admits o → admits o' → env.payloadSha256 o = env.payloadSha256 o' → o = o')
  (hadmits : admits o)
include hselects hdigests hadmits

theorem appendEntryV2ObservationAttempt_safe :
    SafeCall env admits o (appendEntryV2ObservationAttempt env o drawn) (fun r _ => Promise r)
      seen db := by
  apply Job.Safe.query_bind
  intro db₁ _ hinv
  split
  next receipt hfind =>
    split
    · exact trivial
    next hsame =>
      obtain ⟨o', hadmits', hsha, chunk, hchunk, hid, hcount⟩ :=
        hinv.receipts receipt (List.mem_of_find?_eq_some hfind)
      obtain rfl := hdigests o o' hadmits hadmits' ((not_not.mp hsame).symm.trans hsha)
      obtain ⟨batch, hof⟩ := hinv.chunkOf chunk hchunk
      exact replayResult_safe ⟨batch, hof.mem, hof.batchId.trans hid, hof.count.trans hcount⟩
  next =>
    apply Job.Safe.bind
    apply checkContinuity_safe.mono
    intro result seen' db₂ hresult
    match result with
    | .error _ => exact trivial
    | .ok (.inl _) => exact trivial
    | .ok (.inr stored) =>
      obtain ⟨batchRead, rfl, rfl, hknown⟩ := hresult
      exact storeChunk_safe hselects hadmits rfl hknown

theorem appendEntryV2Observation_safe {first second : Drawn} :
    SafeCall env admits o (appendEntryV2Observation env o first second) (fun r _ => Promise r)
      seen db := by
  apply Job.Safe.catch_
  apply (appendEntryV2ObservationAttempt_safe hselects hdigests hadmits).mono
  intro result seen' db₁ hresult
  match result with
  | .ok _ => exact hresult
  | .error (.refused failure) =>
    dsimp only
    split
    · exact appendEntryV2ObservationAttempt_safe hselects hdigests hadmits
    · exact trivial
  | .error (.conflict _) => exact trivial
  | .error .idempotencyConflict => exact trivial
  | .error .unavailable => exact trivial

end

end Safe

/-! ## Deliveries -/

/-- One delivery of a chunk, with what its two attempts draw. -/
structure Request (ι : Type) where
  observation : Observation ι
  first : Drawn
  second : Drawn

def serve [DecidableEq ι] (env : Env ι φ) (request : Request ι) : Call ι φ AppendResult :=
  appendEntryV2Observation env request.observation request.first request.second

/-- Concurrent deliveries of observations to a store without batches. -/
def deliveries [DecidableEq ι] (env : Env ι φ) (admits : Observation ι → Prop)
    (allowed : Request ι → List (Database ι φ) → Database ι φ → Prop) :
    System (World (database ι φ) Error AppendResult (Request ι)) (Label (Request ι)) :=
  system (fun db => ∃ facts, db = Database.empty facts) (serve env)
    (fun request => admits request.observation) allowed

/-- In every run in which no call is overtaken between its read of the chunks and its batch, a batch
whose chunks are all stored has one completion and one selection for each setup, and a chunk is
answered as complete only when the completion is there. -/
theorem stored_batches_are_complete [DecidableEq ι] {env : Env ι φ} {admits : Observation ι → Prop}
    (hselects : env.SelectsOwn)
    (hdigests : ∀ o o', admits o → admits o' → env.payloadSha256 o = env.payloadSha256 o' → o = o')
    {w : World (database ι φ) Error AppendResult (Request ι)}
    (h : (deliveries env admits fun request => InTime env request.observation).Reachable w) :
    (∀ batch ∈ w.state.batches,
      (∀ index < batch.chunkCount, HasChunk w.state batch.batchId index) →
        (w.state.completions.map (·.batchId)).count batch.batchId = 1 ∧
        ∀ chunk ∈ w.state.chunks, chunk.batchId = batch.batchId →
          ∀ setup ∈ chunk.document.entryBatches,
            selectionCount w.state batch.batchId setup.setupId = 1) ∧
    (∀ call ∈ w.calls, ∀ inserted batchId missing,
      call.2 = .done (.accepted inserted .complete batchId missing) →
        HasCompletion w.state batchId) := by
  obtain ⟨hinv, -, hcalls⟩ := World.reachable_safe (I := Complete env admits) (R := Grows)
    (Q := fun _ => Promise) (by rintro _ ⟨facts, rfl⟩; exact complete_empty env admits facts)
    Grows.refl (fun _ _ _ => Grows.trans) (fun _ _ _ _ => Promise.grows)
    (fun request hadmits db _ => appendEntryV2Observation_safe hselects hdigests hadmits) h
  refine ⟨?_, ?_⟩
  · intro batch hbatch hchunks
    have hcompletion := hinv.completed batch hbatch hchunks
    refine ⟨?_, ?_⟩
    · obtain ⟨completion, hmem, hid⟩ := hcompletion
      exact List.count_eq_one_of_mem hinv.completionKeys (List.mem_map.mpr ⟨completion, hmem, hid⟩)
    · intro chunk hchunk hid setup hsetup
      rw [← hid] at hcompletion ⊢
      exact hinv.selected chunk hchunk hcompletion setup hsetup
  · intro call hcall inserted batchId missing hdone
    obtain ⟨i, hget⟩ := List.getElem?_of_mem hcall
    have hsafe := (hcalls i call.1 call.2 hget).2
    rw [hdone] at hsafe
    exact hsafe

/-! ## Three chunks -/

namespace ThreeChunks

def batchSha : String := "e5efae6a7e91265369893b9baca3147e8bea1ff8b3f1b26adb742411db8cb65d"

def payloadShas : List String :=
  ["b18efa847f7a3fa48fe0aafd4a6250aa5129740e05126859377af20cedafdeee",
    "2725aea2d2dea736fbe38e41ecb518f6098cb68ac77362c5e34faafb356567c5",
    "b6f3c15844fe12f966ad90db59da8332a9a6d9dfd198ac83949be2045ec6dc1e"]

/-- Digests of this batch and of its chunks; every setup evaluates. -/
def env : Env Unit Unit where
  Rest := Unit
  batchId _ := batchSha
  payloadSha256 o := payloadShas.getD o.chunkIndex ""
  assembledPayloadSha256 _ := batchSha
  completionId _ _ := batchSha
  prepareEvaluation entry _ _ _ revision := .ok
    { selectionId := entry.setupId
      setupId := entry.setupId
      policyVersion := "2.0.0"
      revision
      rest := () }
  factStatements _ _ _ _ _ _ _ := .ok ([], [])
  verifyRepeatedIdentities _ _ := true

/-- The chunks of one batch, each with a setup of its own. -/
def chunk (count index : Nat) : Observation Unit where
  batchIdentity :=
    { producerInstanceId := "rd-canary-1", sequence := 1, kind := .snapshot
      barCloseEpoch := 1783900800 }
  batchMetadata :=
    { strategyId := "rd_liquidity_sd_5m_v1", strategyVersion := "2.0.0-contract2"
      ruleContractVersion := "2.0.0", executionMode := "OBSERVATION_ONLY", symbol := "EURUSD"
      tickerId := "OANDA:EURUSD", feed := "OANDA", timeframe := "5", tickSize := "0.00001"
      barOpenEpoch := 1783900500, detectorCodeHash := batchSha, settingsHash := batchSha }
  chunkIndex := index
  chunkCount := count
  entryBatches := [⟨["setup-a", "setup-b", "setup-c"].getD index "", ()⟩]
  metadata :=
    { idempotencyKey := ["key-0", "key-1", "key-2"].getD index "", schemaVersion := "2.0"
      strategyId := "rd_liquidity_sd_5m_v1", strategyVersion := "2.0.0-contract2"
      producerInstanceId := "rd-canary-1", sequence := 1, symbol := "EURUSD"
      tickerId := "OANDA:EURUSD", feed := "OANDA", timeframe := "5", kind := .snapshot }

def admits (count : Nat) (o : Observation Unit) : Prop := ∃ index < count, o = chunk count index

/-- A delivery of a chunk; `n` tells the drawn identifiers apart. -/
def delivery (count index : Nat) (n : Char) : Request Unit :=
  { observation := chunk count index
    first := { receiptId := String.ofList ['r', n], receivedAt := "2026-07-01T00:00:00.000Z" }
    second := { receiptId := String.ofList ['s', n], receivedAt := "2026-07-01T00:00:00.000Z" } }

def empty : World (database Unit Unit) Error AppendResult (Request Unit) :=
  { state := .empty (), calls := [] }

def steps (i n : Nat) : List (Label (Request Unit)) := List.replicate n (.step i)

/-- The first chunk is stored; the others are read for before either is stored; the last one is
delivered once more. -/
def crossing : List (Label (Request Unit)) := List.flatten
  [[.arrive (delivery 3 0 '0')], steps 0 8,
    [.arrive (delivery 3 1 '1'), .arrive (delivery 3 2 '2')],
    steps 1 6, steps 2 6, steps 1 2, steps 2 2,
    [.arrive (delivery 3 2 '3')], steps 3 3]

def crossed : World (database Unit Unit) Error AppendResult (Request Unit) :=
  crossing.foldl (World.next (serve env)) empty

theorem crossed_checks :
    empty.permits (serve env) (fun _ _ _ => true) crossing = true ∧
    crossed.state.batches.map (fun batch => (batch.batchId, batch.chunkCount)) = [(batchSha, 3)] ∧
    crossed.state.chunks.map (fun chunk => (chunk.batchId, chunk.chunkIndex)) =
      [(batchSha, 0), (batchSha, 1), (batchSha, 2)] ∧
    crossed.state.completions = [] ∧
    crossed.calls.map (fun call => call.2.answer) =
      [some (.accepted true .incomplete batchSha [1, 2]),
        some (.accepted true .incomplete batchSha [2]),
        some (.accepted true .incomplete batchSha [1]),
        some (.accepted false .complete batchSha [])] := by
  decide +kernel

/-- The first two chunks are read for before either is stored, so that the second is refused and
tried again; the last one comes after them and is delivered once more. -/
def retried : List (Label (Request Unit)) := List.flatten
  [[.arrive (delivery 3 0 '0'), .arrive (delivery 3 1 '1')], steps 0 6, steps 1 6, steps 0 2,
    steps 1 9, [.arrive (delivery 3 2 '2')], steps 2 15, [.arrive (delivery 3 2 '3')], steps 3 3]

def completed : World (database Unit Unit) Error AppendResult (Request Unit) :=
  retried.foldl (World.next (serve env)) empty

theorem completed_checks :
    empty.permits (serve env) (fun request seen db => InTime env request.observation seen db)
      retried = true ∧
    completed.state.batches.map (fun batch => (batch.batchId, batch.chunkCount)) =
      [(batchSha, 3)] ∧
    completed.state.chunks.map (fun chunk => (chunk.batchId, chunk.chunkIndex)) =
      [(batchSha, 0), (batchSha, 1), (batchSha, 2)] ∧
    completed.calls.map (fun call => call.2.answer) =
      [some (.accepted true .incomplete batchSha [1, 2]),
        some (.accepted true .incomplete batchSha [2]),
        some (.accepted true .complete batchSha []),
        some (.accepted false .complete batchSha [])] := by
  decide +kernel

theorem empty_reachable {admits : Observation Unit → Prop}
    {allowed : Request Unit → List (Database Unit Unit) → Database Unit Unit → Prop} :
    (deliveries env admits allowed).Reachable empty :=
  System.Reachable.init ⟨⟨(), rfl⟩, rfl, rfl⟩

theorem env_selectsOwn : env.SelectsOwn := by
  intro entry batchId metadata facts revision evaluation h
  obtain rfl := Except.ok.inj h
  rfl

theorem admits_digests : ∀ o o', admits 3 o → admits 3 o' →
    env.payloadSha256 o = env.payloadSha256 o' → o = o' := by
  rintro o o' ⟨i, hi, rfl⟩ ⟨j, hj, rfl⟩ hsame
  have hij : ∀ i < 3, ∀ j < 3, payloadShas.getD i "" = payloadShas.getD j "" → i = j := by
    decide +kernel
  rw [hij i hi j hj hsame]

theorem hasChunk_of_keys {db : Database Unit Unit} {keys : List (String × Nat)}
    (h : db.chunks.map (fun chunk => (chunk.batchId, chunk.chunkIndex)) = keys) {batchId : String}
    {index : Nat} (hmem : (batchId, index) ∈ keys) : HasChunk db batchId index := by
  rw [← h] at hmem
  obtain ⟨chunk, hchunk, heq⟩ := List.mem_map.mp hmem
  exact ⟨chunk, hchunk, (Prod.mk.inj heq).1, (Prod.mk.inj heq).2⟩

end ThreeChunks

open ThreeChunks in
/-- Two chunks that cross leave a batch of three without a completion, and the replay of the last
one is answered as complete. -/
theorem crossing_chunks_lose_batch :
    ∃ w, (deliveries env (admits 3) fun _ _ _ => True).Reachable w ∧
      (∃ batch ∈ w.state.batches, batch.batchId = batchSha ∧ batch.chunkCount = 3 ∧
        ∀ index < batch.chunkCount, HasChunk w.state batch.batchId index) ∧
      w.state.completions = [] ∧
      ∃ call ∈ w.calls, call.2 = .done (.accepted false .complete batchSha []) := by
  obtain ⟨hpermits, hbatches, hchunks, hcompletions, hcalls⟩ := crossed_checks
  refine ⟨crossed, ?_, ?_, hcompletions, ?_⟩
  · refine World.schedule_reachable empty_reachable (fun _ _ _ _ => trivial) ?_ hpermits
    intro request hmem
    simp only [crossing, steps, List.flatten_cons, List.flatten_nil, List.mem_append, List.mem_cons,
      List.mem_replicate, Label.arrive.injEq, reduceCtorEq, and_false, or_false, false_or,
      List.not_mem_nil] at hmem
    rcases hmem with rfl | (rfl | rfl) | rfl
    · exact ⟨0, by decide, rfl⟩
    · exact ⟨1, by decide, rfl⟩
    · exact ⟨2, by decide, rfl⟩
    · exact ⟨2, by decide, rfl⟩
  · have hmem : (batchSha, 3) ∈ crossed.state.batches.map
        fun batch => (batch.batchId, batch.chunkCount) := by
      rw [hbatches]
      exact List.mem_cons_self
    obtain ⟨batch, hbatch, heq⟩ := List.mem_map.mp hmem
    obtain ⟨hid, hcount⟩ := Prod.mk.inj heq
    refine ⟨batch, hbatch, hid, hcount, ?_⟩
    intro index hindex
    rw [hid]
    apply hasChunk_of_keys hchunks
    rw [hcount] at hindex
    interval_cases index <;> simp
  · have hmem : some (.accepted false .complete batchSha []) ∈
        crossed.calls.map fun call => call.2.answer := by
      rw [hcalls]
      exact List.mem_of_getElem? (i := 3) rfl
    obtain ⟨call, hcall, hanswer⟩ := List.mem_map.mp hmem
    exact ⟨call, hcall, Job.answer_eq_some.mp hanswer⟩

open ThreeChunks in
/-- A batch of three whose first two chunks cross is completed, and the replay of its last chunk is
answered as complete with the completion there. -/
theorem retried_chunks_complete_batch :
    (completed.state.completions.map (·.batchId)).count batchSha = 1 ∧
      HasCompletion completed.state batchSha := by
  obtain ⟨hpermits, hbatches, hchunks, hcalls⟩ := completed_checks
  have hreach : (deliveries env (admits 3) fun request =>
      InTime env request.observation).Reachable completed := by
    refine World.schedule_reachable empty_reachable ?_ ?_ hpermits
    · intro request seen db hcheck
      exact of_decide_eq_true hcheck
    · intro request hmem
      simp only [retried, steps, List.flatten_cons, List.flatten_nil, List.mem_append,
        List.mem_cons,
        List.mem_replicate, Label.arrive.injEq, reduceCtorEq, and_false, or_false, false_or,
        List.not_mem_nil] at hmem
      rcases hmem with (rfl | rfl) | rfl | rfl
      · exact ⟨0, by decide, rfl⟩
      · exact ⟨1, by decide, rfl⟩
      · exact ⟨2, by decide, rfl⟩
      · exact ⟨2, by decide, rfl⟩
  obtain ⟨hwhole, hanswers⟩ := stored_batches_are_complete env_selectsOwn admits_digests hreach
  constructor
  · have hmem : (batchSha, 3) ∈ completed.state.batches.map
        fun batch => (batch.batchId, batch.chunkCount) := by
      rw [hbatches]
      exact List.mem_cons_self
    obtain ⟨batch, hbatch, heq⟩ := List.mem_map.mp hmem
    obtain ⟨hid, hcount⟩ := Prod.mk.inj heq
    rw [← hid]
    refine (hwhole batch hbatch ?_).1
    intro index hindex
    rw [hid]
    apply hasChunk_of_keys hchunks
    rw [hcount] at hindex
    interval_cases index <;> simp
  · have hmem : some (.accepted false .complete batchSha []) ∈
        completed.calls.map fun call => call.2.answer := by
      rw [hcalls]
      exact List.mem_of_getElem? (i := 3) rfl
    obtain ⟨call, hcall, hanswer⟩ := List.mem_map.mp hmem
    exact hanswers call hcall false batchSha [] (Job.answer_eq_some.mp hanswer)

end TradeOps.EntryV2
