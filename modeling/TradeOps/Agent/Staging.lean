import TradeOps.Agent.Follows

/-!
# A generation on a disk

The records of a transition: its objects, its state and its commit. `Staged` is what a transition
has checked before it writes. A disk with the first few of the records is a sound disk with its old
root; with all of them it has the new root.
-/

namespace TradeOps.Agent

open Prog

namespace TelemetryState

variable {A : TelemetryState} {m : Fields} {d : Disk} {t : Transition} {candidate : LocalState}
  {objects records : List StoredRecord} {f : StoredRecord}

/-! ## The records -/

/-- A record is the frame of a payload. -/
structure Framed (A : TelemetryState) (kind : Text) (f : StoredRecord) (payload : Bytes)
    (digest : Text) : Prop where
  encode : recordEncode A.sha kind f.locator.generation payload = some f.bytes
  hash : localHash A.sha f.bytes = some digest

theorem framed_of_makeFrame {kind digest : Text} {l : Locator} {payload frame : Bytes}
    (h : A.makeFrame kind l.generation payload = some (frame, digest)) :
    Framed A kind ⟨l, frame⟩ payload digest := by
  simp only [makeFrame, Option.bind_eq_bind, Option.bind_eq_some_iff, Option.some.injEq,
    Prod.mk.injEq] at h
  obtain ⟨frame', hencode, digest', hhash, rfl, rfl⟩ := h
  exact ⟨hencode, hhash⟩

theorem Framed.decode {kind digest : Text} {payload : Bytes} (h : Framed A kind f payload digest) :
    recordDecode A.sha f.bytes = some (kind, f.locator.generation, payload) :=
  recordDecode_of_recordEncode h.encode

theorem Framed.placed {kind digest : Text} {payload : Bytes} (h : Framed A kind f payload digest)
    (haddress : Disk.addressable f.locator = true)
    (hpending : kind = pendingKind → f.locator = objectLocator f.locator.generation 1) :
    Disk.Placed A.sha f := by
  refine ⟨haddress, ?_, kind, payload, h.decode, hpending⟩
  rw [h.hash, Disk.localHash_eq h.hash]

/-- A reference with the digest of the frame finds the payload. -/
theorem Framed.frameMatches {kind digest : Text} {payload : Bytes} {r : LocalRef}
    (h : Framed A kind f payload digest) (hvalid : localRefValid r = true)
    (hkind : localEnvelopeKind r.kind = kind) (hgeneration : r.generation = f.locator.generation)
    (hsha : r.sha = digest) : localFrameMatches A.sha r f.bytes = some payload := by
  rw [localFrameMatches, if_pos ⟨hvalid, by rw [h.hash, hsha]⟩, h.decode]
  simp only
  rw [if_pos ⟨hkind.symm, hgeneration.symm⟩]

theorem creatable_of_placed (h : Disk.Placed A.sha f) : Creatable f := by
  have hsize := Disk.localHash_some h.hash
  exact ⟨h.addressable, hsize.1, hsize.2.1⟩

/-- The state and the commit of a generation. -/
structure Sealed (A : TelemetryState) (t : Transition) (candidate : LocalState) (parentSha : Text)
    (parentGeneration : Nat) (registrationSha : Text) (stateRecord commitRecord : StoredRecord)
    (commit : LocalCommit) (commitSha : Text) : Prop where
  valid : localStateValid candidate = true
  statePlace : stateRecord.locator = stateLocator candidate.generation
  commitPlace : commitRecord.locator = commitLocator candidate.generation
  statePlaced : Disk.Placed A.sha stateRecord
  commitPlaced : Disk.Placed A.sha commitRecord
  stateFrame : ∃ payload, localHash A.sha stateRecord.bytes = some commit.stateSha ∧
    recordDecode A.sha stateRecord.bytes = some (checkpointKind, candidate.generation, payload) ∧
    localStateDecode payload = some candidate
  commitFrame : ∃ payload, localHash A.sha commitRecord.bytes = some commitSha ∧
    recordDecode A.sha commitRecord.bytes = some (checkpointKind, candidate.generation, payload) ∧
    localCommitDecode payload = some commit
  generation : commit.generation = candidate.generation
  parentGeneration : commit.parentGeneration = parentGeneration
  parentSha : commit.parentSha = parentSha
  registrationSha : commit.registrationSha = registrationSha
  transition : commit.transition = t

theorem checkpointKind_ne_pendingKind : checkpointKind ≠ pendingKind := by decide +kernel

theorem counter_generation {state : LocalState} (h : localStateValid state = true) :
    counter state.generation 1 = true := (readable_of_valid h).generation

theorem publication_some {parentSha registrationSha : Text} {parentGeneration : Nat}
    (h : A.publication t candidate parentSha parentGeneration registrationSha objects =
      some records) :
    ∃ stateRecord commitRecord commit commitSha,
      Sealed A t candidate parentSha parentGeneration registrationSha stateRecord commitRecord
        commit commitSha ∧ records = objects ++ [stateRecord, commitRecord] := by
  simp only [publication, Option.bind_eq_bind, Option.bind_eq_some_iff, Option.some.injEq] at h
  obtain ⟨statePayload, hstate, ⟨stateFrame, stateSha⟩, hstateFrame, commitPayload, hcommit,
    ⟨commitFrame, commitSha⟩, hcommitFrame, rfl⟩ := h
  have hvalid := valid_of_encode hstate
  have hcounter := counter_generation hvalid
  have hstateFramed : Framed A checkpointKind ⟨stateLocator candidate.generation, stateFrame⟩
    statePayload stateSha := framed_of_makeFrame hstateFrame
  have hcommitFramed : Framed A checkpointKind ⟨commitLocator candidate.generation, commitFrame⟩
    commitPayload commitSha := framed_of_makeFrame hcommitFrame
  have hnot : ∀ {P : Prop}, checkpointKind = pendingKind → P :=
    fun heq => absurd heq checkpointKind_ne_pendingKind
  refine ⟨⟨stateLocator candidate.generation, stateFrame⟩,
    ⟨commitLocator candidate.generation, commitFrame⟩,
    ⟨candidate.generation, parentGeneration, parentSha, registrationSha, stateSha, t⟩, commitSha,
    ?_, rfl⟩
  exact {
    valid := hvalid
    statePlace := rfl
    commitPlace := rfl
    statePlaced := hstateFramed.placed
      (by simp [Disk.addressable, storageLocatorValid, stateLocator, hcounter]) hnot
    commitPlaced := hcommitFramed.placed
      (by simp [Disk.addressable, storageLocatorValid, commitLocator, hcounter]) hnot
    stateFrame := ⟨statePayload, hstateFramed.hash, hstateFramed.decode,
      localStateDecode_of_encode hstate⟩
    commitFrame := ⟨commitPayload, hcommitFramed.hash, hcommitFramed.decode,
      localCommitDecode_of_encode hcommit⟩
    generation := rfl
    parentGeneration := rfl
    parentSha := rfl
    registrationSha := rfl
    transition := rfl }

/-- What a transition has checked about its objects. -/
structure Staged (A : TelemetryState) (d : Disk) (candidate : LocalState)
    (objects : List StoredRecord) : Prop where
  placed : ∀ f ∈ objects, Disk.Placed A.sha f
  kind : ∀ f ∈ objects, f.locator.kind = .object ∨ f.locator.kind = .registration
  generation : ∀ f ∈ objects, f.locator.generation = candidate.generation
  nodup : (objects.map StoredRecord.locator).Nodup
  refs : ∀ r ∈ rootRefs candidate, A.Verified (d.entries A.sha) d candidate r ∨
    ∃ f ∈ objects, f.locator = refLocator r ∧ ∃ payload,
      localFrameMatches A.sha r f.bytes = some payload ∧
      A.Typed (d.entries A.sha) d candidate r payload

section Records

variable {parentSha registrationSha commitSha : Text} {parentGeneration : Nat}
  {stateRecord commitRecord : StoredRecord} {commit : LocalCommit}
  (hstaged : Staged A d candidate objects)
  (hsealed : Sealed A t candidate parentSha parentGeneration registrationSha stateRecord
    commitRecord commit commitSha)
include hstaged hsealed

theorem records_placed : ∀ f ∈ objects ++ [stateRecord, commitRecord],
    Disk.Placed A.sha f ∧ f.locator.generation = candidate.generation := by
  intro f hf
  simp only [List.mem_append, List.mem_cons, List.not_mem_nil, or_false] at hf
  rcases hf with hf | rfl | rfl
  · exact ⟨hstaged.placed f hf, hstaged.generation f hf⟩
  · exact ⟨hsealed.statePlaced, by rw [hsealed.statePlace]; rfl⟩
  · exact ⟨hsealed.commitPlaced, by rw [hsealed.commitPlace]; rfl⟩

theorem records_nodup :
    ((objects ++ [stateRecord, commitRecord]).map StoredRecord.locator).Nodup := by
  rw [List.map_append, List.nodup_append]
  refine ⟨hstaged.nodup, ?_, ?_⟩
  · simp [hsealed.statePlace, hsealed.commitPlace, stateLocator, commitLocator]
  · intro l hl l' hl' heq
    obtain ⟨f, hf, rfl⟩ := List.mem_map.mp hl
    simp only [List.map_cons, List.map_nil, List.mem_cons, List.not_mem_nil, or_false] at hl'
    have hkind := hstaged.kind f hf
    rw [heq] at hkind
    rcases hl' with rfl | rfl
    · rw [hsealed.statePlace] at hkind
      simp [stateLocator] at hkind
    · rw [hsealed.commitPlace] at hkind
      simp [commitLocator] at hkind

end Records

end TelemetryState

/-! ## The disk with the first few of the records -/

namespace Disk

variable {d : Disk} {sha : Sha256} {fs : List StoredRecord} {generation : Nat} {t : Transition}

/-- Records of a generation above all others lie at free places. -/
theorem free_of_generation (hgeneration : ∀ f ∈ fs, d.highest < f.locator.generation)
    (hnodup : (fs.map StoredRecord.locator).Nodup) : d.Free fs := by
  refine ⟨fun f hf => ?_, hnodup⟩
  rw [find, Keyed.lookup_none]
  intro g hg heq
  have hle : g.locator.generation ≤ d.highest := le_highestOf hg
  have hlt := hgeneration f hf
  rw [heq] at hle
  omega

theorem sum_take_le (fs : List StoredRecord) (k : Nat) :
    ((fs.take k).map fun f => f.bytes.length).sum ≤ (fs.map fun f => f.bytes.length).sum := by
  conv => rhs; rw [← List.take_append_drop k fs, List.map_append, List.sum_append]
  exact Nat.le_add_right _ _

theorem limits_le (t : Transition) : byteLimit t ≤ normalBytes + reserveBytes ∧
    fileLimit t ≤ normalFiles + reserveFiles := by
  unfold byteLimit fileLimit
  split <;> decide

/-- A disk that has room for the records stays sound as they are written. -/
theorem Archived.createMany (h : d.Archived sha) (hplaced : ∀ f ∈ fs, Placed sha f)
    (hgeneration : ∀ f ∈ fs, d.highest < f.locator.generation)
    (hnodup : (fs.map StoredRecord.locator).Nodup)
    (hpreflight : storagePreflight (d.entries sha) t (fs.map fun f => f.bytes.length).sum
      fs.length = true) (k : Nat) : (d.createMany (fs.take k)).Archived sha := by
  have htake : ∀ f ∈ fs.take k, f ∈ fs := fun f hf => List.mem_of_mem_take hf
  have hnodupTake : ((fs.take k).map StoredRecord.locator).Nodup :=
    hnodup.sublist ((List.take_sublist k fs).map _)
  have hapart : ∀ {table : List StoredRecord}, (∀ f ∈ table, f.locator.generation ≤ d.highest) →
      Keyed.KeysNodup StoredRecord.locator table →
      Keyed.KeysNodup StoredRecord.locator (table ++ fs.take k) := by
    intro table hbelow hkeys
    rw [Keyed.KeysNodup, List.map_append, List.nodup_append]
    refine ⟨hkeys, hnodupTake, ?_⟩
    intro l hl l' hl' heq
    obtain ⟨f, hf, rfl⟩ := List.mem_map.mp hl
    obtain ⟨g, hg, rfl⟩ := List.mem_map.mp hl'
    have hle := hbelow f hf
    have hlt := hgeneration g (htake g hg)
    rw [heq] at hle
    omega
  have hbelow : ∀ f ∈ d.files, f.locator.generation ≤ d.highest := fun f hf => le_highestOf hf
  rw [storagePreflight, h.sound.budget] at hpreflight
  simp only [decide_eq_true_eq] at hpreflight
  have hlimits := limits_le t
  have hsum := sum_take_le fs k
  have hlength : (fs.take k).length ≤ fs.length := List.length_take_le' k fs
  refine ⟨⟨hapart hbelow h.sound.keys, ?_, ?_, ?_⟩, ?_, hapart h.highest h.keys, ?_, ?_⟩
  · intro f hf
    rcases List.mem_append.mp hf with hf | hf
    · exact h.sound.placed f hf
    · exact hplaced f (htake f hf)
  · simp only [Disk.createMany, List.length_append]
    omega
  · simp only [total, Disk.createMany, List.map_append, List.sum_append] at hpreflight ⊢
    omega
  · intro f hf
    rcases List.mem_append.mp hf with hf | hf
    · exact List.mem_append_left _ (h.kept f hf)
    · exact List.mem_append_right _ hf
  · intro f hf
    rcases List.mem_append.mp hf with hf | hf
    · exact h.placed f hf
    · exact hplaced f (htake f hf)
  · intro f hf
    have hhighest : (d.createMany (fs.take k)).highest = max d.highest (highestOf (fs.take k)) :=
      highestOf_append _ _
    rw [hhighest]
    rcases List.mem_append.mp hf with hf | hf
    · exact le_trans (h.highest f hf) (le_max_left _ _)
    · exact le_trans (le_highestOf hf) (le_max_right _ _)

/-- Old places stay as they are. -/
theorem find_createMany_old {l : Locator} (hgeneration : ∀ f ∈ fs, d.highest < f.locator.generation)
    (hl : l.generation ≤ d.highest) : (d.createMany fs).find l = d.find l := by
  refine find_createMany_of_none fun g hg heq => ?_
  have := hgeneration g hg
  rw [heq] at this
  omega

theorem archive_createMany (d : Disk) (fs : List StoredRecord) :
    (d.createMany fs).archive = d.archive.createMany fs := rfl

end Disk

namespace TelemetryState

variable {A : TelemetryState} {d : Disk} {t : Transition} {candidate : LocalState}
  {objects : List StoredRecord} {parentSha registrationSha commitSha : Text}
  {parentGeneration : Nat} {stateRecord commitRecord : StoredRecord} {commit : LocalCommit}

/-- The commit and the state of a new generation are found. -/
theorem Sealed.metadata
    (h : Sealed A t candidate parentSha parentGeneration registrationSha stateRecord commitRecord
      commit commitSha)
    (hidentity : candidate.identity = A.identity)
    (hregistration : candidate.registration.sha = registrationSha)
    (hparent : candidate.parentGeneration = parentGeneration)
    (hparentSha : candidate.parentCommit = parentSha)
    (hstate : d.find (stateLocator candidate.generation) = some stateRecord)
    (hcommit : d.find (commitLocator candidate.generation) = some commitRecord) :
    A.Metadata d candidate.generation commit candidate commitSha := by
  have hcounter := counter_generation h.valid
  obtain ⟨statePayload, hstateHash, hstateDecode, hstateRead⟩ := h.stateFrame
  obtain ⟨commitPayload, hcommitHash, hcommitDecode, hcommitRead⟩ := h.commitFrame
  exact {
    commitAt := ⟨hcounter, commitRecord, commitPayload, hcommit, hcommitHash, hcommitDecode,
      hcommitRead, h.generation⟩
    stateAt := ⟨hcounter, stateRecord, statePayload, hstate, hstateHash, hstateDecode, hstateRead,
      rfl⟩
    identity := hidentity
    registration := by rw [hregistration, h.registrationSha]
    parentGeneration := by rw [hparent, h.parentGeneration]
    parentSha := by rw [hparentSha, h.parentSha] }

/-- The disk with all records of a generation has it as a root. -/
theorem Staged.root (hstaged : Staged A d candidate objects)
    (hsealed : Sealed A t candidate parentSha parentGeneration registrationSha stateRecord
      commitRecord commit commitSha)
    (hsound : d.Sound A.sha) (hfree : d.Free (objects ++ [stateRecord, commitRecord]))
    (hsound' : (d.createMany (objects ++ [stateRecord, commitRecord])).Sound A.sha)
    (hdistinct : Disk.Distinct A.sha (d.createMany (objects ++ [stateRecord, commitRecord])).files)
    (hidentity : candidate.identity = A.identity)
    (hregistration : candidate.registration.sha = registrationSha)
    (hparent : candidate.parentGeneration = parentGeneration)
    (hparentSha : candidate.parentCommit = parentSha) :
    A.Root ((d.createMany (objects ++ [stateRecord, commitRecord])).entries A.sha)
      (d.createMany (objects ++ [stateRecord, commitRecord])) candidate.generation commit candidate
      commitSha := by
  have hdistinct₀ : Disk.Distinct A.sha d.files :=
    hdistinct.mono fun f hf => List.mem_append_left _ hf
  have hkeep : ∀ (l : Locator) (f : StoredRecord), d.find l = some f →
      (d.createMany (objects ++ [stateRecord, commitRecord])).find l = some f :=
    fun l f hf => Disk.find_createMany_of_some hf _
  refine ⟨hsealed.metadata hidentity hregistration hparent hparentSha ?_ ?_, ?_⟩
  · rw [← hsealed.statePlace]
    exact Disk.find_createMany_of_mem hfree (by simp)
  · rw [← hsealed.commitPlace]
    exact Disk.find_createMany_of_mem hfree (by simp)
  · intro r hr
    rcases hstaged.refs r hr with hold | ⟨f, hf, hlocator, payload, hmatch, htyped⟩
    · exact hold.transfer hsound hdistinct₀ hsound' hdistinct (hkeep _)
        (fun l f _ _ _ => hkeep l f)
    · refine ⟨payload, ?_, htyped.transfer hsound hdistinct₀ hsound' hdistinct
        (fun l f _ _ _ => hkeep l f)⟩
      have hfind := Disk.find_createMany_of_mem hfree (List.mem_append_left _ hf)
      rw [hlocator] at hfind
      rw [payloadAt, hfind]
      exact hmatch

end TelemetryState

end TradeOps.Agent
