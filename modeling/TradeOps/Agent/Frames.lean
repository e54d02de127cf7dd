import TradeOps.Agent.Publish

/-!
# What a root needs of a disk

A root can be loaded from any sound disk that has the records it names, among them the request that
its acknowledgement answers. So creating records elsewhere, or deleting records that it does not
name, leaves it as it is. The digest of an acknowledged request is the only one that is looked for
in the whole inventory; there the digests of different records must differ.
-/

namespace TradeOps.Agent

open Prog

namespace Disk

/-- Different records have different digests. -/
def Distinct (sha : Sha256) (fs : List StoredRecord) : Prop :=
  ∀ f ∈ fs, ∀ g ∈ fs, sha.hex f.bytes = sha.hex g.bytes → f.bytes = g.bytes

theorem Distinct.mono {sha : Sha256} {fs gs : List StoredRecord} (h : Distinct sha gs)
    (hsub : ∀ f ∈ fs, f ∈ gs) : Distinct sha fs :=
  fun f hf g hg => h f (hsub f hf) g (hsub g hg)

/-- The records at hand are some of those that were written, no place was written twice, and the
highest generation that was ever written is still there. -/
structure Archived (sha : Sha256) (d : Disk) : Prop where
  sound : d.Sound sha
  kept : ∀ f ∈ d.files, f ∈ d.written
  keys : Keyed.KeysNodup StoredRecord.locator d.written
  placed : ∀ f ∈ d.written, Placed sha f
  highest : ∀ f ∈ d.written, f.locator.generation ≤ d.highest

/-- Nothing deleted. -/
def archive (d : Disk) : Disk := { d with files := d.written }

variable {d d' : Disk} {sha : Sha256} {f : StoredRecord} {l : Locator}

theorem Archived.find_archive (h : d.Archived sha) (hfind : d.find l = some f) :
    d.archive.find l = some f := by
  obtain ⟨hmem, hlocator⟩ := mem_of_find hfind
  exact (h.keys.lookup_iff).mpr ⟨h.kept f hmem, hlocator⟩

theorem Archived.distinct (h : d.Archived sha) (hdistinct : Distinct sha d.written) :
    Distinct sha d.files :=
  hdistinct.mono h.kept

/-- A request that waits has one place. -/
theorem eq_of_pending {g : StoredRecord} {generation : Nat} {payload : Bytes} (hf : Placed sha f)
    (hg : Placed sha g) (hbytes : f.bytes = g.bytes)
    (hdecode : recordDecode sha f.bytes = some (pendingKind, generation, payload)) : f = g := by
  obtain ⟨kind, p, hframe, hplace⟩ := hf.frame
  obtain ⟨kind', p', hframe', hplace'⟩ := hg.frame
  rw [← hbytes] at hframe'
  rw [hdecode] at hframe hframe'
  simp only [Option.some.injEq, Prod.mk.injEq] at hframe hframe'
  have hlocator : f.locator = g.locator := by
    rw [hplace hframe.1.symm, hplace' hframe'.1.symm, ← hframe.2.1, ← hframe'.2.1]
  cases f
  cases g
  simp only at hlocator hbytes
  rw [hlocator, hbytes]

end Disk

namespace TelemetryState

variable {A : TelemetryState} {d d' : Disk} {state state' : LocalState} {l : Locator}
  {payload : Bytes}

/-- The request that an acknowledgement answers lies at a place. -/
structure Answered (A : TelemetryState) (d : Disk) (state : LocalState) (l : Locator)
    (payload : Bytes) : Prop where
  ack : state.ack.kind = .ack
  digest : digest state.ackPendingSha = true
  record : ∃ f, d.find l = some f ∧ localHash A.sha f.bytes = some state.ackPendingSha ∧
    recordDecode A.sha f.bytes = some (pendingKind, l.generation, payload)
  older : l.generation < state.ack.generation

/-- Where digests differ, the inventory has one record with the digest of the request. -/
theorem witnessAt_iff (hsound : d.Sound A.sha) (hdistinct : Disk.Distinct A.sha d.files) :
    A.WitnessAt (d.entries A.sha) d state l payload ↔ Answered A d state l payload := by
  constructor
  · intro h
    exact ⟨h.ack, h.digest, h.record, h.older⟩
  · intro h
    obtain ⟨f, hfind, hhash, hdecode⟩ := h.record
    obtain ⟨hmem, rfl⟩ := Disk.mem_of_find hfind
    have hplaced := hsound.placed f hmem
    have hsha := Disk.localHash_eq hhash
    have haddress := hplaced.addressable
    simp only [Disk.addressable, decide_eq_true_eq] at haddress
    obtain ⟨kind, p, hframe, hpending⟩ := hplaced.frame
    rw [hdecode, Option.some.injEq, Prod.mk.injEq] at hframe
    have hplace := hpending hframe.1.symm
    refine ⟨h.ack, h.digest, ?_, ⟨Disk.entryFor A.sha f, ?_, rfl⟩, ?_, haddress.1,
      ⟨f, hfind, hhash, hdecode⟩, h.older⟩
    · have hcount := hsound.count
      rw [Disk.entries, List.length_map]
      have : normalFiles + reserveFiles < inventoryMax := by decide
      omega
    · have hnodup : (d.entries A.sha).Nodup := by
        have hkeys : ((d.entries A.sha).map StorageEntry.locator).Nodup := by
          rw [Disk.entries, List.map_map]
          exact hsound.keys
        exact hkeys.of_map
      have hentry : Disk.entryFor A.sha f ∈ d.entries A.sha := List.mem_map_of_mem hmem
      have hunique : ∀ e ∈ d.entries A.sha,
          decide (e.sha = state.ackPendingSha) = (e == Disk.entryFor A.sha f) := by
        intro e he
        obtain ⟨g, hg, rfl⟩ := List.mem_map.mp he
        rw [Bool.eq_iff_iff, decide_eq_true_eq, beq_iff_eq]
        constructor
        · intro hsame
          have hbytes := hdistinct f hmem g hg (hsha.symm.trans hsame.symm)
          rw [Disk.eq_of_pending hplaced (hsound.placed g hg) hbytes hdecode]
        · intro hsame
          rw [hsame, hsha]
          rfl
      rw [List.filter_congr hunique, List.filter_beq, hnodup.count, if_pos hentry]
      rfl
    · rw [hplace]
      rfl

/-- The request is found wherever it lies. -/
theorem Answered.transfer (h : Answered A d state l payload)
    (hfind : ∀ f, d.find l = some f → d'.find l = some f) (hack : state'.ack = state.ack)
    (hsha : state'.ackPendingSha = state.ackPendingSha) : Answered A d' state' l payload := by
  obtain ⟨f, hf, hhash, hdecode⟩ := h.record
  refine ⟨by rw [hack]; exact h.ack, by rw [hsha]; exact h.digest, ⟨f, hfind f hf, ?_, hdecode⟩, ?_⟩
  · rw [hsha]
    exact hhash
  · rw [hack]
    exact h.older

theorem payloadAt_transfer {r : LocalRef} (h : A.payloadAt d r = some payload)
    (hfind : ∀ f, d.find (refLocator r) = some f → d'.find (refLocator r) = some f) :
    A.payloadAt d' r = some payload := by
  obtain ⟨-, f, hf, hmatch⟩ := payloadAt_some h
  rw [payloadAt, hfind f hf]
  exact hmatch

theorem CommitAt.transfer {generation : Nat} {commit : LocalCommit} {commitSha : Text}
    (h : A.CommitAt d generation commit commitSha)
    (hfind : ∀ f, d.find (commitLocator generation) = some f →
      d'.find (commitLocator generation) = some f) :
    A.CommitAt d' generation commit commitSha := by
  obtain ⟨hcounter, f, payload, hf, hrest⟩ := h
  exact ⟨hcounter, f, payload, hfind f hf, hrest⟩

theorem StateAt.transfer {generation : Nat} {stateSha : Text}
    (h : A.StateAt d generation stateSha state)
    (hfind : ∀ f, d.find (stateLocator generation) = some f →
      d'.find (stateLocator generation) = some f) :
    A.StateAt d' generation stateSha state := by
  obtain ⟨hcounter, f, payload, hf, hrest⟩ := h
  exact ⟨hcounter, f, payload, hfind f hf, hrest⟩

/-! ## Roots -/

/-- A root names a place: for one of its records, or for the request that it acknowledges. -/
def Names (A : TelemetryState) (d : Disk) (state : LocalState) (l : Locator) : Prop :=
  l ∈ namedLocators state ∨
    (A.validator.requiresAckWitness = true ∧ ∃ payload, Answered A d state l payload)

theorem StateAt.valid {generation : Nat} {stateSha : Text}
    (h : A.StateAt d generation stateSha state) : localStateValid state = true := by
  obtain ⟨payload, hencode⟩ := h.encodes
  exact valid_of_encode hencode

theorem registration_of_valid (h : localStateValid state = true) :
    state.registration.kind = .registration := by
  have hhead := (localStateValid_iff.mp h).1
  simp only [LocalState.headValid, decide_eq_true_eq] at hhead
  exact hhead.2.2.2.2.1

theorem refLocator_of_registration {r : LocalRef} (h : r.kind = .registration) :
    refLocator r = registrationLocator := by
  simp [refLocator, h]

theorem names_objectRefs {r : LocalRef} (hr : r ∈ objectRefs state) :
    refLocator r ∈ namedLocators state := by
  simp only [objectRefs, namedLocators, List.mem_append, List.mem_cons, List.not_mem_nil,
    or_false, List.mem_map] at hr ⊢
  rcases hr with (((rfl | hr) | hr) | hr)
  · exact .inl (.inl (.inl (.inr (.inr (.inr rfl)))))
  · exact .inl (.inl (.inr ⟨r, hr, rfl⟩))
  · refine .inl (.inr ?_)
    split at hr
    next => exact absurd hr List.not_mem_nil
    next hkind =>
      rw [if_neg hkind, List.mem_singleton.mp hr]
      exact List.mem_singleton_self _
  · refine .inr ?_
    split at hr
    next => exact absurd hr List.not_mem_nil
    next hkind =>
      rw [if_neg hkind, List.mem_singleton.mp hr]
      exact List.mem_singleton_self _

theorem names_rootRefs (hvalid : localStateValid state = true) {r : LocalRef}
    (hr : r ∈ rootRefs state) : refLocator r ∈ namedLocators state := by
  rcases List.mem_cons.mp hr with rfl | hr
  · rw [refLocator_of_registration (registration_of_valid hvalid)]
    simp [namedLocators]
  · exact names_objectRefs hr

/-- A payload fits where the request that it may need is kept. -/
theorem Typed.transfer {r : LocalRef} (hsound : d.Sound A.sha)
    (hdistinct : Disk.Distinct A.sha d.files) (hsound' : d'.Sound A.sha)
    (hdistinct' : Disk.Distinct A.sha d'.files)
    (h : A.Typed (d.entries A.sha) d state r payload)
    (hkeep : ∀ l f pending, A.validator.requiresAckWitness = true →
      Answered A d state l pending → d.find l = some f → d'.find l = some f) :
    A.Typed (d'.entries A.sha) d' state r payload := by
  unfold Typed at h ⊢
  cases hkind : r.kind with
  | ack =>
    simp only [hkind] at h ⊢
    by_cases hwitness : A.validator.requiresAckWitness = true
    · rw [if_pos hwitness] at h ⊢
      obtain ⟨l, pending, hat, hok⟩ := h
      rw [witnessAt_iff hsound hdistinct] at hat
      refine ⟨l, pending, ?_, hok⟩
      rw [witnessAt_iff hsound' hdistinct']
      exact hat.transfer (fun f hf => hkeep l f pending hwitness hat hf) rfl rfl
    · rw [if_neg hwitness] at h ⊢
      exact h
  | absent => simp only [hkind] at h
  | state => simp only [hkind] at h
  | commit => simp only [hkind] at h
  | registration =>
    simp only [hkind] at h ⊢
    exact h
  | event =>
    simp only [hkind] at h ⊢
    exact h
  | pending =>
    simp only [hkind] at h ⊢
    exact h
  | capture =>
    simp only [hkind] at h ⊢
    exact h

theorem Verified.transfer {r : LocalRef} (hsound : d.Sound A.sha)
    (hdistinct : Disk.Distinct A.sha d.files) (hsound' : d'.Sound A.sha)
    (hdistinct' : Disk.Distinct A.sha d'.files)
    (h : A.Verified (d.entries A.sha) d state r)
    (href : ∀ f, d.find (refLocator r) = some f → d'.find (refLocator r) = some f)
    (hkeep : ∀ l f pending, A.validator.requiresAckWitness = true →
      Answered A d state l pending → d.find l = some f → d'.find l = some f) :
    A.Verified (d'.entries A.sha) d' state r := by
  obtain ⟨payload, hpayload, htyped⟩ := h
  exact ⟨payload, payloadAt_transfer hpayload href,
    htyped.transfer hsound hdistinct hsound' hdistinct' hkeep⟩

theorem Metadata.transfer {generation : Nat} {commit : LocalCommit} {commitSha : Text}
    (h : A.Metadata d generation commit state commitSha)
    (hcommit : ∀ f, d.find (commitLocator generation) = some f →
      d'.find (commitLocator generation) = some f)
    (hstate : ∀ f, d.find (stateLocator generation) = some f →
      d'.find (stateLocator generation) = some f) :
    A.Metadata d' generation commit state commitSha :=
  ⟨h.commitAt.transfer hcommit, h.stateAt.transfer hstate, h.identity, h.registration,
    h.parentGeneration, h.parentSha⟩

theorem Metadata.generation_eq {generation : Nat} {commit : LocalCommit} {commitSha : Text}
    (h : A.Metadata d generation commit state commitSha) : state.generation = generation := by
  obtain ⟨-, f, payload, -, -, -, -, hgeneration⟩ := h.stateAt
  exact hgeneration

/-- A root is loaded from every disk that has what it names. -/
theorem Root.transfer {generation : Nat} {commit : LocalCommit} {commitSha : Text}
    (hsound : d.Sound A.sha) (hdistinct : Disk.Distinct A.sha d.files)
    (hsound' : d'.Sound A.sha) (hdistinct' : Disk.Distinct A.sha d'.files)
    (h : A.Root (d.entries A.sha) d generation commit state commitSha)
    (hkeep : ∀ l f, Names A d state l → d.find l = some f → d'.find l = some f) :
    A.Root (d'.entries A.sha) d' generation commit state commitSha := by
  have hgeneration := h.data.generation_eq
  refine ⟨h.data.transfer (fun f => hkeep _ f (.inl ?_)) (fun f => hkeep _ f (.inl ?_)), ?_⟩
  · simp [namedLocators, hgeneration]
  · simp [namedLocators, hgeneration]
  · intro r hr
    refine (h.refs r hr).transfer hsound hdistinct hsound' hdistinct' ?_ ?_
    · exact fun f => hkeep _ f (.inl (names_rootRefs h.data.stateAt.valid hr))
    · exact fun l f pending hwitness hanswered =>
        hkeep l f (.inr ⟨hwitness, pending, hanswered⟩)

end TelemetryState

end TradeOps.Agent
