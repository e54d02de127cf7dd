import TradeOps.Agent.Compact

/-!
# What the readers of a store find

The programs that read end well exactly when the records have what they look for. `Granted` is what
every call needs: the session is the one that owns the storage. `Root` says that a generation can be
loaded: its commit and its state fit together, and every record that the state names is there and
is valid for it.
-/

namespace TradeOps.Agent

open Prog

namespace TelemetryState

variable (A : TelemetryState)

abbrev host : storage.Host Disk := Disk.host A.sha

/-- The calls of this object are answered. -/
structure Granted (m : Fields) (d : Disk) : Prop where
  isOpen : m.isOpen = true
  session : ∃ s, m.session = some s ∧ d.owner = some s
  key : A.installationKey.isSome = true
  identity : m.loaded = true → m.state.identity = A.identity

/-- The payload that a reference finds. -/
def payloadAt (d : Disk) (r : LocalRef) : Option Bytes :=
  (d.find (refLocator r)).bind fun f => localFrameMatches A.sha r f.bytes

/-- The one record of a pending request with the digest that an acknowledgement names. -/
structure WitnessAt (entries : List StorageEntry) (d : Disk) (state : LocalState) (l : Locator)
    (payload : Bytes) : Prop where
  ack : state.ack.kind = .ack
  digest : digest state.ackPendingSha = true
  listed : entries.length ≤ inventoryMax
  unique : ∃ e, (entries.filter fun e => e.sha = state.ackPendingSha) = [e] ∧ e.locator = l
  object : l.kind = .object
  valid : storageLocatorValid l = true
  record : ∃ f, d.find l = some f ∧ localHash A.sha f.bytes = some state.ackPendingSha ∧
    recordDecode A.sha f.bytes = some (pendingKind, l.generation, payload)
  older : l.generation < state.ack.generation

/-- A payload is valid for what a state says about it. -/
def Typed (entries : List StorageEntry) (d : Disk) (state : LocalState) (r : LocalRef)
    (payload : Bytes) : Prop :=
  match r.kind with
  | .ack =>
    if A.validator.requiresAckWitness then
      ∃ l pending, A.WitnessAt entries d state l pending ∧
        A.validator.ackWithPending payload pending state A.identity = true
    else A.validator.ack payload state A.identity = true
  | .registration => A.validator.registration payload A.identity = true
  | .capture => A.validator.capture payload state.captureSchema A.identity = true
  | .event =>
    A.validator.event payload r.eventId r.recordSha r.dealId r.revision A.identity = true
  | .pending => A.validator.pending payload state A.identity = true
  | _ => False

/-- The record that a reference names is there and valid. -/
def Verified (entries : List StorageEntry) (d : Disk) (state : LocalState) (r : LocalRef) : Prop :=
  ∃ payload, A.payloadAt d r = some payload ∧ A.Typed entries d state r payload

/-- The commit of a generation. -/
def CommitAt (d : Disk) (generation : Nat) (commit : LocalCommit) (commitSha : Text) : Prop :=
  counter generation 1 = true ∧ ∃ f payload, d.find (commitLocator generation) = some f ∧
    localHash A.sha f.bytes = some commitSha ∧
    recordDecode A.sha f.bytes = some (checkpointKind, generation, payload) ∧
    localCommitDecode payload = some commit ∧ commit.generation = generation

/-- The state of a generation. -/
def StateAt (d : Disk) (generation : Nat) (stateSha : Text) (state : LocalState) : Prop :=
  counter generation 1 = true ∧ ∃ f payload, d.find (stateLocator generation) = some f ∧
    localHash A.sha f.bytes = some stateSha ∧
    recordDecode A.sha f.bytes = some (checkpointKind, generation, payload) ∧
    localStateDecode payload = some state ∧ state.generation = generation

/-- The commit and the state of a generation fit together. -/
structure Metadata (d : Disk) (generation : Nat) (commit : LocalCommit) (state : LocalState)
    (commitSha : Text) : Prop where
  commitAt : A.CommitAt d generation commit commitSha
  stateAt : A.StateAt d generation commit.stateSha state
  identity : state.identity = A.identity
  registration : state.registration.sha = commit.registrationSha
  parentGeneration : commit.parentGeneration = state.parentGeneration
  parentSha : commit.parentSha = state.parentCommit

/-- The references that are verified when a root is loaded. -/
def rootRefs (state : LocalState) : List LocalRef := state.registration :: objectRefs state

/-- A generation can be loaded. -/
structure Root (entries : List StorageEntry) (d : Disk) (generation : Nat) (commit : LocalCommit)
    (state : LocalState) (commitSha : Text) : Prop where
  data : A.Metadata d generation commit state commitSha
  refs : ∀ r ∈ rootRefs state, A.Verified entries d state r

/-! ## The readers -/

variable {A} {m m' : Fields} {d d' : Disk}

theorem revalidate_ends {session : Nat} {u : Unit} :
    (revalidate session).Ends A.host m d u m' d' ↔
      d.owner = some session ∧ m' = m ∧ d' = d := by
  refine ends_call.trans ?_
  simp only [host, Disk.host]
  by_cases howner : d.owner = some session
  · rw [if_pos howner, Prod.mk.injEq]
    constructor
    · rintro ⟨⟨-, rfl⟩, rfl⟩
      exact ⟨howner, rfl, rfl⟩
    · rintro ⟨-, rfl, rfl⟩
      exact ⟨⟨rfl, rfl⟩, rfl⟩
  · rw [if_neg howner]
    simp [howner]

theorem readRecord_ends {session : Nat} {l : Locator} {o : Option Bytes} :
    (readRecord session l).Ends A.host m d o m' d' ↔
      Disk.addressable l = true ∧ d.owner = some session ∧
        o = (d.find l).map StoredRecord.bytes ∧ m' = m ∧ d' = d := by
  refine ends_call.trans ?_
  simp only [host, Disk.host]
  by_cases haddress : Disk.addressable l = true
  · rw [if_neg (by simp [haddress])]
    by_cases howner : d.owner = some session
    · rw [if_pos howner, Prod.mk.injEq, Except.ok.injEq]
      constructor
      · rintro ⟨⟨rfl, rfl⟩, rfl⟩
        exact ⟨haddress, howner, rfl, rfl, rfl⟩
      · rintro ⟨-, -, rfl, rfl, rfl⟩
        exact ⟨⟨rfl, rfl⟩, rfl⟩
    · rw [if_neg howner]
      simp [howner]
  · rw [if_pos (by simpa using haddress)]
    simp [haddress]

theorem guard_ends {allowReload : Bool} {session : Nat} :
    (A.guard allowReload).Ends A.host m d session m' d' ↔
      A.Granted m d ∧ m.session = some session ∧ (m.reloadRequired = false ∨ allowReload = true) ∧
        m' = m ∧ d' = d := by
  simp only [guard, ends_bind, ends_fields, ends_require]
  constructor
  · rintro ⟨a, m₁, d₁, ⟨rfl, rfl, rfl⟩, u, m₂, d₂, ⟨hopen, rfl, rfl⟩, hrest⟩
    cases hsession : m.session with
    | none =>
      rw [hsession] at hrest
      exact absurd hrest ends_fail
    | some s =>
      rw [hsession] at hrest
      simp only [ends_bind, ends_require, ends_pure, revalidate_ends] at hrest
      obtain ⟨-, m₃, d₃, ⟨hreload, rfl, rfl⟩, -, m₄, d₄, ⟨hkey, rfl, rfl⟩, -, m₅, d₅,
        ⟨howner, rfl, rfl⟩, -, m₆, d₆, ⟨hidentity, rfl, rfl⟩, rfl, rfl, rfl⟩ := hrest
      refine ⟨⟨hopen, ⟨s, hsession, howner⟩, hkey, ?_⟩, rfl, ?_, rfl, rfl⟩
      · intro hloaded
        simpa [hloaded] using hidentity
      · simpa using hreload
  · rintro ⟨⟨hopen, ⟨s, hs, howner⟩, hkey, hidentity⟩, hsession, hreload, rfl, rfl⟩
    obtain rfl : s = session := Option.some.inj (hs.symm.trans hsession)
    refine ⟨m', m', d', ⟨rfl, rfl, rfl⟩, (), m', d', ⟨hopen, rfl, rfl⟩, ?_⟩
    rw [hsession]
    simp only [ends_bind, ends_require, ends_pure, revalidate_ends]
    refine ⟨(), m', d', ⟨by simpa using hreload, rfl, rfl⟩, (), m', d', ⟨hkey, rfl, rfl⟩,
      (), m', d', ⟨howner, rfl, rfl⟩, (), m', d', ⟨?_, rfl, rfl⟩, trivial, rfl, rfl⟩
    cases hloaded : m'.loaded with
    | false => rfl
    | true => simp [hidentity hloaded]

theorem readExact_ends {l : Locator} {o : Option Bytes} :
    (A.readExact l).Ends A.host m d o m' d' ↔
      A.Granted m d ∧ Disk.addressable l = true ∧ o = (d.find l).map StoredRecord.bytes ∧
        m' = m ∧ d' = d := by
  simp only [readExact, ends_bind, guard_ends, readRecord_ends]
  constructor
  · rintro ⟨s, m₁, d₁, ⟨hgranted, -, -, rfl, rfl⟩, haddress, -, ho, rfl, rfl⟩
    exact ⟨hgranted, haddress, ho, rfl, rfl⟩
  · rintro ⟨hgranted, haddress, rfl, rfl, rfl⟩
    obtain ⟨s, hs, howner⟩ := hgranted.session
    exact ⟨s, m', d', ⟨hgranted, hs, .inr trivial, rfl, rfl⟩, haddress, howner, rfl, rfl, rfl⟩

theorem readFrame_ends {l : Locator} {bytes : Bytes} :
    (A.readFrame l).Ends A.host m d bytes m' d' ↔
      A.Granted m d ∧ Disk.addressable l = true ∧ (∃ f, d.find l = some f ∧ f.bytes = bytes) ∧
        m' = m ∧ d' = d := by
  simp only [readFrame, ends_bind, readExact_ends]
  constructor
  · rintro ⟨o, m₁, d₁, ⟨hgranted, haddress, ho, hm, hd⟩, hmatch⟩
    subst hm hd
    cases hfind : d₁.find l with
    | none =>
      rw [hfind] at ho
      subst ho
      exact absurd hmatch ends_fail
    | some f =>
      rw [hfind] at ho
      subst ho
      obtain ⟨rfl, rfl, rfl⟩ := ends_pure.mp hmatch
      exact ⟨hgranted, haddress, ⟨f, rfl, rfl⟩, rfl, rfl⟩
  · rintro ⟨hgranted, haddress, ⟨f, hfind, rfl⟩, rfl, rfl⟩
    refine ⟨some f.bytes, m', d', ⟨hgranted, haddress, by rw [hfind]; rfl, rfl, rfl⟩, ?_⟩
    exact ends_pure.mpr ⟨rfl, rfl, rfl⟩

theorem valid_of_frameMatches {r : LocalRef} {frame payload : Bytes}
    (h : localFrameMatches A.sha r frame = some payload) : localRefValid r = true := by
  rw [localFrameMatches] at h
  split at h
  next hok => exact hok.1
  next => contradiction

theorem addressable_refLocator {r : LocalRef} (h : localRefValid r = true) :
    Disk.addressable (refLocator r) = true := by
  simp only [localRefValid, decide_eq_true_eq] at h
  obtain ⟨hgeneration, hordinal, -, -, -, hplaced, -⟩ := h
  have hobject : 1 ≤ r.ordinal →
      Disk.addressable (objectLocator r.generation r.ordinal) = true := by
    intro hpos
    have hcounter : counter r.ordinal 1 = true := by
      simp only [counter, decide_eq_true_eq] at hordinal ⊢
      omega
    simp [Disk.addressable, storageLocatorValid, objectLocator, hgeneration, hcounter]
  unfold LocalRef.placed at hplaced
  cases hkind : r.kind with
  | absent =>
    rw [hkind] at hplaced
    contradiction
  | registration =>
    simp only [refLocator, hkind]
    decide
  | state =>
    simp [refLocator, hkind, Disk.addressable, storageLocatorValid, stateLocator, hgeneration]
  | commit =>
    simp [refLocator, hkind, Disk.addressable, storageLocatorValid, commitLocator, hgeneration]
  | event =>
    rw [hkind] at hplaced
    simp only [refLocator, hkind]
    exact hobject (of_decide_eq_true hplaced)
  | pending =>
    rw [hkind] at hplaced
    simp only [refLocator, hkind]
    exact hobject (of_decide_eq_true hplaced)
  | ack =>
    rw [hkind] at hplaced
    simp only [refLocator, hkind]
    exact hobject (of_decide_eq_true hplaced)
  | capture =>
    rw [hkind] at hplaced
    simp only [refLocator, hkind]
    exact hobject (of_decide_eq_true hplaced)

theorem payloadAt_some {r : LocalRef} {payload : Bytes} (h : A.payloadAt d r = some payload) :
    localRefValid r = true ∧ ∃ f, d.find (refLocator r) = some f ∧
      localFrameMatches A.sha r f.bytes = some payload := by
  obtain ⟨f, hfind, hmatch⟩ := Option.bind_eq_some_iff.mp h
  exact ⟨valid_of_frameMatches hmatch, f, hfind, hmatch⟩

/-- The record may be absent, but it is not another one. -/
theorem readReferencePayload_ends {r : LocalRef} {o : Option Bytes} :
    (A.readReferencePayload r).Ends A.host m d o m' d' ↔
      A.Granted m d ∧ Disk.addressable (refLocator r) = true ∧
        ((d.find (refLocator r) = none ∧ o = none) ∨
          ∃ payload, A.payloadAt d r = some payload ∧ o = some payload) ∧ m' = m ∧ d' = d := by
  simp only [readReferencePayload, ends_bind, readExact_ends]
  constructor
  · rintro ⟨frame, m₁, d₁, ⟨hgranted, haddress, hframe, hm, hd⟩, hmatch⟩
    subst hm hd
    refine ⟨hgranted, haddress, ?_⟩
    cases hfind : d₁.find (refLocator r) with
    | none =>
      rw [hfind] at hframe
      subst hframe
      obtain ⟨rfl, rfl, rfl⟩ := ends_pure.mp hmatch
      exact ⟨.inl ⟨rfl, rfl⟩, rfl, rfl⟩
    | some f =>
      rw [hfind] at hframe
      subst hframe
      simp only [Option.map_some] at hmatch
      cases hpayload : localFrameMatches A.sha r f.bytes with
      | none =>
        rw [hpayload] at hmatch
        exact absurd hmatch ends_fail
      | some payload =>
        rw [hpayload] at hmatch
        obtain ⟨rfl, rfl, rfl⟩ := ends_pure.mp hmatch
        refine ⟨.inr ⟨payload, ?_, rfl⟩, rfl, rfl⟩
        rw [payloadAt, hfind]
        exact hpayload
  · rintro ⟨hgranted, haddress, hcase, rfl, rfl⟩
    refine ⟨(d'.find (refLocator r)).map StoredRecord.bytes, m', d',
      ⟨hgranted, haddress, rfl, rfl, rfl⟩, ?_⟩
    rcases hcase with ⟨hfind, rfl⟩ | ⟨payload, hpayload, rfl⟩
    · rw [hfind]
      exact ends_pure.mpr ⟨rfl, rfl, rfl⟩
    · obtain ⟨-, f, hfind, hmatch⟩ := payloadAt_some hpayload
      rw [hfind]
      simp only [Option.map_some, hmatch]
      exact ends_pure.mpr ⟨rfl, rfl, rfl⟩

theorem readPresent_ends {r : LocalRef} {payload : Bytes} :
    (A.readPresent r).Ends A.host m d payload m' d' ↔
      A.Granted m d ∧ A.payloadAt d r = some payload ∧ m' = m ∧ d' = d := by
  simp only [readPresent, ends_bind, readReferencePayload_ends]
  constructor
  · rintro ⟨o, m₁, d₁, ⟨hgranted, -, hcase, rfl, rfl⟩, hmatch⟩
    rcases hcase with ⟨-, rfl⟩ | ⟨p, hp, rfl⟩
    · exact absurd hmatch ends_fail
    · obtain ⟨rfl, rfl, rfl⟩ := ends_pure.mp hmatch
      exact ⟨hgranted, hp, rfl, rfl⟩
  · rintro ⟨hgranted, hpayload, rfl, rfl⟩
    obtain ⟨hvalid, -⟩ := payloadAt_some hpayload
    exact ⟨some payload, m', d', ⟨hgranted, addressable_refLocator hvalid,
      .inr ⟨payload, hpayload, rfl⟩, rfl, rfl⟩, ends_pure.mpr ⟨rfl, rfl, rfl⟩⟩

theorem readAckWitness_ends {state : LocalState} {found : Locator × Bytes} :
    (A.readAckWitness state).Ends A.host m d found m' d' ↔
      A.Granted m d ∧ A.WitnessAt m.inventory d state found.1 found.2 ∧ m' = m ∧ d' = d := by
  simp only [readAckWitness, ends_bind, ends_fields, ends_require]
  constructor
  · rintro ⟨a, m₁, d₁, ⟨rfl, rfl, rfl⟩, u, m₂, d₂, ⟨hok, rfl, rfl⟩, hmatch⟩
    simp only [decide_eq_true_eq] at hok
    split at hmatch
    next entry hentry =>
      simp only [ends_bind, ends_require, readExact_ends] at hmatch
      obtain ⟨-, m₃, d₃, ⟨hplace, rfl, rfl⟩, frame, m₄, d₄, ⟨hgranted, -, hframe, rfl, rfl⟩,
        hrest⟩ := hmatch
      simp only [decide_eq_true_eq] at hplace
      split at hrest
      next => exact absurd hrest ends_fail
      next bytes =>
        obtain ⟨f, hfind, hbytes⟩ := Option.map_eq_some_iff.mp hframe.symm
        split at hrest
        next => exact absurd hrest ends_fail
        next kind generation payload hdecode =>
          simp only [ends_bind, ends_require, ends_pure] at hrest
          obtain ⟨-, m₅, d₅, ⟨hchecks, rfl, rfl⟩, rfl, rfl, rfl⟩ := hrest
          simp only [decide_eq_true_eq] at hchecks
          obtain ⟨hhash, rfl, rfl, holder⟩ := hchecks
          subst hbytes
          exact ⟨hgranted, ⟨hok.1, hok.2.1, hok.2.2, ⟨entry, hentry, rfl⟩, hplace.1, hplace.2,
            ⟨f, hfind, hhash, hdecode⟩, holder⟩, rfl, rfl⟩
    next => exact absurd hmatch ends_fail
  · rintro ⟨hgranted, ⟨hack, hdigest, hlisted, ⟨entry, hentry, hlocator⟩, hobject, hvalid,
      ⟨f, hfind, hhash, hdecode⟩, holder⟩, rfl, rfl⟩
    refine ⟨m', m', d', ⟨rfl, rfl, rfl⟩, (), m', d', ⟨?_, rfl, rfl⟩, ?_⟩
    · simp only [decide_eq_true_eq]
      exact ⟨hack, hdigest, hlisted⟩
    · rw [hentry]
      obtain ⟨l, payload⟩ := found
      simp only at hlocator hobject hvalid hfind hdecode holder
      subst hlocator
      simp only [ends_bind, ends_require, readExact_ends]
      refine ⟨(), m', d', ⟨?_, rfl, rfl⟩, some f.bytes, m', d', ⟨hgranted, ?_, ?_, rfl, rfl⟩, ?_⟩
      · simp only [decide_eq_true_eq]
        exact ⟨hobject, hvalid⟩
      · simp [Disk.addressable, hvalid, hobject]
      · rw [hfind]
        rfl
      · simp only [hdecode, ends_bind, ends_require, ends_pure]
        refine ⟨(), m', d', ⟨?_, rfl, rfl⟩, trivial, rfl, rfl⟩
        simp only [decide_eq_true_eq]
        exact ⟨hhash, trivial, trivial, holder⟩

theorem typedPayloadValid_ends {r : LocalRef} {state : LocalState} {payload : Bytes} {e : Status}
    {u : Unit} (hgranted : A.Granted m d) :
    (A.typedPayloadValid r state payload e).Ends A.host m d u m' d' ↔
      A.Typed m.inventory d state r payload ∧ m' = m ∧ d' = d := by
  unfold typedPayloadValid Typed
  cases r.kind with
  | ack =>
    simp only
    split
    next hrequired =>
      simp only [ends_bind, ends_mapFail, readAckWitness_ends, ends_require, Prod.exists]
      constructor
      · rintro ⟨l, pending, m₁, d₁, ⟨-, hwitness, rfl, rfl⟩, hvalid, rfl, rfl⟩
        exact ⟨⟨l, pending, hwitness, hvalid⟩, rfl, rfl⟩
      · rintro ⟨⟨l, pending, hwitness, hvalid⟩, rfl, rfl⟩
        exact ⟨l, pending, m', d', ⟨hgranted, hwitness, rfl, rfl⟩, hvalid, rfl, rfl⟩
    next =>
      rw [ends_require]
      exact and_congr_right fun _ => by constructor <;> rintro ⟨rfl, rfl⟩ <;> exact ⟨rfl, rfl⟩
  | registration | capture | event | pending =>
    simp only [ends_require]
    exact and_congr_right fun _ => by constructor <;> rintro ⟨rfl, rfl⟩ <;> exact ⟨rfl, rfl⟩
  | absent | state | commit =>
    simp only [ends_fail, false_and]

theorem verifyTypedReference_ends {r : LocalRef} {state : LocalState} {u : Unit} :
    (A.verifyTypedReference r state).Ends A.host m d u m' d' ↔
      A.Granted m d ∧ A.Verified m.inventory d state r ∧ m' = m ∧ d' = d := by
  simp only [verifyTypedReference, ends_bind, readPresent_ends]
  constructor
  · rintro ⟨payload, m₁, d₁, ⟨hgranted, hpayload, rfl, rfl⟩, htyped⟩
    obtain ⟨htyped, rfl, rfl⟩ := (typedPayloadValid_ends hgranted).mp htyped
    exact ⟨hgranted, ⟨payload, hpayload, htyped⟩, rfl, rfl⟩
  · rintro ⟨hgranted, ⟨payload, hpayload, htyped⟩, rfl, rfl⟩
    exact ⟨payload, m', d', ⟨hgranted, hpayload, rfl, rfl⟩,
      (typedPayloadValid_ends hgranted).mpr ⟨htyped, rfl, rfl⟩⟩

theorem verifyTypedReferences_ends {state : LocalState} {refs : List LocalRef} {u : Unit}
    (hgranted : A.Granted m d) :
    (A.verifyTypedReferences state refs).Ends A.host m d u m' d' ↔
      (∀ r ∈ refs, A.Verified m.inventory d state r) ∧ m' = m ∧ d' = d := by
  induction refs with
  | nil =>
    simp only [verifyTypedReferences, ends_pure]
    constructor
    · rintro ⟨-, rfl, rfl⟩
      exact ⟨fun r hr => absurd hr List.not_mem_nil, rfl, rfl⟩
    · rintro ⟨-, rfl, rfl⟩
      exact ⟨trivial, rfl, rfl⟩
  | cons r rest ih =>
    simp only [verifyTypedReferences, ends_bind, verifyTypedReference_ends, List.forall_mem_cons]
    constructor
    · rintro ⟨-, m₁, d₁, ⟨-, hr, rfl, rfl⟩, hrest⟩
      obtain ⟨hrest, rfl, rfl⟩ := ih.mp hrest
      exact ⟨⟨hr, hrest⟩, rfl, rfl⟩
    · rintro ⟨⟨hr, hrest⟩, rfl, rfl⟩
      exact ⟨(), m', d', ⟨hgranted, hr, rfl, rfl⟩, ih.mpr ⟨hrest, rfl, rfl⟩⟩

theorem verifyOptional_ends {r : LocalRef} {state : LocalState} {u : Unit}
    (hgranted : A.Granted m d) :
    (A.verifyOptional r state).Ends A.host m d u m' d' ↔
      (r.kind ≠ .absent → A.Verified m.inventory d state r) ∧ m' = m ∧ d' = d := by
  unfold verifyOptional
  by_cases hkind : r.kind = .absent
  · rw [if_pos hkind, ends_pure]
    constructor
    · rintro ⟨-, rfl, rfl⟩
      exact ⟨fun h => absurd hkind h, rfl, rfl⟩
    · rintro ⟨-, rfl, rfl⟩
      exact ⟨rfl, rfl, rfl⟩
  · rw [if_neg hkind, verifyTypedReference_ends]
    constructor
    · rintro ⟨-, hr, rfl, rfl⟩
      exact ⟨fun _ => hr, rfl, rfl⟩
    · rintro ⟨hr, rfl, rfl⟩
      exact ⟨hgranted, hr hkind, rfl, rfl⟩

theorem addressable_commitLocator {generation : Nat} :
    Disk.addressable (commitLocator generation) = true ↔ counter generation 1 = true := by
  simp [Disk.addressable, storageLocatorValid, commitLocator]

theorem addressable_stateLocator {generation : Nat} :
    Disk.addressable (stateLocator generation) = true ↔ counter generation 1 = true := by
  simp [Disk.addressable, storageLocatorValid, stateLocator]

theorem readCommitMetadata_ends {generation : Nat} {found : LocalCommit × Text} :
    (A.readCommitMetadata generation).Ends A.host m d found m' d' ↔
      A.Granted m d ∧ A.CommitAt d generation found.1 found.2 ∧ m' = m ∧ d' = d := by
  simp only [readCommitMetadata, ends_bind, ends_mapFail, readFrame_ends,
    addressable_commitLocator]
  constructor
  · rintro ⟨frame, m₁, d₁, ⟨hgranted, hcounter, ⟨f, hfind, rfl⟩, rfl, rfl⟩, hmatch⟩
    split at hmatch
    next commitSha kind decoded payload hhash hdecode =>
      split at hmatch
      next commit hcommit =>
        simp only [ends_bind, ends_require, ends_pure] at hmatch
        obtain ⟨-, m₂, d₂, ⟨hok, rfl, rfl⟩, rfl, rfl, rfl⟩ := hmatch
        simp only [decide_eq_true_eq] at hok
        obtain ⟨rfl, rfl, hgeneration⟩ := hok
        exact ⟨hgranted, ⟨hcounter, f, payload, hfind, hhash, hdecode, hcommit, hgeneration⟩,
          rfl, rfl⟩
      next => exact absurd hmatch ends_fail
    next => exact absurd hmatch ends_fail
  · rintro ⟨hgranted, ⟨hcounter, f, payload, hfind, hhash, hdecode, hcommit, hgeneration⟩, rfl, rfl⟩
    refine ⟨f.bytes, m', d', ⟨hgranted, hcounter, ⟨f, hfind, rfl⟩, rfl, rfl⟩, ?_⟩
    simp only [hhash, hdecode, hcommit, ends_bind, ends_require, ends_pure]
    refine ⟨(), m', d', ⟨?_, rfl, rfl⟩, trivial, rfl, rfl⟩
    simp only [decide_eq_true_eq]
    exact ⟨trivial, trivial, hgeneration⟩

theorem readStateMetadata_ends {generation : Nat} {stateSha : Text} {state : LocalState} :
    (A.readStateMetadata generation stateSha).Ends A.host m d state m' d' ↔
      A.Granted m d ∧ A.StateAt d generation stateSha state ∧ m' = m ∧ d' = d := by
  simp only [readStateMetadata, ends_bind, ends_mapFail, readFrame_ends, addressable_stateLocator]
  constructor
  · rintro ⟨frame, m₁, d₁, ⟨hgranted, hcounter, ⟨f, hfind, rfl⟩, rfl, rfl⟩, hmatch⟩
    split at hmatch
    next actual kind decoded payload hhash hdecode =>
      split at hmatch
      next state' hstate =>
        simp only [ends_bind, ends_require, ends_pure] at hmatch
        obtain ⟨-, m₂, d₂, ⟨hok, rfl, rfl⟩, rfl, rfl, rfl⟩ := hmatch
        simp only [decide_eq_true_eq] at hok
        obtain ⟨rfl, rfl, rfl, hgeneration⟩ := hok
        exact ⟨hgranted, ⟨hcounter, f, payload, hfind, hhash, hdecode, hstate, hgeneration⟩,
          rfl, rfl⟩
      next => exact absurd hmatch ends_fail
    next => exact absurd hmatch ends_fail
  · rintro ⟨hgranted, ⟨hcounter, f, payload, hfind, hhash, hdecode, hstate, hgeneration⟩, rfl, rfl⟩
    refine ⟨f.bytes, m', d', ⟨hgranted, hcounter, ⟨f, hfind, rfl⟩, rfl, rfl⟩, ?_⟩
    simp only [hhash, hdecode, hstate, ends_bind, ends_require, ends_pure]
    refine ⟨(), m', d', ⟨?_, rfl, rfl⟩, trivial, rfl, rfl⟩
    simp only [decide_eq_true_eq]
    exact ⟨trivial, trivial, trivial, hgeneration⟩

theorem forall_rootRefs {P : LocalRef → Prop} {state : LocalState} :
    (∀ r ∈ rootRefs state, P r) ↔
      P state.registration ∧ P state.capture ∧ (∀ r ∈ state.events, P r) ∧
        (state.pending.kind ≠ .absent → P state.pending) ∧
        (state.ack.kind ≠ .absent → P state.ack) := by
  simp only [rootRefs, objectRefs, List.cons_append, List.forall_mem_cons, List.forall_mem_append]
  have hoption : ∀ r : LocalRef,
      (∀ q ∈ (if r.kind = .absent then [] else [r]), P q) ↔ (r.kind ≠ .absent → P r) := by
    intro r
    by_cases hkind : r.kind = .absent
    · simp [hkind]
    · simp [hkind]
  rw [hoption, hoption, and_assoc]

/-- A root is loaded exactly when it is there. -/
theorem loadRoot_ends {generation : Nat} {found : LocalState × Text} :
    (A.loadRoot generation).Ends A.host m d found m' d' ↔
      A.Granted m d ∧ (∃ commit, A.Root m.inventory d generation commit found.1 found.2) ∧
        m' = m ∧ d' = d := by
  simp only [loadRoot, ends_bind, ends_mapFail]
  constructor
  · rintro ⟨⟨commit, commitSha⟩, m₁, d₁, hread, state, m₂, d₂, hread', u, m₃, d₃, hsame, u',
      m₄, d₄, hfollows, u₀, m₅, d₅, ⟨v, m₆, d₆, hfirst, v', m₇, d₇, hsecond, u₁, m₈, d₈,
      hevents, u₂, m₉, d₉, hpending, hack⟩, hfound⟩
    obtain ⟨hgranted, hcommit, rfl, rfl⟩ := readCommitMetadata_ends.mp hread
    obtain ⟨-, hstate, rfl, rfl⟩ := readStateMetadata_ends.mp hread'
    obtain ⟨hidentity, rfl, rfl⟩ := ends_require.mp hsame
    obtain ⟨hparent, rfl, rfl⟩ := ends_require.mp hfollows
    obtain ⟨-, hregistration, rfl, rfl⟩ := verifyTypedReference_ends.mp hfirst
    obtain ⟨-, hcapture, rfl, rfl⟩ := verifyTypedReference_ends.mp hsecond
    obtain ⟨rfl, rfl, rfl⟩ := ends_pure.mp hfound
    obtain ⟨hevents, rfl, rfl⟩ := (verifyTypedReferences_ends hgranted).mp hevents
    obtain ⟨hpending, rfl, rfl⟩ := (verifyOptional_ends hgranted).mp hpending
    obtain ⟨hack, rfl, rfl⟩ := (verifyOptional_ends hgranted).mp hack
    simp only [decide_eq_true_eq] at hidentity hparent
    refine ⟨hgranted, ⟨commit, ⟨hcommit, hstate, hidentity.1, hidentity.2, hparent.1, hparent.2⟩,
      forall_rootRefs.mpr ⟨hregistration, hcapture, hevents, hpending, hack⟩⟩, rfl, rfl⟩
  · rintro ⟨hgranted, ⟨commit, hdata, hrefs⟩, rfl, rfl⟩
    obtain ⟨hregistration, hcapture, hevents, hpending, hack⟩ := forall_rootRefs.mp hrefs
    simp only [readCommitMetadata_ends, readStateMetadata_ends, ends_require, ends_pure,
      verifyTypedReference_ends]
    refine ⟨(commit, found.2), m', d', ⟨hgranted, hdata.commitAt, rfl, rfl⟩, found.1, m', d',
      ⟨hgranted, hdata.stateAt, rfl, rfl⟩, (), m', d', ⟨?_, rfl, rfl⟩, (), m', d',
      ⟨?_, rfl, rfl⟩, (), m', d', ⟨(), m', d', ⟨hgranted, hregistration, rfl, rfl⟩, (), m', d',
        ⟨hgranted, hcapture, rfl, rfl⟩, (), m', d',
        (verifyTypedReferences_ends hgranted).mpr ⟨hevents, rfl, rfl⟩, (), m', d',
        (verifyOptional_ends hgranted).mpr ⟨hpending, rfl, rfl⟩,
        (verifyOptional_ends hgranted).mpr ⟨hack, rfl, rfl⟩⟩, rfl, rfl, rfl⟩
    · simp only [decide_eq_true_eq]
      exact ⟨hdata.identity, hdata.registration⟩
    · simp only [decide_eq_true_eq]
      exact ⟨hdata.parentGeneration, hdata.parentSha⟩

/-! ## The inventory and the current root -/

/-- The storage lists its records, and they are within the budget. -/
structure Listed (A : TelemetryState) (d : Disk) (entries : List StorageEntry) (b : Budget) :
    Prop where
  inventory : d.inventory A.sha = .ok (some entries)
  budget : storageBudget entries = some b

/-- The member variables after an inventory was taken. -/
def lists (m : Fields) (entries : List StorageEntry) (highest : Nat) : Fields :=
  { m with inventory := entries, highestObserved := highest }

theorem Granted.lists (h : A.Granted m d) (entries : List StorageEntry) (highest : Nat) :
    A.Granted (lists m entries highest) d :=
  ⟨h.isOpen, h.session, h.key, h.identity⟩

theorem listEntries_ends {session : Nat} {o : Option (List StorageEntry)} :
    (listEntries session).Ends A.host m d o m' d' ↔
      d.owner = some session ∧ d.inventory A.sha = .ok o ∧ m' = m ∧ d' = d := by
  refine ends_call.trans ?_
  simp only [host, Disk.host]
  by_cases howner : d.owner = some session
  · rw [if_pos howner, Prod.mk.injEq]
    constructor
    · rintro ⟨⟨h, rfl⟩, rfl⟩
      exact ⟨howner, h, rfl, rfl⟩
    · rintro ⟨-, h, rfl, rfl⟩
      exact ⟨⟨h, rfl⟩, rfl⟩
  · rw [if_neg howner]
    simp [howner]

theorem refreshInventory_ends {listed : Bool} :
    A.refreshInventory.Ends A.host m d listed m' d' ↔
      A.Granted m d ∧
        ((listed = true ∧ ∃ entries b, Listed A d entries b ∧ m' = lists m entries b.highest) ∨
          (listed = false ∧ d.inventory A.sha = .ok none ∧ m' = lists m [] 0)) ∧ d' = d := by
  simp only [refreshInventory, ends_bind, guard_ends, ends_update, listEntries_ends]
  constructor
  · rintro ⟨session, m₁, d₁, ⟨hgranted, -, -, rfl, rfl⟩, -, m₂, d₂, ⟨rfl, rfl⟩, o, m₃, d₃,
      ⟨-, hlist, rfl, rfl⟩, hmatch⟩
    refine ⟨hgranted, ?_⟩
    cases o with
    | none =>
      simp only [ends_bind, ends_update, ends_pure] at hmatch
      obtain ⟨-, m₄, d₄, ⟨rfl, rfl⟩, rfl, rfl, rfl⟩ := hmatch
      exact ⟨.inr ⟨rfl, hlist, rfl⟩, rfl⟩
    | some entries =>
      simp only [ends_bind, ends_update] at hmatch
      obtain ⟨-, m₄, d₄, ⟨rfl, rfl⟩, hmatch⟩ := hmatch
      cases hbudget : storageBudget entries with
      | none =>
        rw [hbudget] at hmatch
        exact absurd hmatch ends_fail
      | some b =>
        rw [hbudget] at hmatch
        simp only [ends_bind, ends_update, ends_pure] at hmatch
        obtain ⟨-, m₅, d₅, ⟨rfl, rfl⟩, rfl, rfl, rfl⟩ := hmatch
        exact ⟨.inl ⟨rfl, entries, b, ⟨hlist, hbudget⟩, rfl⟩, rfl⟩
  · rintro ⟨hgranted, hcase, rfl⟩
    obtain ⟨session, hsession, howner⟩ := hgranted.session
    rcases hcase with ⟨rfl, entries, b, ⟨hlist, hbudget⟩, rfl⟩ | ⟨rfl, hlist, rfl⟩
    · refine ⟨session, m, d', ⟨hgranted, hsession, .inr trivial, rfl, rfl⟩, (), _, d', ⟨rfl, rfl⟩,
        some entries, _, d', ⟨howner, hlist, rfl, rfl⟩, ?_⟩
      simp only [hbudget, ends_bind, ends_update, ends_pure]
      exact ⟨(), _, d', ⟨rfl, rfl⟩, (), _, d', ⟨rfl, rfl⟩, trivial, rfl, rfl⟩
    · refine ⟨session, m, d', ⟨hgranted, hsession, .inr trivial, rfl, rfl⟩, (), _, d', ⟨rfl, rfl⟩,
        none, _, d', ⟨howner, hlist, rfl, rfl⟩, ?_⟩
      simp only [ends_bind, ends_update, ends_pure]
      exact ⟨(), _, d', ⟨rfl, rfl⟩, trivial, rfl, rfl⟩

theorem requireInventory_ends {u : Unit} :
    A.requireInventory.Ends A.host m d u m' d' ↔
      A.Granted m d ∧ (∃ entries b, Listed A d entries b ∧ m' = lists m entries b.highest) ∧
        d' = d := by
  simp only [requireInventory, ends_bind, refreshInventory_ends, ends_require]
  constructor
  · rintro ⟨listed, m₁, d₁, ⟨hgranted, hcase, rfl⟩, rfl, rfl, rfl⟩
    rcases hcase with ⟨-, hlisted⟩ | ⟨hfalse, -⟩
    · exact ⟨hgranted, hlisted, rfl⟩
    · contradiction
  · rintro ⟨hgranted, ⟨entries, b, hlisted, rfl⟩, rfl⟩
    exact ⟨true, _, d', ⟨hgranted, .inl ⟨rfl, entries, b, hlisted, rfl⟩, rfl⟩, rfl, rfl, rfl⟩

theorem Root.generation {entries : List StorageEntry} {generation : Nat} {commit : LocalCommit}
    {state : LocalState} {commitSha : Text}
    (h : A.Root entries d generation commit state commitSha) :
    state.generation = generation := by
  obtain ⟨-, f, payload, -, -, -, -, hgeneration⟩ := h.data.stateAt
  exact hgeneration

theorem StateAt.encodes {generation : Nat} {stateSha : Text} {state : LocalState}
    (h : A.StateAt d generation stateSha state) : ∃ payload, localStateEncode state =
    some payload := by
  obtain ⟨-, f, payload, -, -, -, hdecode, -⟩ := h
  exact ⟨payload, localStateEncode_of_decode hdecode⟩

/-- States with one encoding are equal. -/
theorem sameState_iff {a b : LocalState} (ha : ∃ payload, localStateEncode a = some payload) :
    sameState a b = true ↔ a = b := by
  obtain ⟨payload, hpayload⟩ := ha
  simp only [sameState, hpayload, Option.isSome_some, decide_eq_true_eq, true_and]
  constructor
  · intro h
    have hdecode := localStateDecode_of_encode hpayload
    rw [localStateDecode_of_encode h.symm, Option.some.injEq] at hdecode
    exact hdecode.symm
  · rintro rfl
    exact hpayload.symm

/-- The root that the highest commit names. -/
def Current (A : TelemetryState) (d : Disk) (entries : List StorageEntry) (state : LocalState)
    (commitSha : Text) : Prop :=
  highestCommit entries = state.generation ∧
    ∃ commit, A.Root entries d state.generation commit state commitSha

theorem verifyCurrentRootFresh_ends {u : Unit} :
    A.verifyCurrentRootFresh.Ends A.host m d u m' d' ↔
      A.Granted m d ∧ m.loaded = true ∧ Current A d m.inventory m.state m.commitSha ∧
        m' = m ∧ d' = d := by
  simp only [verifyCurrentRootFresh, ends_bind, ends_fields, ends_require, loadRoot_ends]
  constructor
  · rintro ⟨a, m₁, d₁, ⟨rfl, rfl, rfl⟩, -, m₂, d₂, ⟨hok, rfl, rfl⟩, found, m₃, d₃,
      ⟨hgranted, ⟨commit, hroot⟩, rfl, rfl⟩, hsame, rfl, rfl⟩
    simp only [decide_eq_true_eq] at hok hsame
    obtain ⟨state, commitSha⟩ := found
    obtain ⟨rfl, hsame⟩ := hsame
    have hstate := (sameState_iff hroot.data.stateAt.encodes).mp hsame
    simp only at hstate
    subst hstate
    exact ⟨hgranted, hok.1, ⟨hok.2, commit, hroot⟩, rfl, rfl⟩
  · rintro ⟨hgranted, hloaded, ⟨hhighest, commit, hroot⟩, rfl, rfl⟩
    refine ⟨m', m', d', ⟨rfl, rfl, rfl⟩, (), m', d', ⟨?_, rfl, rfl⟩,
      (m'.state, m'.commitSha), m', d', ⟨hgranted, ⟨commit, hroot⟩, rfl, rfl⟩, ?_, rfl, rfl⟩
    · simp only [decide_eq_true_eq]
      exact ⟨hloaded, hhighest⟩
    · simp only [decide_eq_true_eq]
      exact ⟨trivial, (sameState_iff hroot.data.stateAt.encodes).mpr rfl⟩

/-- The member variables hold the root of a new inventory. -/
structure Fresh (A : TelemetryState) (m : Fields) (d : Disk) (b : Budget) : Prop where
  granted : A.Granted m d
  loaded : m.loaded = true
  ready : m.reloadRequired = false
  listed : Listed A d m.inventory b
  highest : m.highestObserved = b.highest
  current : Current A d m.inventory m.state m.commitSha

theorem freshOutboxRoot_ends {u : Unit} :
    A.freshOutboxRoot.Ends A.host m d u m' d' ↔
      (∃ b, Fresh A m' d b) ∧ m' = lists m m'.inventory m'.highestObserved ∧ d' = d := by
  simp only [freshOutboxRoot, ends_bind, guard_ends, ends_fields, ends_require,
    requireInventory_ends, verifyCurrentRootFresh_ends]
  constructor
  · rintro ⟨session, m₁, d₁, ⟨hgranted, -, hready, rfl, rfl⟩, a, m₂, d₂, ⟨rfl, rfl, rfl⟩, -, m₃, d₃,
      ⟨hloaded, rfl, rfl⟩, -, m₄, d₄, ⟨-, ⟨entries, b, hlisted, rfl⟩, rfl⟩, -, -,
      hcurrent, rfl, rfl⟩
    have hready' : m₁.reloadRequired = false := by simpa using hready
    exact ⟨⟨b, hgranted.lists entries b.highest, hloaded, hready', hlisted, rfl,
      hcurrent⟩, rfl, rfl⟩
  · rintro ⟨⟨b, hgranted, hloaded, hready, hlisted, hhighest, hcurrent⟩, hm, rfl⟩
    have hgranted' : A.Granted m d' := by
      rw [hm] at hgranted
      exact ⟨hgranted.isOpen, hgranted.session, hgranted.key, hgranted.identity⟩
    obtain ⟨session, hsession, -⟩ := hgranted'.session
    have hloaded' : m.loaded = true := by
      rw [hm] at hloaded
      exact hloaded
    have hready' : m.reloadRequired = false := by
      rw [hm] at hready
      exact hready
    refine ⟨session, m, d', ⟨hgranted', hsession, .inl hready', rfl, rfl⟩, m, m, d',
      ⟨rfl, rfl, rfl⟩, (),
      m, d', ⟨hloaded', rfl, rfl⟩, (), m', d', ⟨hgranted', ⟨m'.inventory, b, hlisted, ?_⟩, rfl⟩,
      hgranted, hloaded, hcurrent, rfl, rfl⟩
    rw [← hhighest]
    exact hm

/-- The member variables at the start of `Recover`. -/
def cleared (m : Fields) : Fields :=
  { m with
    loaded := false, emptyReady := false, state := .empty, commitSha := [],
    reloadRequired := false }

theorem recover_ends {loaded : Bool} :
    A.recover.Ends A.host m d loaded m' d' ↔
      A.Granted (cleared m) d ∧ d' = d ∧
        ((loaded = true ∧ ∃ entries b commit state commitSha, Listed A d entries b ∧
            highestCommit entries ≠ 0 ∧
            A.Root entries d (highestCommit entries) commit state commitSha ∧
            m' = { lists (cleared m) entries b.highest with
              state := state, commitSha := commitSha, loaded := true }) ∨
          (loaded = false ∧ ((∃ entries b, Listed A d entries b ∧ highestCommit entries = 0 ∧
              inventoryHasOnlyEmptyOwner entries = true ∧
              m' = { lists (cleared m) entries b.highest with emptyReady := true }) ∨
            (d.inventory A.sha = .ok none ∧
              m' = { lists (cleared m) [] 0 with emptyReady := true })))) := by
  simp only [recover, ends_bind, ends_fields, ends_require, ends_update, refreshInventory_ends]
  constructor
  · rintro ⟨a, m₁, d₁, ⟨rfl, rfl, rfl⟩, -, m₂, d₂, ⟨hopen, rfl, rfl⟩, -, m₃, d₃, ⟨rfl, rfl⟩, listed,
      m₄, d₄, ⟨hgranted, hcase, rfl⟩, a, m₅, d₅, ⟨rfl, rfl, rfl⟩, hrest⟩
    refine ⟨hgranted, ?_⟩
    rcases hcase with ⟨rfl, entries, b, hlisted, rfl⟩ | ⟨rfl, hnone, rfl⟩
    · by_cases hzero : highestCommit entries = 0
      · rw [if_neg (by simpa [lists] using hzero)] at hrest
        simp only [ends_bind, ends_require, ends_update, ends_pure] at hrest
        obtain ⟨-, m₆, d₆, ⟨hempty, rfl, rfl⟩, -, m₇, d₇, ⟨rfl, rfl⟩, rfl, rfl, rfl⟩ := hrest
        refine ⟨rfl, .inr ⟨rfl, .inl ⟨entries, b, hlisted, hzero, ?_, rfl⟩⟩⟩
        simpa [lists] using hempty
      · rw [if_pos (by simpa [lists] using hzero)] at hrest
        simp only [ends_bind, ends_update, ends_pure, loadRoot_ends] at hrest
        obtain ⟨found, m₆, d₆, ⟨-, ⟨commit, hroot⟩, rfl, rfl⟩, -, m₇, d₇, ⟨rfl, rfl⟩,
          rfl, rfl, rfl⟩ :=
          hrest
        exact ⟨rfl, .inl ⟨rfl, entries, b, commit, found.1, found.2, hlisted, hzero, hroot, rfl⟩⟩
    · rw [if_neg (by simp)] at hrest
      simp only [ends_bind, ends_require, ends_update, ends_pure] at hrest
      obtain ⟨-, m₆, d₆, ⟨-, rfl, rfl⟩, -, m₇, d₇, ⟨rfl, rfl⟩, rfl, rfl, rfl⟩ := hrest
      exact ⟨rfl, .inr ⟨rfl, .inr ⟨hnone, rfl⟩⟩⟩
  · rintro ⟨hgranted, rfl, hcase⟩
    have hopen : m.isOpen = true := hgranted.isOpen
    rcases hcase with ⟨rfl, entries, b, commit, state, commitSha, hlisted, hzero, hroot, rfl⟩ |
      ⟨rfl, ⟨entries, b, hlisted, hzero, hempty, rfl⟩ | ⟨hnone, rfl⟩⟩
    · refine ⟨m, m, d', ⟨rfl, rfl, rfl⟩, (), m, d', ⟨hopen, rfl, rfl⟩, (), cleared m, d',
        ⟨rfl, rfl⟩, true, _, d', ⟨hgranted, .inl ⟨rfl, entries, b, hlisted, rfl⟩, rfl⟩, _, _, d',
        ⟨rfl, rfl, rfl⟩, ?_⟩
      rw [if_pos (by simpa [lists] using hzero)]
      simp only [ends_bind, ends_update, ends_pure, loadRoot_ends]
      exact ⟨(state, commitSha), _, d', ⟨hgranted.lists _ _, ⟨commit, hroot⟩, rfl, rfl⟩, (), _, d',
        ⟨rfl, rfl⟩, trivial, rfl, rfl⟩
    · refine ⟨m, m, d', ⟨rfl, rfl, rfl⟩, (), m, d', ⟨hopen, rfl, rfl⟩, (), cleared m, d',
        ⟨rfl, rfl⟩, true, _, d', ⟨hgranted, .inl ⟨rfl, entries, b, hlisted, rfl⟩, rfl⟩, _, _, d',
        ⟨rfl, rfl, rfl⟩, ?_⟩
      rw [if_neg (by simpa [lists] using hzero)]
      simp only [ends_bind, ends_require, ends_update, ends_pure]
      exact ⟨(), _, d', ⟨by simpa [lists] using hempty, rfl, rfl⟩, (), _, d', ⟨rfl, rfl⟩,
        trivial, rfl, rfl⟩
    · refine ⟨m, m, d', ⟨rfl, rfl, rfl⟩, (), m, d', ⟨hopen, rfl, rfl⟩, (), cleared m, d',
        ⟨rfl, rfl⟩,
        false, _, d', ⟨hgranted, .inr ⟨rfl, hnone, rfl⟩, rfl⟩, _, _, d', ⟨rfl, rfl, rfl⟩, ?_⟩
      rw [if_neg (by simp)]
      simp only [ends_bind, ends_require, ends_update, ends_pure]
      exact ⟨(), _, d', ⟨rfl, rfl, rfl⟩, (), _, d', ⟨rfl, rfl⟩, trivial, rfl, rfl⟩

/-! ## They only read -/

/-- A program that leaves the records alone. -/
abbrev ReadOnly {α : Type} (p : Act α) : Prop := p.Only StorageCall.reads

theorem ReadOnly.visits {α : Type} {p : Act α} {d₁ : Disk} (h : ReadOnly p)
    (hvisit : p.Visits A.host m d d₁) : d₁ = d :=
  Only.visits h (Disk.host_reads A.sha) hvisit

theorem ReadOnly.ends {α : Type} {p : Act α} {a : α} (h : ReadOnly p)
    (hends : p.Ends A.host m d a m' d') : d' = d :=
  h.visits hends.visits

theorem readOnly_require (ok : Bool) (e : Status) : ReadOnly (require ok e) := only_require ok e

theorem readOnly_guard (allowReload : Bool) : ReadOnly (A.guard allowReload) := by
  refine only_bind only_fields fun m => only_bind (only_require _ _) fun _ => ?_
  cases m.session with
  | none => exact only_fail _
  | some session =>
    refine only_bind (only_require _ _) fun _ => only_bind (only_require _ _) fun _ => ?_
    exact only_bind ⟨trivial, fun _ => trivial⟩ fun _ =>
      only_bind (only_require _ _) fun _ => only_pure _

theorem readOnly_refreshInventory : ReadOnly A.refreshInventory := by
  refine only_bind (readOnly_guard true) fun session => only_bind (only_update _) fun _ =>
    only_bind ⟨trivial, fun _ => trivial⟩ fun o => ?_
  cases o with
  | none => exact only_bind (only_update _) fun _ => only_pure _
  | some entries =>
    refine only_bind (only_update _) fun _ => ?_
    cases storageBudget entries with
    | none => exact only_fail _
    | some b => exact only_bind (only_update _) fun _ => only_pure _

theorem readOnly_requireInventory : ReadOnly A.requireInventory :=
  only_bind readOnly_refreshInventory fun _ => only_require _ _

theorem readOnly_readExact (l : Locator) : ReadOnly (A.readExact l) :=
  only_bind (readOnly_guard true) fun _ => ⟨trivial, fun _ => trivial⟩

theorem readOnly_readFrame (l : Locator) : ReadOnly (A.readFrame l) := by
  refine only_bind (readOnly_readExact l) fun o => ?_
  cases o with
  | none => exact only_fail _
  | some bytes => exact only_pure _

theorem readOnly_readReferencePayload (r : LocalRef) : ReadOnly (A.readReferencePayload r) := by
  refine only_bind (readOnly_readExact _) fun o => ?_
  cases o with
  | none => exact only_pure _
  | some frame =>
    dsimp only
    cases localFrameMatches A.sha r frame with
    | none => exact only_fail _
    | some payload => exact only_pure _

theorem readOnly_readPresent (r : LocalRef) : ReadOnly (A.readPresent r) := by
  refine only_bind (readOnly_readReferencePayload r) fun o => ?_
  cases o with
  | none => exact only_fail _
  | some payload => exact only_pure _

theorem readOnly_readAckWitness (state : LocalState) : ReadOnly (A.readAckWitness state) := by
  refine only_bind only_fields fun m => only_bind (only_require _ _) fun _ => ?_
  split
  · refine only_bind (only_require _ _) fun _ => only_bind (readOnly_readExact _) fun o => ?_
    cases o with
    | none => exact only_fail _
    | some frame =>
      simp only
      split
      · exact only_fail _
      · exact only_bind (only_require _ _) fun _ => only_pure _
  · exact only_fail _

theorem readOnly_typedPayloadValid (r : LocalRef) (state : LocalState) (payload : Bytes)
    (e : Status) : ReadOnly (A.typedPayloadValid r state payload e) := by
  unfold typedPayloadValid
  split
  · split
    · exact only_bind (only_mapFail (readOnly_readAckWitness state)) fun _ => only_require _ _
    · exact only_require _ _
  · exact only_require _ _
  · exact only_require _ _
  · exact only_require _ _
  · exact only_require _ _
  · exact only_fail _

theorem readOnly_verifyTypedReference (r : LocalRef) (state : LocalState) :
    ReadOnly (A.verifyTypedReference r state) :=
  only_bind (readOnly_readPresent r) fun _ => readOnly_typedPayloadValid _ _ _ _

theorem readOnly_verifyTypedReferences (state : LocalState) (refs : List LocalRef) :
    ReadOnly (A.verifyTypedReferences state refs) := by
  induction refs with
  | nil => exact only_pure _
  | cons r rest ih => exact only_bind (readOnly_verifyTypedReference r state) fun _ => ih

theorem readOnly_verifyOptional (r : LocalRef) (state : LocalState) :
    ReadOnly (A.verifyOptional r state) := by
  unfold verifyOptional
  split
  · exact only_pure _
  · exact readOnly_verifyTypedReference r state

theorem readOnly_readCommitMetadata (generation : Nat) :
    ReadOnly (A.readCommitMetadata generation) := by
  refine only_bind (only_mapFail (readOnly_readFrame _)) fun frame => ?_
  split
  · split
    · exact only_bind (only_require _ _) fun _ => only_pure _
    · exact only_fail _
  · exact only_fail _

theorem readOnly_readStateMetadata (generation : Nat) (stateSha : Text) :
    ReadOnly (A.readStateMetadata generation stateSha) := by
  refine only_bind (only_mapFail (readOnly_readFrame _)) fun frame => ?_
  split
  · split
    · exact only_bind (only_require _ _) fun _ => only_pure _
    · exact only_fail _
  · exact only_fail _

theorem readOnly_loadRoot (generation : Nat) : ReadOnly (A.loadRoot generation) := by
  refine only_bind (readOnly_readCommitMetadata generation) fun p =>
    only_bind (readOnly_readStateMetadata generation _) fun state =>
      only_bind (only_require _ _) fun _ => only_bind (only_require _ _) fun _ =>
        only_bind (only_mapFail ?_) fun _ => only_pure _
  exact only_bind (readOnly_verifyTypedReference _ _) fun _ =>
    only_bind (readOnly_verifyTypedReference _ _) fun _ =>
      only_bind (readOnly_verifyTypedReferences _ _) fun _ =>
        only_bind (readOnly_verifyOptional _ _) fun _ => readOnly_verifyOptional _ _

theorem readOnly_verifyCurrentRootFresh : ReadOnly A.verifyCurrentRootFresh :=
  only_bind only_fields fun _ => only_bind (only_require _ _) fun _ =>
    only_bind (readOnly_loadRoot _) fun _ => only_require _ _

theorem readOnly_freshOutboxRoot : ReadOnly A.freshOutboxRoot :=
  only_bind (readOnly_guard false) fun _ => only_bind only_fields fun _ =>
    only_bind (only_require _ _) fun _ => only_bind readOnly_requireInventory fun _ =>
      readOnly_verifyCurrentRootFresh

theorem readOnly_recover : ReadOnly A.recover := by
  refine only_bind only_fields fun _ => only_bind (only_require _ _) fun _ =>
    only_bind (only_update _) fun _ => only_bind readOnly_refreshInventory fun listed =>
      only_bind only_fields fun m => ?_
  split
  · exact only_bind (readOnly_loadRoot _) fun _ => only_bind (only_update _) fun _ => only_pure _
  · exact only_bind (only_require _ _) fun _ => only_bind (only_update _) fun _ => only_pure _

theorem readOnly_reload : ReadOnly A.reload :=
  only_bind (only_update _) fun _ => only_bind readOnly_recover fun _ => only_require _ _

end TelemetryState

end TradeOps.Agent
