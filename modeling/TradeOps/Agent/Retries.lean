import TradeOps.Agent.Appending

/-!
# Repeated calls of Append

`Append` takes every valid batch that fits, unless the state before calls itself complete. A batch
that was appended is found again until it is acknowledged, whatever is called in between, so a call
whose answer was lost may be repeated.
-/

namespace TradeOps.Agent

open Prog TelemetryState

variable {A : TelemetryState} {m m' : Fields} {d d' : Disk} {current next : Generation}
  {rest hist : List Generation} {b : Batch}

/-! ## One call -/

/-- The object is loaded, with the root of the store, and the storage grants its session. -/
structure HoldsRoot (A : TelemetryState) (m : Fields) (d : Disk) : Prop where
  granted : A.Granted m d
  loaded : m.loaded = true
  ready : m.reloadRequired = false
  current : Current A d (d.entries A.sha) m.state m.commitSha

theorem HoldsRoot.atRoot (h : HoldsRoot A m d) (hlive : Live A d (current :: rest)) :
    AtRoot A (lists m (d.entries A.sha) d.highest) d current := by
  have hfresh : Fresh A (lists m (d.entries A.sha) d.highest) d
      ⟨d.total, d.files.length, d.highest⟩ :=
    ⟨h.granted.lists _ _, h.loaded, h.ready, hlive.listed, rfl, h.current⟩
  exact hfresh.atRoot hlive

theorem AtRoot.holdsRoot (h : AtRoot A m d current) (hlive : Live A d (current :: rest)) :
    HoldsRoot A m d := by
  refine ⟨h.granted, h.loaded, h.ready, ?_⟩
  rw [h.state, h.commitSha]
  exact hlive.currentRoot

theorem HoldsRoot.of_fresh {u : Unit} (hlive : Live A d (current :: rest))
    (h : A.freshOutboxRoot.Ends A.host m d u m' d') : HoldsRoot A m d := by
  obtain ⟨⟨budget, hfresh⟩, hlists, -⟩ := freshOutboxRoot_ends.mp h
  have hholds := (hfresh.atRoot hlive).holdsRoot hlive
  rw [hlists] at hholds
  have hgranted := hholds.granted
  exact ⟨⟨hgranted.isOpen, hgranted.session, hgranted.key, hgranted.identity⟩, hholds.loaded,
    hholds.ready, hholds.current⟩

def Batch.append (b : Batch) (A : TelemetryState) : Act (List Nat) :=
  A.append b.candidates b.arena b.ends b.capture b.captureSchema

/-- What `Append` does after its checks. -/
def Batch.conclude (b : Batch) (A : TelemetryState) (m : Fields) (replay : Replay) :
    Act (List Nat) :=
  if replay.prefixCount = b.candidates.length ∧ b.candidates ≠ [] then do
    let same ← A.currentCaptureMatches b.capture b.captureSchema
    require same .conflict
    pure (((m.state.events.drop (replay.replayStart.getD 0)).take b.candidates.length).map
      (·.sequence))
  else A.appendNew replay b.capture b.captureSchema

/-- What `Append` has checked of a batch, and what its loop has found. -/
structure Batch.Checked (b : Batch) (A : TelemetryState) (m : Fields) (d : Disk)
    (replay : Replay) : Prop where
  schema : identifier b.captureSchema = true
  count : b.candidates.length ≤ maxBatch ∧ b.ends.length = b.candidates.length
  loop : (A.appendLoop b.arena (b.candidates.zip b.ends) ⟨0, 0, none, false, []⟩).Ends A.host
    m d replay m d
  arena : replay.previous = b.arena.length
  advance : ∃ previous, A.payloadAt d m.state.capture = some previous ∧
    A.validator.captureAdvance previous m.state.captureSchema b.capture b.captureSchema
      A.identity = true

theorem append_ends {result : List Nat} (hlive : Live A d (current :: rest)) :
    (b.append A).Ends A.host m d result m' d' ↔
      HoldsRoot A m d ∧ ∃ replay,
        b.Checked A (lists m (d.entries A.sha) d.highest) d replay ∧
        (b.conclude A (lists m (d.entries A.sha) d.highest) replay).Ends A.host
          (lists m (d.entries A.sha) d.highest) d result m' d' := by
  constructor
  · intro h
    simp only [Batch.append, append, ends_bind] at h
    obtain ⟨session, m₁, d₁, hguard, a, m₂, d₂, hfields, u, m₃, d₃, hchecks, u₁, m₄, d₄, hlisted,
      u₂, m₅, d₅, hverify, u₃, m₆, d₆, hcounts, replay, m₇, d₇, hloop, u₄, m₈, d₈, hsize,
      a', m₉, d₉, hfields', previous, m₁₀, d₁₀, hprevious, u₅, m₁₁, d₁₁, hnext, hlast⟩ := h
    obtain ⟨hgranted, -, hready, rfl, rfl⟩ := guard_ends.mp hguard
    obtain ⟨rfl, rfl, rfl⟩ := ends_fields.mp hfields
    obtain ⟨hok, rfl, rfl⟩ := ends_require.mp hchecks
    obtain ⟨-, ⟨entries, budget, hentries, rfl⟩, rfl⟩ := requireInventory_ends.mp hlisted
    obtain ⟨-, -, hcurrent, rfl, rfl⟩ := verifyCurrentRootFresh_ends.mp hverify
    obtain ⟨hcount, rfl, rfl⟩ := ends_require.mp hcounts
    obtain ⟨harena, rfl, rfl⟩ := ends_require.mp hsize
    obtain ⟨rfl, rfl, rfl⟩ := ends_fields.mp hfields'
    obtain ⟨-, hpayload, rfl, rfl⟩ := readPresent_ends.mp hprevious
    obtain ⟨hadvance, rfl, rfl⟩ := ends_require.mp hnext
    obtain ⟨-, rfl, rfl⟩ := (listed_iff hlive.sound).mp hentries
    obtain rfl := (readOnly_appendLoop _ _ _).ends hloop
    obtain ⟨rfl, -⟩ := appendLoop_ends (fun p hp => absurd hp List.not_mem_nil) hloop
    simp only [decide_eq_true_eq] at hok hcount harena
    refine ⟨⟨hgranted, hok.1, by simpa using hready, hcurrent⟩, replay,
      ⟨hok.2, hcount, hloop, harena, previous, hpayload, hadvance⟩, hlast⟩
  · rintro ⟨hholds, replay, hchecked, hlast⟩
    simp only [Batch.append, append, ends_bind, guard_ends, ends_fields, ends_require,
      requireInventory_ends, verifyCurrentRootFresh_ends, readPresent_ends]
    obtain ⟨session, hsession, -⟩ := hholds.granted.session
    obtain ⟨previous, hpayload, hadvance⟩ := hchecked.advance
    have hlisted := hlive.listed
    refine ⟨session, m, d, ⟨hholds.granted, hsession, .inl hholds.ready, rfl, rfl⟩, m, m, d,
      ⟨rfl, rfl, rfl⟩, (), m, d, ⟨?_, rfl, rfl⟩, (), _, d,
      ⟨hholds.granted, ⟨_, _, hlisted, rfl⟩, rfl⟩, (), _, d,
      ⟨hholds.granted.lists _ _, hholds.loaded, hholds.current, rfl, rfl⟩, (), _, d,
      ⟨?_, rfl, rfl⟩, replay, _, d, hchecked.loop, (), _, d, ⟨?_, rfl, rfl⟩, _, _, d,
      ⟨rfl, rfl, rfl⟩, previous, _, d, ⟨hholds.granted.lists _ _, hpayload, rfl, rfl⟩, (), _, d,
      ⟨hadvance, rfl, rfl⟩, hlast⟩
    · rw [decide_eq_true_eq]
      exact ⟨hholds.loaded, hchecked.schema⟩
    · rw [decide_eq_true_eq]
      exact hchecked.count
    · rw [decide_eq_true_eq]
      exact hchecked.arena

/-! ## New events -/

/-- The state with the events and the capture of a batch. -/
def Batch.appended (b : Batch) (m : Fields) (staged : List (LocalRef × StoredRecord))
    (captureSha : Text) : LocalState :=
  appendedState m staged b.candidates.length captureSha b.captureSchema

/-- The objects of a batch. -/
def Batch.objects (b : Batch) (m : Fields) (staged : List (LocalRef × StoredRecord))
    (captureFrame : Bytes) : List StoredRecord :=
  staged.map Prod.snd ++
    [⟨objectLocator (m.highestObserved + 1) (b.candidates.length + 1), captureFrame⟩]

/-- What is made of a batch. -/
structure Batch.Staged (b : Batch) (A : TelemetryState) (m : Fields)
    (staged : List (LocalRef × StoredRecord)) (captureFrame : Bytes) (captureSha : Text) :
    Prop where
  events : b.events.zipIdx.mapM (A.stageEvent (m.highestObserved + 1) m.state.produced) =
    some staged
  capture : A.makeFrame checkpointKind (m.highestObserved + 1) b.capture =
    some (captureFrame, captureSha)

theorem Batch.New.loop (hnew : b.New A m.state) :
    ∃ sawNew, (A.appendLoop b.arena (b.candidates.zip b.ends) ⟨0, 0, none, false, []⟩).Ends A.host
      m d ⟨b.arena.length, 0, none, sawNew, b.events⟩ m d := by
  apply appendLoop_new hnew.ends
  · exact hnew.cuts
  · exact hnew.valid
  · exact hnew.fresh
  · exact fun c _ p hp => absurd hp List.not_mem_nil
  · exact hnew.distinct

theorem conclude_new {result : List Nat} {sawNew : Bool} (hsound : b.Sound A) :
    (b.conclude A m ⟨b.arena.length, 0, none, sawNew, b.events⟩).Ends A.host m d result m' d' ↔
      m.state.events.length + b.candidates.length ≤ maxEvents ∧ m.highestObserved < maxCounter ∧
        ∃ staged captureFrame captureSha, b.Staged A m staged captureFrame captureSha ∧
          (A.publish .append (b.appended m staged captureSha)
            (b.objects m staged captureFrame)).Ends A.host m d () m' d' ∧
          result = staged.map (·.1.sequence) := by
  have hlength := hsound.length
  have hnot : ¬ (0 = b.candidates.length ∧ b.candidates ≠ []) := by
    rintro ⟨hzero, hne⟩
    exact hne (List.eq_nil_of_length_eq_zero hzero.symm)
  rw [Batch.conclude, if_neg hnot]
  simp only [appendNew, ends_bind, ends_fields, ends_require, List.drop_zero, Option.getD_none,
    List.take_zero, List.nil_append, hlength]
  constructor
  · rintro ⟨a, m₁, d₁, ⟨rfl, rfl, rfl⟩, -, m₂, d₂, ⟨-, rfl, rfl⟩, -, m₃, d₃, ⟨hevents, rfl, rfl⟩, -,
      m₄, d₄, ⟨hgeneration, rfl, rfl⟩, hmatch⟩
    simp only [decide_eq_true_eq] at hevents hgeneration
    split at hmatch
    next staged captureFrame captureSha hstaged hcapture =>
      obtain ⟨u, m₅, d₅, hpublish, hpure⟩ := ends_bind.mp hmatch
      obtain ⟨rfl, rfl, rfl⟩ := ends_pure.mp hpure
      refine ⟨hevents, hgeneration, staged, captureFrame, captureSha, ⟨hstaged, hcapture⟩,
        hpublish, ?_⟩
      rw [List.map_map]
      rfl
    next => exact absurd hmatch ends_fail
  · rintro ⟨hevents, hgeneration, staged, captureFrame, captureSha, hstaged, hpublish, rfl⟩
    refine ⟨m, m, d, ⟨rfl, rfl, rfl⟩, (), m, d, ⟨by simp, rfl, rfl⟩, (), m, d,
      ⟨decide_eq_true hevents, rfl, rfl⟩, (), m, d, ⟨decide_eq_true hgeneration, rfl, rfl⟩, ?_⟩
    rw [hstaged.events, hstaged.capture]
    refine ends_bind.mpr ⟨(), m', d', hpublish, ends_pure.mpr ⟨?_, rfl, rfl⟩⟩
    rw [List.map_map]
    rfl

theorem Batch.Staged.records {staged : List (LocalRef × StoredRecord)} {captureFrame : Bytes}
    {captureSha : Text} (hstaged : b.Staged A m staged captureFrame captureSha)
    (hsha : A.sha.NonZero) (hsound : b.Sound A) (hgeneration : m.highestObserved < maxCounter) :
    NewRecords A m b staged captureSha := by
  have hcounter : counter (m.highestObserved + 1) 1 = true := by
    simp only [counter, decide_eq_true_eq]
    omega
  obtain ⟨staged', hmade, hall, hsequences, hordinals⟩ :=
    stageEvents_exist hsha m.state.produced 0 hcounter hsound.size
  rw [hstaged.events, Option.some.injEq] at hmade
  subst hmade
  rw [hsound.length] at hsequences hordinals
  refine ⟨hall, hsequences, hordinals, ?_⟩
  have hcapture := hstaged.capture
  simp only [makeFrame, Option.bind_eq_bind, Option.bind_eq_some_iff, Option.some.injEq,
    Prod.mk.injEq] at hcapture
  obtain ⟨frame, -, sha, hhash, -, rfl⟩ := hcapture
  exact (Disk.localHash_some hhash).2.2

theorem Batch.Staged.exists (hsha : A.sha.NonZero) (hsound : b.Sound A)
    (hgeneration : m.highestObserved < maxCounter)
    (hcapture : 1 ≤ b.capture.length ∧ b.capture.length ≤ payloadMax) :
    ∃ staged captureFrame captureSha, b.Staged A m staged captureFrame captureSha := by
  have hcounter : counter (m.highestObserved + 1) 1 = true := by
    simp only [counter, decide_eq_true_eq]
    omega
  obtain ⟨staged, hmade, -⟩ :=
    stageEvents_exist hsha m.state.produced 0 hcounter hsound.size
  have hkind : recordKind checkpointKind = true := by decide
  obtain ⟨frame, sha, hframe, -⟩ := makeFrame_exists hsha hkind hcounter hcapture
  exact ⟨staged, frame, sha, hmade, hframe⟩

section Publishing

variable {staged : List (LocalRef × StoredRecord)} {captureFrame : Bytes} {captureSha : Text}
  (hlive : Live A d (current :: rest)) (hroot : AtRoot A m d current) (hv : A.validator.Stable)
  (hsound : b.Sound A) (hstaged : b.Staged A m staged captureFrame captureSha)
  (hrecords : NewRecords A m b staged captureSha)
include hsound hrecords

theorem NewRecords.follows : Follows m .append (b.appended m staged captureSha) := by
  have hlength : staged.length = b.candidates.length := by
    rw [← hrecords.events.length_eq, hsound.length]
  have hbase := Follows.append (m := m) (staged.map Prod.fst)
    (makeRef .capture (m.highestObserved + 1) (b.candidates.length + 1) captureSha)
    b.captureSchema (by
      intro r hr
      obtain ⟨q, hq, rfl⟩ := List.mem_map.mp hr
      obtain ⟨p, -, hevent⟩ := exists_of_forall₂ hrecords.events hq
      exact hevent.generation) rfl
  rw [List.length_map, hlength] at hbase
  exact hbase

include hlive hroot hv hstaged

theorem NewRecords.stagedObjects
    (hok : A.validator.capture b.capture b.captureSchema A.identity = true)
    (hvalid : localStateValid (b.appended m staged captureSha) = true) :
    TelemetryState.Staged A d (b.appended m staged captureSha)
      (b.objects m staged captureFrame) := by
  have hfollows := hrecords.follows hsound
  have hlength := hsound.length
  rw [Batch.appended, ← hlength] at hfollows hvalid ⊢
  rw [Batch.objects, ← hlength]
  exact staged_append hlive hroot hv hstaged.events hstaged.capture
    (fun p hp => (hsound.valid p hp).event) hok hfollows hvalid

omit hlive hroot hv hsound hstaged hrecords in
/-- The records of a batch: its objects, the state and the commit. -/
def Batch.records (b : Batch) (A : TelemetryState) (m : Fields) : Option (List StoredRecord) := do
  let staged ← b.events.zipIdx.mapM (A.stageEvent (m.highestObserved + 1) m.state.produced)
  let (captureFrame, captureSha) ← A.makeFrame checkpointKind (m.highestObserved + 1) b.capture
  A.publication .append (b.appended m staged captureSha) m.commitSha m.state.generation
    m.state.registration.sha (b.objects m staged captureFrame)

omit hlive hroot hv hsound hrecords in
theorem Batch.Staged.records_eq :
    b.records A m = A.publication .append (b.appended m staged captureSha) m.commitSha
      m.state.generation m.state.registration.sha (b.objects m staged captureFrame) := by
  rw [Batch.records, hstaged.events, hstaged.capture]
  rfl

end Publishing

/-- The events of a batch stand one after the other in the state, under these sequences. -/
def Remembers (A : TelemetryState) (d : Disk) (b : Batch) (sequences : List Nat)
    (state : LocalState) : Prop :=
  ∃ start stored more, state.events.drop start = stored ++ more ∧
    List.Forall₂ (Retains A d) b.events stored ∧ stored.map (·.sequence) = sequences

/-- The capture of a batch is the one that the state names. -/
structure Captured (A : TelemetryState) (d : Disk) (b : Batch) (state : LocalState) : Prop where
  payload : A.payloadAt d state.capture = some b.capture
  schema : state.captureSchema = b.captureSchema

theorem digest_of_root {generation : Nat} {commit : LocalCommit} {state : LocalState}
    {commitSha : Text} (h : A.Metadata d generation commit state commitSha) :
    digest commitSha = true ∧ digest state.registration.sha = true := by
  obtain ⟨-, f, payload, -, hhash, -⟩ := h.commitAt
  have hregistration := registrationValid_of_valid h.stateAt.valid
  simp only [localRefValid, decide_eq_true_eq] at hregistration
  exact ⟨(Disk.localHash_some hhash).2.2, hregistration.2.2.1⟩

/-- From the root, a batch that fits is published, unless it has events and the state calls itself
complete. -/
theorem AtRoot.conclude_new (sawNew : Bool) (hroot : AtRoot A m d current)
    (hlive : Live A d (current :: rest)) (hv : A.validator.Stable) (hsha : A.sha.NonZero)
    (hnew : b.New A m.state) (hroom : b.Room m.state m.highestObserved)
    (hcapture : 1 ≤ b.capture.length ∧ b.capture.length ≤ payloadMax)
    (hschema : identifier b.captureSchema = true)
    (hok : A.validator.capture b.capture b.captureSchema A.identity = true)
    (hcompleteness : m.state.completeness = .upToDate → b.candidates = [])
    (hpreflight : ∀ records, b.records A m = some records →
      storagePreflight (d.entries A.sha) .append (records.map fun f => f.bytes.length).sum
        records.length = true)
    (hdistinct : ∀ records, b.records A m = some records →
      Disk.Distinct A.sha (d.createMany records).written) :
    ∃ next m' d', (b.conclude A m ⟨b.arena.length, 0, none, sawNew, b.events⟩).Ends A.host m d
        (List.range' (m.state.produced + 1) b.candidates.length) m' d' ∧
      Live A d' (next :: current :: rest) ∧ AtRoot A m' d' next ∧ Captured A d' b next.state ∧
      Remembers A d' b (List.range' (m.state.produced + 1) b.candidates.length) next.state := by
  have hsound := hnew.toSound
  have hstate : localStateValid m.state = true := by
    rw [hroot.state]
    exact hlive.lineage.valid List.mem_cons_self
  have hgeneration : m.state.generation ≤ m.highestObserved := by
    rw [hroot.state, hroot.highest]
    exact hlive.generation_le List.mem_cons_self
  have hstands := hlive.current rfl
  obtain ⟨hcommit, hregistration⟩ := digest_of_root hstands.data
  rw [← hroot.commitSha] at hcommit
  rw [← hroot.state] at hregistration
  obtain ⟨staged, captureFrame, captureSha, hstaged⟩ :=
    Batch.Staged.exists hsha hsound hroom.generation hcapture
  have hrecords := hstaged.records hsha hsound hroom.generation
  have hfollows := hrecords.follows hsound
  have hvalid : localStateValid (b.appended m staged captureSha) = true :=
    hrecords.stateValid hnew hroom hstate hgeneration hcommit hschema hcompleteness
  have hpositive := counter_generation hstate
  simp only [counter, decide_eq_true_eq] at hpositive
  have hparent : 1 ≤ m.state.generation ∧
      m.state.generation < (b.appended m staged captureSha).generation := by
    refine ⟨hpositive.1, ?_⟩
    show m.state.generation < m.highestObserved + 1
    omega
  have hmade : ∃ records, A.publication .append (b.appended m staged captureSha) m.commitSha
      m.state.generation m.state.registration.sha (b.objects m staged captureFrame) =
        some records :=
    publication_exists hsha hvalid (by decide) hparent hcommit hregistration
  obtain ⟨records, hpublication⟩ := hmade
  have hmade : b.records A m = some records := by rw [hstaged.records_eq, hpublication]
  have hpublishes : Publishes A m .append (b.appended m staged captureSha)
      (b.objects m staged captureFrame) records := by
    refine ⟨by decide, hroot.loaded, ?_, hpublication, ?_⟩
    · show m.state.identity = A.identity
      exact hroot.granted.identity hroot.loaded
    · rw [hroot.inventory]
      exact hpreflight records hmade
  have hobjects := hrecords.stagedObjects hlive hroot hv hsound hstaged hok
  obtain ⟨next, m', hnext, -, hlive', hat, hends⟩ := publish_next hlive hroot hfollows hobjects
    hpublishes (hdistinct records hmade)
  refine ⟨next, m', _, (TradeOps.Agent.conclude_new hsound).mpr ⟨hroom.events, hroom.generation,
    staged, captureFrame, captureSha, hstaged, hends, hrecords.sequences.symm⟩, hlive', hat, ?_⟩
  -- The new records are found under their references.
  obtain ⟨s, c, commit, commitSha, hsealed, rfl⟩ := publication_some hpublication
  have hfree := records_free hroot hfollows (hobjects hvalid) hsealed
  have hfind : ∀ f ∈ b.objects m staged captureFrame,
      (d.createMany (b.objects m staged captureFrame ++ [s, c])).find f.locator = some f :=
    fun f hf => Disk.find_createMany_of_mem hfree (List.mem_append_left _ hf)
  have hevents : next.state.events.drop m.state.events.length = staged.map Prod.fst := by
    rw [hnext]
    exact List.drop_left' rfl
  rw [hnext] at hevents ⊢
  refine ⟨⟨?_, rfl⟩, m.state.events.length, staged.map Prod.fst, [], ?_, ?_, ?_⟩
  · have hframed : Framed A checkpointKind
        ⟨objectLocator (m.highestObserved + 1) (b.candidates.length + 1), captureFrame⟩ b.capture
        captureSha := framed_of_makeFrame hstaged.capture
    have hat := hfind _ (List.mem_append_right _ (List.mem_singleton_self _))
    show (Disk.find _ (objectLocator (m.highestObserved + 1)
      (b.candidates.length + 1))).bind _ = _
    rw [hat]
    exact hframed.frameMatches (capture_of_valid hvalid).1.valid rfl rfl rfl
  · rw [hevents, List.append_nil]
  · rw [List.forall₂_map_right_iff]
    refine List.forall₂_iff_zip.mpr ⟨hrecords.events.length_eq, fun {p q} hpq => ?_⟩
    have hevent := (List.forall₂_iff_zip.mp hrecords.events).2 hpq
    have hq : q ∈ staged := (List.of_mem_zip hpq).2
    have hplace : refLocator q.1 = q.2.locator := by
      rw [refLocator_of_object (.inr (.inl hevent.kind)), hevent.place, hevent.generation]
    refine ⟨hevent.eventId, hevent.recordSha, hevent.dealId, hevent.revision, ?_⟩
    rw [payloadAt, hplace, hfind q.2 (List.mem_append_left _ (List.mem_map_of_mem hq))]
    apply hevent.framed.frameMatches (hrecords.valid hnew hroom hq)
    · rw [hevent.kind]
      rfl
    · rw [hevent.place, hevent.generation]
      rfl
    · rfl
  · rw [List.map_map]
    exact hrecords.sequences

/-- The records of a batch have new places. -/
theorem NewRecords.free {staged : List (LocalRef × StoredRecord)} {captureFrame : Bytes}
    {captureSha : Text} (hlive : Live A d (current :: rest)) (hroot : AtRoot A m d current)
    (hv : A.validator.Stable) (hsound : b.Sound A)
    (hstaged : b.Staged A m staged captureFrame captureSha)
    (hrecords : NewRecords A m b staged captureSha)
    (hok : A.validator.capture b.capture b.captureSchema A.identity = true) :
    ∀ records, A.publication .append (b.appended m staged captureSha) m.commitSha
      m.state.generation m.state.registration.sha (b.objects m staged captureFrame) =
        some records → d.Free records := by
  intro records hpublication
  have hobjects := hrecords.stagedObjects hlive hroot hv hsound hstaged hok
  obtain ⟨s, c, commit, commitSha, hsealed, rfl⟩ := publication_some hpublication
  exact records_free hroot (hrecords.follows hsound) (hobjects hsealed.valid) hsealed

/-- What is published is written. -/
theorem NewRecords.publish_writes {staged : List (LocalRef × StoredRecord)} {captureFrame : Bytes}
    {captureSha : Text} {u : Unit} (hlive : Live A d (current :: rest))
    (hroot : AtRoot A m d current) (hv : A.validator.Stable) (hsound : b.Sound A)
    (hstaged : b.Staged A m staged captureFrame captureSha)
    (hrecords : NewRecords A m b staged captureSha)
    (hok : A.validator.capture b.capture b.captureSchema A.identity = true)
    (h : (A.publish .append (b.appended m staged captureSha)
      (b.objects m staged captureFrame)).Ends A.host m d u m' d') : d' ≠ d := by
  obtain ⟨records, hpublishes, -, rfl, -⟩ := publish_ends hroot.granted hroot.ready
    (hrecords.free hlive hroot hv hsound hstaged hok) h
  obtain ⟨s, c, commit, commitSha, -, rfl⟩ := publication_some hpublishes.publication
  intro heq
  have hlength := congrArg (fun d : Disk => d.written.length) heq
  simp [Disk.createMany] at hlength

/-- What is published is valid. -/
theorem publish_valid {t : Transition} {candidate : LocalState} {objects : List StoredRecord}
    {u : Unit} (h : (A.publish t candidate objects).Ends A.host m d u m' d') :
    localStateValid candidate = true := by
  simp only [publish, ends_bind, ends_fields, ends_require] at h
  obtain ⟨a, m₁, d₁, ⟨rfl, rfl, rfl⟩, -, m₂, d₂, ⟨-, rfl, rfl⟩, -, m₃, d₃, ⟨-, rfl, rfl⟩, h⟩ := h
  split at h
  next => exact absurd h ends_fail
  next records hpublication =>
    obtain ⟨s, c, commit, commitSha, hsealed, -⟩ := publication_some hpublication
    exact hsealed.valid

/-! ## The same batch again -/

/-- The stored capture is read, so the comparison has an answer. -/
theorem currentCaptureMatches_ends (hroot : AtRoot A m d current)
    (hlive : Live A d (current :: rest)) {same : Bool} :
    (A.currentCaptureMatches b.capture b.captureSchema).Ends A.host m d same m' d' ↔
      (same = true ↔ Captured A d b m.state) ∧ m' = m ∧ d' = d := by
  have hmem : m.state.capture ∈ rootRefs current.state := by
    rw [hroot.state]
    exact List.mem_cons_of_mem _ (mem_objectRefs.mpr (.inl rfl))
  obtain ⟨payload, hpayload, -⟩ := (hlive.current rfl).refs _ hmem
  simp only [currentCaptureMatches, ends_bind, ends_fields]
  constructor
  · rintro ⟨m₁, m₂, d₂, ⟨rfl, rfl, rfl⟩, h⟩
    split at h
    next hschema =>
      obtain ⟨rfl, rfl, rfl⟩ := ends_pure.mp h
      exact ⟨⟨fun hfalse => absurd hfalse Bool.false_ne_true,
        fun hcaptured => absurd hcaptured.schema hschema⟩, rfl, rfl⟩
    next hschema =>
      simp only [ends_bind, readPresent_ends] at h
      obtain ⟨stored, m₃, d₃, ⟨-, hstored, rfl, rfl⟩, hpure⟩ := h
      obtain ⟨rfl, rfl, rfl⟩ := ends_pure.mp hpure
      refine ⟨⟨fun hsame => ?_, fun hcaptured => ?_⟩, rfl, rfl⟩
      · rw [of_decide_eq_true hsame] at hstored
        exact ⟨hstored, not_not.mp hschema⟩
      · exact decide_eq_true (Option.some.inj (hstored.symm.trans hcaptured.payload))
  · rintro ⟨hsame, rfl, rfl⟩
    refine ⟨m', m', d', ⟨rfl, rfl, rfl⟩, ?_⟩
    split
    next hschema =>
      refine ends_pure.mpr ⟨?_, rfl, rfl⟩
      rw [eq_comm, Bool.eq_false_iff]
      exact fun htrue => hschema (hsame.mp htrue).schema
    next hschema =>
      simp only [ends_bind, readPresent_ends]
      refine ⟨payload, m', d', ⟨hroot.granted, hpayload, rfl, rfl⟩, ends_pure.mpr ⟨?_, rfl, rfl⟩⟩
      rw [Bool.eq_iff_iff, hsame, decide_eq_true_eq]
      constructor
      · rintro rfl
        exact ⟨hpayload, not_not.mp hschema⟩
      · intro hcaptured
        exact Option.some.inj (hpayload.symm.trans hcaptured.payload)

/-- A batch that the state remembers is found. Nothing is published: the call returns its sequences
if the stored capture is that of the batch, and ends with an error otherwise. -/
theorem AtRoot.conclude_again {sequences : List Nat} (hroot : AtRoot A m d current)
    (hlive : Live A d (current :: rest)) (hsound : b.Sound A) (hne : b.candidates ≠ [])
    (hremembers : Remembers A d b sequences m.state) :
    ∃ replay, (A.appendLoop b.arena (b.candidates.zip b.ends) ⟨0, 0, none, false, []⟩).Ends A.host
        m d replay m d ∧ replay.previous = b.arena.length ∧
      ∀ {result m' d'}, (b.conclude A m replay).Ends A.host m d result m' d' ↔
        Captured A d b m.state ∧ result = sequences ∧ m' = m ∧ d' = d := by
  have hstate : localStateValid m.state = true := by
    rw [hroot.state]
    exact hlive.lineage.valid List.mem_cons_self
  obtain ⟨start, stored, more, hdrop, hstored, hsequences⟩ := hremembers
  obtain ⟨final, hloop, hmatched, hprevious, haccepted⟩ :=
    appendLoop_stored hroot.granted hstate
      (show Matched start ⟨0, 0, none, false, []⟩ from ⟨rfl, rfl, rfl⟩) hsound.ends hsound.cuts
      hsound.valid hdrop hstored (fun c _ p hp => absurd hp List.not_mem_nil) hsound.distinct
  rw [List.nil_append] at haccepted
  have hlength : final.accepted.length = b.candidates.length := by
    rw [haccepted]
    exact hsound.length
  have hall : final.prefixCount = b.candidates.length := by
    rw [hmatched.prefixCount, hlength]
  have hstart : final.replayStart = some start := by
    rw [hmatched.replayStart, if_neg]
    intro hnil
    rw [hnil] at hlength
    exact hne (List.eq_nil_of_length_eq_zero hlength.symm)
  have htake : (m.state.events.drop start).take b.candidates.length = stored := by
    rw [hdrop]
    apply List.take_left'
    rw [← hstored.length_eq, hsound.length]
  refine ⟨final, hloop, hprevious, ?_⟩
  intro result m' d'
  rw [Batch.conclude, if_pos ⟨hall, hne⟩, hstart, Option.getD_some, htake, hsequences]
  simp only [ends_bind, currentCaptureMatches_ends hroot hlive, ends_require]
  constructor
  · rintro ⟨same, m₁, d₁, ⟨hsame, rfl, rfl⟩, u, m₂, d₂, ⟨htrue, rfl, rfl⟩, hpure⟩
    obtain ⟨rfl, rfl, rfl⟩ := ends_pure.mp hpure
    exact ⟨hsame.mp htrue, rfl, rfl, rfl⟩
  · rintro ⟨hcaptured, rfl, rfl, rfl⟩
    exact ⟨true, m', d', ⟨⟨fun _ => hcaptured, fun _ => rfl⟩, rfl, rfl⟩, (), m', d',
      ⟨rfl, rfl, rfl⟩, ends_pure.mpr ⟨rfl, rfl, rfl⟩⟩

/-- On a state that remembers the batch the call returns its sequences once more, and writes
nothing, exactly if the object holds the root, the stored capture is that of the batch and the
validator accepts it as an advance of itself. -/
theorem append_again_iff {sequences : List Nat} (hlive : Live A d (current :: rest))
    (hsound : b.Sound A) (hne : b.candidates ≠ []) (hschema : identifier b.captureSchema = true)
    (hremembers : Remembers A d b sequences current.state) :
    (∃ m', (b.append A).Ends A.host m d sequences m' d) ↔
      HoldsRoot A m d ∧ Captured A d b m.state ∧
        A.validator.captureAdvance b.capture b.captureSchema b.capture b.captureSchema
          A.identity = true := by
  have hfound : HoldsRoot A m d → AtRoot A (lists m (d.entries A.sha) d.highest) d current ∧
      Remembers A d b sequences m.state := by
    intro hholds
    have hroot := hholds.atRoot hlive
    have hstate : m.state = current.state := hroot.state
    rw [hstate]
    exact ⟨hroot, hremembers⟩
  constructor
  · rintro ⟨m', hends⟩
    obtain ⟨hholds, replay, hchecked, hlast⟩ := (append_ends hlive).mp hends
    obtain ⟨hroot, hremembers⟩ := hfound hholds
    obtain ⟨replay', hloop, -, hconclude⟩ := hroot.conclude_again hlive hsound hne hremembers
    obtain ⟨rfl, -, -⟩ := hchecked.loop.unique hloop
    have hcaptured : Captured A d b m.state := (hconclude.mp hlast).1
    obtain ⟨previous, hpayload, hadvance⟩ := hchecked.advance
    have hpayload : A.payloadAt d m.state.capture = some previous := hpayload
    have hadvance : A.validator.captureAdvance previous m.state.captureSchema b.capture
        b.captureSchema A.identity = true := hadvance
    obtain rfl : b.capture = previous :=
      Option.some.inj (hcaptured.payload.symm.trans hpayload)
    rw [hcaptured.schema] at hadvance
    exact ⟨hholds, hcaptured, hadvance⟩
  · rintro ⟨hholds, hcaptured, hself⟩
    obtain ⟨hroot, hremembers⟩ := hfound hholds
    obtain ⟨replay, hloop, hprevious, hconclude⟩ :=
      hroot.conclude_again hlive hsound hne hremembers
    refine ⟨_, (append_ends hlive).mpr ⟨hholds, replay, ⟨hschema, ⟨hsound.count, hsound.ends⟩,
      hloop, hprevious, b.capture, hcaptured.payload, ?_⟩,
      hconclude.mpr ⟨hcaptured, rfl, rfl, rfl⟩⟩⟩
    show A.validator.captureAdvance b.capture m.state.captureSchema b.capture b.captureSchema
      A.identity = true
    rw [hcaptured.schema]
    exact hself

/-! ## Between two calls -/

/-- The transitions that a step may publish. -/
def Label.transitions : Label → List Transition
  | call op _ => op.transitions
  | _ => []

/-- The step calls `AcceptResponse`. -/
def Label.Acknowledges : Label → Prop
  | call (.acceptResponse _ _) _ => True
  | _ => False

/-- The step calls `Append`. -/
def Label.Appends : Label → Prop
  | call (.append _ _ _ _ _) _ => True
  | _ => False

theorem Label.acknowledges_of_ack {l : Label} (h : .ack ∈ l.transitions) : l.Acknowledges := by
  cases l with
  | call op script => cases op <;> trivial
  | close => exact absurd h List.not_mem_nil
  | restart => exact absurd h List.not_mem_nil

theorem Label.appends_of_append {l : Label} (h : .append ∈ l.transitions) : l.Appends := by
  cases l with
  | call op script => cases op <;> trivial
  | close => exact absurd h List.not_mem_nil
  | restart => exact absurd h List.not_mem_nil

/-- Without an acknowledgement the events stay where they are. -/
theorem Follows.events_prefix {t : Transition} {candidate : LocalState}
    (h : Follows m t candidate) (hack : t ≠ .ack) : m.state.events <+: candidate.events := by
  cases h with
  | append refs => exact List.prefix_append _ _
  | ack => exact absurd rfl hack
  | _ => exact List.prefix_rfl

/-- What a state says of its capture. -/
structure SameCapture (state state' : LocalState) : Prop where
  capture : state'.capture = state.capture
  schema : state'.captureSchema = state.captureSchema

/-- Only new events come with another capture. -/
theorem Follows.sameCapture {t : Transition} {candidate : LocalState} (h : Follows m t candidate)
    (happend : t ≠ .append) : SameCapture m.state candidate := by
  cases h with
  | append => exact absurd rfl happend
  | _ => exact ⟨rfl, rfl⟩

/-- The root after a step is the one of before, or it follows it by a transition of the step. -/
theorem Held.next_follows {w : World} {l : Label} (hv : A.validator.Stable)
    (h : Held A w.disk (current :: rest))
    (hdistinct : Disk.Distinct A.sha (l.next A w).disk.written) :
    ∃ current' rest', Held A (l.next A w).disk (current' :: rest') ∧
      (current'.state = current.state ∨ ∃ t ∈ l.transitions, ∃ m : Fields,
        m.state = current.state ∧ Follows m t current'.state) := by
  obtain ⟨hist', hadvances, hheld⟩ := h.next l hv hdistinct
  cases l with
  | close =>
    obtain rfl : hist' = current :: rest := hadvances
    exact ⟨current, rest, hheld, .inl rfl⟩
  | restart =>
    obtain rfl : hist' = current :: rest := hadvances
    exact ⟨current, rest, hheld, .inl rfl⟩
  | call op script =>
    cases hadvances with
    | stays => exact ⟨current, rest, hheld, .inl rfl⟩
    | publishes next current rest ht =>
      refine ⟨next, current :: rest, hheld, .inr ?_⟩
      cases hheld.live_of_cons.lineage with
      | next hbefore hnext =>
        obtain ⟨m, hm, -, hfollows⟩ := hnext.follows
        exact ⟨_, ht, m, hm, hfollows⟩

/-- The world after a schedule. -/
def World.follow (A : TelemetryState) (w : World) (pause : List Label) : World :=
  pause.foldl (Label.next A) w

theorem follow_written (A : TelemetryState) (w : World) (pause : List Label) :
    w.disk.written <+: (w.follow A pause).disk.written := by
  induction pause generalizing w with
  | nil => exact List.prefix_rfl
  | cons l pause ih => exact (next_written A w l).trans (ih (l.next A w))

/-- What every step of a schedule keeps of the root, the schedule keeps. -/
theorem Held.follow {R : LocalState → LocalState → Prop} (hrefl : ∀ s, R s s)
    (htrans : ∀ {s s' s''}, R s s' → R s' s'' → R s s'') {w : World} {pause : List Label}
    (hsteps : ∀ l ∈ pause, ∀ t ∈ l.transitions, ∀ {m : Fields} {candidate : LocalState},
      Follows m t candidate → R m.state candidate) (hv : A.validator.Stable)
    (h : Held A w.disk (current :: rest))
    (hdistinct : Disk.Distinct A.sha (w.follow A pause).disk.written) :
    ∃ current' rest', Held A (w.follow A pause).disk (current' :: rest') ∧
      R current.state current'.state := by
  induction pause generalizing w current rest with
  | nil => exact ⟨current, rest, h, hrefl _⟩
  | cons l pause ih =>
    have hwritten := follow_written A (l.next A w) pause
    obtain ⟨current₁, rest₁, hheld, hcase⟩ :=
      h.next_follows (l := l) hv (hdistinct.mono fun f hf => hwritten.subset hf)
    have hstep : R current.state current₁.state := by
      rcases hcase with heq | ⟨t, ht, m, hm, hfollows⟩
      · rw [heq]
        exact hrefl _
      · rw [← hm]
        exact hsteps l List.mem_cons_self t ht hfollows
    obtain ⟨current₂, rest₂, hheld', hrest⟩ :=
      ih (fun l' hl' => hsteps l' (List.mem_cons_of_mem _ hl')) hheld hdistinct
    exact ⟨current₂, rest₂, hheld', htrans hstep hrest⟩

/-- What is found under a reference on two disks of a run is the same. -/
theorem payload_unique {hist' : List Generation} {r : LocalRef} {payload payload' : Bytes}
    (hlive : Live A d hist) (hlive' : Live A d' hist') (hwritten : d.written <+: d'.written)
    (h : A.payloadAt d r = some payload) (h' : A.payloadAt d' r = some payload') :
    payload' = payload := by
  obtain ⟨-, f, hfind, hmatch⟩ := payloadAt_some h
  obtain ⟨-, f', hfind', hmatch'⟩ := payloadAt_some h'
  obtain ⟨hmem, hlocator⟩ := Disk.mem_of_find hfind
  obtain ⟨hmem', hlocator'⟩ := Disk.mem_of_find hfind'
  have heq : f = f' := by
    apply hlive'.archived.keys.eq_of_key (hwritten.subset (hlive.archived.kept f hmem))
      (hlive'.archived.kept f' hmem')
    rw [hlocator, hlocator']
  rw [heq, hmatch'] at hmatch
  exact Option.some.inj hmatch

section Later

variable {current' : Generation} {rest' : List Generation} (hlive : Live A d (current :: rest))
  (hlive' : Live A d' (current' :: rest')) (hwritten : d.written <+: d'.written)
include hlive hlive' hwritten

/-- What a root names is found as it was found before. -/
theorem payload_later {r : LocalRef} {payload : Bytes} (hr : r ∈ objectRefs current'.state)
    (h : A.payloadAt d r = some payload) : A.payloadAt d' r = some payload := by
  obtain ⟨payload', hpayload', -⟩ := (hlive'.current rfl).refs r (List.mem_cons_of_mem _ hr)
  rw [hpayload', payload_unique hlive hlive' hwritten h hpayload']

/-- What the root remembers, it remembers while events are only added. -/
theorem Remembers.later {sequences : List Nat} (h : Remembers A d b sequences current.state)
    (hevents : current.state.events <+: current'.state.events) :
    Remembers A d' b sequences current'.state := by
  obtain ⟨start, stored, more, hdrop, hstored, hsequences⟩ := h
  obtain ⟨added, hadded⟩ := hevents
  by_cases hnil : stored = []
  · subst hnil
    rw [List.forall₂_nil_right_iff] at hstored
    refine ⟨current'.state.events.length, [], [], List.drop_length, ?_, hsequences⟩
    rw [hstored]
    exact .nil
  have hstart : start ≤ current.state.events.length := by
    by_contra hover
    have hempty : current.state.events.drop start = [] := List.drop_eq_nil_of_le (by omega)
    rw [hempty] at hdrop
    exact hnil (List.append_eq_nil_iff.mp hdrop.symm).1
  have hdrop' : current'.state.events.drop start = stored ++ (more ++ added) := by
    rw [← hadded, List.drop_append_of_le_length hstart, hdrop, List.append_assoc]
  refine ⟨start, stored, more ++ added, hdrop', ?_, hsequences⟩
  refine List.forall₂_iff_zip.mpr ⟨hstored.length_eq, fun {p r} hpr => ?_⟩
  have hretains := (List.forall₂_iff_zip.mp hstored).2 hpr
  have hr : r ∈ current'.state.events := by
    apply List.mem_of_mem_drop
    rw [hdrop']
    exact List.mem_append_left _ (List.of_mem_zip hpr).2
  exact ⟨hretains.eventId, hretains.recordSha, hretains.dealId, hretains.revision,
    payload_later hlive hlive' hwritten (mem_objectRefs.mpr (.inr (.inl hr))) hretains.payload⟩

/-- The capture of the batch is stored as long as no other is. -/
theorem Captured.later (h : Captured A d b current.state)
    (hsame : SameCapture current.state current'.state) : Captured A d' b current'.state := by
  refine ⟨?_, by rw [hsame.schema]; exact h.schema⟩
  apply payload_later hlive hlive' hwritten (mem_objectRefs.mpr (.inl rfl))
  rw [hsame.capture]
  exact h.payload

end Later

/-! ## Valid batches -/

/-- The member variables of an object after it has taken the inventory. -/
def World.listed (A : TelemetryState) (w : World) : Fields :=
  lists w.fields (w.disk.entries A.sha) w.disk.highest

/-- A batch of new events that fits into the store, with a capture that advances the stored one. -/
structure Batch.Fits (b : Batch) (A : TelemetryState) (w : World) : Prop where
  new : b.New A w.fields.state
  schema : identifier b.captureSchema = true
  capture : 1 ≤ b.capture.length ∧ b.capture.length ≤ payloadMax
  advance : ∃ previous, A.payloadAt w.disk w.fields.state.capture = some previous ∧
    A.validator.captureAdvance previous w.fields.state.captureSchema b.capture b.captureSchema
      A.identity = true
  room : b.Room w.fields.state w.disk.highest
  storage : ∀ records, b.records A (w.listed A) = some records →
    storagePreflight (w.disk.entries A.sha) .append (records.map fun f => f.bytes.length).sum
      records.length = true
  -- The digests of the new records are new as well.
  distinct : ∀ records, b.records A (w.listed A) = some records →
    Disk.Distinct A.sha (w.disk.createMany records).written

def Batch.op (b : Batch) : Op := .append b.candidates b.arena b.ends b.capture b.captureSchema

/-- The world after the first call of `Append` and a schedule. -/
def Batch.later (b : Batch) (A : TelemetryState) (w : World) (pause : List Label) : World :=
  (w.after A b.op []).follow A pause

/-- `Append` returns the next sequences for the batch; called again after this schedule, it returns
the same ones and writes nothing. -/
structure AppendsOnce (A : TelemetryState) (w : World) (b : Batch) (pause : List Label) :
    Prop where
  first : ∃ m d, (b.append A).Ends A.host w.fields w.disk
    (List.range' (w.fields.state.produced + 1) b.candidates.length) m d
  again : ∃ m, (b.append A).Ends A.host (b.later A w pause).fields (b.later A w pause).disk
    (List.range' (w.fields.state.produced + 1) b.candidates.length) m (b.later A w pause).disk

theorem HoldsRoot.held {w : World} (h : HoldsRoot A w.fields w.disk) (hheld : Held A w.disk hist) :
    ∃ current rest, hist = current :: rest ∧ Live A w.disk (current :: rest) := by
  rcases hheld.store with ⟨-, hunborn⟩ | hlive
  · exact absurd h.current hunborn.no_root
  · obtain ⟨current, rest, rfl⟩ := hlive.nonempty
    exact ⟨current, rest, rfl, hlive⟩

theorem append_live {w : World} {result : List Nat} (hheld : Held A w.disk hist)
    (h : (b.append A).Ends A.host w.fields w.disk result m d) :
    ∃ current rest, hist = current :: rest ∧ Live A w.disk (current :: rest) := by
  rcases hheld.store with ⟨-, hunborn⟩ | hlive
  · simp only [Batch.append, append, ends_bind] at h
    obtain ⟨session, m₁, d₁, hguard, a, m₂, d₂, hfields, u, m₃, d₃, hcheck, u₁, m₄, d₄, hlisted,
      u₂, m₅, d₅, hverify, -⟩ := h
    obtain ⟨-, -, -, -, rfl⟩ := guard_ends.mp hguard
    obtain ⟨-, -, rfl⟩ := ends_fields.mp hfields
    obtain ⟨-, -, rfl⟩ := ends_require.mp hcheck
    obtain ⟨-, -, rfl⟩ := requireInventory_ends.mp hlisted
    exact absurd hverify (Rootless.verify (.inr hunborn))
  · obtain ⟨current, rest, rfl⟩ := hlive.nonempty
    exact ⟨current, rest, rfl, hlive⟩

/-- The call on a batch that fits, unless it has events and the state calls itself complete. -/
theorem Batch.Fits.first_call {w : World} (hv : A.validator.Stable) (hsha : A.sha.NonZero)
    (hfits : b.Fits A w) (hlive : Live A w.disk (current :: rest))
    (hholds : HoldsRoot A w.fields w.disk)
    (hcompleteness : w.fields.state.completeness = .upToDate → b.candidates = []) :
    ∃ next m d, (b.append A).Ends A.host w.fields w.disk
        (List.range' (w.fields.state.produced + 1) b.candidates.length) m d ∧
      Live A d (next :: current :: rest) ∧ AtRoot A m d next ∧ Captured A d b next.state ∧
      Remembers A d b (List.range' (w.fields.state.produced + 1) b.candidates.length)
        next.state := by
  obtain ⟨previous, hpayload, hadvance⟩ := hfits.advance
  obtain ⟨sawNew, hloop⟩ := Batch.New.loop (m := w.listed A) (d := w.disk) hfits.new
  obtain ⟨next, m, d, hlast, hlive', hat, hremembers⟩ :=
    (hholds.atRoot hlive).conclude_new sawNew hlive hv hsha hfits.new hfits.room
      hfits.capture hfits.schema (hv.advance hadvance) hcompleteness hfits.storage hfits.distinct
  refine ⟨next, m, d, (append_ends hlive).mpr ⟨hholds, _, ⟨hfits.schema,
    ⟨hfits.new.count, hfits.new.ends⟩, hloop, rfl, previous, hpayload, hadvance⟩, hlast⟩, hlive',
    hat, hremembers⟩

/-- A complete state takes no events. -/
theorem Batch.Fits.complete {w : World} (hsha : A.sha.NonZero) (hfits : b.Fits A w)
    (hlive : Live A w.disk (current :: rest)) {result : List Nat}
    (h : (b.append A).Ends A.host w.fields w.disk result m d)
    (hcompleteness : w.fields.state.completeness = .upToDate) : b.candidates = [] := by
  by_contra hne
  have hnew : b.New A (w.listed A).state := hfits.new
  have hcompleteness : (w.listed A).state.completeness = .upToDate := hcompleteness
  obtain ⟨hholds, replay, hchecked, hlast⟩ := (append_ends hlive).mp h
  rw [← World.listed] at hchecked hlast
  obtain ⟨sawNew, hloop⟩ := hnew.loop (d := w.disk)
  obtain ⟨rfl, -, -⟩ := hchecked.loop.unique hloop
  obtain ⟨-, hgeneration, staged, captureFrame, captureSha, hstaged, hpublish, -⟩ :=
    (conclude_new hnew.toSound).mp hlast
  have hrecords := hstaged.records hsha hnew.toSound hgeneration
  exact hrecords.not_valid hnew hne hcompleteness (publish_valid hpublish)

/-- A call on a batch without events writes the capture again. -/
theorem append_nil_writes {result : List Nat} (hv : A.validator.Stable) (hsha : A.sha.NonZero)
    (hlive : Live A d (current :: rest)) (hsound : b.Sound A) (hnil : b.candidates = [])
    (h : (b.append A).Ends A.host m d result m' d') : d' ≠ d := by
  obtain ⟨hholds, replay, hchecked, hlast⟩ := (append_ends hlive).mp h
  have hnew : b.New A (lists m (d.entries A.sha) d.highest).state := by
    refine ⟨hsound, ?_⟩
    rw [hnil]
    exact fun c hc => absurd hc List.not_mem_nil
  obtain ⟨sawNew, hloop⟩ := hnew.loop (d := d)
  obtain ⟨rfl, -, -⟩ := hchecked.loop.unique hloop
  obtain ⟨-, hgeneration, staged, captureFrame, captureSha, hstaged, hpublish, -⟩ :=
    (conclude_new hsound).mp hlast
  have hrecords := hstaged.records hsha hsound hgeneration
  obtain ⟨previous, -, hadvance⟩ := hchecked.advance
  exact hrecords.publish_writes hlive (hholds.atRoot hlive) hv hsound hstaged (hv.advance hadvance)
    hpublish

/-- After the first call and a schedule without acknowledgements, the root remembers the batch. -/
theorem Batch.Fits.remembered {w : World} {pause : List Label} (hv : A.validator.Stable)
    (hsha : A.sha.NonZero) (hfits : b.Fits A w) (hheld : Held A w.disk (current :: rest))
    (hholds : HoldsRoot A w.fields w.disk)
    (hcompleteness : w.fields.state.completeness = .upToDate → b.candidates = [])
    (hpause : ∀ l ∈ pause, ¬ l.Acknowledges)
    (hdistinct : Disk.Distinct A.sha (b.later A w pause).disk.written) :
    ∃ m d, (b.append A).Ends A.host w.fields w.disk
        (List.range' (w.fields.state.produced + 1) b.candidates.length) m d ∧
      ∃ current' rest', Held A (b.later A w pause).disk (current' :: rest') ∧
        Remembers A (b.later A w pause).disk b
          (List.range' (w.fields.state.produced + 1) b.candidates.length) current'.state := by
  obtain ⟨next, m, d, hends, hlive, -, -, hremembers⟩ :=
    hfits.first_call hv hsha hheld.live_of_cons hholds hcompleteness
  have hafter : w.after A b.op [] = ⟨m, d⟩ := after_of_ends hends
  have hkeyed : d.Keyed A := hheld.keyed.visits b.op hends.visits
  have hfirst : Held A (World.mk m d).disk (next :: current :: rest) := ⟨.inr hlive, hkeyed⟩
  rw [Batch.later, hafter] at hdistinct ⊢
  obtain ⟨current', rest', hheld', hevents⟩ :=
    hfirst.follow (R := fun s s' => s.events <+: s'.events) (fun _ => List.prefix_rfl)
      (fun h h' => h.trans h') (fun l hl t ht m candidate hfollows =>
        hfollows.events_prefix fun hack => hpause l hl (l.acknowledges_of_ack (hack ▸ ht)))
      hv hdistinct
  refine ⟨m, d, hends, current', rest', hheld', ?_⟩
  exact hremembers.later hlive hheld'.live_of_cons (follow_written A (World.mk m d) pause) hevents

/-- For a batch that fits and a schedule without acknowledgements: `Append` returns the next
sequences, and the same ones again after the schedule, exactly if the object holds the root at both
calls, the batch has events, the state does not call itself complete, the capture of the batch is
still stored at the second call, and the validator accepts it as an advance of itself. -/
theorem append_once_iff {w : World} {pause : List Label} (hv : A.validator.Stable)
    (hsha : A.sha.NonZero) (hreach : (sessions A).Reachable w)
    (hpause : ∀ l ∈ pause, ¬ l.Acknowledges)
    (hdistinct : Disk.Distinct A.sha (b.later A w pause).disk.written) (hfits : b.Fits A w) :
    AppendsOnce A w b pause ↔
      (HoldsRoot A w.fields w.disk ∧ w.fields.state.completeness ≠ .upToDate ∧
        b.candidates ≠ []) ∧
      HoldsRoot A (b.later A w pause).fields (b.later A w pause).disk ∧
      Captured A (b.later A w pause).disk b (b.later A w pause).fields.state ∧
      A.validator.captureAdvance b.capture b.captureSchema b.capture b.captureSchema
        A.identity = true := by
  have hwritten := (next_written A w (.call b.op [])).trans
    (follow_written A (w.after A b.op []) pause)
  obtain ⟨hist, hheld⟩ := Held.reachable hv hreach (hdistinct.mono fun f hf => hwritten.subset hf)
  have hsound := hfits.new.toSound
  constructor
  · rintro ⟨⟨m, d, hends⟩, m', hagain⟩
    obtain ⟨current, rest, rfl, hlive⟩ := append_live hheld hends
    have hholds := ((append_ends hlive).mp hends).1
    have hcomplete := hfits.complete hsha hlive hends
    obtain ⟨-, -, -, current', rest', hheld', hremembers⟩ :=
      hfits.remembered hv hsha hheld hholds hcomplete hpause hdistinct
    have hlive' := hheld'.live_of_cons
    have hne : b.candidates ≠ [] := fun hnil =>
      append_nil_writes hv hsha hlive' hsound hnil hagain rfl
    exact ⟨⟨hholds, fun hupToDate => hne (hcomplete hupToDate), hne⟩,
      (append_again_iff hlive' hsound hne hfits.schema hremembers).mp ⟨m', hagain⟩⟩
  · rintro ⟨⟨hholds, hcomplete, hne⟩, hlater⟩
    obtain ⟨current, rest, rfl, hlive⟩ := hholds.held hheld
    obtain ⟨m, d, hends, current', rest', hheld', hremembers⟩ :=
      hfits.remembered hv hsha hheld hholds (fun hupToDate => absurd hupToDate hcomplete) hpause
        hdistinct
    exact ⟨⟨m, d, hends⟩,
      (append_again_iff hheld'.live_of_cons hsound hne hfits.schema hremembers).mpr hlater⟩

/-! ### Batches on a store of the self-test -/

/-- A completed call shows that the batch fits. -/
theorem Batch.New.fits {w : World} {result : List Nat} (hv : A.validator.Stable)
    (hsha : A.sha.NonZero) (hlive : Live A w.disk (current :: rest))
    (hnew : b.New A w.fields.state) (hroom : b.Room w.fields.state w.disk.highest)
    (hcapture : 1 ≤ b.capture.length ∧ b.capture.length ≤ payloadMax)
    (h : (b.append A).Ends A.host w.fields w.disk result m d)
    (hdistinct : Disk.Distinct A.sha d.written) : b.Fits A w := by
  obtain ⟨hholds, replay, hchecked, hlast⟩ := (append_ends hlive).mp h
  rw [← World.listed] at hchecked hlast
  have hlisted : b.New A (w.listed A).state := hnew
  have hroot : AtRoot A (w.listed A) w.disk current := hholds.atRoot hlive
  have hsound := hnew.toSound
  obtain ⟨sawNew, hloop⟩ := hlisted.loop (d := w.disk)
  obtain ⟨rfl, -, -⟩ := hchecked.loop.unique hloop
  obtain ⟨-, hgeneration, staged, captureFrame, captureSha, hstaged, hpublish, -⟩ :=
    (conclude_new hsound).mp hlast
  have hrecords := hstaged.records hsha hsound hgeneration
  obtain ⟨previous, hpayload, hadvance⟩ := hchecked.advance
  have hobjects := hrecords.stagedObjects hlive hroot hv hsound hstaged (hv.advance hadvance)
  obtain ⟨records, hpublishes, -, rfl, -⟩ :=
    publish_ends hroot.granted hroot.ready (hrecords.free hlive hroot hv hsound hstaged
      (hv.advance hadvance)) hpublish
  have hsame : ∀ records', b.records A (w.listed A) = some records' → records' = records := by
    intro records' hsome
    rw [hstaged.records_eq, hpublishes.publication] at hsome
    exact (Option.some.inj hsome).symm
  refine ⟨hnew, hchecked.schema, hcapture, ⟨previous, hpayload, hadvance⟩, hroom, ?_, ?_⟩
  · intro records' hsome
    rw [hsame records' hsome]
    exact hpublishes.preflight
  · intro records' hsome
    rw [hsame records' hsome]
    exact hdistinct

/-- Nothing is made of events in a complete state. -/
theorem Batch.records_complete {w : World} (hsha : A.sha.NonZero)
    (hnew : b.New A w.fields.state) (hgeneration : w.disk.highest < maxCounter)
    (hcomplete : w.fields.state.completeness = .upToDate) (hne : b.candidates ≠ []) :
    b.records A (w.listed A) = none := by
  have hlisted : b.New A (w.listed A).state := hnew
  rw [Option.eq_none_iff_forall_ne_some]
  intro records hsome
  simp only [Batch.records, Option.bind_eq_bind, Option.bind_eq_some_iff] at hsome
  obtain ⟨staged, hstaged, ⟨captureFrame, captureSha⟩, hcapture, hpublication⟩ := hsome
  have hmade : b.Staged A (w.listed A) staged captureFrame captureSha := ⟨hstaged, hcapture⟩
  have hrecords := hmade.records hsha hnew.toSound hgeneration
  obtain ⟨s, c, commit, commitSha, hsealed, -⟩ := publication_some hpublication
  exact hrecords.not_valid hlisted hne hcomplete hsealed.valid

/-- A process that opens the store again and recovers the root. -/
def reopening : List Label := [.restart, .call .openSession [], .call .recover []]

theorem Held.reopening {w : World} (h : Held A w.disk hist)
    (hlive : Live A w.disk (current :: rest)) :
    AtRoot A (w.follow A reopening).fields (w.follow A reopening).disk current ∧
      SameStore w.disk (w.follow A reopening).disk := by
  obtain ⟨m, d, hends, hat, hsame⟩ := h.reopen hlive
  obtain ⟨u, m₁, d₁, hopened, hrecovered⟩ := ends_bind.mp hends
  have hfirst : w.restart.after A .openSession [] = ⟨m₁, d₁⟩ := after_of_ends hopened
  have hsecond : World.after A ⟨m₁, d₁⟩ .recover [] = ⟨m, d⟩ := after_of_ends hrecovered
  have hfollow : w.follow A Agent.reopening = ⟨m, d⟩ := by
    show (w.restart.after A .openSession []).after A .recover [] = _
    rw [hfirst, hsecond]
  rw [hfollow]
  exact ⟨hat, hsame⟩

/-- A new process finds the capture of a batch whose answer was lost. -/
theorem Batch.Fits.reopens {w : World} (hv : A.validator.Stable) (hsha : A.sha.NonZero)
    (hfits : b.Fits A w) (hheld : Held A w.disk (current :: rest))
    (hholds : HoldsRoot A w.fields w.disk)
    (hcompleteness : w.fields.state.completeness = .upToDate → b.candidates = []) :
    HoldsRoot A (b.later A w reopening).fields (b.later A w reopening).disk ∧
      Captured A (b.later A w reopening).disk b (b.later A w reopening).fields.state ∧
      SameStore (w.after A b.op []).disk (b.later A w reopening).disk := by
  obtain ⟨next, m, d, hends, hlive, -, hcaptured, -⟩ :=
    hfits.first_call hv hsha hheld.live_of_cons hholds hcompleteness
  have hafter : w.after A b.op [] = ⟨m, d⟩ := after_of_ends hends
  have hkeyed : d.Keyed A := hheld.keyed.visits b.op hends.visits
  have hfirst : Held A (World.mk m d).disk (next :: current :: rest) := ⟨.inr hlive, hkeyed⟩
  obtain ⟨hat, hsame⟩ := hfirst.reopening hlive
  rw [Batch.later, hafter]
  have hlive' := hlive.same hsame
  refine ⟨hat.holdsRoot hlive', ?_, hsame⟩
  rw [hat.state]
  exact hcaptured.later hlive hlive' (follow_written A (World.mk m d) reopening) ⟨rfl, rfl⟩

namespace SelfTest

theorem sha_nonZero : agent.sha.NonZero := fun bytes => (hex_spec bytes).2

def batch : Batch := ⟨[event], payload, [266], nextCapture, Synthetic.firstSchema⟩

/-- The batch is valid, and its capture advances itself. -/
theorem batch_checks : payload.length = 266 ∧ appendCandidateValid event = true ∧
    localHash agent.sha payload = some event.recordSha ∧
    agent.validator.event payload event.eventId event.recordSha event.dealId event.revision
      agent.identity = true ∧
    identifier Synthetic.firstSchema = true ∧
    (1 ≤ nextCapture.length ∧ nextCapture.length ≤ payloadMax) ∧
    agent.validator.captureAdvance nextCapture Synthetic.firstSchema nextCapture
      Synthetic.firstSchema agent.identity = true := by
  decide +kernel

theorem batch_events : batch.events = [(event, payload)] := by
  show List.zip _ [slice payload 0 266] = _
  rw [slice, ← batch_checks.1, List.drop_zero, Nat.sub_zero, List.take_length]
  rfl

theorem batch_sound : batch.Sound agent := by
  obtain ⟨hlength, hcandidate, hhash, hevent, -⟩ := batch_checks
  refine ⟨by decide, rfl, ⟨by decide, hlength.symm⟩, ?_, List.pairwise_singleton _ _⟩
  rw [batch_events, List.forall_mem_singleton]
  refine ⟨hcandidate, ?_, ?_, ?_⟩
  · rw [hlength]
    decide
  · dsimp only
    exact hhash
  · dsimp only [EventOk]
    exact hevent

theorem batch_new {state : LocalState} (hevents : state.events = []) : batch.New agent state := by
  refine ⟨batch_sound, ?_⟩
  rw [hevents]
  exact fun c _ e he => absurd he List.not_mem_nil

theorem batch_room {state : LocalState} {highest : Nat} (hevents : state.events = [])
    (hproduced : state.produced = 0) (hhighest : highest ≤ 2) : batch.Room state highest := by
  refine ⟨?_, ?_, ?_⟩
  · rw [hevents]
    decide
  · rw [hproduced]
    decide
  · have hmax : 2 < maxCounter := by decide
    omega

theorem fresh_of_holdsRoot {w : World} (h : holdsRoot w = true) :
    ∃ u m' d', agent.freshOutboxRoot.Ends agent.host w.fields w.disk u m' d' := by
  unfold holdsRoot at h
  split at h
  next u hresult =>
    refine ⟨u, (agent.freshOutboxRoot.eval agent.host w.fields w.disk).fields,
      (agent.freshOutboxRoot.eval agent.host w.fields w.disk).state, ?_⟩
    rw [Prog.Ends, ← hresult]
  next => contradiction

/-- A state that was called complete refuses a batch that fits, whatever is called in between. -/
theorem completed_refuses_batch :
    (sessions agent).Reachable completed ∧ HoldsRoot agent completed.fields completed.disk ∧
      batch.Fits agent completed ∧ ∀ pause, ¬ AppendsOnce agent completed batch pause := by
  obtain ⟨-, ⟨⟨hcommitted, -⟩, hapart⟩,
    ⟨hfresh, hevents, hproduced, hhighest, hcomplete, hadvance⟩, -⟩ := evaluated
  have hcut : cutCompact = completed.after agent .compact compactStops := rfl
  have hdistinct := apart_distinct hapart
  rw [hcut] at hdistinct
  obtain ⟨hist, hheld⟩ := Held.reachable (Synthetic.validator_stable sha) completed_reachable
    (distinct_before hdistinct)
  obtain ⟨current, rest, rfl, hlive⟩ := hheld.live (committed_of_has hcommitted)
  obtain ⟨u, m', d', hends⟩ := fresh_of_holdsRoot hfresh
  have hnew := batch_new hevents
  have hroom := batch_room hevents hproduced hhighest.le
  have hnone : batch.records agent (completed.listed agent) = none :=
    Batch.records_complete sha_nonZero hnew hroom.generation hcomplete (List.cons_ne_nil _ _)
  obtain ⟨-, -, -, -, hschema, hcapture, -⟩ := batch_checks
  rw [Option.any_eq_true] at hadvance
  obtain ⟨previous, hpayload, hadvance⟩ := hadvance
  have hfits : batch.Fits agent completed := by
    refine ⟨hnew, hschema, hcapture, ⟨previous, hpayload, hadvance⟩, hroom, ?_, ?_⟩
    all_goals
      rw [hnone]
      exact fun records hsome => absurd hsome (Option.some_ne_none _).symm
  refine ⟨completed_reachable, .of_fresh hlive hends, hfits, ?_⟩
  rintro pause ⟨⟨m, d, hfirst⟩, -⟩
  exact absurd (hfits.complete sha_nonZero hlive hfirst hcomplete) (List.cons_ne_nil _ _)

/-- The answer of `Append` was lost; a new process opens the store and calls it again. -/
theorem lost_answer_appends_once :
    initialized.fields.state.produced = 0 ∧ AppendsOnce agent initialized batch reopening := by
  obtain ⟨⟨hcommitted, -⟩, -, -, ⟨hevents, hproduced, hhighest, hcompleteness, hreturned⟩, -, -,
    hapart⟩ := evaluated
  have hv := Synthetic.validator_stable sha
  have hprepared : prepared =
    appended.after agent (.preparePending adapter candidate request) [] := rfl
  have happended : appended = initialized.after agent append [] := rfl
  have hop : batch.op = append := rfl
  have hdistinct := apart_distinct hapart
  rw [hprepared] at hdistinct
  replace hdistinct := distinct_before hdistinct
  rw [happended] at hdistinct
  obtain ⟨hist, hheld⟩ := Held.reachable hv initialized_reachable (distinct_before hdistinct)
  obtain ⟨current, rest, rfl, hlive⟩ := hheld.live (committed_of_has hcommitted)
  obtain ⟨hafter, hends⟩ := after_of_done (done_of_returned hreturned)
  obtain ⟨-, -, -, -, -, hcapture, hself⟩ := batch_checks
  have hroom := batch_room hevents hproduced (by omega : initialized.disk.highest ≤ 2)
  have hfits : batch.Fits agent initialized := by
    apply (batch_new hevents).fits hv sha_nonZero hlive hroom hcapture hends
    rw [← after_written]
    exact hdistinct
  have hholds := ((append_ends (b := batch) hlive).mp hends).1
  have hcatching : initialized.fields.state.completeness ≠ .upToDate := by
    rw [hcompleteness]
    decide
  obtain ⟨hlater, hcaptured, hsame⟩ := hfits.reopens hv sha_nonZero hheld hholds
    fun hupToDate => absurd hupToDate hcatching
  rw [hop] at hsame
  refine ⟨hproduced, (append_once_iff hv sha_nonZero initialized_reachable ?_ ?_ hfits).mpr
    ⟨⟨hholds, hcatching, List.cons_ne_nil _ _⟩, hlater, hcaptured, hself⟩⟩
  · simp [reopening, Label.Acknowledges]
  · rw [hsame.written]
    exact hdistinct

end SelfTest

end TradeOps.Agent
