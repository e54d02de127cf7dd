import TradeOps.Agent.Batches
import TradeOps.Agent.Exact
import TradeOps.Agent.Sequences

/-!
# States with new events

The records that `Append` publishes for a batch of new events can all be made, and the state among
them is valid unless the state before calls itself complete: a complete state retains no event, and
`Append`, unlike `PreparePending`, does not take the mark back.
-/

namespace TradeOps.Agent

open Prog TelemetryState

/-- No record has the digest zero. -/
def Sha256.NonZero (sha : Sha256) : Prop := ∀ bytes, ¬ (sha.hex bytes).all (· = '0')

variable {A : TelemetryState} {m : Fields} {b : Batch}

/-! ## Records can be made -/

theorem Sha256.NonZero.digest {sha : Sha256} (h : sha.NonZero) (bytes : Bytes) :
    digest (sha.hex bytes) = true := by
  rw [TradeOps.Agent.digest, decide_eq_true_eq]
  exact ⟨sha.length_hex bytes, sha.all_hex bytes, h bytes⟩

theorem length_recordHeader {kind : Text} {generation size : Nat} (hkind : recordKind kind = true)
    (hgeneration : counter generation = true) (hsize : counter size = true) :
    (recordHeader kind generation size).length ≤ 53 := by
  have hgeneration := (fits_localNumber hgeneration).short
  have hsize := (fits_localNumber hsize).short
  have hall : recordKinds.all (fun kind => kind.length ≤ 12) = true := by decide
  have hkind : kind.length ≤ 12 := by
    simp only [recordKind, decide_eq_true_eq] at hkind
    exact of_decide_eq_true (List.all_eq_true.mp hall kind hkind)
  have hmagic : recordMagic.length = 6 := by decide
  simp only [recordHeader, List.intercalate, List.intersperse, List.flatten_cons, List.flatten_nil,
    List.length_append, List.length_singleton, List.length_nil]
  omega

/-- A payload of a size that may be stored has a record. -/
theorem makeFrame_exists (hsha : A.sha.NonZero) {kind : Text} {generation : Nat} {payload : Bytes}
    (hkind : recordKind kind = true) (hgeneration : counter generation 1 = true)
    (hsize : 1 ≤ payload.length ∧ payload.length ≤ payloadMax) :
    ∃ frame sha, A.makeFrame kind generation payload = some (frame, sha) ∧ digest sha = true := by
  have hmax : payloadMax = 262144 := rfl
  have hcounter : counter generation = true := by
    simp only [counter, decide_eq_true_eq] at hgeneration ⊢
    omega
  have hlength : counter payload.length = true := by
    have hbound : payloadMax ≤ maxCounter := by decide
    simp only [counter, decide_eq_true_eq]
    omega
  have hheader := length_recordHeader hkind hcounter hlength
  have hbody : (toBytes (recordHeader kind generation payload.length ++ ['\n']) ++
      payload).length = (recordHeader kind generation payload.length).length + 1 +
        payload.length := by
    rw [List.length_append, length_toBytes, List.length_append, List.length_singleton]
  have hhash : recordHash A.sha (toBytes (recordHeader kind generation payload.length ++ ['\n']) ++
      payload) = some (A.sha.hex (toBytes (recordHeader kind generation payload.length ++ ['\n']) ++
        payload)) := by
    have hmost : headerMax = 128 := rfl
    rw [recordHash, if_pos (by omega)]
  have hencode : ∃ frame, recordEncode A.sha kind generation payload = some frame := by
    have hfooter : (footerStart ++ A.sha.hex (toBytes (recordHeader kind generation
        payload.length ++ ['\n']) ++ payload) ++ ['\n']).length = footerSize := by
      rw [List.length_append, List.length_append, length_footerStart, A.sha.length_hex]
      rfl
    have hfits : (recordHeader kind generation payload.length ++ ['\n']).length ≤ headerMax := by
      have hmost : headerMax = 128 := rfl
      rw [List.length_append, List.length_singleton]
      omega
    have hframe : (toBytes (recordHeader kind generation payload.length ++ ['\n']) ++
        payload).length + footerSize ≤ frameMax := by
      have hsize : footerSize = 73 := rfl
      have hmost : frameMax = 262345 := rfl
      omega
    rw [recordEncode, if_pos ⟨hkind, hgeneration, hsize⟩]
    simp only [hhash]
    rw [if_pos ⟨hfits, hfooter, hframe⟩]
    exact ⟨_, rfl⟩
  obtain ⟨frame, hframe⟩ := hencode
  have hdigest := hsha.digest frame
  refine ⟨frame, A.sha.hex frame, ?_, hdigest⟩
  have hlocal : localHash A.sha frame = some (A.sha.hex frame) := by
    rw [localHash, if_pos]
    exact ⟨(length_of_recordEncode hframe).1, (length_of_recordEncode hframe).2, hdigest⟩
  rw [makeFrame, hframe, Option.bind_eq_bind, Option.bind_some, hlocal]
  rfl

theorem one_le_of_localLines {fields : List Text} {bytes : Bytes}
    (h : localLines fields = some bytes) : 1 ≤ bytes.length := by
  rw [localLines] at h
  split at h
  · rw [localBytes] at h
    split at h
    · rename_i hok
      rw [← Option.some.inj h, length_toBytes]
      exact hok.1
    · cases h
  · cases h

/-- A valid state that follows a root can be published. -/
theorem publication_exists (hsha : A.sha.NonZero) {t : Transition} {candidate : LocalState}
    {parentSha registrationSha : Text} {parentGeneration : Nat} {objects : List StoredRecord}
    (hvalid : localStateValid candidate = true) (ht : t ≠ .init)
    (hparent : 1 ≤ parentGeneration ∧ parentGeneration < candidate.generation)
    (hparentSha : digest parentSha = true) (hregistration : digest registrationSha = true) :
    ∃ records, A.publication t candidate parentSha parentGeneration registrationSha objects =
      some records := by
  have hcounter := counter_generation hvalid
  have hkind : recordKind checkpointKind = true := by decide
  obtain ⟨statePayload, hstate, hstateMax⟩ := localStateEncode_of_valid hvalid
  have hstateMin : 1 ≤ statePayload.length := by
    rw [localStateEncode, if_pos hvalid] at hstate
    exact one_le_of_localLines hstate
  obtain ⟨stateFrame, stateSha, hstateFrame, hstateSha⟩ :=
    makeFrame_exists hsha hkind hcounter ⟨hstateMin, hstateMax⟩
  have hcommitValid : localCommitValid
      { generation := candidate.generation
        parentGeneration := parentGeneration
        parentSha := parentSha
        registrationSha := registrationSha
        stateSha := stateSha
        transition := t } = true := by
    have hbounds := hcounter
    simp only [counter, decide_eq_true_eq] at hbounds
    simp only [localCommitValid, decide_eq_true_eq]
    refine ⟨hcounter, ?_, hregistration, hstateSha, ?_⟩
    · simp only [counter, decide_eq_true_eq]
      omega
    · rw [if_neg ht]
      exact ⟨by omega, hparent.1, hparent.2, hparentSha⟩
  obtain ⟨commitPayload, hcommit, hcommitMax⟩ := localCommitEncode_of_valid hcommitValid
  have hcommitMin : 1 ≤ commitPayload.length := by
    rw [localCommitEncode, if_pos hcommitValid] at hcommit
    exact one_le_of_localLines hcommit
  obtain ⟨commitFrame, commitSha, hcommitFrame, -⟩ :=
    makeFrame_exists hsha hkind hcounter ⟨hcommitMin, hcommitMax⟩
  refine ⟨objects ++ [⟨stateLocator candidate.generation, stateFrame⟩,
    ⟨commitLocator candidate.generation, commitFrame⟩], ?_⟩
  simp only [publication, hstate, hstateFrame, hcommit, hcommitFrame, Option.bind_eq_bind,
    Option.bind_some]

/-! ## The new references -/

/-- The reference and the record of a new event. -/
structure NewEvent (A : TelemetryState) (generation : Nat) (p : AppendCandidate × Bytes)
    (q : LocalRef × StoredRecord) : Prop where
  eventId : q.1.eventId = p.1.eventId
  recordSha : q.1.recordSha = p.1.recordSha
  dealId : q.1.dealId = p.1.dealId
  revision : q.1.revision = p.1.revision
  kind : q.1.kind = .event
  place : q.2.locator = objectLocator generation q.1.ordinal
  generation : q.1.generation = generation
  sha : digest q.1.sha = true
  framed : Framed A eventKind q.2 p.2 q.1.sha

theorem stageEvents_exist (hsha : A.sha.NonZero) (produced start : Nat) {generation : Nat}
    {fresh : List (AppendCandidate × Bytes)} (hgeneration : counter generation 1 = true)
    (hsize : ∀ p ∈ fresh, 1 ≤ p.2.length ∧ p.2.length ≤ payloadMax) :
    ∃ staged, (fresh.zipIdx start).mapM (A.stageEvent generation produced) = some staged ∧
      List.Forall₂ (NewEvent A generation) fresh staged ∧
      staged.map (·.1.sequence) = List.range' (produced + 1 + start) fresh.length ∧
      staged.map (·.1.ordinal) = List.range' (start + 1) fresh.length := by
  induction fresh generalizing start with
  | nil => exact ⟨[], rfl, .nil, rfl, rfl⟩
  | cons p rest ih =>
    obtain ⟨staged, hstaged, hall, hsequences, hordinals⟩ := ih (start + 1)
      fun q hq => hsize q (List.mem_cons_of_mem _ hq)
    have hkind : recordKind eventKind = true := by decide
    obtain ⟨frame, sha, hframe, hdigest⟩ :=
      makeFrame_exists hsha hkind hgeneration (hsize p List.mem_cons_self)
    refine ⟨⟨⟨.event, generation, start + 1, sha, produced + 1 + start, p.1.eventId,
      p.1.recordSha, p.1.dealId, p.1.revision⟩, ⟨objectLocator generation (start + 1), frame⟩⟩ ::
        staged, ?_, ?_, ?_, ?_⟩
    · rw [List.zipIdx_cons, List.mapM_cons, hstaged, stageEvent, hframe]
      rfl
    · exact .cons ⟨rfl, rfl, rfl, rfl, rfl, rfl, rfl, hdigest, framed_of_makeFrame hframe⟩ hall
    · rw [List.map_cons, hsequences, List.length_cons, List.range'_succ]
      rfl
    · rw [List.map_cons, hordinals, List.length_cons, List.range'_succ]

theorem path_eq {r : LocalRef} (hr : localRefValid r = true) (hkind : r.kind.isObject) :
    localRefPath r = storageRelativePath (refLocator r) := by
  have haddress := addressable_refLocator hr
  simp only [Disk.addressable, decide_eq_true_eq] at haddress
  rw [storageRelativePath, if_pos haddress.1, refLocator_of_object hkind, localRefPath, if_pos hr]
  rcases hkind with hkind | hkind | hkind | hkind <;> rw [hkind] <;> rfl

theorem locator_of_path {r q : LocalRef} (hr : localRefValid r = true) (hr' : r.kind.isObject)
    (hq : localRefValid q = true) (hq' : q.kind.isObject) (h : localRefPath r = localRefPath q) :
    r.generation = q.generation ∧ r.ordinal = q.ordinal := by
  rw [path_eq hr hr', path_eq hq hq'] at h
  have heq := storageRelativePath_injective (addressable_refLocator hr)
    (addressable_refLocator hq) h
  rw [refLocator_of_object hr', refLocator_of_object hq'] at heq
  exact ⟨congrArg Locator.generation heq, congrArg Locator.ordinal heq⟩

/-- A record of a later generation lies apart from those before, where there are any. -/
theorem path_ne_of_later {r q : LocalRef} (hr : localRefValid r = true) (hr' : r.kind.isObject)
    (hq : q.kind ≠ .absent → localRefValid q = true ∧ q.kind.isObject ∧
      q.generation < r.generation) : localRefPath r ≠ localRefPath q := by
  intro heq
  by_cases habsent : q.kind = .absent
  · have hinvalid : localRefValid q = false := by
      simp [localRefValid, LocalRef.placed, habsent]
    have hempty : localRefPath q = [] := by
      rw [localRefPath, hinvalid]
      rfl
    have hhead := head_storageRelativePath (addressable_refLocator hr)
    rw [← path_eq hr hr', heq, hempty] at hhead
    contradiction
  · obtain ⟨hvalid, hkind, hlater⟩ := hq habsent
    have hgeneration := (locator_of_path hr hr' hvalid hkind heq).1
    omega

/-! ## The new state is valid -/

theorem exists_of_forall₂ {α β : Type} {R : α → β → Prop} {xs : List α} {ys : List β} {y : β}
    (h : List.Forall₂ R xs ys) (hy : y ∈ ys) : ∃ x ∈ xs, R x y := by
  induction h with
  | nil => exact absurd hy List.not_mem_nil
  | @cons a c as cs hac hrest ih =>
    rcases List.mem_cons.mp hy with rfl | hy
    · exact ⟨a, List.mem_cons_self, hac⟩
    · obtain ⟨x, hx, hxy⟩ := ih hy
      exact ⟨x, List.mem_cons_of_mem _ hx, hxy⟩

theorem pairwise_of_forall₂ {α β : Type} {R : α → β → Prop} {S : α → α → Prop} {T : β → β → Prop}
    {xs : List α} {ys : List β} (h : List.Forall₂ R xs ys) (hpairs : xs.Pairwise S)
    (hstep : ∀ x x' y y', R x y → R x' y' → S x x' → T y y') : ys.Pairwise T := by
  induction h with
  | nil => exact List.Pairwise.nil
  | @cons a c as cs hac hrest ih =>
    rw [List.pairwise_cons] at hpairs ⊢
    refine ⟨?_, ih hpairs.2⟩
    intro y hy
    obtain ⟨x, hx, hxy⟩ := exists_of_forall₂ hrest hy
    exact hstep a x c y hac hxy (hpairs.1 x hx)

/-- The new events and the new capture of a batch, in the generation of the next state. -/
structure NewRecords (A : TelemetryState) (m : Fields) (b : Batch)
    (staged : List (LocalRef × StoredRecord)) (captureSha : Text) : Prop where
  events : List.Forall₂ (NewEvent A (m.highestObserved + 1)) b.events staged
  sequences : staged.map (·.1.sequence) = List.range' (m.state.produced + 1) b.candidates.length
  ordinals : staged.map (·.1.ordinal) = List.range' 1 b.candidates.length
  capture : digest captureSha = true

/-- There is room in the state for the batch. -/
structure Batch.Room (b : Batch) (state : LocalState) (highest : Nat) : Prop where
  events : state.events.length + b.candidates.length ≤ maxEvents
  produced : state.produced + b.candidates.length ≤ maxCounter
  generation : highest < maxCounter

section Valid

variable {staged : List (LocalRef × StoredRecord)} {captureSha : Text} {q : LocalRef × StoredRecord}
  (hnew : b.New A m.state) (hroom : b.Room m.state m.highestObserved)
  (hrecords : NewRecords A m b staged captureSha)
include hnew hrecords

theorem NewRecords.length : staged.length = b.candidates.length := by
  rw [← hrecords.events.length_eq, hnew.toSound.length]

omit hnew in
theorem NewRecords.bounds (hq : q ∈ staged) :
    m.state.produced < q.1.sequence ∧ q.1.sequence ≤ m.state.produced + b.candidates.length ∧
      1 ≤ q.1.ordinal ∧ q.1.ordinal ≤ b.candidates.length := by
  have hsequence : q.1.sequence ∈ staged.map (·.1.sequence) := List.mem_map_of_mem hq
  have hordinal : q.1.ordinal ∈ staged.map (·.1.ordinal) := List.mem_map_of_mem hq
  rw [hrecords.sequences, List.mem_range'_1] at hsequence
  rw [hrecords.ordinals, List.mem_range'_1] at hordinal
  omega

include hroom

theorem NewRecords.valid (hq : q ∈ staged) : localRefValid q.1 = true := by
  obtain ⟨p, hp, hevent⟩ := exists_of_forall₂ hrecords.events hq
  have hbounds := hrecords.bounds hq
  have hcandidate := (hnew.valid p hp).candidate
  have hcount := hnew.count
  have hproduced := hroom.produced
  have hgeneration := hroom.generation
  have hmax : maxBatch ≤ maxCounter := by decide
  simp only [appendCandidateValid, decide_eq_true_eq] at hcandidate
  obtain ⟨hid, hrecord, hrevision, hdeal⟩ := hcandidate
  simp only [localRefValid, LocalRef.placed, LocalRef.labelled, hevent.kind, decide_eq_true_eq]
  refine ⟨?_, ?_, hevent.sha, ?_, by rw [hevent.revision]; exact hrevision, hbounds.2.2.1,
    by omega, by rw [hevent.eventId]; exact hid, by rw [hevent.recordSha]; exact hrecord, ?_⟩
  · rw [hevent.generation]
    simp only [counter, decide_eq_true_eq]
    omega
  · simp only [counter, decide_eq_true_eq]
    omega
  · simp only [counter, decide_eq_true_eq]
    omega
  · rw [hevent.dealId, hevent.revision]
    exact hdeal

omit hroom in
/-- The new events differ in place, in id and in what they record of a deal. -/
theorem NewRecords.differ (hvalid : ∀ q ∈ staged, localRefValid q.1 = true) :
    (staged.map Prod.fst).Pairwise (fun e f => LocalState.eventsDiffer e f) := by
  have hcandidates : b.events.Pairwise fun p p' =>
      p'.1.Differs p.1.eventId p.1.dealId p.1.revision := by
    have hpairs := hnew.distinct
    rwa [← hnew.toSound.map_fst, List.pairwise_map] at hpairs
  have hids := pairwise_of_forall₂ (T := fun q q' : LocalRef × StoredRecord =>
      q.1.eventId ≠ q'.1.eventId ∧ ¬ (q.1.dealId ≠ dash ∧ q.1.dealId = q'.1.dealId ∧
        q.1.revision = q'.1.revision)) hrecords.events hcandidates (by
    intro p p' q q' hq hq' hdiffer
    rw [hq.eventId, hq'.eventId, hq.dealId, hq'.dealId, hq.revision, hq'.revision]
    refine ⟨hdiffer.1, ?_⟩
    rintro ⟨hdeal, hsame, hrevision⟩
    exact hdiffer.2 ⟨by rw [← hsame]; exact hdeal, hsame, hrevision⟩)
  have hordinals : staged.Pairwise fun q q' => q.1.ordinal ≠ q'.1.ordinal := by
    have hnodup : (staged.map (·.1.ordinal)).Nodup := by
      rw [hrecords.ordinals]
      exact List.nodup_range'
    rwa [List.Nodup, List.pairwise_map] at hnodup
  rw [List.pairwise_map]
  refine (hids.and hordinals).imp_of_mem ?_
  intro q q' hq hq' hapart
  obtain ⟨p, -, hevent⟩ := exists_of_forall₂ hrecords.events hq
  obtain ⟨p', -, hevent'⟩ := exists_of_forall₂ hrecords.events hq'
  simp only [LocalState.eventsDiffer, decide_eq_true_eq]
  refine ⟨?_, hapart.1.1, hapart.1.2⟩
  intro hpath
  have hlocator := locator_of_path (hvalid q hq) (.inr (.inl hevent.kind)) (hvalid q' hq')
    (.inr (.inl hevent'.kind)) hpath
  exact hapart.2 hlocator.2

omit hnew hroom hrecords in
/-- The reference of a capture of the next generation. -/
theorem capture_valid {ordinal : Nat} (hgeneration : m.highestObserved < maxCounter)
    (hordinal : ordinal ≤ maxBatch) (hsha : digest captureSha = true) :
    localRefValid (makeRef .capture (m.highestObserved + 1) (ordinal + 1) captureSha) = true := by
  have hmax : maxBatch < maxCounter := by decide
  have hgenerationOk : counter (m.highestObserved + 1) 1 = true := by
    simp only [counter, decide_eq_true_eq]
    omega
  have hordinalOk : counter (ordinal + 1) = true := by
    simp only [counter, decide_eq_true_eq]
    omega
  have hzero : counter 0 = true := by decide
  simp only [localRefValid, makeRef, LocalRef.placed, LocalRef.labelled, LocalRef.empty,
    decide_eq_true_eq]
  exact ⟨hgenerationOk, hordinalOk, hsha, hzero, hzero, by simp, by simp⟩

/-- The events with the new ones behind them. -/
theorem NewRecords.eventsValid (hstate : localStateValid m.state = true)
    (hgeneration : m.state.generation ≤ m.highestObserved) (captureSchema : Text) :
    (appendedState m staged b.candidates.length captureSha captureSchema).eventsValid = true := by
  have hvalid : ∀ q ∈ staged, localRefValid q.1 = true := fun q hq => hrecords.valid hnew hroom hq
  have hlength := hrecords.length hnew
  have hdiffer := hrecords.differ hnew hvalid
  have hcapture := capture_valid hroom.generation hnew.count hrecords.capture
  obtain ⟨hsequences, hcounters⟩ := sequences_of_valid hstate
  have hold := (localStateValid_iff.mp hstate).2.2.2.1
  simp only [LocalState.eventsValid, decide_eq_true_eq, List.all_eq_true] at hold
  obtain ⟨holdSequences, holdEvents, holdDiffer⟩ := hold
  have hcount : m.state.produced = m.state.acceptedEvent + m.state.events.length := by
    have hcountersValid := (localStateValid_iff.mp hstate).2.2.1
    simp only [LocalState.countersValid, decide_eq_true_eq] at hcountersValid
    omega
  -- What lies behind the root is older than the new records.
  have holder : ∀ r : LocalRef, r ∈ objectRefs m.state →
      localRefValid r = true ∧ r.kind.isObject ∧ r.generation < m.highestObserved + 1 := by
    intro r hr
    have hnamed := named_of_valid hstate hr
    exact ⟨hnamed.valid, hnamed.object, by have hle := hnamed.generation; omega⟩
  have hpendingOlder : m.state.pending.kind ≠ .absent →
      localRefValid m.state.pending = true ∧ m.state.pending.kind.isObject ∧
        m.state.pending.generation < m.highestObserved + 1 := fun hkind =>
    holder _ (mem_objectRefs.mpr (.inr (.inr (.inl ⟨hkind, rfl⟩))))
  have hackOlder : m.state.ack.kind ≠ .absent →
      localRefValid m.state.ack = true ∧ m.state.ack.kind.isObject ∧
        m.state.ack.generation < m.highestObserved + 1 := fun hkind =>
    holder _ (mem_objectRefs.mpr (.inr (.inr (.inr ⟨hkind, rfl⟩))))
  simp only [LocalState.eventsValid, decide_eq_true_eq, List.all_eq_true]
  refine ⟨?_, ?_, ?_⟩
  · show (m.state.events ++ staged.map Prod.fst).map (·.sequence) =
      List.range' (m.state.acceptedEvent + 1) (m.state.events ++ staged.map Prod.fst).length
    rw [List.map_append, holdSequences, List.map_map, List.length_append, List.length_map,
      List.range'_append_1.symm]
    congr 1
    show staged.map (·.1.sequence) = _
    rw [hrecords.sequences, hlength, hcount]
    congr 1
    omega
  · intro e he
    rcases List.mem_append.mp he with he | he
    · obtain ⟨hok, hkind, hbefore, -, hpending, hack⟩ := holdEvents e he
      have hevent := holder e (mem_objectRefs.mpr (.inr (.inl he)))
      refine ⟨hok, hkind, ?_, ?_, hpending, hack⟩
      · show e.generation ≤ m.highestObserved + 1
        omega
      · exact (path_ne_of_later hcapture (.inl rfl) fun _ => hevent).symm
    · obtain ⟨q, hq, rfl⟩ := List.mem_map.mp he
      obtain ⟨p, -, hevent⟩ := exists_of_forall₂ hrecords.events hq
      have hobject : q.1.kind.isObject := .inr (.inl hevent.kind)
      have hbounds := hrecords.bounds hq
      refine ⟨hvalid q hq, hevent.kind, Nat.le_of_eq hevent.generation, ?_, ?_, ?_⟩
      · intro hpath
        have hlocator := locator_of_path (hvalid q hq) hobject hcapture (.inl rfl) hpath
        have hordinal : q.1.ordinal = b.candidates.length + 1 := hlocator.2
        omega
      · apply path_ne_of_later (hvalid q hq) hobject
        rw [hevent.generation]
        exact hpendingOlder
      · apply path_ne_of_later (hvalid q hq) hobject
        rw [hevent.generation]
        exact hackOlder
  · show (m.state.events ++ staged.map Prod.fst).Pairwise _
    rw [List.pairwise_append]
    refine ⟨holdDiffer, hdiffer, ?_⟩
    intro e he f hf
    obtain ⟨q, hq, rfl⟩ := List.mem_map.mp hf
    obtain ⟨p, hp, hevent⟩ := exists_of_forall₂ hrecords.events hq
    have hmem : p.1 ∈ b.candidates := by
      rw [← hnew.toSound.map_fst]
      exact List.mem_map_of_mem hp
    obtain ⟨hid, hdeal⟩ := hnew.fresh p.1 hmem e he
    simp only [LocalState.eventsDiffer, decide_eq_true_eq]
    refine ⟨?_, by rw [hevent.eventId]; exact hid, ?_⟩
    · apply Ne.symm
      apply path_ne_of_later (hvalid q hq) (.inr (.inl hevent.kind))
      rw [hevent.generation]
      exact fun _ => holder e (mem_objectRefs.mpr (.inr (.inl he)))
    · rw [hevent.dealId, hevent.revision]
      rintro ⟨hdash, hsame, hrevision⟩
      exact hdeal ⟨by rw [← hsame]; exact hdash, hsame, hrevision⟩

/-- The state with the new events is valid, unless there are any and the state before calls itself
complete. -/
theorem NewRecords.stateValid (hstate : localStateValid m.state = true)
    (hgeneration : m.state.generation ≤ m.highestObserved) (hcommit : digest m.commitSha = true)
    {captureSchema : Text} (hschema : identifier captureSchema = true)
    (hcompleteness : m.state.completeness = .upToDate → b.candidates = []) :
    localStateValid (appendedState m staged b.candidates.length captureSha captureSchema) =
      true := by
  have hevents := hrecords.eventsValid hnew hroom hstate hgeneration captureSchema
  have hcapture := capture_valid hroom.generation hnew.count hrecords.capture
  have hlength := hrecords.length hnew
  have hpositive := counter_generation hstate
  have hmax := hroom.generation
  have hproduced := hroom.produced
  have hfull := hroom.events
  simp only [counter, decide_eq_true_eq] at hpositive
  obtain ⟨hhead, -, hcounters, -, hpending, hack, hapart⟩ := localStateValid_iff.mp hstate
  refine localStateValid_iff.mpr ⟨?_, ?_, ?_, hevents, ?_, ?_, ?_⟩
  · simp only [LocalState.headValid, decide_eq_true_eq] at hhead ⊢
    obtain ⟨-, -, hidentity, hregistration, hkind, -, -, -, -, hcomplete, hupToDate, hmissing,
      hreconciliation⟩ := hhead
    refine ⟨?_, ?_, hidentity, hregistration, hkind, hcapture, rfl, Nat.le_refl _, hschema,
      hcomplete, hupToDate, hmissing, hreconciliation⟩
    · show counter (m.highestObserved + 1) 1 = true
      simp only [counter, decide_eq_true_eq]
      omega
    · show counter m.state.generation = true
      simp only [counter, decide_eq_true_eq]
      omega
  · have hlater : ¬ (appendedState m staged b.candidates.length captureSha
        captureSchema).generation = 1 := by
      show ¬ m.highestObserved + 1 = 1
      omega
    rw [LocalState.parentValid, if_neg hlater, decide_eq_true_eq]
    refine ⟨hpositive.1, ?_, hcommit⟩
    show m.state.generation < m.highestObserved + 1
    omega
  · simp only [LocalState.countersValid, counter, decide_eq_true_eq] at hcounters ⊢
    obtain ⟨-, hrequest, hevent, hle, -, hcount⟩ := hcounters
    have hlong : (appendedState m staged b.candidates.length captureSha
        captureSchema).events.length = m.state.events.length + b.candidates.length := by
      show (m.state.events ++ staged.map Prod.fst).length = _
      rw [List.length_append, List.length_map, hlength]
    rw [hlong]
    refine ⟨⟨Nat.zero_le _, hproduced⟩, hrequest, hevent, ?_, hfull, ?_⟩
    · show m.state.acceptedEvent ≤ m.state.produced + b.candidates.length
      omega
    · show m.state.produced + b.candidates.length - m.state.acceptedEvent = _
      omega
  · by_cases habsent : m.state.pending.kind = .absent
    · rw [LocalState.pendingValid, if_pos habsent] at hpending
      rw [LocalState.pendingValid, if_pos (show (appendedState m staged b.candidates.length
        captureSha captureSchema).pending.kind = .absent from habsent)]
      exact hpending
    · rw [LocalState.pendingValid, if_neg habsent] at hpending
      rw [LocalState.pendingValid, if_neg (show ¬ (appendedState m staged b.candidates.length
        captureSha captureSchema).pending.kind = .absent from habsent)]
      simp only [decide_eq_true_eq] at hpending ⊢
      obtain ⟨hvalid, hkind, hearlier, hrest, hrequest, hsequence, hbody, hprior, hbatch, hcount,
        hfinal, hcounter, hbelow, hfrozen, hdeals⟩ := hpending
      refine ⟨hvalid, hkind, ?_, hrest, hrequest, hsequence, hbody, hprior, hbatch, ?_, hfinal,
        hcounter, hbelow, ?_, ?_⟩
      · show m.state.pending.generation ≤ m.highestObserved + 1
        omega
      · show m.state.pendingCount ≤ (m.state.events ++ staged.map Prod.fst).length
        rw [List.length_append]
        omega
      · show m.state.pendingProduced ≤ m.state.produced + b.candidates.length
        omega
      · show ((m.state.events ++ staged.map Prod.fst).take m.state.pendingCount).Pairwise _
        rw [List.take_append_of_le_length hcount]
        exact hdeals
  · by_cases habsent : m.state.ack.kind = .absent
    · rw [LocalState.ackValid, if_pos habsent] at hack
      rw [LocalState.ackValid, if_pos (show (appendedState m staged b.candidates.length
        captureSha captureSchema).ack.kind = .absent from habsent)]
      exact hack
    · rw [LocalState.ackValid, if_neg habsent] at hack
      rw [LocalState.ackValid, if_neg (show ¬ (appendedState m staged b.candidates.length
        captureSha captureSchema).ack.kind = .absent from habsent)]
      simp only [decide_eq_true_eq] at hack ⊢
      obtain ⟨hvalid, hkind, hearlier, hrest⟩ := hack
      refine ⟨hvalid, hkind, ?_, hrest⟩
      show m.state.ack.generation ≤ m.highestObserved + 1
      omega
  · simp only [LocalState.apartValid, decide_eq_true_eq] at hapart ⊢
    refine ⟨?_, ?_, ?_, hapart.2.2.2⟩
    · rintro ⟨hcomplete, hretains⟩
      have hnone := hcompleteness hcomplete
      rw [hnone, List.length_nil] at hlength
      obtain rfl : staged = [] := List.eq_nil_of_length_eq_zero hlength
      apply hapart.1
      refine ⟨hcomplete, hretains.imp_left fun hne hnil => hne ?_⟩
      show m.state.events ++ [] = []
      rw [hnil, List.append_nil]
    · apply path_ne_of_later hcapture (.inl rfl)
      intro hkind
      have hnamed := (pending_of_valid hstate hkind).1
      have hle := hnamed.generation
      refine ⟨hnamed.valid, hnamed.object, ?_⟩
      show m.state.pending.generation < m.highestObserved + 1
      omega
    · apply path_ne_of_later hcapture (.inl rfl)
      intro hkind
      have hnamed := (ack_of_valid hstate hkind).1
      have hle := hnamed.generation
      refine ⟨hnamed.valid, hnamed.object, ?_⟩
      show m.state.ack.generation < m.highestObserved + 1
      omega

omit hroom in
/-- A state that calls itself complete retains no event. -/
theorem NewRecords.not_valid (hne : b.candidates ≠ [])
    (hcompleteness : m.state.completeness = .upToDate) {captureSchema : Text} :
    localStateValid (appendedState m staged b.candidates.length captureSha captureSchema) ≠
      true := by
  intro hvalid
  have hapart := (localStateValid_iff.mp hvalid).2.2.2.2.2.2
  simp only [LocalState.apartValid, decide_eq_true_eq] at hapart
  apply hapart.1
  refine ⟨hcompleteness, .inl ?_⟩
  show m.state.events ++ staged.map Prod.fst ≠ []
  have hlength := hrecords.length hnew
  intro hnil
  have hzero := (List.append_eq_nil_iff.mp hnil).2
  rw [List.map_eq_nil_iff] at hzero
  rw [hzero, List.length_nil] at hlength
  exact hne (List.eq_nil_of_length_eq_zero hlength.symm)

end Valid

end TradeOps.Agent
