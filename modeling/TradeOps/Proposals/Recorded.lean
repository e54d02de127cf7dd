import TradeOps.Lib.Gapless
import TradeOps.Proposals.Ingestion

/-!
# The record of execution proposals

Calls read, and are overtaken, in any order. A batch that goes through finds its producer's
sequence where it was read, since the keys refuse it otherwise; so every producer's events and
checkpoints count from one without a gap, with equal digests. A call that is answered with `202`
has stored its proposal, or replays what was stored.
-/

namespace TradeOps.Proposals

variable {db db' : Database}

/-! ## The invariant -/

def Database.eventsOf (db : Database) (producerInstanceId : String) : List EventRow :=
  db.events.filter (·.producerInstanceId = producerInstanceId)

structure Recorded (db : Database) : Prop where
  sequences : ∀ producer, Gapless ((db.eventsOf producer).map (·.producerSequence))
  checkpoints : ∀ producer,
    (db.checkpointsOf producer).map (fun row => (row.producerSequence, row.proposalSha256)) =
      (db.eventsOf producer).map fun row => (row.producerSequence, row.proposalSha256)
  bodies : ∀ a ∈ db.events, ∀ b ∈ db.events, a.logicalCandidateId = b.logicalCandidateId →
    a.candidateBodySha256 = b.candidateBodySha256
  candidates : db.deliveries.map (·.logicalCandidateId) = db.payloads.map (·.logicalCandidateId)
  candidateIds : (db.payloads.map (·.logicalCandidateId)).Nodup
  results : db.results.map (·.eventId) = db.events.map (·.eventId)
  eventIds : (db.events.map (·.eventId)).Nodup
  accepted : ∀ row ∈ db.results, row.statusCode = 202

/-- No row is lost. -/
structure Grows (db db' : Database) : Prop where
  events : db.events ⊆ db'.events
  results : db.results ⊆ db'.results

theorem Grows.refl (db : Database) : Grows db db := ⟨fun _ h => h, fun _ h => h⟩

theorem Grows.trans {a b c : Database} (h : Grows a b) (h' : Grows b c) : Grows a c :=
  ⟨fun _ hmem => h'.events (h.events hmem), fun _ hmem => h'.results (h.results hmem)⟩

theorem recorded_empty : Recorded .empty := by
  refine ⟨fun _ => Gapless.nil, fun _ => rfl, ?_, rfl, List.nodup_nil, rfl, List.nodup_nil, ?_⟩
  · exact fun a ha => absurd ha List.not_mem_nil
  · exact fun row hrow => absurd hrow List.not_mem_nil

namespace Recorded

/-- The next sequence of a producer is one more than its events. -/
theorem expectedProducerSequence (h : Recorded db) (producer : String) :
    db.expectedProducerSequence producer =
      ((db.eventsOf producer).map (·.producerSequence)).length + 1 := by
  have hsequences : (db.checkpointsOf producer).map (·.producerSequence) =
      (db.eventsOf producer).map (·.producerSequence) := by
    have hpairs := congrArg (List.map Prod.fst) (h.checkpoints producer)
    rwa [List.map_map, List.map_map] at hpairs
  rw [Database.expectedProducerSequence, hsequences, (h.sequences producer).foldr_max]

/-- The events of a producer only become more. -/
theorem length_le (h : Recorded db) (h' : Recorded db') (hgrows : Grows db db')
    (producer : String) :
    ((db.eventsOf producer).map (·.producerSequence)).length ≤
      ((db'.eventsOf producer).map (·.producerSequence)).length := by
  generalize hn : ((db.eventsOf producer).map (·.producerSequence)).length = n
  by_cases hzero : n = 0
  · omega
  · have hlast : (n : Int) ∈ (db.eventsOf producer).map (·.producerSequence) := by
      rw [(h.sequences producer).mem_iff, hn]
      omega
    obtain ⟨row, hrow, hsequence⟩ := List.mem_map.1 hlast
    obtain ⟨hmem, hproducer⟩ := List.mem_filter.1 hrow
    have hlast' : (n : Int) ∈ (db'.eventsOf producer).map (·.producerSequence) :=
      List.mem_map.2 ⟨row, List.mem_filter.2 ⟨hgrows.events hmem, hproducer⟩, hsequence⟩
    have hle := ((h'.sequences producer).mem_iff.1 hlast').2
    omega

/-- A producer uses a sequence once. -/
theorem event_unique (h : Recorded db) {a b : EventRow} (ha : a ∈ db.events) (hb : b ∈ db.events)
    (hproducer : a.producerInstanceId = b.producerInstanceId)
    (hsequence : a.producerSequence = b.producerSequence) : a = b := by
  have hnodup := (h.sequences b.producerInstanceId).nodup
  apply List.inj_on_of_nodup_map hnodup
  · exact List.mem_filter.2 ⟨ha, decide_eq_true hproducer⟩
  · exact List.mem_filter.2 ⟨hb, decide_eq_true rfl⟩
  · exact hsequence

theorem eventAt_eq (h : Recorded db) {event : EventRow} (hmem : event ∈ db.events) :
    db.eventAt event.producerInstanceId event.producerSequence = some event := by
  unfold Database.eventAt
  cases hfind : db.events.find? fun row => row.producerInstanceId = event.producerInstanceId ∧
      row.producerSequence = event.producerSequence with
  | none =>
    have hnot := List.find?_eq_none.1 hfind event hmem
    simp at hnot
  | some found =>
    have hfound := List.find?_some hfind
    obtain ⟨hproducer, hsequence⟩ := of_decide_eq_true hfound
    rw [h.event_unique (List.mem_of_find?_eq_some hfind) hmem hproducer hsequence]

/-- Every event has its one result, which is the answer that is replayed. -/
theorem result_of_event (h : Recorded db) {event : EventRow} (hmem : event ∈ db.events) :
    ∃ result ∈ db.results, result.eventId = event.eventId := by
  have hid : event.eventId ∈ db.results.map (·.eventId) := by
    rw [h.results]
    exact List.mem_map_of_mem hmem
  exact List.mem_map.1 hid

theorem replayResponse_eq (h : Recorded db) {result : ResultRow} (hmem : result ∈ db.results) :
    db.replayResponse result.eventId = some ⟨202, result.responseJson⟩ := by
  have hnodup : (db.results.map (·.eventId)).Nodup := by
    rw [h.results]
    exact h.eventIds
  have hfind : db.results.find? (·.eventId = result.eventId) = some result := by
    cases hfind : db.results.find? (·.eventId = result.eventId) with
    | none =>
      have hnot := List.find?_eq_none.1 hfind result hmem
      simp at hnot
    | some found =>
      have hfound := List.find?_some hfind
      rw [List.inj_on_of_nodup_map hnodup (List.mem_of_find?_eq_some hfind) hmem
        (of_decide_eq_true hfound)]
  unfold Database.replayResponse
  rw [hfind]
  dsimp only
  rw [h.accepted result hmem, if_pos rfl]

end Recorded

theorem replayResponse_some {eventId : String} {response : Response}
    (h : db.replayResponse eventId = some response) :
    ∃ result ∈ db.results, result.eventId = eventId ∧ result.responseJson = response.body := by
  unfold Database.replayResponse at h
  split at h
  · next stored hfind =>
    split at h
    · have hfound := List.find?_some hfind
      rw [← Option.some.inj h]
      exact ⟨stored, List.mem_of_find?_eq_some hfind, of_decide_eq_true hfound, rfl⟩
    · cases h
  · cases h

/-! ## Batches -/

theorem insertWhen_ok_iff {holds : Bool} {next : Database} :
    Database.insertWhen holds next = .ok db' ↔ holds = true ∧ next = db' := by
  unfold Database.insertWhen
  cases holds <;> simp

theorem insertIncident_ok {row : IncidentRow}
    (h : store.batch [.insertIncident row] db = .ok db') :
    db' = { db with incidents := db.incidents ++ [row] } := by
  rw [Store.batch_singleton] at h
  exact (insertWhen_ok_iff.1 h).2.symm

theorem Recorded.incident (h : Recorded db) (row : IncidentRow) :
    Recorded { db with incidents := db.incidents ++ [row] } :=
  { h with }

section Record

variable {ι β : Type} {sha256 : Text → String} {call : Call ι β} {proposal : Proposal}
  {candidate : Candidate} {candidateAlreadyStored : Bool}

/-- The candidate rows that a batch adds: both or none, and not twice. -/
def AddsCandidate (db : Database) (payloads : List PayloadRow) (deliveries : List DeliveryRow) :
    Prop :=
  (payloads = [] ∧ deliveries = []) ∨
    ∃ payload delivery, payloads = [payload] ∧ deliveries = [delivery] ∧
      delivery.logicalCandidateId = payload.logicalCandidateId ∧
      ∀ other ∈ db.payloads, other.logicalCandidateId ≠ payload.logicalCandidateId

/-- What a batch that records a proposal has found and adds. -/
structure Records (sha256 : Text → String) (call : Call ι β) (proposal : Proposal)
    (candidate : Candidate) (db db' : Database) : Prop where
  bodies : ∀ other ∈ db.events, other.logicalCandidateId = candidate.logicalCandidateId →
    other.candidateBodySha256 = candidate.candidateBodySha256
  sequence : 1 ≤ proposal.producerSequence
  unused : ∀ other ∈ db.events, other.producerInstanceId = proposal.producerInstanceId →
    other.producerSequence ≠ proposal.producerSequence
  fresh : ∀ other ∈ db.events, other.eventId ≠ proposal.eventId sha256
  adds : ∃ payloads deliveries, AddsCandidate db payloads deliveries ∧
    db' = { db with
      events := db.events ++ [eventRow sha256 call proposal candidate]
      results := db.results ++ [⟨proposal.eventId sha256, 202,
        ingestionResponse sha256 call proposal candidate, call.receivedAtEpoch.toNat⟩]
      checkpoints := db.checkpoints ++ [⟨proposal.checkpointId sha256, proposal.producerInstanceId,
        proposal.producerSequence, proposal.digest sha256, call.receivedAtEpoch.toNat⟩]
      payloads := db.payloads ++ payloads
      deliveries := db.deliveries ++ deliveries }

theorem insertEvent_ok {row : EventRow} (h : Database.exec (.insertEvent row) db = .ok db') :
    (∀ other ∈ db.events, other.logicalCandidateId = row.logicalCandidateId →
        other.candidateBodySha256 = row.candidateBodySha256) ∧
      1 ≤ row.producerSequence ∧
      (∀ other ∈ db.events, other.eventId ≠ row.eventId ∧
        ¬(other.producerInstanceId = row.producerInstanceId ∧
          other.producerSequence = row.producerSequence)) ∧
      db' = { db with events := db.events ++ [row] } := by
  unfold Database.exec at h
  dsimp only at h
  split at h
  · cases h
  · next hconflict =>
    obtain ⟨hholds, hnext⟩ := insertWhen_ok_iff.1 h
    rw [Bool.and_eq_true, Bool.not_eq_true', List.any_eq_false] at hholds
    obtain ⟨hchecks, hunique⟩ := hholds
    refine ⟨?_, (of_decide_eq_true hchecks).2.1, ?_, hnext.symm⟩
    · intro other hother hid
      by_contra hne
      apply hconflict
      unfold Database.candidateBodyConflict
      rw [List.any_eq_true]
      exact ⟨other, hother, decide_eq_true ⟨hid, hne⟩⟩
    · intro other hother
      have hnot := hunique other hother
      rw [decide_eq_true_eq, not_or] at hnot
      exact hnot

/-- A batch that goes through. -/
theorem record_ok
    (h : store.batch (recordStatements sha256 call proposal candidate candidateAlreadyStored) db =
      .ok db') : Records sha256 call proposal candidate db db' := by
  unfold recordStatements at h
  rw [Store.batch_append, Checks.bind_ok_iff] at h
  obtain ⟨recorded, hrecorded, hcandidate⟩ := h
  unfold Store.batch at hrecorded
  obtain ⟨db₁, hevent, hrest⟩ := Checks.bind_ok_iff.1 hrecorded
  unfold Store.batch at hrest
  obtain ⟨db₂, hresult, hrest⟩ := Checks.bind_ok_iff.1 hrest
  rw [Store.batch_singleton] at hrest
  obtain ⟨hbodies, hsequence, hunique, rfl⟩ := insertEvent_ok hevent
  obtain ⟨-, rfl⟩ := insertWhen_ok_iff.1 hresult
  obtain ⟨-, rfl⟩ := insertWhen_ok_iff.1 hrest
  refine ⟨hbodies, hsequence, fun other hother hproducer hsame =>
    (hunique other hother).2 ⟨hproducer, hsame⟩, fun other hother => (hunique other hother).1, ?_⟩
  split at hcandidate
  · unfold Store.batch at hcandidate
    obtain ⟨db₃, hpayload, hdelivery⟩ := Checks.bind_ok_iff.1 hcandidate
    rw [Store.batch_singleton] at hdelivery
    obtain ⟨hholds, rfl⟩ := insertWhen_ok_iff.1 hpayload
    obtain ⟨-, rfl⟩ := insertWhen_ok_iff.1 hdelivery
    refine ⟨_, _, .inr ⟨_, _, rfl, rfl, rfl, ?_⟩, rfl⟩
    intro other hother hid
    rw [Bool.and_eq_true, Bool.not_eq_true', List.any_eq_false] at hholds
    exact hholds.2 other hother (decide_eq_true (.inl hid))
  · cases hcandidate
    exact ⟨[], [], .inl ⟨rfl, rfl⟩, by simp⟩

theorem eventsOf_append (row : EventRow) (producer : String) :
    Database.eventsOf { db with events := db.events ++ [row] } producer =
      db.eventsOf producer ++ if row.producerInstanceId = producer then [row] else [] := by
  unfold Database.eventsOf
  dsimp only
  rw [List.filter_append]
  by_cases h : row.producerInstanceId = producer <;> simp [h]

/-- A batch that records a proposal which does not lie beyond the next sequence takes the next
sequence. -/
theorem Recorded.record (h : Recorded db) (hr : Records sha256 call proposal candidate db db')
    (hnext : proposal.producerSequence ≤
      ((db.eventsOf proposal.producerInstanceId).map (·.producerSequence)).length + 1) :
    Recorded db' ∧ Grows db db' := by
  have hsequence : proposal.producerSequence =
      ((db.eventsOf proposal.producerInstanceId).map (·.producerSequence)).length + 1 := by
    by_contra hne
    have hmem : proposal.producerSequence ∈
        (db.eventsOf proposal.producerInstanceId).map (·.producerSequence) := by
      rw [(h.sequences _).mem_iff]
      have hlow := hr.sequence
      omega
    obtain ⟨other, hother, hsame⟩ := List.mem_map.1 hmem
    obtain ⟨hother, hproducer⟩ := List.mem_filter.1 hother
    exact hr.unused other hother (of_decide_eq_true hproducer) hsame
  obtain ⟨payloads, deliveries, hadds, rfl⟩ := hr.adds
  refine ⟨⟨?_, ?_, ?_, ?_, ?_, ?_, ?_, ?_⟩, ?_, ?_⟩
  · intro producer
    show Gapless ((Database.eventsOf { db with
      events := db.events ++ [eventRow sha256 call proposal candidate] } producer).map _)
    rw [eventsOf_append]
    split
    · next hproducer =>
      rw [List.map_append, List.map_singleton]
      show Gapless (_ ++ [proposal.producerSequence])
      rw [hsequence, ← hproducer]
      exact (h.sequences _).append
    · rw [List.append_nil]
      exact h.sequences producer
  · intro producer
    show (Database.checkpointsOf { db with checkpoints := _ } producer).map _ =
      (Database.eventsOf { db with
        events := db.events ++ [eventRow sha256 call proposal candidate] } producer).map _
    rw [eventsOf_append]
    unfold Database.checkpointsOf
    dsimp only
    rw [List.filter_append, List.map_append, List.map_append]
    congr 1
    · exact h.checkpoints producer
    · by_cases hproducer : proposal.producerInstanceId = producer <;> simp [hproducer, eventRow]
  · intro a ha b hb hid
    obtain ha | ha := List.mem_append.1 ha
    · obtain hb | hb := List.mem_append.1 hb
      · exact h.bodies a ha b hb hid
      · rw [List.mem_singleton.1 hb] at hid ⊢
        exact hr.bodies a ha hid
    · rw [List.mem_singleton.1 ha] at hid ⊢
      obtain hb | hb := List.mem_append.1 hb
      · exact (hr.bodies b hb hid.symm).symm
      · rw [List.mem_singleton.1 hb]
  · show (_ ++ deliveries).map _ = (_ ++ payloads).map _
    rw [List.map_append, List.map_append, h.candidates]
    obtain ⟨rfl, rfl⟩ | ⟨payload, delivery, rfl, rfl, hid, -⟩ := hadds
    · rfl
    · rw [List.map_singleton, List.map_singleton, hid]
  · show ((_ ++ payloads).map _).Nodup
    obtain ⟨rfl, -⟩ | ⟨payload, -, rfl, -, -, hnew⟩ := hadds
    · rw [List.append_nil]
      exact h.candidateIds
    · exact Tables.keysNodup_append h.candidateIds hnew
  · show (_ ++ [_]).map _ = (_ ++ [_]).map _
    rw [List.map_append, List.map_append, h.results]
    rfl
  · exact Tables.keysNodup_append h.eventIds hr.fresh
  · intro row hrow
    obtain hold | hnew := List.mem_append.1 hrow
    · exact h.accepted row hold
    · rw [List.mem_singleton.1 hnew]
  · exact fun row hrow => List.mem_append_left _ hrow
  · exact fun row hrow => List.mem_append_left _ hrow

end Record

/-! ## Calls -/

section Calls

variable {ι β ν : Type} {parseStrictJson : β → Option ν}
  {validatedProposalAndCandidate : ν → ι → Option (Proposal × Candidate)} {sha256 : Text → String}
  {call : Call ι β} {proposal : Proposal} {candidate : Candidate}

/-- The event is of the proposal: of its producer and sequence, with its digest. -/
def EventRow.Of (sha256 : Text → String) (proposal : Proposal) (event : EventRow) : Prop :=
  event.producerInstanceId = proposal.producerInstanceId ∧
    event.producerSequence = proposal.producerSequence ∧
    event.proposalSha256 = proposal.digest sha256

/-- An answer with `202` is the stored result of an event of the proposal. -/
def Answered (sha256 : Text → String) (proposal : Proposal) (answer : Except Failure Response)
    (db : Database) : Prop :=
  ∀ response, answer = .ok response → response.status = 202 →
    ∃ event ∈ db.events, event.Of sha256 proposal ∧
      ∃ result ∈ db.results, result.eventId = event.eventId ∧ result.responseJson = response.body

theorem Answered.mono {answer : Except Failure Response} (h : Answered sha256 proposal answer db)
    (hgrows : Grows db db') : Answered sha256 proposal answer db' := by
  intro response hanswer hstatus
  obtain ⟨event, hevent, hof, result, hresult, hrest⟩ := h response hanswer hstatus
  exact ⟨event, hgrows.events hevent, hof, result, hgrows.results hresult, hrest⟩

theorem answered_of_ne {response : Response} (h : response.status ≠ 202) :
    Answered sha256 proposal (.ok response) db := by
  intro response' hanswer hstatus
  rw [← Except.ok.inj hanswer] at hstatus
  exact absurd hstatus h

/-- The rules of a call: within the record, which only grows, any batch may be sent. -/
abbrev SafeCall (sha256 : Text → String) (proposal : Proposal) (job : Job store Failure Response)
    (db : Database) : Prop :=
  job.Safe Recorded Grows (fun _ _ => True) (fun r _ => Answered sha256 proposal r) [] db

theorem quarantine_safe (kind : IncidentKind) (expectedSequence : Int)
    (existingSha256 : Option String) (code message : String) :
    SafeCall sha256 proposal
      (quarantine sha256 call proposal kind expectedSequence existingSha256 code message) db := by
  intro db₁ _ hrecorded _
  refine ⟨fun db₂ hbatch => ?_, fun failure _ response hanswer => nomatch hanswer⟩
  rw [insertIncident_ok hbatch]
  exact ⟨hrecorded.incident _, ⟨fun _ h => h, fun _ h => h⟩,
    answered_of_ne (show 409 ≠ 202 by decide)⟩

theorem classifyCandidate_safe :
    SafeCall sha256 proposal (classifyCandidate sha256 call proposal candidate) db := by
  refine Job.Safe.query_bind fun db₁ _ _ => ?_
  split
  · refine Job.Safe.query_bind fun db₂ _ _ => ?_
    exact quarantine_safe _ _ _ _ _
  · exact answered_of_ne (by decide)

theorem classifyFailure_safe :
    SafeCall sha256 proposal (classifyFailure sha256 call proposal candidate) db := by
  refine Job.Safe.query_bind fun db₁ _ _ => ?_
  split
  · next existing hexisting =>
    have hmem := List.mem_of_find?_eq_some hexisting
    have hfound := List.find?_some hexisting
    obtain ⟨hproducer, hsequence⟩ := of_decide_eq_true hfound
    split
    · next hdigest =>
      refine Job.Safe.query_bind fun db₂ hgrows _ => ?_
      split
      · next response hreplay =>
        intro response' hanswer _
        rw [← Except.ok.inj hanswer]
        obtain ⟨result, hresult, hid, hbody⟩ := replayResponse_some hreplay
        exact ⟨existing, hgrows.events hmem, ⟨hproducer, hsequence, hdigest⟩, result, hresult, hid,
          hbody⟩
      · exact classifyCandidate_safe
    · refine Job.Safe.query_bind fun db₂ _ _ => ?_
      exact quarantine_safe _ _ _ _ _
  · exact classifyCandidate_safe

/-- A batch after the read of the next sequence. -/
theorem record_safe (hrecorded : Recorded db)
    (hnext : proposal.producerSequence = db.expectedProducerSequence proposal.producerInstanceId)
    (candidateAlreadyStored : Bool) {db' : Database} (hgrows : Grows db db') :
    SafeCall sha256 proposal
      (record sha256 call proposal candidate candidateAlreadyStored) db' := by
  intro db₁ hgrows₁ hrecorded₁ _
  refine ⟨fun db₂ hbatch => ?_, fun failure _ => classifyFailure_safe⟩
  have hr := record_ok hbatch
  have hle := hrecorded.length_le hrecorded₁ (hgrows.trans hgrows₁) proposal.producerInstanceId
  obtain ⟨hrecorded₂, hgrows₂⟩ := hrecorded₁.record hr (by
    rw [hnext, hrecorded.expectedProducerSequence]
    omega)
  refine ⟨hrecorded₂, hgrows₂, ?_⟩
  intro response hanswer _
  rw [← Except.ok.inj hanswer]
  obtain ⟨payloads, deliveries, -, rfl⟩ := hr.adds
  exact ⟨eventRow sha256 call proposal candidate, List.mem_append_right _ List.mem_cons_self,
    ⟨rfl, rfl, rfl⟩, _, List.mem_append_right _ List.mem_cons_self, rfl, rfl⟩

theorem ingestNew_safe :
    SafeCall sha256 proposal (ingestNew sha256 call proposal candidate) db := by
  refine Job.Safe.query_bind fun db₁ _ _ => ?_
  refine Job.Safe.query_bind fun db₂ _ hrecorded => ?_
  split
  · exact quarantine_safe _ _ _ _ _
  · split
    · exact quarantine_safe _ _ _ _ _
    · have hnext : proposal.producerSequence =
          db₂.expectedProducerSequence proposal.producerInstanceId := by omega
      split
      · exact quarantine_safe _ _ _ _ _
      · split
        · refine Job.Safe.query_bind fun db₃ hgrows _ => ?_
          split
          · split
            · exact record_safe hrecorded hnext true hgrows
            · exact quarantine_safe _ _ _ _ _
          · exact record_safe hrecorded hnext false hgrows
        · exact record_safe hrecorded hnext false (Grows.refl db₂)

theorem review_error {response : Response}
    (h : review parseStrictJson validatedProposalAndCandidate call = .error response) :
    response.status ≠ 202 := by
  unfold review at h
  dsimp only at h
  split at h
  · cases h
    decide
  · split_ifs at h
    · cases h
      decide
    · cases h
      decide
    · split at h
      · cases h
        decide
      · split at h
        · cases h
          decide
        · split at h
          · cases h
            decide
          · cases h

/-- What a call promises of its answer: one with `202` is of the proposal that it reviewed. -/
def Promises (parseStrictJson : β → Option ν)
    (validatedProposalAndCandidate : ν → ι → Option (Proposal × Candidate)) (sha256 : Text → String)
    (call : Call ι β) (answer : Except Failure Response) (db : Database) : Prop :=
  ∀ response, answer = .ok response → response.status = 202 → ∃ proposal candidate,
    review parseStrictJson validatedProposalAndCandidate call = .ok (proposal, candidate) ∧
      Answered sha256 proposal answer db

theorem Promises.mono {answer : Except Failure Response}
    (h : Promises parseStrictJson validatedProposalAndCandidate sha256 call answer db)
    (hgrows : Grows db db') :
    Promises parseStrictJson validatedProposalAndCandidate sha256 call answer db' := by
  intro response hanswer hstatus
  obtain ⟨proposal, candidate, hreview, hanswered⟩ := h response hanswer hstatus
  exact ⟨proposal, candidate, hreview, hanswered.mono hgrows⟩

theorem ingest_safe (call : Call ι β) (db : Database) :
    (ingestExecutionProposalV1 parseStrictJson validatedProposalAndCandidate sha256 call).Safe
      Recorded Grows (fun _ _ => True)
      (fun r _ => Promises parseStrictJson validatedProposalAndCandidate sha256 call r) [] db := by
  unfold ingestExecutionProposalV1
  cases hreview : review parseStrictJson validatedProposalAndCandidate call with
  | error response =>
    intro response' hanswer hstatus
    rw [← Except.ok.inj hanswer] at hstatus
    exact absurd hstatus (review_error hreview)
  | ok reviewed =>
    obtain ⟨proposal, candidate⟩ := reviewed
    refine Job.Safe.mono (Q := fun r _ => Answered sha256 proposal r) ?_
      fun answer _ db h response hanswer hstatus => ⟨proposal, candidate, hreview, h⟩
    refine Job.Safe.query_bind fun db₁ _ _ => ?_
    split
    · next existing hexisting =>
      have hmem := List.mem_of_find?_eq_some hexisting
      have hfound := List.find?_some hexisting
      obtain ⟨hproducer, hsequence⟩ := of_decide_eq_true hfound
      split
      · next hdigest =>
        refine Job.Safe.query_bind fun db₂ hgrows _ => ?_
        cases hreplay : db₂.replayResponse existing.eventId with
        | none => exact answered_of_ne (by decide)
        | some response =>
          intro response' hanswer _
          rw [← Except.ok.inj hanswer]
          obtain ⟨result, hresult, hid, hbody⟩ := replayResponse_some hreplay
          exact ⟨existing, hgrows.events hmem, ⟨hproducer, hsequence, hdigest⟩, result, hresult,
            hid, hbody⟩
      · refine Job.Safe.query_bind fun db₂ _ _ => ?_
        exact quarantine_safe _ _ _ _ _
    · exact ingestNew_safe

/-- A batch adds one incident, or the call ends with `202` after it. -/
def IncidentOrAccepted (statements : List Statement) (rest : Job store Failure Response) : Prop :=
  (∃ row, statements = [.insertIncident row]) ∨
    ∃ response, rest = .done response ∧ response.status = 202

theorem quarantine_sends (kind : IncidentKind) (expectedSequence : Int)
    (existingSha256 : Option String) (code message : String) :
    (quarantine sha256 call proposal kind expectedSequence existingSha256 code message).Sends
      IncidentOrAccepted :=
  ⟨.inl ⟨_, rfl⟩, trivial, fun _ => trivial⟩

theorem classifyCandidate_sends :
    (classifyCandidate sha256 call proposal candidate).Sends IncidentOrAccepted := by
  refine Job.Sends.query_bind fun db => ?_
  split
  · exact fun db => quarantine_sends _ _ _ _ _
  · trivial

theorem classifyFailure_sends :
    (classifyFailure sha256 call proposal candidate).Sends IncidentOrAccepted := by
  refine Job.Sends.query_bind fun db => ?_
  split
  · split
    · refine Job.Sends.query_bind fun db₁ => ?_
      split
      · trivial
      · exact classifyCandidate_sends
    · exact fun db => quarantine_sends _ _ _ _ _
  · exact classifyCandidate_sends

theorem record_sends (candidateAlreadyStored : Bool) :
    (record sha256 call proposal candidate candidateAlreadyStored).Sends IncidentOrAccepted :=
  ⟨.inr ⟨_, rfl, rfl⟩, trivial, fun _ => classifyFailure_sends⟩

theorem ingestNew_sends :
    (ingestNew sha256 call proposal candidate).Sends IncidentOrAccepted := by
  refine Job.Sends.query_bind fun db₁ => Job.Sends.query_bind fun db₂ => ?_
  split
  · exact quarantine_sends _ _ _ _ _
  · split
    · exact quarantine_sends _ _ _ _ _
    · split
      · exact quarantine_sends _ _ _ _ _
      · split
        · refine Job.Sends.query_bind fun db₃ => ?_
          split
          · split
            · exact record_sends true
            · exact quarantine_sends _ _ _ _ _
          · exact record_sends false
        · exact record_sends false

theorem ingest_sends (call : Call ι β) :
    (ingestExecutionProposalV1 parseStrictJson validatedProposalAndCandidate sha256 call).Sends
      IncidentOrAccepted := by
  unfold ingestExecutionProposalV1
  split
  · trivial
  · refine Job.Sends.query_bind fun db => ?_
    split
    · split
      · exact fun _ => trivial
      · exact fun db => quarantine_sends _ _ _ _ _
    · exact ingestNew_sends

/-- A proposal that is stored is answered after two reads, with its result. -/
theorem ingest_answers
    (hreview : review parseStrictJson validatedProposalAndCandidate call =
      .ok (proposal, candidate))
    {event : EventRow} (hevent : event ∈ db.events) (hof : event.Of sha256 proposal)
    {result : ResultRow} (hresult : result ∈ db.results) (hid : result.eventId = event.eventId) :
    (ingestExecutionProposalV1 parseStrictJson validatedProposalAndCandidate sha256 call).AnswersIn
      Recorded Grows ⟨202, result.responseJson⟩ 2 db := by
  obtain ⟨hproducer, hsequence, hdigest⟩ := hof
  unfold ingestExecutionProposalV1
  rw [hreview]
  refine Job.AnswersIn.query_bind fun db₁ hgrows₁ hrecorded₁ => ?_
  have hfound := hrecorded₁.eventAt_eq (hgrows₁.events hevent)
  rw [hproducer, hsequence] at hfound
  rw [hfound]
  dsimp only
  rw [if_pos hdigest]
  intro db₂ hgrows₂ hrecorded₂
  have hreplay := hrecorded₂.replayResponse_eq (hgrows₂.results (hgrows₁.results hresult))
  rw [hid] at hreplay
  show Option.getD (db₂.replayResponse event.eventId) _ = _
  rw [hreplay]
  rfl

/-! ## The run -/

variable {w : Jobs.World store Failure Response (Call ι β)}

theorem ingestion_safe
    (h : (ingestion parseStrictJson validatedProposalAndCandidate sha256).Reachable w) :
    w.Safe (fun _ => True) Recorded Grows (fun _ _ _ => True)
      (Promises parseStrictJson validatedProposalAndCandidate sha256) := by
  refine Jobs.World.reachable_safe (R := Grows)
    (Q := Promises parseStrictJson validatedProposalAndCandidate sha256) ?_ Grows.refl
    (fun _ _ _ => Grows.trans) (fun _ _ _ _ => Promises.mono) ?_ h
  · rintro _ rfl
    exact recorded_empty
  · exact fun call _ db _ => ingest_safe call db

/-- A proposal that is sent again to a world is answered with the stored result, as soon as the
call has made two steps, whatever other calls do. -/
theorem resend_answered
    (h : (ingestion parseStrictJson validatedProposalAndCandidate sha256).Reachable w)
    (hreview : review parseStrictJson validatedProposalAndCandidate call =
      .ok (proposal, candidate))
    {event : EventRow} (hevent : event ∈ w.state.events) (hof : event.Of sha256 proposal)
    {result : ResultRow} (hresult : result ∈ w.state.results)
    (hid : result.eventId = event.eventId) (schedule : List (Jobs.Label (Call ι β))) :
    let serve := ingestExecutionProposalV1 parseStrictJson validatedProposalAndCandidate sha256
    let w' := schedule.foldl (Jobs.World.next serve) (w.next serve (.arrive call))
    (w'.answer w.calls.length = none ∧
        schedule.countP (Jobs.Label.isStep w.calls.length) < 2) ∨
      w'.answer w.calls.length = some ⟨202, result.responseJson⟩ := by
  intro serve w'
  have hserve : ∀ request db, Recorded db → (serve request).Safe Recorded Grows (fun _ _ => True)
      (fun r _ => Promises parseStrictJson validatedProposalAndCandidate sha256 request r) [] db :=
    fun call db _ => ingest_safe call db
  have hsafe := (Jobs.World.next_safe (V := store) (R := Grows)
    (Q := Promises parseStrictJson validatedProposalAndCandidate sha256) Grows.refl
    (fun _ _ _ => Grows.trans) (fun _ _ _ _ => Promises.mono) hserve (ingestion_safe h)
    (.arrive call)).1
  have hcall : (w.next serve (.arrive call)).calls[w.calls.length]? = some (call, serve call) :=
    List.getElem?_concat_length
  exact Jobs.World.schedule_answers (V := store) (R := Grows)
    (Q := Promises parseStrictJson validatedProposalAndCandidate sha256) Grows.refl
    (fun _ _ _ => Grows.trans) (fun _ _ _ _ => Promises.mono) hserve schedule hsafe hcall
    (ingest_answers hreview hevent hof hresult hid)

/-- In every state that calls reach: the record holds; a step that changes more than the incidents
ends its call with `202`; a call that was answered with `202` was answered with the stored result
of its proposal; and a stored proposal that is sent again, and passes the review, is answered with
the same bytes as soon as the call has made two steps. -/
theorem proposals_recorded
    (h : (ingestion parseStrictJson validatedProposalAndCandidate sha256).Reachable w) :
    Recorded w.state ∧
    (∀ l w', (ingestion parseStrictJson validatedProposalAndCandidate sha256).step l w w' →
      { w'.state with incidents := w.state.incidents } = w.state ∨
        ∃ i response, l = .step i ∧ w'.answer i = some response ∧ response.status = 202) ∧
    (∀ (i : Nat) (call : Call ι β) (response : Response),
      w.calls[i]? = some (call, .done response) → response.status = 202 →
      ∃ proposal candidate,
        review parseStrictJson validatedProposalAndCandidate call = .ok (proposal, candidate) ∧
          ∃ event ∈ w.state.events, event.Of sha256 proposal ∧
            ∃ result ∈ w.state.results, result.eventId = event.eventId ∧
              result.responseJson = response.body) ∧
    ∀ call proposal candidate event,
      review parseStrictJson validatedProposalAndCandidate call = .ok (proposal, candidate) →
      event ∈ w.state.events → event.Of sha256 proposal →
      ∃ result ∈ w.state.results, result.eventId = event.eventId ∧
        ∀ schedule : List (Jobs.Label (Call ι β)),
          let serve := ingestExecutionProposalV1 parseStrictJson
            validatedProposalAndCandidate sha256
          let w' := schedule.foldl (Jobs.World.next serve) (w.next serve (.arrive call))
          (w'.answer w.calls.length = none ∧
              schedule.countP (Jobs.Label.isStep w.calls.length) < 2) ∨
            w'.answer w.calls.length = some ⟨202, result.responseJson⟩ := by
  have hsafe := ingestion_safe h
  refine ⟨hsafe.1, ?_, ?_, ?_⟩
  · intro l w' hstep
    obtain hsame | ⟨i, call, statements, rest, rfl, hget, hbatch, hkind⟩ :=
      Jobs.World.step_sends ingest_sends h hstep
    · rw [hsame]
      exact .inl rfl
    · obtain ⟨row, rfl⟩ | ⟨response, rfl, hstatus⟩ := hkind
      · rw [insertIncident_ok hbatch]
        exact .inl rfl
      · refine .inr ⟨i, response, rfl, ?_, hstatus⟩
        rw [Jobs.World.answer, hget]
        rfl
  · intro i call response hget hstatus
    have hcall := (hsafe.calls i call _ hget).2
    obtain ⟨proposal, candidate, hreview, hanswered⟩ := hcall response rfl hstatus
    exact ⟨proposal, candidate, hreview, hanswered response rfl hstatus⟩
  · intro call proposal candidate event hreview hevent hof
    obtain ⟨result, hresult, hid⟩ := hsafe.1.result_of_event hevent
    exact ⟨result, hresult, hid, resend_answered h hreview hevent hof hresult hid⟩

end Calls

/-! ## A proposal that is sent twice -/

/-- The fields of a proposal after its version, as `JSON.stringify` writes them. -/
def sampleFields : Text :=
  ["\"strategy_version\":\"rd-entry-execution-proposal-v1\",",
    "\"execution_mode\":\"PAPER_ONLY\",\"producer_instance_id\":\"pine-proposal-v1-fixture\",",
    "\"producer_sequence\":1,\"delivery_kind\":\"LIVE\",",
    "\"ingest_integrity\":\"LIVE_CONTIGUOUS\",\"ticker_id\":\"OANDA:EURUSD\",",
    "\"source_symbol\":\"EURUSD\",\"source_feed\":\"OANDA\",\"timeframe\":\"M5\",",
    "\"source_tick_size\":\"0.00001\",",
    "\"source_tick_capability_sha256\":",
    "\"aaaaaaaaaaaaaaaaaaaaaaaaaaaaaaaaaaaaaaaaaaaaaaaaaaaaaaaaaaaaaaaa\",",
    "\"detector_code_sha256\":",
    "\"bbbbbbbbbbbbbbbbbbbbbbbbbbbbbbbbbbbbbbbbbbbbbbbbbbbbbbbbbbbbbbbb\",",
    "\"settings_sha256\":\"cccccccccccccccccccccccccccccccccccccccccccccccccccccccccccccccc\",",
    "\"provenance_sha256\":\"dddddddddddddddddddddddddddddddddddddddddddddddddddddddddddddddd\",",
    "\"setup_id\":\"setup-long-1\",\"setup_revision\":1,",
    "\"selection_id\":\"selection-long-1\",\"entry_model\":\"DIR_CLOSE\",",
    "\"liquidity_cohort\":\"TWO_PLUS_CANDLES\",\"selection_fidelity\":\"EXACT\",",
    "\"selection_action\":\"PAPER_ELIGIBLE\",\"evidence_replayability\":\"REPLAYABLE\",",
    "\"direction\":\"LONG\",\"zone_top_ticks\":1050,\"zone_bottom_ticks\":1010,",
    "\"engagement_candle\":\x7b\"open_epoch\":1800000000,\"close_epoch\":1800000300,",
    "\"open_ticks\":1040,\"high_ticks\":1110,\"low_ticks\":1000,\"close_ticks\":1100,",
    "\"closed\":true\x7d,",
    "\"source_bar\":\x7b\"open_epoch\":1800000000,\"close_epoch\":1800000300,",
    "\"open_ticks\":1040,\"high_ticks\":1110,\"low_ticks\":1000,\"close_ticks\":1100,",
    "\"closed\":true\x7d,",
    "\"wick_reference\":\"LOW\",\"wick_reference_ticks\":1000,",
    "\"buffer_policy_version\":\"rd-entry-wick-buffer-v1\",\"buffer_ticks\":2,",
    "\"entry_ticks\":1100,\"stop_ticks\":998,\"risk_distance_ticks\":102,",
    "\"target_ticks\":1508,\"observed_at_epoch\":1800000301"].flatMap String.toList

def sampleProposal : Proposal where
  producerInstanceId := "pine-proposal-v1-fixture"
  producerSequence := 1
  direction := .long
  entryTicks := 1100
  stopTicks := 998
  riskDistanceTicks := 102
  targetTicks := 1508
  observedAtEpoch := 1800000301
  json := "\x7b\"schema_version\":\"rd-entry-execution-proposal-v1\",".toList ++ sampleFields ++
    ['\x7d']

def sampleCandidateOf : Candidate where
  logicalCandidateId := "2b30c9414c01155a35e5a64d0104cfa9436b0c2c4c73c84ad4324c4126a2bf98"
  candidateBodySha256 := "39fd14261bfc28f2110b115e9bbd981848116609aa76bdd3b0607c28139349c6"
  json := '\x7b' :: sampleFields ++
    [",\"schema_version\":\"ExecutionCandidateV1\",",
      "\"proposal_schema_version\":\"rd-entry-execution-proposal-v1\",",
      "\"logical_candidate_id\":",
      "\"2b30c9414c01155a35e5a64d0104cfa9436b0c2c4c73c84ad4324c4126a2bf98\",",
      "\"candidate_body_sha256\":",
      "\"39fd14261bfc28f2110b115e9bbd981848116609aa76bdd3b0607c28139349c6\"\x7d"].flatMap
      String.toList

/-- SHA-256 of the texts that the first ingestion of the proposal hashes: of the event, of the
checkpoint and of the proposal. -/
def sampleSha256 (text : Text) : String :=
  match text[3]? with
  | some 'p' => "4c52b3efc77bc52ecdf2101fa582fdabd05d5a484c4953c62e8e1cfeac63520b"
  | some 'd' => "fa359848c15fa38daf70937d746e52bd03c8fd59bde4423c7566e9abd82d85b2"
  | _ => "143cbef636acacc563dfe85f0589aad44a93668361ac7fff55afe0258616bdde"

def sampleServe : Call Unit Unit → Job store Failure Response :=
  ingestExecutionProposalV1 some (fun _ _ => some (sampleProposal, sampleCandidateOf)) sampleSha256

/-- A call with the proposal, while the identities that accept it are reviewed or not. -/
def sampleCall (reviewed : Bool) (receivedAtEpoch : Int) : Call Unit Unit where
  env := ⟨true, if reviewed then some () else none, some "true", ⟨none, none⟩⟩
  proposalBytes := ()
  receivedAtEpoch
  randomUUID := "8f1f3d6e-0f53-4f0c-9d61-6ad6b4f1c0de"

/-- The proposal was ingested: four reads and the batch. -/
def ingestedWorld : Jobs.World store Failure Response (Call Unit Unit) :=
  [.arrive (sampleCall true 1800000302), .step 0, .step 0, .step 0, .step 0, .step 0].foldl
    (Jobs.World.next sampleServe) { state := Database.empty, calls := [] }

/-- The world after the proposal was sent again and the call has made two steps. -/
def resentWorld (reviewed : Bool) : Jobs.World store Failure Response (Call Unit Unit) :=
  [.step 1, .step 1].foldl (Jobs.World.next sampleServe)
    (ingestedWorld.next sampleServe (.arrive (sampleCall reviewed 1800000399)))

theorem ingestedWorld_reachable :
    (ingestion some (fun _ _ => some (sampleProposal, sampleCandidateOf))
      sampleSha256).Reachable ingestedWorld :=
  Jobs.World.schedule_free _ (System.Reachable.init ⟨rfl, rfl, rfl⟩)

instance (sha256 : Text → String) (proposal : Proposal) (event : EventRow) :
    Decidable (event.Of sha256 proposal) :=
  inferInstanceAs (Decidable (_ ∧ _ ∧ _))

/-- The proposal is stored, and without reviewed identities it is not answered with its result. -/
theorem ingestedWorld_stored :
    (∃ event ∈ ingestedWorld.state.events, event.Of sampleSha256 sampleProposal) ∧
      ((resentWorld false).answer 1).map (·.status) = some 503 ∧
      ingestedWorld.calls.length = 1 := by
  decide +kernel

theorem review_sampleCall :
    review some (fun _ _ => some (sampleProposal, sampleCandidateOf)) (sampleCall true 1800000399) =
      .ok (sampleProposal, sampleCandidateOf) := by
  have hreceipt : ¬(SafeIntegers.maxSafeInteger < 1800000399 ∨ (1800000399 : Int) < 0) := by decide
  have hexpiry : ¬SafeIntegers.maxSafeInteger <
      ((sampleProposal.observedAtEpoch + candidateTtlSeconds : Nat) : Int) := by decide +kernel
  unfold review sampleCall
  dsimp only
  rw [if_neg hreceipt, if_neg (by decide), if_pos rfl]
  dsimp only
  rw [if_neg hexpiry]

theorem stored_proposal_replayed :
    ∃ result ∈ ingestedWorld.state.results,
      (resentWorld true).answer 1 = some ⟨202, result.responseJson⟩ := by
  obtain ⟨-, -, -, hresend⟩ := proposals_recorded ingestedWorld_reachable
  obtain ⟨⟨event, hevent, hof⟩, -, hlength⟩ := ingestedWorld_stored
  obtain ⟨result, hresult, -, hanswers⟩ :=
    hresend (sampleCall true 1800000399) sampleProposal sampleCandidateOf event review_sampleCall
      hevent hof
  refine ⟨result, hresult, ?_⟩
  obtain ⟨-, hfew⟩ | hanswer := hanswers [.step 1, .step 1]
  · rw [hlength] at hfew
    exact absurd hfew (by decide)
  · rw [hlength] at hanswer
    exact hanswer

/-- A stored proposal that is sent again while the reviewed identities are not configured is not
answered with `202`. -/
theorem stored_proposal_refused :
    (ingestion some (fun _ _ => some (sampleProposal, sampleCandidateOf))
        sampleSha256).Reachable ingestedWorld ∧
      (∃ event ∈ ingestedWorld.state.events, event.Of sampleSha256 sampleProposal) ∧
      ((resentWorld false).answer 1).map (·.status) = some 503 :=
  ⟨ingestedWorld_reachable, ingestedWorld_stored.1, ingestedWorld_stored.2.1⟩

end TradeOps.Proposals
