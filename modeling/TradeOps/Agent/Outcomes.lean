import TradeOps.Agent.Calls

/-!
# Outcomes of the operations

For each operation but `Compact`: wherever it is stopped, the store has the root of before, or the
root with which the completed operation ends.
-/

namespace TradeOps.Agent

open Prog TelemetryState

variable {A : TelemetryState} {m m' : Fields} {d d' d₁ : Disk} {current : Generation}
  {rest : List Generation} {t : Transition} {candidate : LocalState}

/-! ## Single objects -/

theorem old_generation_ne (hlive : Live A d (current :: rest)) (hroot : AtRoot A m d current)
    (hfollows : Follows m t candidate) {r : LocalRef} (hr : r ∈ objectRefs m.state) :
    r.generation ≠ candidate.generation := by
  have hle := hlive.generation_le List.mem_cons_self
  rw [hroot.state] at hr
  have hnamed := named_of_valid (hlive.lineage.valid List.mem_cons_self) hr
  have hbelow := hnamed.generation
  rw [hfollows.generation, hroot.highest]
  omega

theorem addressable_object {generation ordinal : Nat} (hgeneration : counter generation 1 = true)
    (hordinal : counter ordinal 1 = true) :
    Disk.addressable (objectLocator generation ordinal) = true := by
  simp [Disk.addressable, storageLocatorValid, objectLocator, hgeneration, hordinal]

theorem envelope_pending : localEnvelopeKind .pending = pendingKind := rfl

theorem envelope_ack : localEnvelopeKind .ack = ackKind := rfl

theorem envelope_event : localEnvelopeKind .event = eventKind := rfl

theorem envelope_capture : localEnvelopeKind .capture = checkpointKind := rfl

theorem ackKind_ne_pendingKind : ackKind ≠ pendingKind := by decide

theorem eventKind_ne_pendingKind : eventKind ≠ pendingKind := by decide

/-- The records of a transition with one object, to which one reference points. -/
theorem staged_single {kind sha : Text} {ordinal : Nat} {payload frame : Bytes} {r : LocalRef}
    (hlive : Live A d (current :: rest)) (hroot : AtRoot A m d current)
    (hv : A.validator.Stable) (hfollows : Follows m t candidate)
    (hvalid : localStateValid candidate = true)
    (hframe : A.makeFrame kind candidate.generation payload = some (frame, sha))
    (hordinal : counter ordinal 1 = true) (hpending : kind = pendingKind → ordinal = 1)
    (hr : refLocator r = objectLocator candidate.generation ordinal)
    (hgeneration : r.generation = candidate.generation)
    (hkind : localEnvelopeKind r.kind = kind) (hsha : r.sha = sha)
    (htyped : A.Typed (d.entries A.sha) d candidate r payload)
    (hrefs : ∀ q ∈ objectRefs candidate, q ∈ objectRefs m.state ∨ q = r) :
    Staged A d candidate [⟨objectLocator candidate.generation ordinal, frame⟩] := by
  have hcounter := counter_generation hvalid
  have hframed : Framed A kind ⟨objectLocator candidate.generation ordinal, frame⟩ payload sha :=
    framed_of_makeFrame hframe
  refine staged_of_follows hlive hroot hv hfollows hvalid ?_ ?_ (List.nodup_singleton _) ?_
  · intro f hf
    rw [List.mem_singleton.mp hf]
    refine hframed.placed (addressable_object hcounter hordinal) fun heq => ?_
    show objectLocator candidate.generation ordinal = _
    rw [hpending heq]
    rfl
  · intro f hf
    rw [List.mem_singleton.mp hf]
    exact ⟨ordinal, rfl⟩
  · intro q hq hnew
    rcases hrefs q hq with hold | rfl
    · exact absurd hnew (old_generation_ne hlive hroot hfollows hold)
    · have hnamed := named_of_valid hvalid hq
      exact ⟨_, List.mem_singleton_self _, hr.symm, payload,
        hframed.frameMatches hnamed.valid hkind hgeneration hsha, htyped⟩

/-- The references of a state in which another request waits. -/
theorem refs_of_pending (hcapture : candidate.capture = m.state.capture)
    (hevents : candidate.events = m.state.events) (hack : candidate.ack = m.state.ack) :
    ∀ q ∈ objectRefs candidate, q ∈ objectRefs m.state ∨ q = candidate.pending := by
  intro q hq
  rcases mem_objectRefs.mp hq with rfl | hq | ⟨-, rfl⟩ | ⟨hkind, rfl⟩
  · exact .inl (mem_objectRefs.mpr (.inl hcapture))
  · rw [hevents] at hq
    exact .inl (mem_objectRefs.mpr (.inr (.inl hq)))
  · exact .inr rfl
  · rw [hack] at hkind ⊢
    exact .inl (mem_objectRefs.mpr (.inr (.inr (.inr ⟨hkind, rfl⟩))))

theorem one_counter : counter 1 1 = true := by decide

theorem two_counter : counter 2 1 = true := by decide

/-! ## Diagnostics -/

theorem publishDiagnostic_outcome {completeness : Completeness} {namedError : LocalError}
    (hv : A.validator.Stable) (hlive : Live A d (current :: rest))
    (hdistinct : Disk.Distinct A.sha d₁.written)
    (h : (A.publishDiagnostic completeness namedError).Visits A.host m d d₁) :
    Outcome A [.diagnostic] (A.publishDiagnostic completeness namedError) m d d₁ current rest := by
  refine outcome_bind (readOnly_guard false) hlive h fun session m₁ hguard h => ?_
  refine outcome_bind only_fields hlive h fun m₀ m₂ hfields h => ?_
  obtain ⟨rfl, rfl, -⟩ := ends_fields.mp hfields
  refine outcome_bind (only_require _ _) hlive h fun _ m₂ hcheck h => ?_
  obtain ⟨-, rfl, -⟩ := ends_require.mp hcheck
  refine outcome_bind readOnly_requireInventory hlive h fun u m₃ hlisted h => ?_
  refine outcome_bind readOnly_verifyCurrentRootFresh hlive h fun u m₄ hfresh h => ?_
  have hroot := checks_atRoot hlive hguard hlisted hfresh
  refine outcome_bind only_fields hlive h fun m₀ m₅ hfields h => ?_
  obtain ⟨rfl, rfl, -⟩ := ends_fields.mp hfields
  refine outcome_bind (only_require _ _) hlive h fun _ m₅ hcheck h => ?_
  obtain ⟨-, rfl, -⟩ := ends_require.mp hcheck
  refine publish_outcome' hlive hroot (.diagnostic completeness namedError) ?_ hdistinct h
  intro hvalid
  refine staged_of_follows hlive hroot hv (.diagnostic completeness namedError) hvalid
    (by simp) (by simp) List.nodup_nil ?_
  intro r hr hnew
  exact absurd hnew (old_generation_ne hlive hroot (.diagnostic completeness namedError) hr)

/-! ## Requests -/

theorem preparePending_outcome {adapter : OutboxAdapter} {c : OutboxCandidate} {request : Bytes}
    (hv : A.validator.Stable) (hlive : Live A d (current :: rest))
    (hdistinct : Disk.Distinct A.sha d₁.written)
    (h : (A.preparePending adapter c request).Visits A.host m d d₁) :
    Outcome A [.prepare] (A.preparePending adapter c request) m d d₁ current rest := by
  refine outcome_bind readOnly_freshOutboxRoot hlive h fun u m₁ hfresh h => ?_
  refine outcome_bind only_fields hlive h fun m₀ m₂ hfields h => ?_
  obtain ⟨rfl, rfl, -⟩ := ends_fields.mp hfields
  split at h
  next hwaits =>
    rw [if_pos hwaits]
    exact readOnly_outcome readOnly_readPending hlive h
  next hwaits =>
    rw [if_neg hwaits]
    refine outcome_bind (only_require _ _) hlive h fun _ m₂ hcheck h => ?_
    refine outcome_bind (only_require _ _) hlive h fun _ m₃ hcheck h => ?_
    refine outcome_bind readOnly_readOutboxContext hlive h fun context m₄ hcontext h => ?_
    refine outcome_bind (only_require _ _) hlive h fun _ m₅ hcheck h => ?_
    refine outcome_bind readOnly_freshOutboxRoot hlive h fun u m₆ hfresh h => ?_
    have hroot := freshOutboxRoot_atRoot hlive hfresh
    refine outcome_bind only_fields hlive h fun m₀ m₇ hfields h => ?_
    obtain ⟨rfl, rfl, -⟩ := ends_fields.mp hfields
    refine outcome_bind (only_require _ _) hlive h fun _ m₇ hcheck h => ?_
    obtain ⟨hmatches, rfl, -⟩ := ends_require.mp hcheck
    simp only [decide_eq_true_eq] at hmatches
    refine outcome_bind (only_require _ _) hlive h fun _ m₇ hcheck h => ?_
    obtain ⟨-, rfl, -⟩ := ends_require.mp hcheck
    split at h
    next => exact readOnly_outcome (only_fail _) hlive h
    next frame sha hframe =>
      have hfollows : Follows m₆ .prepare (preparedState m₆ c sha) :=
        .prepare c sha hmatches.2 hmatches.1
      refine outcome_bind (readOnly_typedPayloadValid _ _ _ _) hlive h fun u m₇ htyped h => ?_
      obtain ⟨htyped, rfl, -⟩ := (typedPayloadValid_ends hroot.granted).mp htyped
      rw [hroot.inventory] at htyped
      refine outcome_then (fun _ => readOnly_readPending) h (fun h => ?_) ?_
      · refine publish_outcome' hlive hroot hfollows (fun hvalid => ?_) hdistinct h
        exact staged_single hlive hroot hv hfollows hvalid hframe one_counter (fun _ => rfl) rfl
          rfl envelope_pending rfl htyped (refs_of_pending rfl rfl rfl)
      · intro next a m' d' ht hnew hat
        obtain ⟨bytes, hends⟩ := hat.readPending hnew
          (hnew.lineage.waits (.inl (List.mem_singleton.mp ht)))
        exact ⟨bytes, m', hends, hat⟩

theorem replaceRejected_outcome {adapter : OutboxAdapter} {rejection replacement : Bytes}
    {bodySha : Text} (hv : A.validator.Stable) (hlive : Live A d (current :: rest))
    (hdistinct : Disk.Distinct A.sha d₁.written)
    (h : (A.replaceRejected adapter rejection replacement bodySha).Visits A.host m d d₁) :
    Outcome A [.replace] (A.replaceRejected adapter rejection replacement bodySha) m d d₁ current
      rest := by
  refine outcome_bind readOnly_freshOutboxRoot hlive h fun u m₁ hfresh h => ?_
  have hfirst := freshOutboxRoot_atRoot hlive hfresh
  refine outcome_bind only_fields hlive h fun m₀ m₂ hfields h => ?_
  obtain ⟨rfl, rfl, -⟩ := ends_fields.mp hfields
  refine outcome_bind (only_require _ _) hlive h fun _ m₂ hcheck h => ?_
  obtain ⟨hwaits, rfl, -⟩ := ends_require.mp hcheck
  simp only [decide_eq_true_eq] at hwaits
  refine outcome_bind (readOnly_readPresent _) hlive h fun pending m₂ hread h => ?_
  refine outcome_bind (only_require _ _) hlive h fun _ m₃ hcheck h => ?_
  refine outcome_bind readOnly_freshOutboxRoot hlive h fun u m₄ hfresh h => ?_
  have hroot := freshOutboxRoot_atRoot hlive hfresh
  refine outcome_bind only_fields hlive h fun m₀ m₅ hfields h => ?_
  obtain ⟨rfl, rfl, -⟩ := ends_fields.mp hfields
  refine outcome_bind (only_require _ _) hlive h fun _ m₅ hcheck h => ?_
  obtain ⟨-, rfl, -⟩ := ends_require.mp hcheck
  refine outcome_bind (only_require _ _) hlive h fun _ m₅ hcheck h => ?_
  obtain ⟨-, rfl, -⟩ := ends_require.mp hcheck
  split at h
  next => exact readOnly_outcome (only_fail _) hlive h
  next frame sha hframe =>
    have hwaits' : m₄.state.pending.kind ≠ .absent := by
      rw [hroot.state, ← hfirst.state]
      exact hwaits.1
    have hfollows : Follows m₄ .replace (replacedState m₄ sha bodySha) :=
      .replace sha bodySha hwaits'
    refine outcome_bind (readOnly_typedPayloadValid _ _ _ _) hlive h fun u m₅ htyped h => ?_
    obtain ⟨htyped, rfl, -⟩ := (typedPayloadValid_ends hroot.granted).mp htyped
    rw [hroot.inventory] at htyped
    refine outcome_then (fun _ => readOnly_readPending) h (fun h => ?_) ?_
    · refine publish_outcome' hlive hroot hfollows (fun hvalid => ?_) hdistinct h
      exact staged_single hlive hroot hv hfollows hvalid hframe one_counter (fun _ => rfl) rfl
        rfl envelope_pending rfl htyped (refs_of_pending rfl rfl rfl)
    · intro next a m' d' ht hnew hat
      obtain ⟨bytes, hends⟩ := hat.readPending hnew
        (hnew.lineage.waits (.inr (List.mem_singleton.mp ht)))
      exact ⟨bytes, m', hends, hat⟩

/-! ## Acknowledgements -/

/-- The request that is acknowledged is found by its digest. -/
theorem answered_of_pending {pending : Bytes} {sha : Text} {acceptedAt : Nat}
    (hlive : Live A d (current :: rest)) (hroot : AtRoot A m d current)
    (hwaits : m.state.pending.kind ≠ .absent)
    (hpayload : A.payloadAt d m.state.pending = some pending) :
    Answered A d (acceptedState m sha acceptedAt) (refLocator m.state.pending) pending := by
  have hvalid : localStateValid m.state = true := by
    rw [hroot.state]
    exact hlive.lineage.valid List.mem_cons_self
  have hpending := pending_of_valid hvalid hwaits
  obtain ⟨hrefValid, f, hfind, hmatch⟩ := payloadAt_some hpayload
  have hdigest : digest m.state.pending.sha = true := by
    simp only [localRefValid, decide_eq_true_eq] at hrefValid
    exact hrefValid.2.2.1
  rw [localFrameMatches] at hmatch
  split at hmatch
  next hok =>
    split at hmatch
    next kind generation payload hdecode =>
      split at hmatch
      next hsame =>
        refine ⟨rfl, hdigest, ⟨f, hfind, hok.2, ?_⟩, ?_⟩
        · rw [hdecode, hsame.1, hsame.2, Option.some.inj hmatch, hpending.2, envelope_pending,
            refLocator_of_object hpending.1.object]
          rfl
        · have hle := hpending.1.generation
          have hbelow := hlive.generation_le List.mem_cons_self
          rw [← hroot.state] at hbelow
          rw [refLocator_of_object hpending.1.object]
          show m.state.pending.generation < m.highestObserved + 1
          rw [hroot.highest]
          omega
      next => contradiction
    next => contradiction
  next => contradiction

theorem refs_of_acceptedState (sha : Text) (acceptedAt : Nat) :
    ∀ q ∈ objectRefs (acceptedState m sha acceptedAt),
      q ∈ objectRefs m.state ∨ q = (acceptedState m sha acceptedAt).ack := by
  intro q hq
  rcases mem_objectRefs.mp hq with rfl | hq | ⟨hkind, rfl⟩ | ⟨-, rfl⟩
  · exact .inl (mem_objectRefs.mpr (.inl rfl))
  · exact .inl (mem_objectRefs.mpr (.inr (.inl (List.mem_of_mem_drop hq))))
  · exact absurd rfl hkind
  · exact .inr rfl

theorem acceptNew_outcome {adapter : OutboxAdapter} {response : Bytes}
    (hv : A.validator.Stable) (hlive : Live A d (current :: rest)) (hfirst : AtRoot A m d current)
    (hdistinct : Disk.Distinct A.sha d₁.written)
    (h : (A.acceptNew adapter response).Visits A.host m d d₁) :
    Outcome A [.ack] (A.acceptNew adapter response) m d d₁ current rest := by
  refine outcome_bind only_fields hlive h fun m₀ m₂ hfields h => ?_
  obtain ⟨rfl, rfl, -⟩ := ends_fields.mp hfields
  refine outcome_bind (only_require _ _) hlive h fun _ m₂ hcheck h => ?_
  obtain ⟨hwaits, rfl, -⟩ := ends_require.mp hcheck
  simp only [decide_eq_true_eq] at hwaits
  refine outcome_bind (readOnly_readPresent _) hlive h fun pending m₂ hread h => ?_
  obtain ⟨-, hpayload, rfl, -⟩ := readPresent_ends.mp hread
  split at h
  next => exact readOnly_outcome (only_fail _) hlive h
  next accepted haccepted =>
    refine outcome_bind (only_require _ _) hlive h fun _ m₃ hcheck h => ?_
    refine outcome_bind readOnly_freshOutboxRoot hlive h fun u m₄ hfresh h => ?_
    have hroot := freshOutboxRoot_atRoot hlive hfresh
    refine outcome_bind only_fields hlive h fun m₀ m₅ hfields h => ?_
    obtain ⟨rfl, rfl, -⟩ := ends_fields.mp hfields
    refine outcome_bind (only_require _ _) hlive h fun _ m₅ hcheck h => ?_
    obtain ⟨-, rfl, -⟩ := ends_require.mp hcheck
    refine outcome_bind (only_require _ _) hlive h fun _ m₅ hcheck h => ?_
    obtain ⟨-, rfl, -⟩ := ends_require.mp hcheck
    split at h
    next => exact readOnly_outcome (only_fail _) hlive h
    next frame sha hframe =>
      refine outcome_bind (only_require _ _) hlive h fun _ m₅ hcheck h => ?_
      obtain ⟨hok, rfl, -⟩ := ends_require.mp hcheck
      simp only [decide_eq_true_eq] at hok
      have hsame : m₄.state = m₂.state := by rw [hroot.state, hfirst.state]
      rw [← hsame] at hwaits hpayload
      have hfollows : Follows m₄ .ack (acceptedState m₄ sha accepted.acceptedAt) :=
        .ack sha accepted.acceptedAt hwaits
      refine publish_outcome' hlive hroot hfollows (fun hvalid => ?_) hdistinct h
      refine staged_single hlive hroot hv hfollows hvalid hframe two_counter
        (fun heq => absurd heq ackKind_ne_pendingKind) rfl rfl envelope_ack rfl ?_
        (refs_of_acceptedState sha accepted.acceptedAt)
      have hkind : (acceptedState m₄ sha accepted.acceptedAt).ack.kind = .ack := rfl
      have hpayloadOk := hok.2.2
      simp only [ackPayloadValid] at hpayloadOk
      simp only [Typed, hkind]
      split at hpayloadOk
      next hwitness =>
        rw [if_pos hwitness]
        refine ⟨refLocator m₄.state.pending, pending, ?_, hpayloadOk⟩
        rw [witnessAt_iff hlive.sound hlive.distinctFiles]
        exact answered_of_pending hlive hroot hwaits hpayload
      next hwitness =>
        rw [if_neg hwitness]
        exact hpayloadOk

theorem acceptResponse_outcome {adapter : OutboxAdapter} {response : Bytes}
    (hv : A.validator.Stable) (hlive : Live A d (current :: rest))
    (hdistinct : Disk.Distinct A.sha d₁.written)
    (h : (A.acceptResponse adapter response).Visits A.host m d d₁) :
    Outcome A [.ack] (A.acceptResponse adapter response) m d d₁ current rest := by
  refine outcome_bind readOnly_freshOutboxRoot hlive h fun u m₁ hfresh h => ?_
  have hroot := freshOutboxRoot_atRoot hlive hfresh
  refine outcome_bind (only_require _ _) hlive h fun _ m₂ hcheck h => ?_
  obtain ⟨-, rfl, -⟩ := ends_require.mp hcheck
  refine outcome_bind only_fields hlive h fun m₀ m₂ hfields h => ?_
  obtain ⟨rfl, rfl, -⟩ := ends_fields.mp hfields
  split at h
  next hack =>
    rw [if_pos hack]
    refine outcome_bind (readOnly_readPresent _) hlive h fun witness m₂ hread hlast => ?_
    obtain ⟨-, -, rfl, -⟩ := readPresent_ends.mp hread
    by_cases hsame : witness = response
    · rw [if_pos hsame] at hlast ⊢
      exact readOnly_outcome (only_pure _) hlive hlast
    · rw [if_neg hsame] at hlast ⊢
      exact acceptNew_outcome hv hlive hroot hdistinct hlast
  next hack =>
    rw [if_neg hack]
    exact acceptNew_outcome hv hlive hroot hdistinct h

/-! ## New events -/

/-- The validator accepts an event. -/
def EventOk (A : TelemetryState) (p : AppendCandidate × Bytes) : Prop :=
  A.validator.event p.2 p.1.eventId p.1.recordSha p.1.dealId p.1.revision A.identity = true

theorem matchStored_ends {c : AppendCandidate} {payload : Bytes} {replay result : Replay}
    (h : (A.matchStored c payload replay).Ends A.host m d result m' d') :
    m' = m ∧ result.accepted = replay.accepted := by
  simp only [matchStored, ends_bind, ends_fields] at h
  obtain ⟨_, m₁, d₁, ⟨rfl, rfl, rfl⟩, h⟩ := h
  split at h
  next =>
    obtain ⟨rfl, rfl, rfl⟩ := ends_pure.mp h
    exact ⟨rfl, rfl⟩
  next =>
    simp only [ends_bind, ends_require, readPresent_ends] at h
    obtain ⟨-, m₂, d₂, ⟨-, rfl, rfl⟩, -, m₃, d₃, ⟨-, rfl, rfl⟩, -, m₄, d₄, ⟨-, rfl, rfl⟩,
      committed, m₅, d₅, ⟨-, -, rfl, rfl⟩, -, m₆, d₆, ⟨-, rfl, rfl⟩, h⟩ := h
    obtain ⟨rfl, rfl, rfl⟩ := ends_pure.mp h
    exact ⟨rfl, rfl⟩

theorem appendStep_ends {arena : Bytes} {c : AppendCandidate} {last : Nat} {replay result : Replay}
    (h : (A.appendStep arena c last replay).Ends A.host m d result m' d') :
    m' = m ∧ ∃ payload, EventOk A (c, payload) ∧
      result.accepted = replay.accepted ++ [(c, payload)] := by
  simp only [appendStep, ends_bind] at h
  obtain ⟨_, m₁, d₁, hfields, u, m₂, d₂, hcandidate, u₁, m₃, d₃, hsize, u₂, m₄, d₄, hevent, u₃, m₅,
    d₅, hapart, matched, m₆, d₆, hmatch, u₄, m₇, d₇, hnew, hpure⟩ := h
  obtain ⟨rfl, rfl, rfl⟩ := ends_fields.mp hfields
  obtain ⟨-, rfl, rfl⟩ := ends_require.mp hcandidate
  obtain ⟨-, rfl, rfl⟩ := ends_require.mp hsize
  obtain ⟨hok, rfl, rfl⟩ := ends_require.mp hevent
  obtain ⟨-, rfl, rfl⟩ := ends_require.mp hapart
  obtain ⟨-, rfl, rfl⟩ := ends_require.mp hnew
  obtain ⟨rfl, rfl, rfl⟩ := ends_pure.mp hpure
  obtain ⟨rfl, haccepted⟩ := matchStored_ends hmatch
  refine ⟨rfl, slice arena replay.previous last, hok, ?_⟩
  show matched.accepted ++ _ = _
  rw [haccepted]

/-- The events that the loop has passed are valid. -/
theorem appendLoop_ends {arena : Bytes} {candidates : List (AppendCandidate × Nat)}
    {replay result : Replay} (hok : ∀ p ∈ replay.accepted, EventOk A p)
    (h : (A.appendLoop arena candidates replay).Ends A.host m d result m' d') :
    m' = m ∧ ∀ p ∈ result.accepted, EventOk A p := by
  induction candidates generalizing m d replay with
  | nil =>
    obtain ⟨rfl, rfl, rfl⟩ := ends_pure.mp h
    exact ⟨rfl, hok⟩
  | cons p rest ih =>
    simp only [appendLoop, ends_bind] at h
    obtain ⟨replay', m₁, d₁, hstep, hrest⟩ := h
    obtain ⟨rfl, payload, hevent, haccepted⟩ := appendStep_ends hstep
    refine ih ?_ hrest
    intro q hq
    rw [haccepted] at hq
    rcases List.mem_append.mp hq with hq | hq
    · exact hok q hq
    · rw [List.mem_singleton.mp hq]
      exact hevent

/-- A new event: its reference, its record and what it was made of. -/
structure StagedEvent (A : TelemetryState) (generation : Nat)
    (fresh : List (AppendCandidate × Bytes))
    (p : LocalRef × StoredRecord) : Prop where
  kind : p.1.kind = .event
  generation : p.1.generation = generation
  place : p.2.locator = refLocator p.1
  made : ∃ c payload, (c, payload) ∈ fresh ∧ Framed A eventKind p.2 payload p.1.sha ∧
    p.1.eventId = c.eventId ∧ p.1.recordSha = c.recordSha ∧ p.1.dealId = c.dealId ∧
    p.1.revision = c.revision

theorem stageEvents {generation produced start : Nat} {fresh : List (AppendCandidate × Bytes)}
    {staged : List (LocalRef × StoredRecord)}
    (h : (fresh.zipIdx start).mapM (A.stageEvent generation produced) = some staged) :
    (∀ p ∈ staged, StagedEvent A generation fresh p) ∧
      staged.map (fun p => p.2.locator) =
        (List.range' (start + 1) fresh.length).map (objectLocator generation) := by
  induction fresh generalizing start staged with
  | nil =>
    simp only [List.zipIdx_nil, List.mapM_nil] at h
    obtain rfl := Option.some.inj h
    exact ⟨fun p hp => absurd hp List.not_mem_nil, rfl⟩
  | cons q rest ih =>
    simp only [List.zipIdx_cons, List.mapM_cons, Option.bind_eq_bind,
      Option.bind_eq_some_iff] at h
    obtain ⟨p, hp, tail, htail, heq⟩ := h
    obtain rfl := Option.some.inj heq
    obtain ⟨hall, hplaces⟩ := ih htail
    simp only [stageEvent, Option.bind_eq_bind, Option.bind_eq_some_iff, Option.some.injEq] at hp
    obtain ⟨⟨frame, digest⟩, hframe, rfl⟩ := hp
    constructor
    · intro p hp
      rcases List.mem_cons.mp hp with rfl | hp
      · exact ⟨rfl, rfl, rfl, q.1, q.2, List.mem_cons_self, framed_of_makeFrame hframe, rfl, rfl,
          rfl, rfl⟩
      · obtain ⟨hkind, hgeneration, hplace, c, payload, hmem, hmade⟩ := hall p hp
        exact ⟨hkind, hgeneration, hplace, c, payload, List.mem_cons_of_mem q hmem, hmade⟩
    · rw [List.map_cons, hplaces, List.length_cons, List.range'_succ, List.map_cons]

/-- The state with new events. -/
def appendedState (m : Fields) (staged : List (LocalRef × StoredRecord)) (count : Nat)
    (captureSha captureSchema : Text) : LocalState :=
  { successor m with
    captureSchema := captureSchema
    events := m.state.events ++ staged.map Prod.fst
    produced := m.state.produced + count
    capture := makeRef .capture (m.highestObserved + 1) (count + 1) captureSha }

theorem staged_append {fresh : List (AppendCandidate × Bytes)}
    {staged : List (LocalRef × StoredRecord)} {capture captureFrame : Bytes}
    {captureSha captureSchema : Text} (hlive : Live A d (current :: rest))
    (hroot : AtRoot A m d current) (hv : A.validator.Stable)
    (hstaged : fresh.zipIdx.mapM (A.stageEvent (m.highestObserved + 1) m.state.produced) =
      some staged)
    (hcapture : A.makeFrame checkpointKind (m.highestObserved + 1) capture =
      some (captureFrame, captureSha))
    (hevents : ∀ p ∈ fresh, EventOk A p)
    (hok : A.validator.capture capture captureSchema A.identity = true)
    (hfollows : Follows m .append (appendedState m staged fresh.length captureSha captureSchema))
    (hvalid :
      localStateValid (appendedState m staged fresh.length captureSha captureSchema) = true) :
    Staged A d (appendedState m staged fresh.length captureSha captureSchema)
      (staged.map Prod.snd ++
        [⟨objectLocator (m.highestObserved + 1) (fresh.length + 1), captureFrame⟩]) := by
  obtain ⟨hall, hplaces⟩ := stageEvents hstaged
  rw [Nat.zero_add] at hplaces
  have hframed : Framed A checkpointKind
      ⟨objectLocator (m.highestObserved + 1) (fresh.length + 1), captureFrame⟩ capture captureSha :=
    framed_of_makeFrame hcapture
  have hlocators : (staged.map Prod.snd).map StoredRecord.locator =
      (List.range' 1 fresh.length).map (objectLocator (m.highestObserved + 1)) := by
    rw [List.map_map]
    exact hplaces
  have hcaptureMem : (appendedState m staged fresh.length captureSha captureSchema).capture ∈
      objectRefs (appendedState m staged fresh.length captureSha captureSchema) :=
    mem_objectRefs.mpr (.inl rfl)
  have hstagedMem : ∀ p ∈ staged,
      p.1 ∈ objectRefs (appendedState m staged fresh.length captureSha captureSchema) := by
    intro p hp
    exact mem_objectRefs.mpr (.inr (.inl (List.mem_append_right _ (List.mem_map_of_mem hp))))
  refine staged_of_follows hlive hroot hv hfollows hvalid ?_ ?_ ?_ ?_
  · intro f hf
    rcases List.mem_append.mp hf with hf | hf
    · obtain ⟨p, hp, rfl⟩ := List.mem_map.mp hf
      obtain ⟨-, -, hplace, c, payload, -, hmade, -⟩ := hall p hp
      refine hmade.placed ?_ fun heq => absurd heq eventKind_ne_pendingKind
      rw [hplace]
      exact addressable_refLocator (named_of_valid hvalid (hstagedMem p hp)).valid
    · rw [List.mem_singleton.mp hf]
      refine hframed.placed ?_ fun heq => absurd heq checkpointKind_ne_pendingKind
      exact addressable_refLocator (named_of_valid hvalid hcaptureMem).valid
  · intro f hf
    rcases List.mem_append.mp hf with hf | hf
    · obtain ⟨p, hp, rfl⟩ := List.mem_map.mp hf
      obtain ⟨-, hgeneration, hplace, -⟩ := hall p hp
      refine ⟨p.1.ordinal, ?_⟩
      rw [hplace, refLocator_of_object (named_of_valid hvalid (hstagedMem p hp)).object,
        hgeneration]
      rfl
    · rw [List.mem_singleton.mp hf]
      exact ⟨_, rfl⟩
  · rw [List.map_append, hlocators, List.nodup_append]
    refine ⟨?_, List.nodup_singleton _, ?_⟩
    · refine List.Nodup.map ?_ List.nodup_range'
      intro a b hab
      exact congrArg Locator.ordinal hab
    · intro l hl l' hl' heq
      obtain ⟨i, hi, rfl⟩ := List.mem_map.mp hl
      rw [List.map_cons, List.map_nil, List.mem_singleton] at hl'
      rw [hl'] at heq
      have hordinal : i = fresh.length + 1 := congrArg Locator.ordinal heq
      rw [List.mem_range'_1] at hi
      omega
  · intro r hr hnew
    rcases mem_objectRefs.mp hr with rfl | hevent | ⟨hkind, rfl⟩ | ⟨hkind, rfl⟩
    · have hnamed := named_of_valid hvalid hcaptureMem
      refine ⟨_, List.mem_append_right _ (List.mem_singleton_self _), rfl, capture,
        hframed.frameMatches hnamed.valid envelope_capture rfl rfl, ?_⟩
      exact hok
    · rcases List.mem_append.mp hevent with hold | hfresh
      · exact absurd hnew (old_generation_ne hlive hroot hfollows
          (mem_objectRefs.mpr (.inr (.inl hold))))
      · obtain ⟨p, hp, rfl⟩ := List.mem_map.mp hfresh
        obtain ⟨hkind, hgeneration, hplace, c, payload, hmem, hmade, hid, hrecord, hdeal,
          hrevision⟩ := hall p hp
        have hnamed := named_of_valid hvalid (hstagedMem p hp)
        refine ⟨p.2, List.mem_append_left _ (List.mem_map_of_mem hp), hplace, payload,
          hmade.frameMatches hnamed.valid (by rw [hkind]; exact envelope_event) ?_ rfl, ?_⟩
        · rw [hplace, refLocator_of_object hnamed.object]
          rfl
        · have hgood := hevents (c, payload) hmem
          simp only [EventOk] at hgood
          simp only [Typed, hkind, hid, hrecord, hdeal, hrevision]
          exact hgood
    · exact absurd hnew (old_generation_ne hlive hroot hfollows
        (mem_objectRefs.mpr (.inr (.inr (.inl ⟨hkind, rfl⟩)))))
    · exact absurd hnew (old_generation_ne hlive hroot hfollows
        (mem_objectRefs.mpr (.inr (.inr (.inr ⟨hkind, rfl⟩)))))

theorem appendNew_outcome {replay : Replay} {capture : Bytes} {captureSchema : Text}
    (hv : A.validator.Stable) (hlive : Live A d (current :: rest)) (hroot : AtRoot A m d current)
    (hevents : ∀ p ∈ replay.accepted, EventOk A p)
    (hok : A.validator.capture capture captureSchema A.identity = true)
    (hdistinct : Disk.Distinct A.sha d₁.written)
    (h : (A.appendNew replay capture captureSchema).Visits A.host m d d₁) :
    Outcome A [.append] (A.appendNew replay capture captureSchema) m d d₁ current rest := by
  refine outcome_bind only_fields hlive h fun m₀ m₁ hfields h => ?_
  obtain ⟨rfl, rfl, -⟩ := ends_fields.mp hfields
  refine outcome_bind (only_require _ _) hlive h fun _ m₂ hcheck h => ?_
  obtain ⟨-, rfl, -⟩ := ends_require.mp hcheck
  refine outcome_bind (only_require _ _) hlive h fun _ m₂ hcheck h => ?_
  obtain ⟨-, rfl, -⟩ := ends_require.mp hcheck
  refine outcome_bind (only_require _ _) hlive h fun _ m₂ hcheck h => ?_
  obtain ⟨-, rfl, -⟩ := ends_require.mp hcheck
  dsimp only at h ⊢
  split at h
  next staged captureFrame captureSha hstaged hcapture =>
    have hall := (stageEvents hstaged).1
    have hlength : staged.length = (replay.accepted.drop replay.prefixCount).length := by
      have hplaces := congrArg List.length (stageEvents hstaged).2
      simpa using hplaces
    have hfollows : Follows m .append (appendedState m staged
        (replay.accepted.drop replay.prefixCount).length captureSha captureSchema) := by
      have hbase := Follows.append (m := m) (staged.map Prod.fst)
        (makeRef .capture (m.highestObserved + 1)
          ((replay.accepted.drop replay.prefixCount).length + 1) captureSha) captureSchema
        (by
          intro r hr
          obtain ⟨p, hp, rfl⟩ := List.mem_map.mp hr
          exact (hall p hp).generation) rfl
      rw [List.length_map, hlength] at hbase
      exact hbase
    refine outcome_then (fun _ => only_pure _) h (fun h => ?_) ?_
    · refine publish_outcome' hlive hroot hfollows (fun hvalid => ?_) hdistinct h
      exact staged_append hlive hroot hv hstaged hcapture
        (fun p hp => hevents p (List.mem_of_mem_drop hp)) hok hfollows hvalid
    · intro next a m' d' _ _ hat
      exact ⟨_, m', ends_pure.mpr ⟨rfl, rfl, rfl⟩, hat⟩
  next => exact readOnly_outcome (only_fail _) hlive h

theorem append_outcome {candidates : List AppendCandidate} {arena : Bytes} {ends : List Nat}
    {capture : Bytes} {captureSchema : Text} (hv : A.validator.Stable)
    (hlive : Live A d (current :: rest)) (hdistinct : Disk.Distinct A.sha d₁.written)
    (h : (A.append candidates arena ends capture captureSchema).Visits A.host m d d₁) :
    Outcome A [.append] (A.append candidates arena ends capture captureSchema) m d d₁ current
      rest := by
  refine outcome_bind (readOnly_guard false) hlive h fun session m₁ hguard h => ?_
  refine outcome_bind only_fields hlive h fun m₀ m₂ hfields h => ?_
  obtain ⟨rfl, rfl, -⟩ := ends_fields.mp hfields
  refine outcome_bind (only_require _ _) hlive h fun _ m₂ hcheck h => ?_
  obtain ⟨-, rfl, -⟩ := ends_require.mp hcheck
  refine outcome_bind readOnly_requireInventory hlive h fun u m₃ hlisted h => ?_
  refine outcome_bind readOnly_verifyCurrentRootFresh hlive h fun u m₄ hfresh h => ?_
  have hroot := checks_atRoot hlive hguard hlisted hfresh
  refine outcome_bind (only_require _ _) hlive h fun _ m₅ hcheck h => ?_
  obtain ⟨-, rfl, -⟩ := ends_require.mp hcheck
  refine outcome_bind (readOnly_appendLoop _ _ _) hlive h fun replay m₅ hloop h => ?_
  obtain ⟨hm, hevents⟩ := appendLoop_ends (fun p hp => absurd hp List.not_mem_nil) hloop
  subst m₅
  refine outcome_bind (only_require _ _) hlive h fun _ m₅ hcheck h => ?_
  obtain ⟨-, rfl, -⟩ := ends_require.mp hcheck
  refine outcome_bind only_fields hlive h fun m₀ m₅ hfields h => ?_
  obtain ⟨rfl, rfl, -⟩ := ends_fields.mp hfields
  refine outcome_bind (readOnly_readPresent _) hlive h fun previous m₅ hread h => ?_
  obtain ⟨-, -, hm, -⟩ := readPresent_ends.mp hread
  subst m₅
  refine outcome_bind (only_require _ _) hlive h fun _ m₅ hcheck hlast => ?_
  obtain ⟨hadvance, rfl, -⟩ := ends_require.mp hcheck
  have hok := hv.advance hadvance
  split at hlast
  next hall =>
    rw [if_pos hall]
    refine readOnly_outcome ?_ hlive hlast
    exact only_bind (readOnly_currentCaptureMatches _ _) fun _ =>
      only_bind (only_require _ _) fun _ => only_pure _
  next hall =>
    rw [if_neg hall]
    exact appendNew_outcome hv hlive hroot hevents hok hdistinct hlast

end TradeOps.Agent
