import TradeOps.Agent.Frames

/-!
# From one state to the next

`Follows` lists the states that a transition may publish on a root. What a history of states has in
common is read off here, once for each transition: the events stay in order, a request that waits
stays the same, and a record is named by a state only if the state before named it or if it is new.
-/

namespace TradeOps.Agent

open TelemetryState

/-- The states that a transition may publish when these are the member variables. -/
inductive Follows (m : Fields) : Transition → LocalState → Prop where
  | append (refs : List LocalRef) (capture : LocalRef) (captureSchema : Text)
      (hrefs : ∀ r ∈ refs, r.generation = m.highestObserved + 1)
      (hcapture : capture.generation = m.highestObserved + 1) :
      Follows m .append
        { successor m with
          captureSchema := captureSchema
          events := m.state.events ++ refs
          produced := m.state.produced + refs.length
          capture := capture }
  | prepare (c : OutboxCandidate) (sha : Text) (hnone : m.state.pending.kind = .absent)
      (hmatches : outboxCandidateMatches m c = true) :
      Follows m .prepare (preparedState m c sha)
  | ack (sha : Text) (acceptedAt : Nat) (hwaits : m.state.pending.kind ≠ .absent) :
      Follows m .ack (acceptedState m sha acceptedAt)
  | replace (sha bodySha : Text) (hwaits : m.state.pending.kind ≠ .absent) :
      Follows m .replace (replacedState m sha bodySha)
  | checkpoint : Follows m .checkpoint (successor m)
  | diagnostic (completeness : Completeness) (namedError : LocalError) :
      Follows m .diagnostic
        { successor m with completeness := completeness, lastError := namedError }

/-! ## What stays -/

/-- One request waits in both states, and the second has the events of the first. -/
structure SamePending (s s' : LocalState) : Prop where
  identity : s'.identity = s.identity
  registration : s'.registration = s.registration
  acceptedRequest : s'.acceptedRequest = s.acceptedRequest
  acceptedEvent : s'.acceptedEvent = s.acceptedEvent
  pending : s'.pending = s.pending
  pendingRequest : s'.pendingRequest = s.pendingRequest
  pendingBody : s'.pendingBody = s.pendingBody
  pendingPrior : s'.pendingPrior = s.pendingPrior
  pendingFinal : s'.pendingFinal = s.pendingFinal
  pendingCount : s'.pendingCount = s.pendingCount
  pendingProduced : s'.pendingProduced = s.pendingProduced
  events : s.events <+: s'.events
  produced : s.produced ≤ s'.produced

/-- One acknowledgement is the last in both states. -/
structure SameAck (s s' : LocalState) : Prop where
  identity : s'.identity = s.identity
  registration : s'.registration = s.registration
  acceptedRequest : s'.acceptedRequest = s.acceptedRequest
  acceptedEvent : s'.acceptedEvent = s.acceptedEvent
  ack : s'.ack = s.ack
  ackRequest : s'.ackRequest = s.ackRequest
  ackBody : s'.ackBody = s.ackBody
  ackPendingSha : s'.ackPendingSha = s.ackPendingSha
  acceptedAt : s'.acceptedAt = s.acceptedAt
  ackEvent : s'.ackEvent = s.ackEvent

/-- What the state relies on in a validator: a capture that advances another is a capture, and what
was valid for a request or for an acknowledgement stays valid for it in a later valid state. -/
structure PayloadValidator.Stable (v : PayloadValidator) : Prop where
  advance : ∀ {previous candidate : Bytes} {previousSchema schema identity : Text},
    v.captureAdvance previous previousSchema candidate schema identity = true →
      v.capture candidate schema identity = true
  pending : ∀ {payload : Bytes} {s s' : LocalState} {identity : Text}, SamePending s s' →
    localStateValid s' = true → v.pending payload s identity = true →
      v.pending payload s' identity = true
  ack : ∀ {payload : Bytes} {s s' : LocalState} {identity : Text}, SameAck s s' →
    localStateValid s' = true → v.ack payload s identity = true →
      v.ack payload s' identity = true
  ackWithPending : ∀ {response pending : Bytes} {s s' : LocalState} {identity : Text},
    SameAck s s' → localStateValid s' = true →
      v.ackWithPending response pending s identity = true →
        v.ackWithPending response pending s' identity = true

namespace Follows

variable {m : Fields} {t : Transition} {next : LocalState}

theorem generation (h : Follows m t next) : next.generation = m.highestObserved + 1 := by
  cases h <;> rfl

theorem parentGeneration (h : Follows m t next) : next.parentGeneration = m.state.generation := by
  cases h <;> rfl

theorem parentCommit (h : Follows m t next) : next.parentCommit = m.commitSha := by
  cases h <;> rfl

theorem identity (h : Follows m t next) : next.identity = m.state.identity := by
  cases h <;> rfl

theorem registration (h : Follows m t next) : next.registration = m.state.registration := by
  cases h <;> rfl

theorem produced_le (h : Follows m t next) : m.state.produced ≤ next.produced := by
  cases h with
  | append refs => exact Nat.le_add_right _ _
  | _ => exact Nat.le_refl _

/-- A request waits on, unless the transition is one of the three that are about it. -/
theorem samePending (h : Follows m t next) (hprepare : t ≠ .prepare) (hack : t ≠ .ack)
    (hreplace : t ≠ .replace) : SamePending m.state next := by
  cases h with
  | append refs =>
    exact ⟨rfl, rfl, rfl, rfl, rfl, rfl, rfl, rfl, rfl, rfl, rfl, List.prefix_append _ _,
      Nat.le_add_right _ _⟩
  | prepare => exact absurd rfl hprepare
  | ack => exact absurd rfl hack
  | replace => exact absurd rfl hreplace
  | checkpoint =>
    exact ⟨rfl, rfl, rfl, rfl, rfl, rfl, rfl, rfl, rfl, rfl, rfl, List.prefix_rfl, Nat.le_refl _⟩
  | diagnostic =>
    exact ⟨rfl, rfl, rfl, rfl, rfl, rfl, rfl, rfl, rfl, rfl, rfl, List.prefix_rfl, Nat.le_refl _⟩

theorem sameAck (h : Follows m t next) (hack : t ≠ .ack) : SameAck m.state next := by
  cases h with
  | ack => exact absurd rfl hack
  | _ => exact ⟨rfl, rfl, rfl, rfl, rfl, rfl, rfl, rfl, rfl, rfl⟩

/-- A capture that is not new is the one of the state before, with its schema. -/
theorem capture (h : Follows m t next) :
    next.capture.generation = next.generation ∨
      (next.capture = m.state.capture ∧ next.captureSchema = m.state.captureSchema) := by
  cases h with
  | append refs capture captureSchema hrefs hcapture => exact .inl hcapture
  | _ => exact .inr ⟨rfl, rfl⟩

theorem events (h : Follows m t next) {e : LocalRef} (he : e ∈ next.events) :
    e ∈ m.state.events ∨ e.generation = next.generation := by
  cases h with
  | append refs capture captureSchema hrefs hcapture =>
    rcases List.mem_append.mp he with he | he
    · exact .inl he
    · exact .inr (hrefs e he)
  | ack => exact .inl (List.mem_of_mem_drop he)
  | _ => exact .inl he

theorem pending (h : Follows m t next) :
    next.pending.kind = .absent ∨ next.pending.generation = next.generation ∨
      (next.pending = m.state.pending ∧ t ≠ .prepare ∧ t ≠ .ack ∧ t ≠ .replace) := by
  cases h with
  | prepare => exact .inr (.inl rfl)
  | ack => exact .inl rfl
  | replace => exact .inr (.inl rfl)
  | append => exact .inr (.inr ⟨rfl, by simp⟩)
  | checkpoint => exact .inr (.inr ⟨rfl, by simp⟩)
  | diagnostic => exact .inr (.inr ⟨rfl, by simp⟩)

theorem ack_cases (h : Follows m t next) :
    (t = .ack ∧ next.ack.generation = next.generation) ∨ (t ≠ .ack ∧ next.ack = m.state.ack) := by
  cases h with
  | ack => exact .inl ⟨rfl, rfl⟩
  | _ => exact .inr ⟨by simp, rfl⟩

/-- An acknowledgement is of the next request, with the events that it carried. -/
theorem accepted (h : Follows m t next) (hvalid : localStateValid m.state = true) :
    (t ≠ .ack ∧ next.acceptedRequest = m.state.acceptedRequest ∧
        next.acceptedEvent = m.state.acceptedEvent) ∨
      (t = .ack ∧ m.state.pending.kind ≠ .absent ∧
        next.acceptedRequest = m.state.acceptedRequest + 1 ∧
        next.acceptedRequest = m.state.pendingRequest ∧
        next.acceptedEvent = m.state.acceptedEvent + m.state.pendingCount ∧
        next.acceptedEvent = m.state.pendingFinal ∧
        next.ackPendingSha = m.state.pending.sha ∧ next.ackBody = m.state.pendingBody) := by
  cases h with
  | ack sha acceptedAt hwaits =>
    have hpending := (localStateValid_iff.mp hvalid).2.2.2.2.1
    simp only [LocalState.pendingValid, if_neg hwaits, decide_eq_true_eq] at hpending
    obtain ⟨-, -, -, -, hrequest, -, -, -, -, -, hfinal, -⟩ := hpending
    exact .inr ⟨rfl, hwaits, hrequest, rfl, hfinal, rfl, rfl, rfl⟩
  | _ => exact .inl ⟨by simp, rfl, rfl⟩

end Follows

/-! ## The records that a state names -/

theorem mem_objectRefs {state : LocalState} {r : LocalRef} :
    r ∈ objectRefs state ↔ r = state.capture ∨ r ∈ state.events ∨
      (state.pending.kind ≠ .absent ∧ r = state.pending) ∨
      (state.ack.kind ≠ .absent ∧ r = state.ack) := by
  simp only [objectRefs, List.mem_append, List.mem_cons]
  constructor
  · rintro (((rfl | hr) | hr) | hr)
    · exact .inl rfl
    · exact .inr (.inl hr)
    · split at hr
      next => exact absurd hr List.not_mem_nil
      next hkind => exact .inr (.inr (.inl ⟨hkind, List.mem_singleton.mp hr⟩))
    · split at hr
      next => exact absurd hr List.not_mem_nil
      next hkind => exact .inr (.inr (.inr ⟨hkind, List.mem_singleton.mp hr⟩))
  · rintro (rfl | hr | ⟨hkind, rfl⟩ | ⟨hkind, rfl⟩)
    · exact .inl (.inl (.inl rfl))
    · exact .inl (.inl (.inr hr))
    · exact .inl (.inr (by rw [if_neg hkind]; exact List.mem_singleton_self _))
    · exact .inr (by rw [if_neg hkind]; exact List.mem_singleton_self _)

/-- A record that a state names is named by the state before, or it is new. -/
theorem Follows.objectRefs {m : Fields} {t : Transition} {next : LocalState}
    (h : Follows m t next) {r : LocalRef} (hr : r ∈ objectRefs next) :
    r ∈ TelemetryState.objectRefs m.state ∨ r.generation = next.generation := by
  rcases mem_objectRefs.mp hr with rfl | hr | ⟨hkind, rfl⟩ | ⟨hkind, rfl⟩
  · rcases h.capture with hnew | ⟨hsame, -⟩
    · exact .inr hnew
    · exact .inl (mem_objectRefs.mpr (.inl hsame))
  · rcases h.events hr with hold | hnew
    · exact .inl (mem_objectRefs.mpr (.inr (.inl hold)))
    · exact .inr hnew
  · rcases h.pending with hnone | hnew | ⟨hsame, -⟩
    · exact absurd hnone hkind
    · exact .inr hnew
    · rw [hsame] at hkind ⊢
      exact .inl (mem_objectRefs.mpr (.inr (.inr (.inl ⟨hkind, rfl⟩))))
  · rcases h.ack_cases with ⟨-, hnew⟩ | ⟨-, hsame⟩
    · exact .inr hnew
    · rw [hsame] at hkind ⊢
      exact .inl (mem_objectRefs.mpr (.inr (.inr (.inr ⟨hkind, rfl⟩))))

/-- The kinds of reference that lie among the objects. -/
def RefKind.isObject (kind : RefKind) : Prop :=
  kind = .capture ∨ kind = .event ∨ kind = .pending ∨ kind = .ack

theorem refLocator_of_object {r : LocalRef} (h : r.kind.isObject) :
    refLocator r = objectLocator r.generation r.ordinal := by
  rcases h with h | h | h | h <;> simp [refLocator, h]

/-- What a valid state says about a record that it names. -/
structure Named (state : LocalState) (r : LocalRef) : Prop where
  valid : localRefValid r = true
  generation : r.generation ≤ state.generation
  object : r.kind.isObject

section Valid

variable {state : LocalState} (h : localStateValid state = true)
include h

theorem capture_of_valid : Named state state.capture ∧ state.capture.kind = .capture := by
  have hhead := (localStateValid_iff.mp h).1
  simp only [LocalState.headValid, decide_eq_true_eq] at hhead
  obtain ⟨-, -, -, -, -, hvalid, hkind, hgeneration, -⟩ := hhead
  exact ⟨⟨hvalid, hgeneration, .inl hkind⟩, hkind⟩

theorem registrationValid_of_valid : localRefValid state.registration = true := by
  have hhead := (localStateValid_iff.mp h).1
  simp only [LocalState.headValid, decide_eq_true_eq] at hhead
  exact hhead.2.2.2.1

theorem event_of_valid {e : LocalRef} (he : e ∈ state.events) :
    Named state e ∧ e.kind = .event := by
  have hevents := (localStateValid_iff.mp h).2.2.2.1
  simp only [LocalState.eventsValid, decide_eq_true_eq, List.all_eq_true] at hevents
  obtain ⟨hvalid, hkind, hgeneration, -⟩ := hevents.2.1 e he
  exact ⟨⟨hvalid, hgeneration, .inr (.inl hkind)⟩, hkind⟩

theorem pending_of_valid (hwaits : state.pending.kind ≠ .absent) :
    Named state state.pending ∧ state.pending.kind = .pending := by
  have hpending := (localStateValid_iff.mp h).2.2.2.2.1
  simp only [LocalState.pendingValid, if_neg hwaits, decide_eq_true_eq] at hpending
  obtain ⟨hvalid, hkind, hgeneration, -⟩ := hpending
  exact ⟨⟨hvalid, hgeneration, .inr (.inr (.inl hkind))⟩, hkind⟩

theorem ack_of_valid (hack : state.ack.kind ≠ .absent) :
    Named state state.ack ∧ state.ack.kind = .ack := by
  have hanswered := (localStateValid_iff.mp h).2.2.2.2.2.1
  simp only [LocalState.ackValid, if_neg hack, decide_eq_true_eq] at hanswered
  obtain ⟨hvalid, hkind, hgeneration, -⟩ := hanswered
  exact ⟨⟨hvalid, hgeneration, .inr (.inr (.inr hkind))⟩, hkind⟩

theorem named_of_valid {r : LocalRef} (hr : r ∈ objectRefs state) : Named state r := by
  rcases mem_objectRefs.mp hr with rfl | hr | ⟨hkind, rfl⟩ | ⟨hkind, rfl⟩
  · exact (capture_of_valid h).1
  · exact (event_of_valid h hr).1
  · exact (pending_of_valid h hkind).1
  · exact (ack_of_valid h hkind).1

/-- No two records of a state lie at one place. -/
theorem paths_nodup : ((objectRefs state).map localRefPath).Nodup := by
  obtain ⟨-, -, -, hevents, -, -, hapart⟩ := localStateValid_iff.mp h
  simp only [LocalState.eventsValid, decide_eq_true_eq, List.all_eq_true] at hevents
  simp only [LocalState.apartValid, decide_eq_true_eq] at hapart
  obtain ⟨-, hall, hpairs⟩ := hevents
  obtain ⟨-, hcapturePending, hcaptureAck, hpendingAck⟩ := hapart
  have hcapture : ∀ e ∈ state.events, localRefPath state.capture ≠ localRefPath e :=
    fun e he heq => (hall e he).2.2.2.1 heq.symm
  have hpending : ∀ e ∈ state.events, localRefPath e ≠ localRefPath state.pending :=
    fun e he => (hall e he).2.2.2.2.1
  have hack : ∀ e ∈ state.events, localRefPath e ≠ localRefPath state.ack :=
    fun e he => (hall e he).2.2.2.2.2
  have hdiffer : state.events.Pairwise fun e f => localRefPath e ≠ localRefPath f := by
    refine hpairs.imp ?_
    intro e f hef
    simp only [LocalState.eventsDiffer, decide_eq_true_eq] at hef
    exact hef.1
  rw [List.Nodup, List.pairwise_map]
  simp only [objectRefs, List.cons_append, List.pairwise_cons, List.pairwise_append,
    List.mem_append]
  refine ⟨?_, ⟨hdiffer, ?_, ?_⟩, ?_, ?_⟩
  · rintro r ((hr | hr) | hr)
    · exact hcapture r hr
    · split at hr
      next => exact absurd hr List.not_mem_nil
      next => rwa [List.mem_singleton.mp hr]
    · split at hr
      next => exact absurd hr List.not_mem_nil
      next => rwa [List.mem_singleton.mp hr]
  · split
    · exact List.Pairwise.nil
    · exact List.pairwise_singleton _ _
  · intro e he r hr
    split at hr
    next => exact absurd hr List.not_mem_nil
    next =>
      rw [List.mem_singleton.mp hr]
      exact hpending e he
  · split
    · exact List.Pairwise.nil
    · exact List.pairwise_singleton _ _
  · rintro e he r hr
    split at hr
    next => exact absurd hr List.not_mem_nil
    next hackKind =>
      rw [List.mem_singleton.mp hr]
      rcases he with he | he
      · exact hack e he
      · split at he
        next => exact absurd he List.not_mem_nil
        next hpendingKind =>
          rw [List.mem_singleton.mp he]
          exact fun heq => hpendingAck ⟨hpendingKind, hackKind, heq⟩

theorem eq_of_refLocator {r q : LocalRef} (hr : r ∈ objectRefs state) (hq : q ∈ objectRefs state)
    (heq : refLocator r = refLocator q) : r = q := by
  have hrNamed := named_of_valid h hr
  have hqNamed := named_of_valid h hq
  have hpath : ∀ {s : LocalRef}, Named state s →
      localRefPath s = objectPath (refLocator s).generation (refLocator s).ordinal := by
    intro s hs
    rw [refLocator_of_object hs.object, localRefPath, if_pos hs.valid]
    rcases hs.object with hkind | hkind | hkind | hkind <;> rw [hkind] <;> rfl
  refine List.inj_on_of_nodup_map (paths_nodup h) hr hq ?_
  rw [hpath hrNamed, hpath hqNamed, heq]

end Valid

/-- What was valid for a record stays valid in the next state. -/
theorem Follows.typed {A : TelemetryState} {m : Fields} {t : Transition} {next : LocalState}
    {entries : List StorageEntry} {d : Disk} {payload : Bytes} {r : LocalRef}
    (h : Follows m t next) (hv : A.validator.Stable) (hnext : localStateValid next = true)
    (hr : r ∈ TelemetryState.objectRefs next) (hold : r.generation ≠ next.generation)
    (htyped : A.Typed entries d m.state r payload) : A.Typed entries d next r payload := by
  rcases mem_objectRefs.mp hr with rfl | hr | ⟨hkind, rfl⟩ | ⟨hkind, rfl⟩
  · have hcapture := (capture_of_valid hnext).2
    rcases h.capture with hnew | ⟨-, hschema⟩
    · exact absurd hnew hold
    · simp only [Typed, hcapture, hschema] at htyped ⊢
      exact htyped
  · have hevent := (event_of_valid hnext hr).2
    simp only [Typed, hevent] at htyped ⊢
    exact htyped
  · have hpending := (pending_of_valid hnext hkind).2
    rcases h.pending with hnone | hnew | ⟨-, hprepare, hack, hreplace⟩
    · exact absurd hnone hkind
    · exact absurd hnew hold
    · simp only [Typed, hpending] at htyped ⊢
      exact hv.pending (h.samePending hprepare hack hreplace) hnext htyped
  · have hkind' := (ack_of_valid hnext hkind).2
    rcases h.ack_cases with ⟨-, hnew⟩ | ⟨hack, -⟩
    · exact absurd hnew hold
    · have hsame := h.sameAck hack
      simp only [Typed, hkind'] at htyped ⊢
      split at htyped
      next hwitness =>
        rw [if_pos hwitness]
        obtain ⟨l, pending, hat, hok⟩ := htyped
        refine ⟨l, pending, ?_, hv.ackWithPending hsame hnext hok⟩
        exact {
          ack := by rw [hsame.ack]; exact hat.ack
          digest := by rw [hsame.ackPendingSha]; exact hat.digest
          listed := hat.listed
          unique := by rw [hsame.ackPendingSha]; exact hat.unique
          object := hat.object
          valid := hat.valid
          record := by rw [hsame.ackPendingSha]; exact hat.record
          older := by rw [hsame.ack]; exact hat.older }
      next hwitness =>
        rw [if_neg hwitness]
        exact hv.ack hsame hnext htyped

end TradeOps.Agent
