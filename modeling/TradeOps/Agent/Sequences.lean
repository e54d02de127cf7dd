import TradeOps.Agent.Crashes

/-!
# Sequences of events and requests

What the published states of a run say about its events and requests. An event that was published
is retained until it is accepted, so a sequence stands for one event for ever. A request that waits
is read as it was stored until it is acknowledged or replaced.
-/

namespace TradeOps.Agent

open Prog TelemetryState

variable {A : TelemetryState} {w : World} {d d' : Disk} {hist rest : List Generation}
  {current head g g' : Generation} {state : LocalState} {e e' : LocalRef}

/-! ## Retained events -/

theorem sequences_of_valid (h : localStateValid state = true) :
    state.acceptedEvent ≤ state.produced ∧
      state.events.map (·.sequence) =
        List.range' (state.acceptedEvent + 1) (state.produced - state.acceptedEvent) := by
  obtain ⟨-, -, hcounters, hevents, -⟩ := localStateValid_iff.mp h
  simp only [LocalState.countersValid, decide_eq_true_eq] at hcounters
  simp only [LocalState.eventsValid, decide_eq_true_eq] at hevents
  exact ⟨hcounters.2.2.2.1, by rw [hcounters.2.2.2.2.2]; exact hevents.1⟩

/-- Two retained events with one sequence are one. -/
theorem event_of_sequence (h : localStateValid state = true) (he : e ∈ state.events)
    (he' : e' ∈ state.events) (hseq : e.sequence = e'.sequence) : e = e' := by
  have hnodup : (state.events.map (·.sequence)).Nodup := by
    rw [(sequences_of_valid h).2]
    exact List.nodup_range'
  exact List.inj_on_of_nodup_map hnodup he he' hseq

theorem sequence_bounds (h : localStateValid state = true) (he : e ∈ state.events) :
    state.acceptedEvent < e.sequence ∧ e.sequence ≤ state.produced := by
  obtain ⟨hle, hseq⟩ := sequences_of_valid h
  have hmem : e.sequence ∈ state.events.map (·.sequence) := List.mem_map_of_mem he
  rw [hseq, List.mem_range'_1] at hmem
  omega

theorem exists_event (h : localStateValid state = true) {n : Nat}
    (hlow : state.acceptedEvent < n) (hhigh : n ≤ state.produced) :
    ∃ e ∈ state.events, e.sequence = n := by
  obtain ⟨hle, hseq⟩ := sequences_of_valid h
  have hmem : n ∈ state.events.map (·.sequence) := by
    rw [hseq, List.mem_range'_1]
    omega
  exact List.mem_map.mp hmem

/-- Dropping events from the front leaves the later ones. -/
theorem mem_drop_of_sequence (h : localStateValid state = true) {k : Nat} (he : e ∈ state.events)
    (hlater : state.acceptedEvent + k < e.sequence) : e ∈ state.events.drop k := by
  obtain ⟨i, hi, rfl⟩ := List.mem_iff_getElem.mp he
  have hseq := (sequences_of_valid h).2
  have hat : (state.events.map (·.sequence))[i]? = some state.events[i].sequence := by
    rw [List.getElem?_map, List.getElem?_eq_getElem hi]
    rfl
  have hlength : i < state.produced - state.acceptedEvent := by
    have := congrArg List.length hseq
    rw [List.length_map, List.length_range'] at this
    omega
  rw [hseq, List.getElem?_range' hlength] at hat
  have hvalue : state.acceptedEvent + 1 + 1 * i = state.events[i].sequence := Option.some.inj hat
  have hk : k ≤ i := by omega
  rw [List.mem_drop_iff_getElem]
  exact ⟨i - k, by omega, by congr 1; omega⟩

namespace Lineage

/-- An event that was published is retained until it is accepted. -/
theorem retained (h : Lineage A (head :: hist)) : ∀ g ∈ head :: hist, ∀ e ∈ g.state.events,
    head.state.acceptedEvent < e.sequence → e ∈ head.state.events := by
  generalize hall : head :: hist = all at h
  induction h generalizing head hist with
  | @first g hfirst =>
    rw [List.cons.injEq] at hall
    intro g' hg' e he _
    rw [hall.1]
    rw [List.mem_singleton.mp hg'] at he
    exact he
  | @next g g' rest h hnext ih =>
    rw [List.cons.injEq] at hall
    obtain ⟨rfl, rfl⟩ := hall
    intro g₁ hg₁ e he hlater
    rcases List.mem_cons.mp hg₁ with rfl | hg₁
    · exact he
    obtain ⟨m, hm, -, hfollows⟩ := hnext.follows
    have hvalid := h.valid (g := g) List.mem_cons_self
    have haccepted := hfollows.accepted (by rw [hm]; exact hvalid)
    have hbefore : g.state.acceptedEvent < e.sequence := by
      rw [hm] at haccepted
      omega
    have hmem := ih rfl g₁ hg₁ e he hbefore
    rw [← hm] at hmem hvalid
    generalize head.state = next at hfollows hlater haccepted ⊢
    generalize head.commit.transition = t at hfollows haccepted
    cases hfollows with
    | append refs => exact List.mem_append_left _ hmem
    | ack sha acceptedAt hwaits =>
      refine mem_drop_of_sequence hvalid hmem ?_
      have hcount : m.state.pendingFinal = m.state.acceptedEvent + m.state.pendingCount := by
        rcases haccepted with ⟨hne, -⟩ | ⟨-, -, -, -, hcount, -⟩
        · exact absurd rfl hne
        · exact hcount
      have hlater : m.state.pendingFinal < e.sequence := hlater
      omega
    | _ => exact hmem

/-- A sequence stands for one event in all generations. -/
theorem event_unique (h : Lineage A hist) (hg : g ∈ hist) (hg' : g' ∈ hist)
    (he : e ∈ g.state.events) (he' : e' ∈ g'.state.events) (hseq : e.sequence = e'.sequence) :
    e = e' := by
  induction h with
  | @first g₀ hfirst =>
    rw [List.mem_singleton.mp hg] at he
    rw [List.mem_singleton.mp hg'] at he'
    exact event_of_sequence hfirst.valid he he' hseq
  | @next g₀ g₁ rest h hnext ih =>
    have hall := Lineage.next h hnext
    have hretained := hall.retained
    rcases List.mem_cons.mp hg with rfl | hold
    · have hlow := (sequence_bounds hnext.valid he).1
      exact event_of_sequence hnext.valid he (hretained g' hg' e' he' (hseq ▸ hlow)) hseq
    · rcases List.mem_cons.mp hg' with rfl | hold'
      · have hlow := (sequence_bounds hnext.valid he').1
        exact event_of_sequence hnext.valid (hretained g hg e he (hseq ▸ hlow)) he' hseq
      · exact ih hold hold'

/-- Every sequence that was produced stands for an event. -/
theorem event_exists (h : Lineage A (head :: hist)) {n : Nat} (hlow : 1 ≤ n)
    (hhigh : n ≤ head.state.produced) :
    ∃ g ∈ head :: hist, ∃ e ∈ g.state.events, e.sequence = n := by
  generalize hall : head :: hist = all at h
  induction h generalizing head hist with
  | @first g hfirst =>
    rw [List.cons.injEq] at hall
    obtain ⟨registrationSha, captureSha, captureSchema, hstate⟩ := hfirst.state
    have hzero : g.state.produced = 0 := by rw [hstate]; rfl
    rw [hall.1] at hhigh
    omega
  | @next g g' rest h hnext ih =>
    rw [List.cons.injEq] at hall
    obtain ⟨rfl, rfl⟩ := hall
    by_cases hold : n ≤ g.state.produced
    · obtain ⟨g₁, hg₁, hfound⟩ := ih hold rfl
      exact ⟨g₁, List.mem_cons_of_mem _ hg₁, hfound⟩
    · refine ⟨head, List.mem_cons_self, exists_event hnext.valid ?_ hhigh⟩
      obtain ⟨m, hm, -, hfollows⟩ := hnext.follows
      have hbelow := (sequences_of_valid (h.valid (g := g) List.mem_cons_self)).1
      rw [← hm] at hold hbelow
      generalize head.state = next at hfollows hhigh ⊢
      generalize head.commit.transition = t at hfollows
      cases hfollows with
      | append refs =>
        show m.state.acceptedEvent < n
        omega
      | _ => exact absurd hhigh hold

end Lineage

/-! ## Published states -/

/-- The state and its commit were written. -/
def Published (A : TelemetryState) (w : World) (state : LocalState) : Prop :=
  ∃ commit commitSha, A.Metadata w.disk.archive state.generation commit state commitSha

theorem Held.published_iff (h : Held A w.disk hist) :
    Published A w state ↔ ∃ g ∈ hist, g.state = state := by
  constructor
  · rintro ⟨commit, commitSha, hdata⟩
    obtain ⟨-, f, payload, hfind, -⟩ := hdata.commitAt
    obtain ⟨hmem, hlocator⟩ := Disk.mem_of_find hfind
    have hkind : f.locator.kind = .commit := by rw [hlocator]; rfl
    have hgeneration : f.locator.generation = state.generation := by rw [hlocator]; rfl
    rcases h.store with ⟨-, hunborn⟩ | hlive
    · exact absurd hkind (hunborn.commits f hmem)
    · obtain ⟨g, hg, hsame⟩ := hlive.commits f hmem hkind
      have hdata' := hlive.data g hg
      rw [← hsame, hgeneration] at hdata'
      exact ⟨g, hg, (metadata_unique hdata hdata').2.1.symm⟩
  · rintro ⟨g, hg, rfl⟩
    rcases h.store with ⟨rfl, -⟩ | hlive
    · exact absurd hg List.not_mem_nil
    · exact ⟨g.commit, g.commitSha, hlive.data g hg⟩

theorem Held.lineage (h : Held A w.disk hist) (hg : g ∈ hist) : Lineage A hist := by
  rcases h.store with ⟨rfl, -⟩ | hlive
  · exact absurd hg List.not_mem_nil
  · exact hlive.lineage

theorem find_archive_of_written {l : Locator} {f : StoredRecord}
    (hwritten : d.written <+: d'.written) (h : d.archive.find l = some f) :
    d'.archive.find l = some f := by
  obtain ⟨fs, hfs⟩ := hwritten
  show Keyed.lookup StoredRecord.locator d'.written l = some f
  have h : Keyed.lookup StoredRecord.locator d.written l = some f := h
  rw [← hfs]
  simp only [Keyed.lookup, List.find?_append] at h ⊢
  rw [h]
  rfl

/-- What was published stays published. -/
theorem Published.run {later : World} (h : Published A w state)
    (hrun : (sessions A).Run w later) : Published A later state := by
  obtain ⟨commit, commitSha, hdata⟩ := h
  have hwritten := run_written hrun
  exact ⟨commit, commitSha, hdata.transfer (fun f hf => find_archive_of_written hwritten hf)
    (fun f hf => find_archive_of_written hwritten hf)⟩

/-- A new process finds the same root as the one before. -/
theorem Recovers.restart (h : Recovers A w state) :
    Recovers A (Label.next A w .restart) state := h

theorem restart_distinct (h : Disk.Distinct A.sha w.disk.written) :
    Disk.Distinct A.sha (Label.next A w .restart).disk.written := h

/-- Where a root is recovered, there is one. -/
theorem Recovers.committed (h : Recovers A w state) : w.Committed := by
  obtain ⟨m, d, hends, -⟩ := h
  obtain ⟨u, m₁, d₁, hopen, hrecover⟩ := ends_bind.mp hends
  obtain ⟨-, -, hcase⟩ := recover_ends.mp hrecover
  obtain ⟨-, entries, b, commit, s, commitSha, -, -, hroot, -⟩ :=
    hcase.resolve_right fun hfalse => absurd hfalse.1 (by decide)
  obtain ⟨-, f, payload, hfind, -⟩ := hroot.data.commitAt
  obtain ⟨hmem, hlocator⟩ := Disk.mem_of_find hfind
  have hfiles : d₁.files = w.disk.files := (openSession_same hopen.visits).files
  rw [hfiles] at hmem
  exact ⟨f, hmem, by rw [hlocator]; rfl⟩

theorem Held.root (h : Held A w.disk hist) (hrecovers : Recovers A w state) :
    ∃ current rest, hist = current :: rest ∧ current.state = state ∧
      Live A w.disk (current :: rest) := by
  obtain ⟨current, rest, rfl, hlive⟩ := h.live hrecovers.committed
  exact ⟨current, rest, rfl, (h.recovers hlive).unique hrecovers, hlive⟩

/-! ## One step -/

/-- The request that waited was accepted. -/
structure Accepts (before after : LocalState) : Prop where
  waits : before.pending.kind ≠ .absent
  acceptedRequest : after.acceptedRequest = before.acceptedRequest + 1
  request : after.acceptedRequest = before.pendingRequest
  acceptedEvent : after.acceptedEvent = before.pendingFinal
  sha : after.ackPendingSha = before.pending.sha
  body : after.ackBody = before.pendingBody
  done : after.pending.kind = .absent

/-- The request that waited waits on: the same bytes, sequence, events and digest. -/
structure SameRequest (A : TelemetryState) (d d' : Disk) (before after : LocalState) : Prop where
  bytes : A.payloadAt d' after.pending = A.payloadAt d before.pending
  found : A.payloadAt d before.pending ≠ none
  pending : after.pending = before.pending
  sequence : after.pendingRequest = before.pendingRequest
  prior : after.pendingPrior = before.pendingPrior
  final : after.pendingFinal = before.pendingFinal
  count : after.pendingCount = before.pendingCount
  body : after.pendingBody = before.pendingBody
  events : after.events.take after.pendingCount = before.events.take before.pendingCount

/-- What a step does to the requests. -/
structure KeepsRequests (A : TelemetryState) (w : World) (l : Label)
    (before after : LocalState) : Prop where
  accepted : (after.acceptedRequest = before.acceptedRequest ∧
      after.acceptedEvent = before.acceptedEvent) ∨
    (Accepts before after ∧ ∃ adapter response script,
      l = .call (.acceptResponse adapter response) script)
  waiting : before.pending.kind ≠ .absent →
    SameRequest A w.disk (l.next A w).disk before after ∨ Accepts before after ∨
      ∃ adapter rejection replacement bodySha script,
        l = .call (.replaceRejected adapter rejection replacement bodySha) script

theorem payload_of_pending (h : Stands A d g) (hwaits : g.state.pending.kind ≠ .absent) :
    ∃ f payload, d.find (refLocator g.state.pending) = some f ∧
      A.payloadAt d g.state.pending = some payload ∧
      localFrameMatches A.sha g.state.pending f.bytes = some payload := by
  have hmem : g.state.pending ∈ rootRefs g.state :=
    List.mem_cons_of_mem _ (mem_objectRefs.mpr (.inr (.inr (.inl ⟨hwaits, rfl⟩))))
  obtain ⟨payload, hpayload, -⟩ := h.refs _ hmem
  obtain ⟨-, f, hfind, hmatch⟩ := payloadAt_some hpayload
  exact ⟨f, payload, hfind, hpayload, hmatch⟩

/-- A request that both roots name has the same bytes. -/
theorem same_bytes {hist' : List Generation} (hwritten : d.written <+: d'.written)
    (hlive : Live A d hist) (hlive' : Live A d' hist') (h : Stands A d g) (h' : Stands A d' g')
    (hwaits : g.state.pending.kind ≠ .absent) (hsame : g'.state.pending = g.state.pending) :
    A.payloadAt d' g'.state.pending = A.payloadAt d g.state.pending ∧
      A.payloadAt d g.state.pending ≠ none := by
  obtain ⟨f, payload, hfind, hpayload, hmatch⟩ := payload_of_pending h hwaits
  obtain ⟨f', payload', hfind', hpayload', hmatch'⟩ :=
    payload_of_pending h' (by rw [hsame]; exact hwaits)
  obtain ⟨hmem, hlocator⟩ := Disk.mem_of_find hfind
  obtain ⟨hmem', hlocator'⟩ := Disk.mem_of_find hfind'
  have heq : f = f' := by
    refine hlive'.archived.keys.eq_of_key (hwritten.subset (hlive.archived.kept f hmem))
      (hlive'.archived.kept f' hmem') ?_
    rw [hlocator, hlocator', hsame]
  rw [heq, ← hsame, hmatch'] at hmatch
  rw [hpayload, hpayload', hmatch]
  simp

/-- What a transition does to the requests. -/
theorem Lineage.requests (h : Lineage A (g' :: g :: hist)) :
    ((g'.commit.transition ≠ .ack ∧ g'.state.acceptedRequest = g.state.acceptedRequest ∧
        g'.state.acceptedEvent = g.state.acceptedEvent) ∨
      (g'.commit.transition = .ack ∧ Accepts g.state g'.state)) ∧
    (g.state.pending.kind ≠ .absent → g'.commit.transition ≠ .ack →
      g'.commit.transition ≠ .replace → SamePending g.state g'.state) := by
  have hvalid := h.tail.valid (g := g) List.mem_cons_self
  cases h with
  | next htail hnext =>
    obtain ⟨m, hm, -, hfollows⟩ := hnext.follows
    have haccepted := hfollows.accepted (by rw [hm]; exact hvalid)
    rw [hm] at haccepted
    refine ⟨?_, ?_⟩
    · rcases haccepted with hsame | ⟨hack, hwaits, hmore, hrequest, -, hevent, hsha, hbody⟩
      · exact .inl hsame
      · refine .inr ⟨hack, hwaits, hmore, hrequest, hevent, hsha, hbody, ?_⟩
        rw [hack] at hfollows
        generalize g'.state = next at hfollows ⊢
        cases hfollows with
        | ack sha acceptedAt => rfl
    · intro hwaits hack hreplace
      rw [← hm]
      refine hfollows.samePending ?_ hack hreplace
      intro hprepare
      rw [hprepare] at hfollows
      rw [← hm] at hwaits
      generalize g'.state = next at hfollows
      cases hfollows with
      | prepare c sha hnone => exact hwaits hnone

/-- The events that a request carries are still the first ones. -/
theorem SamePending.batch {before after : LocalState} (h : SamePending before after)
    (hvalid : localStateValid before = true) (hwaits : before.pending.kind ≠ .absent) :
    after.events.take after.pendingCount = before.events.take before.pendingCount := by
  have hpending := (localStateValid_iff.mp hvalid).2.2.2.2.1
  simp only [LocalState.pendingValid, if_neg hwaits, decide_eq_true_eq] at hpending
  obtain ⟨-, -, -, -, -, -, -, -, -, hcount, -⟩ := hpending
  obtain ⟨more, hmore⟩ := h.events
  rw [h.pendingCount, ← hmore, List.take_append_of_le_length hcount]

theorem ack_of_mem {op : Op} (h : Transition.ack ∈ op.transitions) :
    ∃ adapter response, op = .acceptResponse adapter response := by
  cases op with
  | acceptResponse adapter response => exact ⟨adapter, response, rfl⟩
  | _ => simp [Op.transitions] at h

theorem replace_of_mem {op : Op} (h : Transition.replace ∈ op.transitions) :
    ∃ adapter rejection replacement bodySha,
      op = .replaceRejected adapter rejection replacement bodySha := by
  cases op with
  | replaceRejected adapter rejection replacement bodySha => exact ⟨_, _, _, _, rfl⟩
  | _ => simp [Op.transitions] at h

theorem Held.keepsRequests {before after : LocalState} (l : Label) (hv : A.validator.Stable)
    (h : Held A w.disk hist) (hdistinct : Disk.Distinct A.sha (l.next A w).disk.written)
    (hbefore : Recovers A w before) (hafter : Recovers A (l.next A w) after) :
    KeepsRequests A w l before after := by
  obtain ⟨current, rest, rfl, rfl, hlive⟩ := h.root hbefore
  obtain ⟨hist', hadvances, hheld'⟩ := h.next l hv hdistinct
  obtain ⟨current', rest', rfl, rfl, hlive'⟩ := hheld'.root hafter
  have hwritten := next_written A w l
  have hstands := hlive.current rfl
  have hstands' := hlive'.current rfl
  have hstays : current' = current → KeepsRequests A w l current.state current'.state := by
    rintro rfl
    refine ⟨.inl ⟨rfl, rfl⟩, fun hwaits => .inl ?_⟩
    obtain ⟨hbytes, hfound⟩ := same_bytes hwritten hlive hlive' hstands hstands' hwaits rfl
    exact ⟨hbytes, hfound, rfl, rfl, rfl, rfl, rfl, rfl, rfl⟩
  cases l with
  | close => exact hstays (List.cons.inj hadvances).1
  | restart => exact hstays (List.cons.inj hadvances).1
  | call op script =>
    cases hadvances with
    | stays => exact hstays rfl
    | publishes next current rest ht =>
      obtain ⟨haccepted, hpending⟩ := hlive'.lineage.requests
      refine ⟨?_, fun hwaits => ?_⟩
      · rcases haccepted with ⟨-, hsame⟩ | ⟨hack, haccepts⟩
        · exact .inl hsame
        · rw [hack] at ht
          obtain ⟨adapter, response, rfl⟩ := ack_of_mem ht
          exact .inr ⟨haccepts, adapter, response, script, rfl⟩
      · rcases haccepted with ⟨hack, -⟩ | ⟨hack, haccepts⟩
        · by_cases hreplace : current'.commit.transition = .replace
          · rw [hreplace] at ht
            obtain ⟨adapter, rejection, replacement, bodySha, rfl⟩ := replace_of_mem ht
            exact .inr (.inr ⟨adapter, rejection, replacement, bodySha, script, rfl⟩)
          · have hsame := hpending hwaits hack hreplace
            obtain ⟨hbytes, hfound⟩ :=
              same_bytes hwritten hlive hlive' hstands hstands' hwaits hsame.pending
            exact .inl ⟨hbytes, hfound, hsame.pending, hsame.pendingRequest, hsame.pendingPrior,
              hsame.pendingFinal, hsame.pendingCount, hsame.pendingBody,
              hsame.batch (hlive.lineage.valid List.mem_cons_self) hwaits⟩
        · exact .inr (.inl haccepts)

/-! ## Reading the request -/

/-- `PreparePending` returns what `ReadPending` reads at its end. -/
theorem preparePending_reads {adapter : OutboxAdapter} {candidate : OutboxCandidate}
    {request bytes : Bytes} {m m' : Fields}
    (h : (A.preparePending adapter candidate request).Ends A.host m d bytes m' d') :
    ∃ m₁, A.readPending.Ends A.host m₁ d' bytes m' d' := by
  obtain ⟨u, m₁, d₁, hfresh, h⟩ := ends_bind.mp h
  obtain ⟨m₂, m₃, d₂, hfields, h⟩ := ends_bind.mp h
  obtain ⟨rfl, rfl, rfl⟩ := ends_fields.mp hfields
  have hlast : ∀ {m₁ : Fields} {d₁ : Disk}, A.readPending.Ends A.host m₁ d₁ bytes m' d' →
      ∃ m₁, A.readPending.Ends A.host m₁ d' bytes m' d' := by
    intro m₁ d₁ hread
    obtain rfl := readOnly_readPending.ends hread
    exact ⟨m₁, hread⟩
  split at h
  next => exact hlast h
  next =>
    obtain ⟨u, m₂, d₂, -, h⟩ := ends_bind.mp h
    obtain ⟨u, m₃, d₃, -, h⟩ := ends_bind.mp h
    obtain ⟨context, m₄, d₄, -, h⟩ := ends_bind.mp h
    obtain ⟨u, m₅, d₅, -, h⟩ := ends_bind.mp h
    obtain ⟨u, m₆, d₆, -, h⟩ := ends_bind.mp h
    obtain ⟨m₇, m₈, d₇, -, h⟩ := ends_bind.mp h
    obtain ⟨u, m₉, d₈, -, h⟩ := ends_bind.mp h
    obtain ⟨u, m₁₀, d₉, -, h⟩ := ends_bind.mp h
    split at h
    next => exact absurd h ends_fail
    next =>
      obtain ⟨u, m₁₁, d₁₀, -, h⟩ := ends_bind.mp h
      obtain ⟨u, m₁₂, d₁₁, -, h⟩ := ends_bind.mp h
      exact hlast h

/-- A request that a call returns is the one that waits after the call. -/
theorem Held.reads {bytes : Bytes} {m₁ m' : Fields} (h : Held A w.disk hist)
    (hread : A.readPending.Ends A.host m₁ w.disk bytes m' d') :
    Recovers A w m'.state ∧ m'.state.pending.kind ≠ .absent ∧
      A.payloadAt w.disk m'.state.pending = some bytes := by
  have hlive : ∃ current rest, Live A w.disk (current :: rest) := by
    rcases h.store with ⟨-, hunborn⟩ | hlive
    · obtain ⟨u, m₂, d₂, hfresh, -⟩ := ends_bind.mp hread
      exact absurd hfresh (Rootless.freshOutboxRoot (.inr hunborn))
    · obtain ⟨current, rest, rfl⟩ := hlive.nonempty
      exact ⟨current, rest, hlive⟩
  obtain ⟨current, rest, hlive⟩ := hlive
  obtain ⟨hat, hwaits, hpayload⟩ := readPending_atRoot hlive hread
  rw [hat.state]
  exact ⟨h.recovers hlive, hwaits, hpayload⟩

/-- So it is for the request that `PreparePending` returns. -/
theorem Held.prepares {adapter : OutboxAdapter} {candidate : OutboxCandidate}
    {request bytes : Bytes} {script : List storage.Event}
    (hdone : (w.call A (.preparePending adapter candidate request) script).exit = .done bytes)
    (h : Held A (w.after A (.preparePending adapter candidate request) script).disk hist) :
    let after := w.after A (.preparePending adapter candidate request) script
    Recovers A after after.fields.state ∧ after.fields.state.pending.kind ≠ .absent ∧
      A.payloadAt after.disk after.fields.state.pending = some bytes := by
  obtain ⟨hafter, hends⟩ := after_of_done hdone
  obtain ⟨m₁, hread⟩ := preparePending_reads hends
  rw [hafter] at h ⊢
  exact h.reads hread

/-- In every run: published states are valid and retain what was not accepted, a sequence stands for
one event for ever, requests are accepted one by one, and the one that waits stays as it is. -/
theorem journal_sequences (hv : A.validator.Stable) (hreach : (sessions A).Reachable w)
    (hdistinct : Disk.Distinct A.sha w.disk.written) :
    (∀ state, Published A w state → localStateValid state = true ∧
      state.acceptedEvent ≤ state.produced ∧ state.events.map (·.sequence) =
        List.range' (state.acceptedEvent + 1) (state.produced - state.acceptedEvent)) ∧
    (∀ state n, Published A w state → 1 ≤ n → n ≤ state.produced →
      ∃! p : Text × Text, ∃ state' e, Published A w state' ∧ e ∈ state'.events ∧
        e.sequence = n ∧ (e.eventId, e.recordSha) = p) ∧
    (∀ later : World, (sessions A).Run w later →
      (∀ state, Published A w state → Published A later state) ∧
      (Disk.Distinct A.sha later.disk.written → ∀ before after, Recovers A w before →
        Recovers A later after → before.acceptedRequest ≤ after.acceptedRequest ∧
          before.acceptedEvent ≤ after.acceptedEvent)) ∧
    (∀ l : Label, Disk.Distinct A.sha (l.next A w).disk.written → ∀ before after,
      Recovers A w before → Recovers A (l.next A w) after → KeepsRequests A w l before after) ∧
    (∀ script bytes, (w.call A .readPending script).exit = .done bytes →
      ∃ state, Recovers A w state ∧ state.pending.kind ≠ .absent ∧
        A.payloadAt w.disk state.pending = some bytes) ∧
    (∀ adapter candidate request script bytes,
      Disk.Distinct A.sha
        (w.after A (.preparePending adapter candidate request) script).disk.written →
      (w.call A (.preparePending adapter candidate request) script).exit = .done bytes →
      ∃ state, Recovers A (w.after A (.preparePending adapter candidate request) script) state ∧
        state.pending.kind ≠ .absent ∧
        A.payloadAt (w.after A (.preparePending adapter candidate request) script).disk
          state.pending = some bytes) := by
  obtain ⟨hist, hheld⟩ := Held.reachable hv hreach hdistinct
  refine ⟨?_, ?_, ?_, ?_, ?_, ?_⟩
  · intro state hpublished
    obtain ⟨g, hg, rfl⟩ := hheld.published_iff.mp hpublished
    have hvalid := (hheld.lineage hg).valid hg
    exact ⟨hvalid, sequences_of_valid hvalid⟩
  · intro state n hpublished hlow hhigh
    obtain ⟨g, hg, rfl⟩ := hheld.published_iff.mp hpublished
    have hlineage := hheld.lineage hg
    have hhead : ∃ head rest, hist = head :: rest := List.exists_cons_of_ne_nil
      (List.ne_nil_of_mem hg)
    obtain ⟨head, rest, rfl⟩ := hhead
    have hbelow := (hlineage.counters_le g hg).2.2
    obtain ⟨g', hg', e, he, hseq⟩ := hlineage.event_exists hlow (le_trans hhigh hbelow)
    refine ⟨(e.eventId, e.recordSha),
      ⟨g'.state, e, hheld.published_iff.mpr ⟨g', hg', rfl⟩, he, hseq, rfl⟩, ?_⟩
    rintro p ⟨state', e', hpublished', he', hseq', rfl⟩
    obtain ⟨g'', hg'', rfl⟩ := hheld.published_iff.mp hpublished'
    rw [hlineage.event_unique hg'' hg' he' he (by rw [hseq', hseq])]
  · intro later hrun
    refine ⟨fun state hpublished => hpublished.run hrun, ?_⟩
    intro hdistinct' before after hbefore hafter
    obtain ⟨hist', hsuffix, hheld'⟩ := hheld.run hv hrun hdistinct'
    obtain ⟨current, rest, rfl, rfl, -⟩ := hheld.root hbefore
    obtain ⟨current', rest', rfl, rfl, hlive'⟩ := hheld'.root hafter
    have hmem : current ∈ current' :: rest' := hsuffix.subset List.mem_cons_self
    have hle := hlive'.lineage.counters_le current hmem
    exact ⟨hle.1, hle.2.1⟩
  · intro l hdistinct' before after hbefore hafter
    exact hheld.keepsRequests l hv hdistinct' hbefore hafter
  · intro script bytes hdone
    obtain ⟨-, hends⟩ := after_of_done hdone
    exact ⟨_, hheld.reads hends⟩
  · intro adapter candidate request script bytes hdistinct' hdone
    obtain ⟨hist', -, hheld'⟩ :=
      hheld.next (.call (.preparePending adapter candidate request) script) hv hdistinct'
    exact ⟨_, Held.prepares hdone hheld'⟩

open SelfTest

theorem done_of_returned {α : Type} {exit : Exit Status α} {a : α} (h : returned exit = some a) :
    exit = .done a := by
  cases exit with
  | done a' => exact congrArg Exit.done (Option.some.inj h)
  | failed e => contradiction
  | stopped => contradiction

/-- The object stands at the root that it has prepared. -/
theorem prepared_waits : Recovers agent prepared prepared.fields.state ∧
    prepared.fields.state.pending.kind ≠ .absent ∧
    agent.payloadAt prepared.disk prepared.fields.state.pending = some request := by
  obtain ⟨-, -, -, -, hrequest, -, hapart⟩ := evaluated
  obtain ⟨hist, hheld⟩ := Held.reachable (Synthetic.validator_stable sha) prepared_reachable
    (apart_distinct hapart)
  have hafter : prepared =
    appended.after agent (.preparePending adapter candidate request) [] := rfl
  rw [hafter] at hheld ⊢
  exact Held.prepares (done_of_returned hrequest) hheld

/-- One event is stored and a request for it waits; a new process finds both again. -/
theorem prepared_journal :
    (prepared.fields.state.events.map (·.sequence) = [1] ∧ Recovers agent prepared
      prepared.fields.state ∧ agent.payloadAt prepared.disk prepared.fields.state.pending =
        some request) ∧
    localStateValid prepared.fields.state = true ∧
    (∃! p : Text × Text, ∃ state' e, Published agent prepared state' ∧ e ∈ state'.events ∧
      e.sequence = 1 ∧ (e.eventId, e.recordSha) = p) ∧
    KeepsRequests agent prepared .restart prepared.fields.state prepared.fields.state := by
  have hv := Synthetic.validator_stable sha
  obtain ⟨hrecovers, hwaits, hpayload⟩ := prepared_waits
  obtain ⟨-, -, -, -, -, hevents, hapart⟩ := evaluated
  have hdistinct := apart_distinct hapart
  obtain ⟨hist, hheld⟩ := Held.reachable hv prepared_reachable hdistinct
  obtain ⟨current, rest, rfl, hstate, hlive⟩ := hheld.root hrecovers
  have hpublished : Published agent prepared prepared.fields.state :=
    hheld.published_iff.mpr ⟨current, List.mem_cons_self, hstate⟩
  obtain ⟨hvalid, hunique, -, hstep, -⟩ := journal_sequences hv prepared_reachable hdistinct
  obtain ⟨hstateValid, hle, hsequences⟩ := hvalid _ hpublished
  have hproduced : 1 ≤ prepared.fields.state.produced := by
    have hlength := congrArg List.length (hevents.symm.trans hsequences)
    rw [List.length_range', List.length_singleton] at hlength
    omega
  exact ⟨⟨hevents, hrecovers, hpayload⟩, hstateValid, hunique _ 1 hpublished (le_refl 1) hproduced,
    hstep .restart (restart_distinct hdistinct) _ _ hrecovers hrecovers.restart⟩

end TradeOps.Agent
