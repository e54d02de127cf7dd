import TradeOps.Agent.History

/-!
# Live stores

The invariant of a store: the current generation and its parent can be loaded, and what is left of
the generation before them is what an interrupted compaction may leave. Nothing is said about older
generations, which no operation reads again.
-/

namespace TradeOps.Agent

open Prog TelemetryState

/-- A generation can be loaded. -/
def Stands (A : TelemetryState) (d : Disk) (g : Generation) : Prop :=
  A.Root (d.entries A.sha) d g.state.generation g.commit g.state g.commitSha

/-- A record of a retired generation that was deleted. -/
structure Gone (A : TelemetryState) (d : Disk) (current previous : LocalState) (r : LocalRef) :
    Prop where
  absent : d.find (refLocator r) = none
  eligible : A.retiredReferenceEligible r current previous = true

/-- What remains of a retired generation while its state is there. -/
structure Remains (A : TelemetryState) (d : Disk) (current previous : LocalState)
    (g : Generation) : Prop where
  data : A.Metadata d g.state.generation g.commit g.state g.commitSha
  refs : ∀ r ∈ objectRefs g.state,
    A.Verified (d.entries A.sha) d g.state r ∨ Gone A d current previous r
  -- The request that was answered goes after the answer.
  witness : A.validator.requiresAckWitness = true → g.state.ack.kind = .ack →
    (∃ l payload, Answered A d g.state l payload) ∨
      ((∀ f ∈ d.files, A.sha.hex f.bytes ≠ g.state.ackPendingSha) ∧
        d.find (refLocator g.state.ack) = none)

/-- How far the deletion of a retired generation has come. -/
inductive Retiring (A : TelemetryState) (d : Disk) (current previous : LocalState)
    (g : Generation) : Prop where
  | remains (h : Remains A d current previous g)
  | headless (hstate : d.find (stateLocator g.state.generation) = none)
      (hcommit : A.CommitAt d g.state.generation g.commit g.commitSha)
  | gone (hstate : d.find (stateLocator g.state.generation) = none)
      (hcommit : d.find (commitLocator g.state.generation) = none)

structure Live (A : TelemetryState) (d : Disk) (hist : List Generation) : Prop where
  archived : d.Archived A.sha
  distinct : Disk.Distinct A.sha d.written
  lineage : Lineage A hist
  data : ∀ g ∈ hist, A.Metadata d.archive g.state.generation g.commit g.state g.commitSha
  refs : ∀ g ∈ hist, ∀ r ∈ objectRefs g.state, ∃ payload, A.payloadAt d.archive r = some payload
  commits : ∀ f ∈ d.written, f.locator.kind = .commit →
    ∃ g ∈ hist, f.locator.generation = g.state.generation
  current : ∀ {current : Generation} {rest : List Generation}, hist = current :: rest →
    Stands A d current
  parent : ∀ {current previous : Generation} {rest : List Generation},
    hist = current :: previous :: rest → Stands A d previous
  retired : ∀ {current previous g : Generation} {rest : List Generation},
    hist = current :: previous :: g :: rest → Retiring A d current.state previous.state g

/-- A generation that can be loaded is all there. -/
theorem Stands.remains {A : TelemetryState} {d : Disk} {g : Generation} (h : Stands A d g)
    (hsound : d.Sound A.sha) (hdistinct : Disk.Distinct A.sha d.files)
    (current previous : LocalState) : Remains A d current previous g := by
  refine ⟨h.data, fun r hr => .inl (h.refs r (List.mem_cons_of_mem _ hr)), ?_⟩
  intro hwitness hack
  have hkind : g.state.ack.kind ≠ .absent := by rw [hack]; decide
  have hmem : g.state.ack ∈ rootRefs g.state :=
    List.mem_cons_of_mem _ (mem_objectRefs.mpr (.inr (.inr (.inr ⟨hkind, rfl⟩))))
  obtain ⟨payload, -, htyped⟩ := h.refs _ hmem
  simp only [Typed, hack] at htyped
  rw [if_pos hwitness] at htyped
  obtain ⟨l, pending, hat, -⟩ := htyped
  exact .inl ⟨l, pending, (witnessAt_iff hsound hdistinct).mp hat⟩

/-! ## The newest commit -/

theorem highestCommit_eq {entries : List StorageEntry} {n : Nat}
    (hmem : ∃ e ∈ entries, e.locator.kind = .commit ∧ e.locator.generation = n)
    (hle : ∀ e ∈ entries, e.locator.kind = .commit → e.locator.generation ≤ n) :
    highestCommit entries = n := by
  have hupper : ∀ {entries : List StorageEntry}, (∀ e ∈ entries, e.locator.kind = .commit →
      e.locator.generation ≤ n) → highestCommit entries ≤ n := by
    intro entries hle
    induction entries with
    | nil => exact Nat.zero_le n
    | cons e rest ih =>
      have hrest := ih fun f hf => hle f (List.mem_cons_of_mem e hf)
      rw [highestCommit]
      split
      next hkind =>
        have := hle e List.mem_cons_self hkind
        omega
      next => exact hrest
  have hlower : n ≤ highestCommit entries := by
    obtain ⟨e, he, hkind, rfl⟩ := hmem
    clear hle hupper
    induction entries with
    | nil => exact absurd he List.not_mem_nil
    | cons f rest ih =>
      rw [highestCommit]
      rcases List.mem_cons.mp he with rfl | he
      · rw [if_pos hkind]
        exact le_max_left _ _
      · have := ih he
        split <;> omega
  exact le_antisymm (hupper hle) hlower

namespace Live

variable {A : TelemetryState} {d : Disk} {hist rest : List Generation}
  {current previous g : Generation}

theorem sound (h : Live A d hist) : d.Sound A.sha := h.archived.sound

theorem distinctFiles (h : Live A d hist) : Disk.Distinct A.sha d.files :=
  h.archived.distinct h.distinct

theorem nonempty (h : Live A d hist) : ∃ current rest, hist = current :: rest := by
  cases h.lineage with
  | first hfirst => exact ⟨_, _, rfl⟩
  | next hlineage hnext => exact ⟨_, _, rfl⟩

theorem highestCommit (h : Live A d (current :: rest)) :
    highestCommit (d.entries A.sha) = current.state.generation := by
  refine highestCommit_eq ?_ ?_
  · obtain ⟨-, f, payload, hfind, -⟩ := (h.current rfl).data.commitAt
    obtain ⟨hmem, hlocator⟩ := Disk.mem_of_find hfind
    refine ⟨Disk.entryFor A.sha f, List.mem_map_of_mem hmem, ?_, ?_⟩
    · show f.locator.kind = .commit
      rw [hlocator]
      rfl
    · show f.locator.generation = _
      rw [hlocator]
      rfl
  · intro e he hkind
    obtain ⟨f, hf, rfl⟩ := List.mem_map.mp he
    obtain ⟨g, hg, hgeneration⟩ := h.commits f (h.archived.kept f hf) hkind
    have hle := h.lineage.generation_le hg
    show f.locator.generation ≤ _
    omega

/-- Every generation was written below the highest one. -/
theorem generation_le (h : Live A d hist) (hg : g ∈ hist) : g.state.generation ≤ d.highest := by
  obtain ⟨-, f, payload, hfind, -⟩ := (h.data g hg).commitAt
  obtain ⟨hmem, hlocator⟩ := Disk.mem_of_find hfind
  have hle := h.archived.highest f hmem
  rw [hlocator] at hle
  exact hle

theorem ref_le (h : Live A d hist) (hg : g ∈ hist) {r : LocalRef} (hr : r ∈ objectRefs g.state) :
    (refLocator r).generation ≤ d.highest := by
  have hnamed := named_of_valid (h.lineage.valid hg) hr
  rw [refLocator_of_object hnamed.object]
  exact le_trans hnamed.generation (h.generation_le hg)

/-- The request that an acknowledgement answers was written with it. -/
theorem answered_archive (h : Live A d hist) (hg : g ∈ hist) (hack : g.state.ack.kind = .ack) :
    ∃ g₀ payload, Lineage.Origin hist g.state g₀ ∧
      Answered A d.archive g.state (refLocator g₀.state.pending) payload := by
  have hvalid := h.lineage.valid hg
  have hkind : g.state.ack.kind ≠ .absent := by rw [hack]; decide
  obtain ⟨g₀, horigin⟩ := h.lineage.ack_origin g hg hkind
  have hpending := pending_of_valid (h.lineage.valid horigin.mem) horigin.waits
  have hmem : g₀.state.pending ∈ objectRefs g₀.state :=
    mem_objectRefs.mpr (.inr (.inr (.inl ⟨horigin.waits, rfl⟩)))
  obtain ⟨payload, hpayload⟩ := h.refs g₀ horigin.mem _ hmem
  obtain ⟨-, f, hfind, hmatch⟩ := payloadAt_some hpayload
  refine ⟨g₀, payload, horigin, hack, ?_, ⟨f, hfind, ?_, ?_⟩, ?_⟩
  · have hanswered := (localStateValid_iff.mp hvalid).2.2.2.2.2.1
    simp only [LocalState.ackValid, if_neg hkind, decide_eq_true_eq] at hanswered
    exact hanswered.2.2.2.2.2.2.1
  · rw [localFrameMatches] at hmatch
    split at hmatch
    next hok => rw [hok.2, horigin.sha]
    next => contradiction
  · rw [localFrameMatches] at hmatch
    split at hmatch
    next hok =>
      split at hmatch
      next kind generation p hdecode =>
        split at hmatch
        next hsame =>
          have hkindText : localEnvelopeKind RefKind.pending = pendingKind := by decide +kernel
          rw [hdecode, hsame.1, hsame.2, Option.some.inj hmatch, hpending.2, hkindText,
            refLocator_of_object hpending.1.object]
          rfl
        next => contradiction
      next => contradiction
    next => contradiction
  · rw [refLocator_of_object hpending.1.object]
    exact horigin.older

/-- The request lies at no other place. -/
theorem answered_unique (h : Live A d hist) {l l' : Locator} {p p' : Bytes} {s s' : LocalState}
    (hat : Answered A d.archive s l p) (hat' : Answered A d.archive s' l' p')
    (hsha : s.ackPendingSha = s'.ackPendingSha) : l = l' := by
  obtain ⟨f, hfind, hhash, hdecode⟩ := hat.record
  obtain ⟨f', hfind', hhash', -⟩ := hat'.record
  obtain ⟨hmem, rfl⟩ := Disk.mem_of_find hfind
  obtain ⟨hmem', rfl⟩ := Disk.mem_of_find hfind'
  have hbytes : f.bytes = f'.bytes := by
    refine h.distinct f hmem f' hmem' ?_
    rw [← Disk.localHash_eq hhash, ← Disk.localHash_eq hhash', hsha]
  rw [Disk.eq_of_pending (h.archived.placed f hmem) (h.archived.placed f' hmem') hbytes hdecode]

theorem answered_of_find (h : Live A d hist) {l : Locator} {p : Bytes} {s : LocalState}
    (hat : Answered A d s l p) : Answered A d.archive s l p :=
  hat.transfer (fun _ hf => h.archived.find_archive hf) rfl rfl

end Live

/-! ## New records -/

section Creating

variable {A : TelemetryState} {d : Disk} {hist : List Generation} {g current previous : Generation}
  {fs : List StoredRecord}

/-- Records of a new generation that a live store has room for. -/
structure Room (A : TelemetryState) (d : Disk) (fs : List StoredRecord) : Prop where
  archived : (d.createMany fs).Archived A.sha
  distinct : Disk.Distinct A.sha (d.createMany fs).written
  newer : ∀ f ∈ fs, d.highest < f.locator.generation

theorem Stands.create (h : Stands A d g) (hlive : Live A d hist) (hroom : Room A d fs) :
    Stands A (d.createMany fs) g :=
  h.transfer hlive.sound hlive.distinctFiles hroom.archived.sound
    (hroom.archived.distinct hroom.distinct)
    fun _ _ _ hf => Disk.find_createMany_of_some hf fs

theorem Metadata.create {generation : Nat} {commit : LocalCommit} {state : LocalState}
    {commitSha : Text} (h : A.Metadata d generation commit state commitSha) :
    A.Metadata (d.createMany fs) generation commit state commitSha :=
  h.transfer (fun _ hf => Disk.find_createMany_of_some hf fs)
    (fun _ hf => Disk.find_createMany_of_some hf fs)

/-- New records are not taken for the request that was answered. -/
theorem Room.not_answered (hroom : Room A d fs) (hlive : Live A d hist) (hg : g ∈ hist)
    (hack : g.state.ack.kind = .ack) {f : StoredRecord} (hf : f ∈ fs) :
    A.sha.hex f.bytes ≠ g.state.ackPendingSha := by
  intro hsame
  obtain ⟨g₀, payload, -, hat⟩ := hlive.answered_archive hg hack
  obtain ⟨f₀, hfind, hhash, -⟩ := hat.record
  obtain ⟨hmem, -⟩ := Disk.mem_of_find hfind
  have hold : f₀ ∈ (d.createMany fs).written := List.mem_append_left _ hmem
  have hnew : f ∈ (d.createMany fs).written := List.mem_append_right _ hf
  have hbytes := hroom.distinct f hnew f₀ hold (by rw [hsame, ← Disk.localHash_eq hhash])
  obtain ⟨kind, p, hframe, -⟩ := (hroom.archived.placed f hnew).frame
  obtain ⟨kind₀, p₀, hframe₀, -⟩ := (hroom.archived.placed f₀ hold).frame
  rw [hbytes, hframe₀] at hframe
  simp only [Option.some.injEq, Prod.mk.injEq] at hframe
  have hle := hlive.archived.highest f₀ hmem
  have hlt := hroom.newer f hf
  omega

theorem Retiring.create (h : Retiring A d current.state previous.state g) (hlive : Live A d hist)
    (hg : g ∈ hist) (hroom : Room A d fs) :
    Retiring A (d.createMany fs) current.state previous.state g := by
  have hold : ∀ {l : Locator}, l.generation ≤ d.highest → (d.createMany fs).find l = d.find l :=
    fun hl => Disk.find_createMany_old hroom.newer hl
  have hgeneration := hlive.generation_le hg
  cases h with
  | remains h =>
    refine .remains ⟨Metadata.create h.data, ?_, ?_⟩
    · intro r hr
      rcases h.refs r hr with hverified | hgone
      · refine .inl (hverified.transfer hlive.sound hlive.distinctFiles hroom.archived.sound
          (hroom.archived.distinct hroom.distinct) ?_ ?_)
        · exact fun f hf => Disk.find_createMany_of_some hf fs
        · exact fun _ _ _ _ _ hf => Disk.find_createMany_of_some hf fs
      · refine .inr ⟨?_, hgone.eligible⟩
        rw [hold (hlive.ref_le hg hr)]
        exact hgone.absent
    · intro hwitness hack
      rcases h.witness hwitness hack with ⟨l, payload, hat⟩ | ⟨hnone, habsent⟩
      · exact .inl ⟨l, payload, hat.transfer
          (fun f hf => Disk.find_createMany_of_some hf fs) rfl rfl⟩
      · have hkind : g.state.ack.kind ≠ .absent := by rw [hack]; decide
        refine .inr ⟨?_, ?_⟩
        · intro f hf
          rcases List.mem_append.mp hf with hf | hf
          · exact hnone f hf
          · exact hroom.not_answered hlive hg hack hf
        · rw [hold (hlive.ref_le hg (mem_objectRefs.mpr (.inr (.inr (.inr ⟨hkind, rfl⟩)))))]
          exact habsent
  | headless hstate hcommit =>
    refine .headless ?_ (hcommit.transfer fun f hf => Disk.find_createMany_of_some hf fs)
    rw [hold (by exact hgeneration)]
    exact hstate
  | gone hstate hcommit =>
    refine .gone ?_ ?_
    · rw [hold (by exact hgeneration)]
      exact hstate
    · rw [hold (by exact hgeneration)]
      exact hcommit

/-- Records without a commit leave the history as it is. -/
theorem Live.orphans (h : Live A d hist) (hroom : Room A d fs)
    (hcommit : ∀ f ∈ fs, f.locator.kind ≠ .commit) : Live A (d.createMany fs) hist := by
  refine ⟨hroom.archived, hroom.distinct, h.lineage, ?_, ?_, ?_, ?_, ?_, ?_⟩
  · intro g hg
    rw [Disk.archive_createMany]
    exact Metadata.create (h.data g hg)
  · intro g hg r hr
    obtain ⟨payload, hpayload⟩ := h.refs g hg r hr
    rw [Disk.archive_createMany]
    exact ⟨payload, payloadAt_transfer hpayload fun f hf => Disk.find_createMany_of_some hf fs⟩
  · intro f hf hkind
    rcases List.mem_append.mp hf with hf | hf
    · exact h.commits f hf hkind
    · exact absurd hkind (hcommit f hf)
  · exact fun heq => (h.current heq).create h hroom
  · exact fun heq => (h.parent heq).create h hroom
  · intro current previous g rest heq
    exact (h.retired heq).create h (by rw [heq]; simp) hroom

/-- Records with the commit of a generation that can be loaded put it on top of the history. -/
theorem Live.publish {rest : List Generation} {next : Generation} (h : Live A d (current :: rest))
    (hroom : Room A d fs) (hnext : Extends current next)
    (hstands : Stands A (d.createMany fs) next)
    (hcommit : ∀ f ∈ fs, f.locator.kind = .commit →
      f.locator.generation = next.state.generation) :
    Live A (d.createMany fs) (next :: current :: rest) := by
  have harchive : ∀ {l : Locator} {f : StoredRecord}, (d.createMany fs).find l = some f →
      (d.createMany fs).archive.find l = some f :=
    fun hf => hroom.archived.find_archive hf
  refine ⟨hroom.archived, hroom.distinct, .next h.lineage hnext, ?_, ?_, ?_, ?_, ?_, ?_⟩
  · intro g hg
    rcases List.mem_cons.mp hg with rfl | hg
    · exact hstands.data.transfer (fun f hf => harchive hf) (fun f hf => harchive hf)
    · rw [Disk.archive_createMany]
      exact Metadata.create (h.data g hg)
  · intro g hg r hr
    rcases List.mem_cons.mp hg with rfl | hg
    · obtain ⟨payload, hpayload, -⟩ := hstands.refs r (List.mem_cons_of_mem _ hr)
      exact ⟨payload, payloadAt_transfer hpayload fun f hf => harchive hf⟩
    · obtain ⟨payload, hpayload⟩ := h.refs g hg r hr
      rw [Disk.archive_createMany]
      exact ⟨payload, payloadAt_transfer hpayload fun f hf => Disk.find_createMany_of_some hf fs⟩
  · intro f hf hkind
    rcases List.mem_append.mp hf with hf | hf
    · obtain ⟨g, hg, hgeneration⟩ := h.commits f hf hkind
      exact ⟨g, List.mem_cons_of_mem next hg, hgeneration⟩
    · exact ⟨next, List.mem_cons_self, hcommit f hf hkind⟩
  · intro g gs heq
    rw [List.cons.injEq] at heq
    rw [← heq.1]
    exact hstands
  · intro g g' gs heq
    simp only [List.cons.injEq] at heq
    rw [← heq.2.1]
    exact (h.current rfl).create h hroom
  · intro g g' g'' gs heq
    simp only [List.cons.injEq] at heq
    obtain ⟨-, -, rfl⟩ := heq
    exact .remains (((h.parent rfl).create h hroom).remains hroom.archived.sound
      (hroom.archived.distinct hroom.distinct) _ _)

end Creating

end TradeOps.Agent
