import TradeOps.Agent.Live

/-!
# Transitions of a live store

`AtRoot`: the member variables hold the root of the disk. From there a transition writes records of
the next generation. Stopped before the commit is written, it leaves the root as it was; after that,
the completed transition ends with the new root.
-/

namespace TradeOps.Agent

open Prog TelemetryState

variable {A : TelemetryState} {m m' : Fields} {d d₁ : Disk} {current previous : Generation}
  {rest : List Generation}

theorem metadata_unique {generation : Nat} {c c' : LocalCommit} {s s' : LocalState}
    {sha sha' : Text} (h : A.Metadata d generation c s sha)
    (h' : A.Metadata d generation c' s' sha') : c = c' ∧ s = s' ∧ sha = sha' := by
  obtain ⟨-, f, payload, hfind, hhash, hdecode, hread, -⟩ := h.commitAt
  obtain ⟨-, f', payload', hfind', hhash', hdecode', hread', -⟩ := h'.commitAt
  obtain rfl : f = f' := Option.some.inj (hfind.symm.trans hfind')
  have hpayload : payload = payload' := by
    rw [hdecode] at hdecode'
    simpa using hdecode'
  subst hpayload
  obtain rfl : c = c' := Option.some.inj (hread.symm.trans hread')
  obtain rfl : sha = sha' := Option.some.inj (hhash.symm.trans hhash')
  obtain ⟨-, f, payload, hfind, -, hdecode, hread, -⟩ := h.stateAt
  obtain ⟨-, f', payload', hfind', -, hdecode', hread', -⟩ := h'.stateAt
  obtain rfl : f = f' := Option.some.inj (hfind.symm.trans hfind')
  have hpayload : payload = payload' := by
    rw [hdecode] at hdecode'
    simpa using hdecode'
  subst hpayload
  exact ⟨rfl, Option.some.inj (hread.symm.trans hread'), rfl⟩

/-- The member variables hold the root of the disk and its inventory. -/
structure AtRoot (A : TelemetryState) (m : Fields) (d : Disk) (current : Generation) : Prop where
  granted : A.Granted m d
  loaded : m.loaded = true
  ready : m.reloadRequired = false
  inventory : m.inventory = d.entries A.sha
  highest : m.highestObserved = d.highest
  state : m.state = current.state
  commitSha : m.commitSha = current.commitSha

theorem Live.files_ne_nil (h : Live A d (current :: rest)) : d.files ≠ [] := by
  obtain ⟨-, f, payload, hfind, -⟩ := (h.current rfl).data.commitAt
  exact List.ne_nil_of_mem (Disk.mem_of_find hfind).1

theorem Live.listed (h : Live A d (current :: rest)) :
    Listed A d (d.entries A.sha) ⟨d.total, d.files.length, d.highest⟩ :=
  (listed_iff h.sound).mpr ⟨h.files_ne_nil, rfl, rfl⟩

theorem Live.currentRoot (h : Live A d (current :: rest)) :
    Current A d (d.entries A.sha) current.state current.commitSha :=
  ⟨h.highestCommit, current.commit, h.current rfl⟩

/-- Fresh member variables hold the root. -/
theorem TelemetryState.Fresh.atRoot {b : Budget} (h : Fresh A m d b)
    (hlive : Live A d (current :: rest)) :
    AtRoot A m d current := by
  obtain ⟨-, hentries, hbudget⟩ := (listed_iff hlive.sound).mp h.listed
  obtain ⟨hhighest, commit, hroot⟩ := h.current
  rw [hentries, hlive.highestCommit] at hhighest
  rw [← hhighest] at hroot
  obtain ⟨-, hstate, hsha⟩ := metadata_unique hroot.data (hlive.current rfl).data
  exact ⟨h.granted, h.loaded, h.ready, hentries, by rw [h.highest, hbudget], hstate, hsha⟩

theorem AtRoot.fresh (h : AtRoot A m d current) (hlive : Live A d (current :: rest)) :
    Fresh A m d ⟨d.total, d.files.length, d.highest⟩ := by
  refine ⟨h.granted, h.loaded, h.ready, ?_, h.highest, ?_⟩
  · rw [h.inventory]
    exact hlive.listed
  · rw [h.inventory, h.state, h.commitSha]
    exact hlive.currentRoot

/-- `Recover` finds the root of a live store. -/
theorem Live.recover (h : Live A d (current :: rest)) (hgranted : A.Granted (cleared m) d) :
    ∃ m', A.recover.Ends A.host m d true m' d ∧ AtRoot A m' d current := by
  have hstands := h.current rfl
  have hpositive : TelemetryState.highestCommit (d.entries A.sha) ≠ 0 := by
    have hcounter := counter_generation (h.lineage.valid List.mem_cons_self)
    simp only [counter, decide_eq_true_eq] at hcounter
    rw [h.highestCommit]
    omega
  refine ⟨_, recover_ends.mpr ⟨hgranted, rfl, .inl ⟨rfl, d.entries A.sha, _, current.commit,
    current.state, current.commitSha, h.listed, hpositive, ?_, rfl⟩⟩, ?_⟩
  · rw [h.highestCommit]
    exact hstands
  · exact {
      granted := ⟨hgranted.isOpen, hgranted.session, hgranted.key,
        fun _ => hstands.data.identity⟩
      loaded := rfl
      ready := rfl
      inventory := rfl
      highest := rfl
      state := rfl
      commitSha := rfl }

/-! ## What a transition has to check -/

/-- The records that the root names are found for the next state as well. -/
theorem staged_of_follows {t : Transition} {candidate : LocalState} {objects : List StoredRecord}
    (hlive : Live A d (current :: rest)) (hroot : AtRoot A m d current)
    (hv : A.validator.Stable) (hfollows : Follows m t candidate)
    (hvalid : localStateValid candidate = true)
    (hplaced : ∀ f ∈ objects, Disk.Placed A.sha f)
    (hplace : ∀ f ∈ objects, ∃ ordinal, f.locator = objectLocator candidate.generation ordinal)
    (hnodup : (objects.map StoredRecord.locator).Nodup)
    (hnew : ∀ r ∈ objectRefs candidate, r.generation = candidate.generation →
      ∃ f ∈ objects, f.locator = refLocator r ∧ ∃ payload,
        localFrameMatches A.sha r f.bytes = some payload ∧
        A.Typed (d.entries A.sha) d candidate r payload) :
    Staged A d candidate objects := by
  have hstands := hlive.current rfl
  have hlater : m.state.generation < candidate.generation := by
    have hle := hlive.generation_le List.mem_cons_self
    rw [hfollows.generation, hroot.highest, hroot.state]
    omega
  refine ⟨hplaced, ?_, ?_, hnodup, ?_⟩
  · intro f hf
    obtain ⟨ordinal, hlocator⟩ := hplace f hf
    rw [hlocator]
    exact .inl rfl
  · intro f hf
    obtain ⟨ordinal, hlocator⟩ := hplace f hf
    rw [hlocator]
    rfl
  · intro r hr
    rcases List.mem_cons.mp hr with rfl | hr
    · left
      have hmem : candidate.registration ∈ rootRefs current.state := by
        rw [hfollows.registration, hroot.state]
        exact List.mem_cons_self
      obtain ⟨payload, hpayload, htyped⟩ := hstands.refs _ hmem
      have hkind := registration_of_valid hvalid
      refine ⟨payload, hpayload, ?_⟩
      simp only [Typed, hkind] at htyped ⊢
      exact htyped
    · by_cases hgeneration : r.generation = candidate.generation
      · exact .inr (hnew r hr hgeneration)
      · left
        have hold := (hfollows.objectRefs hr).resolve_right hgeneration
        rw [hroot.state] at hold
        obtain ⟨payload, hpayload, htyped⟩ := hstands.refs r (List.mem_cons_of_mem _ hold)
        rw [← hroot.state] at htyped
        exact ⟨payload, hpayload, hfollows.typed hv hvalid hr hgeneration htyped⟩

/-! ## Publishing -/

/-- All records that were written since are of the next generation. -/
def Grows (d d₁ : Disk) : Prop :=
  ∃ fs, d₁.written = d.written ++ fs ∧ ∀ f ∈ fs, f.locator.generation = d.highest + 1

theorem Grows.refl (d : Disk) : Grows d d := ⟨[], by simp, fun f hf => absurd hf List.not_mem_nil⟩

theorem mem_take_of_lt {objects : List StoredRecord} {s c f : StoredRecord} {k : Nat}
    (hk : k < (objects ++ [s, c]).length) (hf : f ∈ (objects ++ [s, c]).take k) :
    f ∈ objects ∨ f = s := by
  have hsub : (objects ++ [s, c]).take k <+: objects ++ [s] := by
    have hlong : k ≤ (objects ++ [s]).length := by
      simp only [List.length_append, List.length_cons, List.length_nil] at hk ⊢
      omega
    have hsplit : objects ++ [s, c] = (objects ++ [s]) ++ [c] := by simp
    rw [hsplit, List.take_append_of_le_length hlong]
    exact List.take_prefix k _
  have hmem := hsub.subset hf
  simpa using hmem

section Publish

variable {t : Transition} {candidate : LocalState} {objects records : List StoredRecord}
  {stateRecord commitRecord : StoredRecord} {commit : LocalCommit} {commitSha : Text}
  (hlive : Live A d (current :: rest)) (hroot : AtRoot A m d current)
  (hfollows : Follows m t candidate) (hstaged : Staged A d candidate objects)
  (hsealed : Sealed A t candidate m.commitSha m.state.generation m.state.registration.sha
    stateRecord commitRecord commit commitSha)
include hroot hfollows hstaged hsealed

theorem records_newer : ∀ f ∈ objects ++ [stateRecord, commitRecord],
    f.locator.generation = d.highest + 1 := by
  intro f hf
  rw [(records_placed hstaged hsealed f hf).2, hfollows.generation, hroot.highest]

theorem records_free : d.Free (objects ++ [stateRecord, commitRecord]) := by
  refine Disk.free_of_generation ?_ (records_nodup hstaged hsealed)
  intro f hf
  rw [records_newer hroot hfollows hstaged hsealed f hf]
  exact Nat.lt_succ_self _

include hlive

theorem records_room {k : Nat}
    (hpreflight : storagePreflight m.inventory t
      ((objects ++ [stateRecord, commitRecord]).map fun f => f.bytes.length).sum
      (objects ++ [stateRecord, commitRecord]).length = true)
    (hdistinct : Disk.Distinct A.sha
      (d.createMany ((objects ++ [stateRecord, commitRecord]).take k)).written) :
    Room A d ((objects ++ [stateRecord, commitRecord]).take k) := by
  have hnewer : ∀ f ∈ objects ++ [stateRecord, commitRecord],
      d.highest < f.locator.generation := by
    intro f hf
    rw [records_newer hroot hfollows hstaged hsealed f hf]
    exact Nat.lt_succ_self _
  rw [hroot.inventory] at hpreflight
  exact ⟨hlive.archived.createMany (fun f hf => (records_placed hstaged hsealed f hf).1) hnewer
    (records_nodup hstaged hsealed) hpreflight k, hdistinct,
    fun f hf => hnewer f (List.mem_of_mem_take hf)⟩

omit hroot hfollows in
/-- A transition that was stopped before its commit. -/
theorem live_before_commit {k : Nat}
    (hk : k < (objects ++ [stateRecord, commitRecord]).length)
    (hroom : Room A d ((objects ++ [stateRecord, commitRecord]).take k)) :
    Live A (d.createMany ((objects ++ [stateRecord, commitRecord]).take k)) (current :: rest) := by
  refine hlive.orphans hroom ?_
  intro f hf hkind
  rcases mem_take_of_lt hk hf with hobject | rfl
  · have := hstaged.kind f hobject
    rw [hkind] at this
    simp at this
  · rw [hsealed.statePlace] at hkind
    contradiction

/-- A transition that wrote its commit. -/
theorem live_after_commit (hroom : Room A d (objects ++ [stateRecord, commitRecord]))
    (hidentity : candidate.identity = A.identity) :
    Live A (d.createMany (objects ++ [stateRecord, commitRecord]))
      (⟨candidate, commit, commitSha⟩ :: current :: rest) := by
  have hle := hlive.generation_le List.mem_cons_self
  refine hlive.publish hroom ⟨hsealed.valid, ?_, m, hroot.state, hroot.commitSha, ?_⟩ ?_ ?_
  · show current.state.generation < candidate.generation
    rw [hfollows.generation, hroot.highest]
    omega
  · show Follows m commit.transition candidate
    rw [hsealed.transition]
    exact hfollows
  · exact hstaged.root hsealed hlive.sound (records_free hroot hfollows hstaged hsealed)
      hroom.archived.sound (hroom.archived.distinct hroom.distinct) hidentity
      (by rw [hfollows.registration]) hfollows.parentGeneration hfollows.parentCommit
  · intro f hf _
    exact (records_placed hstaged hsealed f hf).2

end Publish

/-- A transition whose records are made and fit comes to its end with them. -/
theorem publish_next {t : Transition} {candidate : LocalState}
    {objects records : List StoredRecord} (hlive : Live A d (current :: rest))
    (hroot : AtRoot A m d current) (hfollows : Follows m t candidate)
    (hstaged : localStateValid candidate = true → Staged A d candidate objects)
    (hpublishes : Publishes A m t candidate objects records)
    (hdistinct : Disk.Distinct A.sha (d.createMany records).written) :
    ∃ next m', next.state = candidate ∧ next.commit.transition = t ∧
      Live A (d.createMany records) (next :: current :: rest) ∧
      AtRoot A m' (d.createMany records) next ∧
      (A.publish t candidate objects).Ends A.host m d () m' (d.createMany records) := by
  obtain ⟨s, c, commit, commitSha, hsealed, rfl⟩ := publication_some hpublishes.publication
  have hstaged := hstaged hsealed.valid
  have hroom : Room A d (objects ++ [s, c]) := by
    have hall : (objects ++ [s, c]).take (objects ++ [s, c]).length = objects ++ [s, c] :=
      List.take_length
    have htaken := records_room hlive hroot hfollows hstaged hsealed
      (k := (objects ++ [s, c]).length) hpublishes.preflight (by rw [hall]; exact hdistinct)
    rw [hall] at htaken
    exact htaken
  have hnew := live_after_commit hlive hroot hfollows hstaged hsealed hroom hpublishes.identity
  have hcreatable : ∀ f ∈ objects ++ [s, c], Creatable f := fun f hf =>
    creatable_of_placed (records_placed hstaged hsealed f hf).1
  have hgranted : A.Granted (cleared { m with reloadRequired := true })
      (d.createMany (objects ++ [s, c])) :=
    ⟨hroot.granted.isOpen, hroot.granted.session, hroot.granted.key, by simp [cleared]⟩
  obtain ⟨m', hrecover, hat⟩ := hnew.recover hgranted
  refine ⟨_, m', rfl, hsealed.transition, hnew, hat, ?_⟩
  have hfilled : (objects.all fun f => f.bytes ≠ []) = true := by
    rw [List.all_eq_true]
    intro f hf
    have hsize := (hcreatable f (List.mem_append_left _ hf)).nonempty
    rw [decide_eq_true_eq]
    exact List.ne_nil_of_length_pos hsize
  simp only [publish, ends_bind, ends_fields, ends_require]
  refine ⟨m, m, d, ⟨rfl, rfl, rfl⟩, (), m, d, ⟨?_, rfl, rfl⟩, (), m, d, ⟨hfilled, rfl, rfl⟩, ?_⟩
  · rw [decide_eq_true_eq]
    exact ⟨hpublishes.later, hpublishes.loaded, hpublishes.identity⟩
  · rw [hpublishes.publication]
    simp only [ends_bind, ends_require]
    refine ⟨(), m, d, ⟨hpublishes.preflight, rfl, rfl⟩, (), m, _,
      (createAll_ends (records_free hroot hfollows hstaged hsealed) hroot.granted
        hroot.ready).mpr ⟨hcreatable, rfl, rfl⟩, ?_⟩
    simp only [reload, ends_bind, ends_update, ends_require]
    exact ⟨(), _, _, ⟨rfl, rfl⟩, true, m', _, hrecover, rfl, rfl, rfl⟩

/-- What a stopped transition leaves: the root as it was, or the root that the completed
transition ends with. -/
theorem publish_outcome {t : Transition} {candidate : LocalState} {objects : List StoredRecord}
    (hlive : Live A d (current :: rest)) (hroot : AtRoot A m d current)
    (hfollows : Follows m t candidate)
    (hstaged : localStateValid candidate = true → Staged A d candidate objects)
    (hdistinct : Disk.Distinct A.sha d₁.written)
    (h : (A.publish t candidate objects).Visits A.host m d d₁) :
    Grows d d₁ ∧ (Live A d₁ (current :: rest) ∨
      ∃ next m', next.state = candidate ∧ next.commit.transition = t ∧
        Live A d₁ (next :: current :: rest) ∧ AtRoot A m' d₁ next ∧
        (A.publish t candidate objects).Ends A.host m d () m' d₁) := by
  have hfree : ∀ records, A.publication t candidate m.commitSha m.state.generation
      m.state.registration.sha objects = some records → d.Free records := by
    intro records hrecords
    obtain ⟨s, c, commit, commitSha, hsealed, rfl⟩ := publication_some hrecords
    exact records_free hroot hfollows (hstaged hsealed.valid) hsealed
  rcases publish_visits hfree h with rfl | ⟨records, hpublishes, k, hk, rfl⟩
  · exact ⟨Grows.refl _, .inl hlive⟩
  by_cases hlast : k < records.length
  · obtain ⟨s, c, commit, commitSha, hsealed, rfl⟩ := publication_some hpublishes.publication
    have hstaged := hstaged hsealed.valid
    have hroom := records_room hlive hroot hfollows hstaged hsealed hpublishes.preflight hdistinct
    exact ⟨⟨_, rfl, fun f hf => records_newer hroot hfollows hstaged hsealed f
      (List.mem_of_mem_take hf)⟩, .inl (live_before_commit hlive hstaged hsealed hlast hroom)⟩
  · rw [List.take_of_length_le (Nat.le_of_not_lt hlast)] at hdistinct ⊢
    refine ⟨?_, .inr (publish_next hlive hroot hfollows hstaged hpublishes hdistinct)⟩
    obtain ⟨s, c, commit, commitSha, hsealed, rfl⟩ := publication_some hpublishes.publication
    exact ⟨_, rfl, records_newer hroot hfollows (hstaged hsealed.valid) hsealed⟩

end TradeOps.Agent
