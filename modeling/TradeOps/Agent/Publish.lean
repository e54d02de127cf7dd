import TradeOps.Agent.Disks

/-!
# Publishing a generation

The records of a generation are created one after another at places that are free. So an
interrupted transition leaves the records that were there and the first few of the new ones, and a
completed one leaves all of them.
-/

namespace TradeOps.Agent

open Prog

namespace Disk

variable {d : Disk} {f : StoredRecord} {l : Locator} {fs : List StoredRecord}

def createMany (d : Disk) (fs : List StoredRecord) : Disk :=
  { d with files := d.files ++ fs, written := d.written ++ fs }

theorem createMany_nil (d : Disk) : d.createMany [] = d := by
  simp [createMany]

theorem createMany_cons (d : Disk) (f : StoredRecord) (fs : List StoredRecord) :
    (d.create f).createMany fs = d.createMany (f :: fs) := by
  simp [create, createMany]

/-- The new records lie at free places, no two at one. -/
structure Free (d : Disk) (fs : List StoredRecord) : Prop where
  absent : ∀ f ∈ fs, d.find f.locator = none
  nodup : (fs.map StoredRecord.locator).Nodup

theorem Free.head (h : d.Free (f :: fs)) : d.find f.locator = none :=
  h.absent f List.mem_cons_self

theorem Free.tail (h : d.Free (f :: fs)) : (d.create f).Free fs := by
  have hnodup := h.nodup
  rw [List.map_cons, List.nodup_cons] at hnodup
  refine ⟨fun g hg => ?_, hnodup.2⟩
  have hne : g.locator ≠ f.locator := fun heq => hnodup.1 (heq ▸ List.mem_map_of_mem hg)
  rw [find_create h.head, if_neg hne]
  exact h.absent g (List.mem_cons_of_mem f hg)

theorem Free.take (h : d.Free fs) (k : Nat) : d.Free (fs.take k) :=
  ⟨fun f hf => h.absent f (List.mem_of_mem_take hf),
    List.Nodup.sublist ((List.take_sublist k fs).map _) h.nodup⟩

/-- Records stay where they are. -/
theorem find_createMany_of_some (h : d.find l = some f) (fs : List StoredRecord) :
    (d.createMany fs).find l = some f := by
  simp only [find, createMany, Keyed.lookup, List.find?_append] at h ⊢
  rw [h]
  rfl

theorem find_createMany_of_none (hl : ∀ g ∈ fs, g.locator ≠ l) :
    (d.createMany fs).find l = d.find l := by
  have hnone : fs.find? (fun g => decide (g.locator = l)) = none := by
    rw [List.find?_eq_none]
    intro g hg
    simpa using hl g hg
  simp only [find, createMany, Keyed.lookup, List.find?_append, hnone]
  exact Option.or_none

theorem find_createMany_of_mem (h : d.Free fs) (hf : f ∈ fs) :
    (d.createMany fs).find f.locator = some f := by
  induction fs generalizing d with
  | nil => exact absurd hf List.not_mem_nil
  | cons g rest ih =>
    rw [← createMany_cons]
    rcases List.mem_cons.mp hf with rfl | hf
    · exact find_createMany_of_some (by rw [find_create h.head, if_pos rfl]) rest
    · exact ih h.tail hf

end Disk

namespace TelemetryState

variable {A : TelemetryState} {m m' : Fields} {d d' t : Disk} {f : StoredRecord}
  {fs : List StoredRecord}

/-- A record that the storage takes. -/
structure Creatable (f : StoredRecord) : Prop where
  addressable : Disk.addressable f.locator = true
  nonempty : 1 ≤ f.bytes.length
  short : f.bytes.length ≤ frameMax

theorem host_createExact {session : Nat} (hf : Creatable f) (hfree : d.find f.locator = none)
    (howner : d.owner = some session) :
    A.host (.createExact session f.locator f.bytes) d = (.ok .created, d.create f) := by
  have hno : ¬ (Disk.addressable f.locator = false ∨
      ¬ (1 ≤ f.bytes.length ∧ f.bytes.length ≤ frameMax)) := by
    simp [hf.addressable, hf.short, hf.nonempty]
  simp only [host, Disk.host]
  rw [if_neg hno, if_pos howner, Disk.createExact, hfree]

theorem createExact_state (hfree : d.find f.locator = none) (session : Nat) :
    (A.host (.createExact session f.locator f.bytes) d).2 = d ∨
      (A.host (.createExact session f.locator f.bytes) d).2 = d.create f := by
  simp only [host, Disk.host]
  split
  · exact .inl rfl
  · split
    · rw [Disk.createExact, hfree]
      exact .inr rfl
    · exact .inl rfl

theorem createAndVerify_visits (hfree : d.find f.locator = none)
    (h : (A.createAndVerify f).Visits A.host m d t) : t = d ∨ t = d.create f := by
  rcases visits_bind h with hguard | ⟨session, m₁, d₁, hguard, hrest⟩
  · exact .inl ((readOnly_guard false).visits hguard)
  obtain ⟨-, -, -, rfl, rfl⟩ := guard_ends.mp hguard
  rcases visits_bind hrest with hcreate | ⟨reply, m₂, d₂, hcreate, hrest⟩
  · rcases visits_call.mp hcreate with rfl | rfl
    · exact .inl rfl
    · exact createExact_state hfree session
  · have hd₂ : d₂ = d₁ ∨ d₂ = d₁.create f := by
      have hcall := (ends_call.mp hcreate).1
      have hstate := createExact_state (A := A) hfree session
      rw [hcall] at hstate
      exact hstate
    have hread : ReadOnly (do
        update fun m => { m with reloadRequired := true }
        let frame ← A.readFrame f.locator
        require (f.bytes = frame) .conflict
        update fun m => { m with reloadRequired := false } : Act Unit) :=
      only_bind (only_update _) fun _ => only_bind (readOnly_readFrame _) fun _ =>
        only_bind (only_require _ _) fun _ => only_update _
    rw [hread.visits hrest]
    exact hd₂

/-- The member variables after records were written. -/
theorem createAndVerify_ends {u : Unit} (hfree : d.find f.locator = none) :
    (A.createAndVerify f).Ends A.host m d u m' d' ↔
      A.Granted m d ∧ m.reloadRequired = false ∧ Creatable f ∧ m' = m ∧ d' = d.create f := by
  simp only [createAndVerify, ends_bind, guard_ends, ends_update, readFrame_ends, ends_require]
  constructor
  · rintro ⟨session, m₁, d₁, ⟨hgranted, -, hready, rfl, rfl⟩, reply, m₂, d₂, hcreate, -, m₃, d₃,
      ⟨rfl, rfl⟩, frame, m₄, d₄, ⟨-, haddress, ⟨g, hfind, rfl⟩, rfl, rfl⟩, -, m₅, d₅,
      ⟨hsame, rfl, rfl⟩, rfl, rfl⟩
    obtain ⟨hcall, rfl⟩ := ends_call.mp hcreate
    have hreload : m₁.reloadRequired = false := by simpa using hready
    simp only [host, Disk.host] at hcall
    split at hcall
    next => simp at hcall
    next hok =>
      split at hcall
      next howner =>
        rw [Disk.createExact, hfree, Prod.mk.injEq] at hcall
        rw [not_or, not_not] at hok
        refine ⟨hgranted, hreload, ⟨haddress, hok.2.1, hok.2.2⟩, ?_, hcall.2.symm⟩
        cases m₁
        simp only at hreload
        subst hreload
        rfl
      next => simp at hcall
  · rintro ⟨hgranted, hready, hf, rfl, rfl⟩
    obtain ⟨session, hsession, howner⟩ := hgranted.session
    refine ⟨session, m', d, ⟨hgranted, hsession, .inl hready, rfl, rfl⟩, .created, m', d.create f,
      ends_call.mpr ⟨host_createExact hf hfree howner, rfl⟩, (), _, _, ⟨rfl, rfl⟩, f.bytes, _, _,
      ⟨?_, hf.addressable, ⟨f, ?_, rfl⟩, rfl, rfl⟩, (), _, _, ⟨by simp, rfl, rfl⟩, ?_, rfl⟩
    · exact ⟨hgranted.isOpen, ⟨session, hsession, howner⟩, hgranted.key, hgranted.identity⟩
    · rw [Disk.find_create hfree, if_pos rfl]
    · cases m'
      simp only at hready
      subst hready
      rfl

theorem Granted.create (h : A.Granted m d) (f : StoredRecord) : A.Granted m (d.create f) :=
  ⟨h.isOpen, h.session, h.key, h.identity⟩

/-- An interrupted run over the records leaves the first few of them. -/
theorem createAll_visits (hfree : d.Free fs) (h : (A.createAll fs).Visits A.host m d t) :
    ∃ k ≤ fs.length, t = d.createMany (fs.take k) := by
  induction fs generalizing m d with
  | nil =>
    refine ⟨0, le_refl 0, ?_⟩
    rw [List.take_nil, Disk.createMany_nil]
    exact h
  | cons f rest ih =>
    rcases visits_bind h with hfirst | ⟨u, m₁, d₁, hfirst, hrest⟩
    · rcases createAndVerify_visits hfree.head hfirst with rfl | rfl
      · exact ⟨0, Nat.zero_le _, by rw [List.take_zero, Disk.createMany_nil]⟩
      · exact ⟨1, by simp, by simp [Disk.create, Disk.createMany]⟩
    · obtain ⟨-, -, -, rfl, rfl⟩ := (createAndVerify_ends hfree.head).mp hfirst
      obtain ⟨k, hk, rfl⟩ := ih hfree.tail hrest
      refine ⟨k + 1, by simpa using hk, ?_⟩
      rw [List.take_succ_cons, Disk.createMany_cons]

theorem createAll_ends {u : Unit} (hfree : d.Free fs) (hgranted : A.Granted m d)
    (hready : m.reloadRequired = false) :
    (A.createAll fs).Ends A.host m d u m' d' ↔
      (∀ f ∈ fs, Creatable f) ∧ m' = m ∧ d' = d.createMany fs := by
  induction fs generalizing d with
  | nil =>
    rw [createAll, ends_pure, Disk.createMany_nil]
    constructor
    · rintro ⟨-, rfl, rfl⟩
      exact ⟨fun f hf => absurd hf List.not_mem_nil, rfl, rfl⟩
    · rintro ⟨-, rfl, rfl⟩
      exact ⟨rfl, rfl, rfl⟩
  | cons f rest ih =>
    simp only [createAll, ends_bind, createAndVerify_ends hfree.head, List.forall_mem_cons]
    constructor
    · rintro ⟨u₁, m₁, d₁, ⟨-, -, hf, rfl, rfl⟩, hrest⟩
      obtain ⟨hall, rfl, rfl⟩ := (ih hfree.tail (hgranted.create f)).mp hrest
      exact ⟨⟨hf, hall⟩, rfl, Disk.createMany_cons d f rest⟩
    · rintro ⟨⟨hf, hall⟩, rfl, rfl⟩
      refine ⟨(), m', d.create f, ⟨hgranted, hready, hf, rfl, rfl⟩, ?_⟩
      exact (ih hfree.tail (hgranted.create f)).mpr
        ⟨hall, rfl, (Disk.createMany_cons d f rest).symm⟩

/-! ## `Publish` -/

/-- The records that a transition publishes, and what it was checked for. -/
structure Publishes (A : TelemetryState) (m : Fields) (transition : Transition)
    (candidate : LocalState) (objects records : List StoredRecord) : Prop where
  later : transition ≠ .init
  loaded : m.loaded = true
  identity : candidate.identity = A.identity
  publication : A.publication transition candidate m.commitSha m.state.generation
    m.state.registration.sha objects = some records
  preflight : storagePreflight m.inventory transition (records.map fun f => f.bytes.length).sum
    records.length = true

theorem publish_visits {transition : Transition} {candidate : LocalState}
    {objects : List StoredRecord}
    (hfree : ∀ records, A.publication transition candidate m.commitSha m.state.generation
      m.state.registration.sha objects = some records → d.Free records)
    (h : (A.publish transition candidate objects).Visits A.host m d t) :
    t = d ∨ ∃ records, Publishes A m transition candidate objects records ∧
      ∃ k ≤ records.length, t = d.createMany (records.take k) := by
  rcases visits_bind h with hfields | ⟨_, m₁, d₁, hfields, h⟩
  · exact .inl (only_fields.visits (Disk.host_reads A.sha) hfields)
  obtain ⟨rfl, rfl, rfl⟩ := ends_fields.mp hfields
  rcases visits_bind h with hcheck | ⟨_, m₂, d₂, hcheck, h⟩
  · exact .inl ((readOnly_require _ _).visits hcheck)
  obtain ⟨hok, rfl, rfl⟩ := ends_require.mp hcheck
  rcases visits_bind h with hcheck | ⟨_, m₃, d₃, hcheck, h⟩
  · exact .inl ((readOnly_require _ _).visits hcheck)
  obtain ⟨-, rfl, rfl⟩ := ends_require.mp hcheck
  simp only [decide_eq_true_eq] at hok
  cases hrecords : A.publication transition candidate m.commitSha m.state.generation
      m.state.registration.sha objects with
  | none =>
    rw [hrecords] at h
    exact .inl h
  | some records =>
    rw [hrecords] at h
    rcases visits_bind h with hcheck | ⟨_, m₄, d₄, hcheck, h⟩
    · exact .inl ((readOnly_require _ _).visits hcheck)
    obtain ⟨hpreflight, rfl, rfl⟩ := ends_require.mp hcheck
    have hpublishes : Publishes A m transition candidate objects records :=
      ⟨hok.1, hok.2.1, hok.2.2, hrecords, hpreflight⟩
    refine .inr ⟨records, hpublishes, ?_⟩
    have hfree := hfree records hrecords
    rcases visits_bind h with hcreate | ⟨u, m₅, d₅, hcreate, hreload⟩
    · exact createAll_visits hfree hcreate
    · rw [readOnly_reload.visits hreload]
      exact createAll_visits hfree hcreate.visits

/-- A transition whose records are made and fit writes them all. -/
theorem publish_visits_last {transition : Transition} {candidate : LocalState}
    {objects records : List StoredRecord} (hgranted : A.Granted m d)
    (hready : m.reloadRequired = false)
    (hpublishes : Publishes A m transition candidate objects records)
    (hfilled : (objects.all fun f => f.bytes ≠ []) = true) (hfree : d.Free records)
    (hcreatable : ∀ f ∈ records, Creatable f) :
    (A.publish transition candidate objects).Visits A.host m d (d.createMany records) := by
  refine visits_bind_then (ends_fields.mpr ⟨rfl, rfl, rfl⟩) ?_
  refine visits_bind_then (a := ()) (ends_require.mpr ⟨?_, rfl, rfl⟩) ?_
  · rw [decide_eq_true_eq]
    exact ⟨hpublishes.later, hpublishes.loaded, hpublishes.identity⟩
  refine visits_bind_then (a := ()) (ends_require.mpr ⟨hfilled, rfl, rfl⟩) ?_
  rw [hpublishes.publication]
  refine visits_bind_then (a := ()) (ends_require.mpr ⟨hpublishes.preflight, rfl, rfl⟩) ?_
  have hcreate : (A.createAll records).Ends A.host m d () m (d.createMany records) :=
    (createAll_ends hfree hgranted hready).mpr ⟨hcreatable, rfl, rfl⟩
  exact visits_bind_first hcreate.visits

/-- What the root of a disk is when the member variables are loaded from it. -/
structure Loads (A : TelemetryState) (m m' : Fields) (d : Disk) : Prop where
  fresh : ∃ b, Fresh A m' d b
  session : m'.session = m.session

theorem reload_ends {u : Unit} (h : A.reload.Ends A.host m d u m' d') :
    Loads A m m' d ∧ d' = d := by
  simp only [reload, ends_bind, ends_update, recover_ends, ends_require] at h
  obtain ⟨-, m₁, d₁, ⟨rfl, rfl⟩, loaded, m₂, d₂, ⟨hgranted, rfl, hcase⟩, rfl, rfl, rfl⟩ := h
  rcases hcase with ⟨-, entries, b, commit, state, commitSha, hlisted, hzero, hroot, rfl⟩ |
    ⟨hfalse, -⟩
  · have hgeneration := hroot.generation
    refine ⟨⟨⟨b, ?_⟩, rfl⟩, rfl⟩
    exact {
      granted := ⟨hgranted.isOpen, hgranted.session, hgranted.key, fun _ => hroot.data.identity⟩
      loaded := rfl
      ready := rfl
      listed := hlisted
      highest := rfl
      current := ⟨hgeneration.symm, commit, by
        simp only
        rw [hgeneration]
        exact hroot⟩ }
  · contradiction

theorem publish_ends {transition : Transition} {candidate : LocalState}
    {objects : List StoredRecord} {u : Unit} (hgranted : A.Granted m d)
    (hready : m.reloadRequired = false)
    (hfree : ∀ records, A.publication transition candidate m.commitSha m.state.generation
      m.state.registration.sha objects = some records → d.Free records)
    (h : (A.publish transition candidate objects).Ends A.host m d u m' d') :
    ∃ records, Publishes A m transition candidate objects records ∧
      (∀ f ∈ records, Creatable f) ∧ d' = d.createMany records ∧ Loads A m m' d' := by
  simp only [publish, ends_bind, ends_fields, ends_require] at h
  obtain ⟨_, m₁, d₁, ⟨rfl, rfl, rfl⟩, -, m₂, d₂, ⟨hok, rfl, rfl⟩, -, m₃, d₃, ⟨-, rfl, rfl⟩, h⟩ := h
  simp only [decide_eq_true_eq] at hok
  cases hrecords : A.publication transition candidate m.commitSha m.state.generation
      m.state.registration.sha objects with
  | none =>
    rw [hrecords] at h
    exact absurd h ends_fail
  | some records =>
    rw [hrecords] at h
    simp only [ends_bind, ends_require] at h
    obtain ⟨-, m₄, d₄, ⟨hpreflight, rfl, rfl⟩, u₁, m₅, d₅, hcreate, hreload⟩ := h
    obtain ⟨hcreatable, rfl, rfl⟩ :=
      (createAll_ends (hfree records hrecords) hgranted hready).mp hcreate
    obtain ⟨hloads, rfl⟩ := reload_ends hreload
    exact ⟨records, ⟨hok.1, hok.2.1, hok.2.2, hrecords, hpreflight⟩, hcreatable, rfl, hloads⟩

end TelemetryState

end TradeOps.Agent
