import TradeOps.Agent.Checkpoints

/-!
# The first generation

A store without a commit is unborn. `InitializeNew` writes the first generation into an empty one;
stopped before its commit, it leaves a store that stays unborn, for it refuses a store that is not
empty, and every other operation needs a root.
-/

namespace TradeOps.Agent

open Prog TelemetryState

variable {A : TelemetryState} {m m' : Fields} {d d₁ : Disk} {registration capture : Bytes}
  {captureSchema : Text}

/-- No commit was ever written, and nothing deleted. -/
structure Unborn (A : TelemetryState) (d : Disk) : Prop where
  archived : d.Archived A.sha
  kept : d.files = [] → d.written = []
  commits : ∀ f ∈ d.written, f.locator.kind ≠ .commit

theorem unborn_empty (A : TelemetryState) : Unborn A Disk.empty := by
  refine ⟨⟨⟨List.nodup_nil, ?_, by decide, by decide⟩, ?_, List.nodup_nil, ?_, ?_⟩,
    fun _ => rfl, ?_⟩ <;>
    exact fun f hf => absurd hf List.not_mem_nil

/-! ## The records of the first generation -/

/-- The frames and digests of the first two objects. -/
structure FirstRecords (A : TelemetryState) (registration capture : Bytes) (captureSchema : Text)
    (state : LocalState) (objects : List StoredRecord) : Prop where
  frames : ∃ registrationFrame registrationSha captureFrame captureSha,
    A.makeFrame registrationKind 1 registration = some (registrationFrame, registrationSha) ∧
    A.makeFrame checkpointKind 1 capture = some (captureFrame, captureSha) ∧
    state = A.initialState registrationSha captureSha captureSchema ∧
    objects = [⟨registrationLocator, registrationFrame⟩, ⟨objectLocator 1 1, captureFrame⟩]

theorem firstPublication_some {records : List StoredRecord}
    (h : A.firstPublication registration capture captureSchema = some records) :
    ∃ state objects s c commit commitSha,
      FirstRecords A registration capture captureSchema state objects ∧
      Sealed A .init state dash 0 state.registration.sha s c commit commitSha ∧
      records = objects ++ [s, c] := by
  simp only [firstPublication, Option.bind_eq_bind, Option.bind_eq_some_iff] at h
  obtain ⟨⟨registrationFrame, registrationSha⟩, hregistration, ⟨captureFrame, captureSha⟩, hcapture,
    hpublication⟩ := h
  obtain ⟨s, c, commit, commitSha, hsealed, rfl⟩ := publication_some hpublication
  exact ⟨_, _, s, c, commit, commitSha, ⟨registrationFrame, registrationSha, captureFrame,
    captureSha, hregistration, hcapture, rfl, rfl⟩, hsealed, rfl⟩

theorem envelope_registration : localEnvelopeKind .registration = registrationKind := by
  decide +kernel

theorem registrationKind_ne_pendingKind : registrationKind ≠ pendingKind := by decide +kernel

theorem registration_addressable : Disk.addressable registrationLocator = true := by decide

theorem capture_addressable : Disk.addressable (objectLocator 1 1) = true := by decide

theorem FirstRecords.staged {state : LocalState} {objects : List StoredRecord}
    (h : FirstRecords A registration capture captureSchema state objects)
    (hvalid : localStateValid state = true)
    (hregistration : A.validator.registration registration A.identity = true)
    (hcapture : A.validator.capture capture captureSchema A.identity = true) :
    Staged A d state objects := by
  obtain ⟨registrationFrame, registrationSha, captureFrame, captureSha, hframe,
    hframe', rfl, rfl⟩ :=
    h.frames
  have hframed : Framed A registrationKind ⟨registrationLocator, registrationFrame⟩ registration
    registrationSha := framed_of_makeFrame hframe
  have hframed' : Framed A checkpointKind ⟨objectLocator 1 1, captureFrame⟩ capture captureSha :=
    framed_of_makeFrame hframe'
  refine ⟨?_, ?_, ?_, ?_, ?_⟩
  · intro f hf
    simp only [List.mem_cons, List.not_mem_nil, or_false] at hf
    rcases hf with rfl | rfl
    · exact hframed.placed registration_addressable fun heq =>
        absurd heq registrationKind_ne_pendingKind
    · exact hframed'.placed capture_addressable fun heq => absurd heq checkpointKind_ne_pendingKind
  · intro f hf
    simp only [List.mem_cons, List.not_mem_nil, or_false] at hf
    rcases hf with rfl | rfl
    · exact .inr rfl
    · exact .inl rfl
  · intro f hf
    simp only [List.mem_cons, List.not_mem_nil, or_false] at hf
    rcases hf with rfl | rfl <;> rfl
  · simp [registrationLocator, objectLocator]
  · intro r hr
    right
    have hrefs : rootRefs (A.initialState registrationSha captureSha captureSchema) =
        [makeRef .registration 1 0 registrationSha, makeRef .capture 1 1 captureSha] := rfl
    rw [hrefs, List.mem_cons, List.mem_singleton] at hr
    rcases hr with rfl | rfl
    · exact ⟨_, List.mem_cons_self, rfl, registration,
        hframed.frameMatches (registrationValid_of_valid hvalid) envelope_registration rfl rfl,
        hregistration⟩
    · exact ⟨_, List.mem_cons_of_mem _ List.mem_cons_self, rfl, capture,
        hframed'.frameMatches (capture_of_valid hvalid).1.valid rfl rfl rfl, hcapture⟩

/-! ## Writing the first generation -/

section First

variable {state : LocalState} {objects : List StoredRecord} {s c : StoredRecord}
  {commit : LocalCommit} {commitSha : Text}
  (hunborn : Unborn A d) (hempty : d.files = [])
  (hstaged : Staged A d state objects)
  (hsealed : Sealed A .init state dash 0 state.registration.sha s c commit commitSha)
  (hone : state.generation = 1)
include hempty hstaged hsealed hone

theorem first_newer : ∀ f ∈ objects ++ [s, c], f.locator.generation = d.highest + 1 := by
  intro f hf
  have hhighest : d.highest = 0 := by rw [Disk.highest, hempty]; rfl
  rw [(records_placed hstaged hsealed f hf).2, hone, hhighest]

theorem first_free : d.Free (objects ++ [s, c]) :=
  Disk.free_of_generation
    (fun f hf => by rw [first_newer hempty hstaged hsealed hone f hf]; exact Nat.lt_succ_self _)
    (records_nodup hstaged hsealed)

include hunborn

theorem first_archived {inventory : List StorageEntry} (hinventory : inventory = d.entries A.sha)
    (hpreflight : storagePreflight inventory .init
      ((objects ++ [s, c]).map fun f => f.bytes.length).sum (objects ++ [s, c]).length = true)
    (k : Nat) : (d.createMany ((objects ++ [s, c]).take k)).Archived A.sha := by
  rw [hinventory] at hpreflight
  refine hunborn.archived.createMany (fun f hf => (records_placed hstaged hsealed f hf).1) ?_
    (records_nodup hstaged hsealed) hpreflight k
  intro f hf
  rw [first_newer hempty hstaged hsealed hone f hf]
  exact Nat.lt_succ_self _

omit hone in
/-- Stopped before its commit. -/
theorem unborn_before_commit {k : Nat} (hk : k < (objects ++ [s, c]).length)
    (harchived : (d.createMany ((objects ++ [s, c]).take k)).Archived A.sha) :
    Unborn A (d.createMany ((objects ++ [s, c]).take k)) := by
  have hwritten : d.written = [] := hunborn.kept hempty
  refine ⟨harchived, ?_, ?_⟩
  · intro hnone
    have htake : (objects ++ [s, c]).take k = [] := by
      simp only [Disk.createMany, hempty, List.nil_append] at hnone
      exact hnone
    simp only [Disk.createMany, hwritten, List.nil_append]
    exact htake
  · intro f hf
    simp only [Disk.createMany, hwritten, List.nil_append] at hf
    rcases mem_take_of_lt hk hf with hobject | rfl
    · rcases hstaged.kind f hobject with hkind | hkind <;> rw [hkind] <;> decide
    · rw [hsealed.statePlace]
      simp [stateLocator]

/-- The first generation is there. -/
theorem live_first (hfirst : First A ⟨state, commit, commitSha⟩)
    (hidentity : state.identity = A.identity) (hparent : state.parentGeneration = 0)
    (hparentSha : state.parentCommit = dash)
    (harchived : (d.createMany (objects ++ [s, c])).Archived A.sha)
    (hdistinct : Disk.Distinct A.sha (d.createMany (objects ++ [s, c])).written) :
    Live A (d.createMany (objects ++ [s, c])) [⟨state, commit, commitSha⟩] := by
  have hstands : Stands A (d.createMany (objects ++ [s, c])) ⟨state, commit, commitSha⟩ :=
    hstaged.root hsealed hunborn.archived.sound (first_free hempty hstaged hsealed hone)
      harchived.sound (harchived.distinct hdistinct) hidentity rfl hparent hparentSha
  have harchive : ∀ {l : Locator} {f : StoredRecord},
      (d.createMany (objects ++ [s, c])).find l = some f →
      (d.createMany (objects ++ [s, c])).archive.find l = some f :=
    fun hf => harchived.find_archive hf
  refine ⟨harchived, hdistinct, .first hfirst, ?_, ?_, ?_, ?_, ?_, ?_⟩
  · intro g hg
    rw [List.mem_singleton.mp hg]
    exact hstands.data.transfer (fun f hf => harchive hf) (fun f hf => harchive hf)
  · intro g hg r hr
    rw [List.mem_singleton.mp hg] at hr
    obtain ⟨payload, hpayload, -⟩ := hstands.refs r (List.mem_cons_of_mem _ hr)
    exact ⟨payload, payloadAt_transfer hpayload fun f hf => harchive hf⟩
  · intro f hf hkind
    refine ⟨_, List.mem_singleton_self _, ?_⟩
    simp only [Disk.createMany, hunborn.kept hempty, List.nil_append] at hf
    exact (records_placed hstaged hsealed f hf).2
  · intro g rest heq
    obtain ⟨rfl, -⟩ := List.cons.inj heq
    exact hstands
  · intro g g' rest heq
    simp at heq
  · intro g g' g'' rest heq
    simp at heq

end First

/-- What `InitializeNew` has checked before it writes. -/
structure Initializes (A : TelemetryState) (m : Fields) (d : Disk) (registration capture : Bytes)
    (captureSchema : Text) (records : List StoredRecord) : Prop where
  granted : A.Granted m d
  ready : m.reloadRequired = false
  unloaded : m.loaded = false
  emptyReady : m.emptyReady = true
  schema : identifier captureSchema = true
  empty : d.files = []
  registered : A.validator.registration registration A.identity = true
  captured : A.validator.capture capture captureSchema A.identity = true
  publication : A.firstPublication registration capture captureSchema = some records
  preflight : storagePreflight [] .init (records.map fun f => f.bytes.length).sum
    records.length = true

theorem files_of_inventory (hsound : d.Sound A.sha) :
    d.inventory A.sha = .ok none ↔ d.files = [] := by
  rw [hsound.inventory]
  split <;> simp_all

theorem entries_of_files (h : d.files = []) : d.entries A.sha = [] := by
  rw [Disk.entries, h]
  rfl

theorem initializeNew_visits (hunborn : Unborn A d)
    (h : (A.initializeNew registration capture captureSchema).Visits A.host m d d₁) :
    d₁ = d ∨ ∃ records, Initializes A m d registration capture captureSchema records ∧
      ∃ k ≤ records.length, d₁ = d.createMany (records.take k) := by
  rcases visits_bind h with hread | ⟨session, m₁, d₂, hguard, h₁⟩
  · exact .inl ((readOnly_guard false).visits hread)
  obtain ⟨hgranted, hsession, hready, hm, hd⟩ := guard_ends.mp hguard
  subst m₁ d₂
  rcases visits_bind h₁ with hread | ⟨_, m₁, d₂, hfields, h₂⟩
  · exact .inl (only_fields.visits (Disk.host_reads A.sha) hread)
  obtain ⟨rfl, rfl, rfl⟩ := ends_fields.mp hfields
  rcases visits_bind h₂ with hread | ⟨_, m₁, d₂, hcheck, h₃⟩
  · exact .inl ((readOnly_require _ _).visits hread)
  obtain ⟨hstart, rfl, rfl⟩ := ends_require.mp hcheck
  rcases visits_bind h₃ with hread | ⟨listed, m₁, d₂, hlisted, h₄⟩
  · exact .inl (readOnly_refreshInventory.visits hread)
  obtain ⟨-, hcase, hd⟩ := refreshInventory_ends.mp hlisted
  subst d₂
  rcases visits_bind h₄ with hread | ⟨_, m₂, d₂, hnone, h₅⟩
  · exact .inl ((readOnly_require _ _).visits hread)
  obtain ⟨hnone, rfl, rfl⟩ := ends_require.mp hnone
  obtain ⟨rfl, hinventory, rfl⟩ := hcase.resolve_left fun hlist => by simp [hlist.1] at hnone
  rcases visits_bind h₅ with hread | ⟨_, m₂, d₂, hfields, h₆⟩
  · exact .inl (only_fields.visits (Disk.host_reads A.sha) hread)
  obtain ⟨rfl, rfl, rfl⟩ := ends_fields.mp hfields
  rcases visits_bind h₆ with hread | ⟨_, m₂, d₂, hcheck, h₇⟩
  · exact .inl ((readOnly_require _ _).visits hread)
  obtain ⟨-, rfl, rfl⟩ := ends_require.mp hcheck
  rcases visits_bind h₇ with hread | ⟨_, m₂, d₂, hcheck, h₈⟩
  · exact .inl ((readOnly_require _ _).visits hread)
  obtain ⟨hpayloads, rfl, rfl⟩ := ends_require.mp hcheck
  cases hrecords : A.firstPublication registration capture captureSchema with
  | none =>
    rw [hrecords] at h₈
    exact .inl h₈
  | some records =>
    rw [hrecords] at h₈
    rcases visits_bind h₈ with hread | ⟨_, m₂, d₂, hcheck, h₉⟩
    · exact .inl ((readOnly_require _ _).visits hread)
    obtain ⟨hpreflight, rfl, rfl⟩ := ends_require.mp hcheck
    simp only [decide_eq_true_eq, Bool.not_eq_true'] at hstart hpayloads
    have hempty := (files_of_inventory hunborn.archived.sound).mp hinventory
    refine .inr ⟨records, ⟨hgranted, by simpa using hready, by simpa using hstart.1, hstart.2.1,
      hstart.2.2, hempty, hpayloads.1, hpayloads.2, hrecords, hpreflight⟩, ?_⟩
    obtain ⟨state, objects, s, c, commit, commitSha, hfirst, hsealed, rfl⟩ :=
      firstPublication_some hrecords
    have hone : state.generation = 1 := by
      obtain ⟨_, _, _, _, -, -, rfl, -⟩ := hfirst.frames
      rfl
    have hstaged : Staged A d state objects :=
      hfirst.staged hsealed.valid hpayloads.1 hpayloads.2
    have hfree := first_free hempty hstaged hsealed hone
    rcases visits_bind h₉ with hcreate | ⟨u, m₅, d₅, hcreate, hreload⟩
    · exact createAll_visits hfree hcreate
    · rw [readOnly_reload.visits hreload]
      exact createAll_visits hfree hcreate.visits

/-- `InitializeNew` that has checked its arguments comes to its end. -/
theorem initializeNew_completes {records : List StoredRecord} (hunborn : Unborn A d)
    (h : Initializes A m d registration capture captureSchema records)
    (hdistinct : Disk.Distinct A.sha (d.createMany records).written) :
    ∃ g m', Live A (d.createMany records) [g] ∧ AtRoot A m' (d.createMany records) g ∧
      (A.initializeNew registration capture captureSchema).Ends A.host m d () m'
        (d.createMany records) := by
  obtain ⟨state, objects, s, c, commit, commitSha, hfirst, hsealed, rfl⟩ :=
    firstPublication_some h.publication
  obtain ⟨registrationFrame, registrationSha, captureFrame, captureSha, -, -, hstate, -⟩ :=
    hfirst.frames
  have hone : state.generation = 1 := by rw [hstate]; rfl
  have hstaged : Staged A d state objects := hfirst.staged hsealed.valid h.registered h.captured
  have hfree := first_free h.empty hstaged hsealed hone
  have harchived := first_archived hunborn h.empty hstaged hsealed hone
    (entries_of_files h.empty).symm h.preflight (objects ++ [s, c]).length
  rw [List.take_length] at harchived
  have hlive : Live A (d.createMany (objects ++ [s, c])) [⟨state, commit, commitSha⟩] := by
    refine live_first hunborn h.empty hstaged hsealed hone
      ⟨hsealed.valid, hsealed.transition, _, _, _, hstate⟩ ?_ ?_ ?_ harchived hdistinct
    all_goals rw [hstate]; rfl
  have hcreatable : ∀ f ∈ objects ++ [s, c], Creatable f := fun f hf =>
    creatable_of_placed (records_placed hstaged hsealed f hf).1
  have hready : (lists m [] 0).reloadRequired = false := h.ready
  have hgranted : A.Granted (cleared { lists m [] 0 with reloadRequired := true })
      (d.createMany (objects ++ [s, c])) :=
    ⟨h.granted.isOpen, h.granted.session, h.granted.key, by simp [cleared]⟩
  obtain ⟨m', hrecover, hat⟩ := hlive.recover hgranted
  refine ⟨_, m', hlive, hat, ?_⟩
  obtain ⟨session, hsession, -⟩ := h.granted.session
  have hinventory : d.inventory A.sha = .ok none :=
    (files_of_inventory hunborn.archived.sound).mpr h.empty
  simp only [initializeNew, ends_bind, ends_fields, ends_require]
  refine ⟨session, m, d, guard_ends.mpr ⟨h.granted, hsession, .inl h.ready, rfl, rfl⟩, m, m, d,
    ⟨rfl, rfl, rfl⟩, (), m, d, ⟨?_, rfl, rfl⟩, false, lists m [] 0, d,
    refreshInventory_ends.mpr ⟨h.granted, .inr ⟨rfl, hinventory, rfl⟩, rfl⟩, (), _, d,
    ⟨by decide, rfl, rfl⟩, _, _, d, ⟨rfl, rfl, rfl⟩, (), _, d, ⟨rfl, rfl, rfl⟩, (), _, d,
    ⟨?_, rfl, rfl⟩, ?_⟩
  · simp [h.unloaded, h.emptyReady, h.schema]
  · simp [h.registered, h.captured]
  · rw [h.publication]
    simp only [ends_bind, ends_require]
    refine ⟨(), _, d, ⟨h.preflight, rfl, rfl⟩, (), _, _,
      (createAll_ends hfree (h.granted.lists [] 0) hready).mpr ⟨hcreatable, rfl, rfl⟩, ?_⟩
    simp only [reload, ends_bind, ends_update, ends_require]
    exact ⟨(), _, _, ⟨rfl, rfl⟩, true, m', _, hrecover, rfl, rfl, rfl⟩

/-- What a stopped `InitializeNew` leaves. -/
theorem initializeNew_outcome (hunborn : Unborn A d)
    (hdistinct : Disk.Distinct A.sha d₁.written)
    (h : (A.initializeNew registration capture captureSchema).Visits A.host m d d₁) :
    Grows d d₁ ∧ (Unborn A d₁ ∨ ∃ g, Live A d₁ [g]) := by
  rcases initializeNew_visits hunborn h with rfl | ⟨records, hinit, k, hk, rfl⟩
  · exact ⟨Grows.refl d₁, .inl hunborn⟩
  obtain ⟨state, objects, s, c, commit, commitSha, hfirst, hsealed, rfl⟩ :=
    firstPublication_some hinit.publication
  obtain ⟨registrationFrame, registrationSha, captureFrame, captureSha, -, -, hstate, -⟩ :=
    hfirst.frames
  have hone : state.generation = 1 := by rw [hstate]; rfl
  have hstaged : Staged A d state objects :=
    hfirst.staged hsealed.valid hinit.registered hinit.captured
  refine ⟨⟨_, rfl, fun f hf => first_newer hinit.empty hstaged hsealed hone f
    (List.mem_of_mem_take hf)⟩, ?_⟩
  by_cases hlast : k < (objects ++ [s, c]).length
  · exact .inl (unborn_before_commit hunborn hinit.empty hstaged hsealed hlast
      (first_archived hunborn hinit.empty hstaged hsealed hone (entries_of_files hinit.empty).symm
        hinit.preflight k))
  · rw [List.take_of_length_le (Nat.le_of_not_lt hlast)] at hdistinct ⊢
    obtain ⟨g, m', hlive, -⟩ := initializeNew_completes hunborn hinit hdistinct
    exact .inr ⟨g, hlive⟩

/-- `InitializeNew` leaves a store alone that has a root. -/
theorem initializeNew_live {hist : List Generation} (hlive : Live A d hist)
    (h : (A.initializeNew registration capture captureSchema).Visits A.host m d d₁) : d₁ = d := by
  obtain ⟨current, rest, rfl⟩ := hlive.nonempty
  rcases visits_bind h with hread | ⟨session, m₁, d₂, hguard, h₁⟩
  · exact (readOnly_guard false).visits hread
  obtain ⟨hgranted, hsession, hready, hm, hd⟩ := guard_ends.mp hguard
  subst m₁ d₂
  rcases visits_bind h₁ with hread | ⟨_, m₁, d₂, hfields, h₂⟩
  · exact only_fields.visits (Disk.host_reads A.sha) hread
  obtain ⟨rfl, rfl, rfl⟩ := ends_fields.mp hfields
  rcases visits_bind h₂ with hread | ⟨_, m₁, d₂, hcheck, h₃⟩
  · exact (readOnly_require _ _).visits hread
  obtain ⟨hstart, rfl, rfl⟩ := ends_require.mp hcheck
  rcases visits_bind h₃ with hread | ⟨listed, m₁, d₂, hlisted, h₄⟩
  · exact readOnly_refreshInventory.visits hread
  obtain ⟨-, hcase, hd⟩ := refreshInventory_ends.mp hlisted
  subst d₂
  rcases visits_bind h₄ with hread | ⟨_, m₂, d₂, hnone, h₅⟩
  · exact (readOnly_require _ _).visits hread
  obtain ⟨hnone, -, -⟩ := ends_require.mp hnone
  rcases hcase with ⟨rfl, -⟩ | ⟨-, hinventory, -⟩
  · contradiction
  · exact absurd ((files_of_inventory hlive.sound).mp hinventory) hlive.files_ne_nil

/-! ## No root, no change -/

/-- No call finds a root: the store has no owner, or no commit. -/
def Rootless (A : TelemetryState) (d : Disk) : Prop := d.owner = none ∨ Unborn A d

theorem visits_blocked {α β : Type} {p : Act α} {k : α → Act β} (hp : ReadOnly p)
    (hnever : ∀ a m' d', ¬ p.Ends A.host m d a m' d') (h : (p >>= k).Visits A.host m d d₁) :
    d₁ = d := by
  rcases visits_bind h with hread | ⟨a, m', d', hends, -⟩
  · exact hp.visits hread
  · exact absurd hends (hnever a m' d')

theorem visits_skip {α β : Type} {p : Act α} {k : α → Act β} (hp : ReadOnly p)
    (hk : ∀ a m', p.Ends A.host m d a m' d → (k a).Visits A.host m' d d₁ → d₁ = d)
    (h : (p >>= k).Visits A.host m d d₁) : d₁ = d := by
  rcases visits_bind h with hread | ⟨a, m', d', hends, hrest⟩
  · exact hp.visits hread
  · obtain rfl := hp.ends hends
    exact hk a m' hends hrest

theorem Rootless.not_granted (h : d.owner = none) : ¬ A.Granted m d := by
  intro hgranted
  obtain ⟨session, -, howner⟩ := hgranted.session
  rw [h] at howner
  contradiction

theorem Unborn.no_root (h : Unborn A d) {entries : List StorageEntry} {state : LocalState}
    {commitSha : Text} : ¬ Current A d entries state commitSha := by
  rintro ⟨-, commit, hroot⟩
  obtain ⟨-, f, payload, hfind, -⟩ := hroot.data.commitAt
  obtain ⟨hmem, hlocator⟩ := Disk.mem_of_find hfind
  refine h.commits f (h.archived.kept f hmem) ?_
  rw [hlocator]
  rfl

theorem Rootless.verify {u : Unit} {d' : Disk} (hrootless : Rootless A d) :
    ¬ A.verifyCurrentRootFresh.Ends A.host m d u m' d' := by
  intro h
  obtain ⟨hgranted, -, hcurrent, -⟩ := verifyCurrentRootFresh_ends.mp h
  rcases hrootless with howner | hunborn
  · exact Rootless.not_granted howner hgranted
  · exact hunborn.no_root hcurrent

theorem Rootless.freshOutboxRoot {u : Unit} {d' : Disk} (hrootless : Rootless A d) :
    ¬ A.freshOutboxRoot.Ends A.host m d u m' d' := by
  intro h
  obtain ⟨⟨b, hfresh⟩, -, -⟩ := freshOutboxRoot_ends.mp h
  rcases hrootless with howner | hunborn
  · exact Rootless.not_granted howner hfresh.granted
  · exact hunborn.no_root hfresh.current

/-- The operations that take the inventory themselves change nothing without a root. -/
theorem Rootless.checked {α : Type} {check : Fields → Bool} {e : Status} {k : Fields → Act α}
    (hrootless : Rootless A d)
    (h : (do
      let _ ← A.guard false
      let m ← fields
      require (check m) e
      A.requireInventory
      A.verifyCurrentRootFresh
      k m : Act α).Visits A.host m d d₁) : d₁ = d := by
  refine visits_skip (readOnly_guard false) (fun session m₁ hguard h => ?_) h
  refine visits_skip only_fields (fun m₀ m₂ hfields h => ?_) h
  refine visits_skip (only_require _ _) (fun u m₃ hcheck h => ?_) h
  refine visits_skip readOnly_requireInventory (fun u m₄ hlisted h => ?_) h
  exact visits_blocked readOnly_verifyCurrentRootFresh (fun _ _ _ => hrootless.verify) h

theorem Rootless.initializeNew (howner : d.owner = none)
    (h : (A.initializeNew registration capture captureSchema).Visits A.host m d d₁) : d₁ = d := by
  refine visits_blocked (readOnly_guard false) (fun session m' d' hguard => ?_) h
  exact Rootless.not_granted howner (guard_ends.mp hguard).1

end TradeOps.Agent
