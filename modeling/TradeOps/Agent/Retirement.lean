import TradeOps.Agent.Deletion

/-!
# What compaction finds of the retired generation

The reading half of `Compact`. On a live store none of its tests fails: two references to one
record are one reference, a record that a kept generation names is there, and a record that is not
there was deleted by an earlier compaction that was allowed to.
-/

namespace TradeOps.Agent

open Prog TelemetryState

variable {A : TelemetryState} {m : Fields} {d : Disk} {hist rest : List Generation}
  {current previous g root retired : Generation} {r : LocalRef}

/-! ## Places of objects -/

theorem mem_namedLocators_object {state : LocalState} {l : Locator} (hl : l.kind = .object) :
    l ∈ namedLocators state ↔ ∃ q ∈ objectRefs state, refLocator q = l := by
  have hregistration : l ≠ registrationLocator := fun heq => by
    rw [heq] at hl
    contradiction
  have hstate : l ≠ stateLocator state.generation := fun heq => by
    rw [heq] at hl
    contradiction
  have hcommit : l ≠ commitLocator state.generation := fun heq => by
    rw [heq] at hl
    contradiction
  constructor
  · intro h
    simp only [namedLocators, List.mem_append, List.mem_cons, List.not_mem_nil, or_false,
      hregistration, hstate, hcommit, false_or, List.mem_map] at h
    rcases h with ((rfl | ⟨q, hq, rfl⟩) | h) | h
    · exact ⟨_, mem_objectRefs.mpr (.inl rfl), rfl⟩
    · exact ⟨q, mem_objectRefs.mpr (.inr (.inl hq)), rfl⟩
    · split at h
      next => exact absurd h List.not_mem_nil
      next hkind =>
        exact ⟨_, mem_objectRefs.mpr (.inr (.inr (.inl ⟨hkind, rfl⟩))),
          (List.mem_singleton.mp h).symm⟩
    · split at h
      next => exact absurd h List.not_mem_nil
      next hkind =>
        exact ⟨_, mem_objectRefs.mpr (.inr (.inr (.inr ⟨hkind, rfl⟩))),
          (List.mem_singleton.mp h).symm⟩
  · rintro ⟨q, hq, rfl⟩
    exact names_objectRefs hq

theorem object_of_named {state : LocalState} (h : Named state r) :
    (refLocator r).kind = .object := by
  rw [refLocator_of_object h.object]
  rfl

/-- What a kept generation names is there. -/
theorem find_of_names (h : Stands A d root) {l : Locator} (hnames : Names A d root.state l)
    (hl : l.kind = .object) : d.find l ≠ none := by
  rcases hnames with hmem | ⟨-, payload, hanswered⟩
  · obtain ⟨q, hq, rfl⟩ := (mem_namedLocators_object hl).mp hmem
    obtain ⟨payload, hpayload, -⟩ := h.refs q (List.mem_cons_of_mem _ hq)
    obtain ⟨-, f, hfind, -⟩ := payloadAt_some hpayload
    rw [hfind]
    simp
  · obtain ⟨f, hfind, -⟩ := hanswered.record
    rw [hfind]
    simp

/-- The request that a kept generation acknowledges is found. -/
theorem Stands.answered (h : Stands A d root) (hlive : Live A d hist)
    (hack : root.state.ack.kind = .ack) (hwitness : A.validator.requiresAckWitness = true) :
    ∃ l payload, Answered A d root.state l payload := by
  have hremains := h.remains hlive.sound hlive.distinctFiles root.state root.state
  rcases hremains.witness hwitness hack with hfound | ⟨-, habsent⟩
  · exact hfound
  · have hkind : root.state.ack.kind ≠ .absent := by rw [hack]; decide
    have hmem : root.state.ack ∈ objectRefs root.state :=
      mem_objectRefs.mpr (.inr (.inr (.inr ⟨hkind, rfl⟩)))
    have hnames : Names A d root.state (refLocator root.state.ack) := .inl (names_objectRefs hmem)
    exact absurd habsent (find_of_names h hnames
      (object_of_named (named_of_valid h.data.stateAt.valid hmem)))

/-- The record of an acknowledged request has the reference that it was prepared with. -/
theorem answered_ref (hlive : Live A d hist) (hroot : root ∈ hist) {l : Locator} {payload : Bytes}
    (hanswered : Answered A d root.state l payload) :
    ∃ g₀, Lineage.Origin hist root.state g₀ ∧ refLocator g₀.state.pending = l := by
  obtain ⟨g₀, p, horigin, hat⟩ := hlive.answered_archive hroot hanswered.ack
  exact ⟨g₀, horigin,
    hlive.answered_unique hat (hlive.answered_of_find hanswered) rfl⟩

theorem pending_mem {g₀ : Generation} (hwaits : g₀.state.pending.kind ≠ .absent) :
    g₀.state.pending ∈ objectRefs g₀.state :=
  mem_objectRefs.mpr (.inr (.inr (.inl ⟨hwaits, rfl⟩)))

/-! ## Protection -/

theorem matchProtected_some {retired root : LocalState} {refs : List LocalRef}
    (h : ∀ q ∈ refs, q.kind ≠ .absent → refLocator r = refLocator q →
      r = q ∧ ¬ (r.kind = .capture ∧ retired.captureSchema ≠ root.captureSchema)) :
    ∃ b, matchProtected r retired root refs = some b ∧
      (b = true ↔ ∃ q ∈ refs, q.kind ≠ .absent ∧ refLocator r = refLocator q) := by
  induction refs with
  | nil => exact ⟨false, rfl, by simp⟩
  | cons q rest ih =>
    obtain ⟨b, hb, hiff⟩ := ih fun q' hq' => h q' (List.mem_cons_of_mem q hq')
    have hhere : ∃ b', matchProtectedCandidate r q retired root = some b' ∧
        (b' = true ↔ q.kind ≠ .absent ∧ refLocator r = refLocator q) := by
      by_cases hskip : q.kind = .absent ∨ refLocator r ≠ refLocator q
      · refine ⟨false, by rw [matchProtectedCandidate, if_pos hskip], ?_⟩
        refine iff_of_false (by simp) ?_
        rintro ⟨hkind, hsame⟩
        exact hskip.elim hkind fun hne => hne hsame
      · have hskip' := hskip
        rw [not_or, not_not] at hskip'
        obtain ⟨rfl, hschema⟩ := h q List.mem_cons_self hskip'.1 hskip'.2
        refine ⟨true, ?_, iff_of_true rfl hskip'⟩
        rw [matchProtectedCandidate, if_neg hskip, if_neg (by simp), if_neg hschema]
    obtain ⟨b', hb', hiff'⟩ := hhere
    refine ⟨b' || b, ?_, ?_⟩
    · simp only [matchProtected, hb, hb', Option.bind_eq_bind, Option.bind_some]
    · simp only [Bool.or_eq_true, hiff, hiff', List.mem_cons, exists_eq_or_imp]

theorem mem_protectedRefs {state : LocalState} (hvalid : localStateValid state = true)
    {q : LocalRef} :
    (q ∈ state.capture :: state.events ++ [state.pending, state.ack] ∧ q.kind ≠ .absent) ↔
      q ∈ objectRefs state := by
  rw [mem_objectRefs]
  simp only [List.cons_append, List.mem_cons, List.mem_append, List.not_mem_nil, or_false]
  constructor
  · rintro ⟨rfl | hq | rfl | rfl, hkind⟩
    · exact .inl rfl
    · exact .inr (.inl hq)
    · exact .inr (.inr (.inl ⟨hkind, rfl⟩))
    · exact .inr (.inr (.inr ⟨hkind, rfl⟩))
  · rintro (rfl | hq | ⟨hkind, rfl⟩ | ⟨hkind, rfl⟩)
    · exact ⟨.inl rfl, by rw [(capture_of_valid hvalid).2]; simp⟩
    · exact ⟨.inr (.inl hq), by rw [(event_of_valid hvalid hq).2]; simp⟩
    · exact ⟨.inr (.inr (.inl rfl)), hkind⟩
    · exact ⟨.inr (.inr (.inr rfl)), hkind⟩

section Protection

variable (hlive : Live A d hist) (hgranted : A.Granted m d)
  (hinventory : m.inventory = d.entries A.sha)
include hlive hgranted hinventory

theorem readAckWitness_answered {state : LocalState} {l : Locator} {payload : Bytes}
    (h : Answered A d state l payload) :
    (A.readAckWitness state).Ends A.host m d (l, payload) m d := by
  refine readAckWitness_ends.mpr ⟨hgranted, ?_, rfl, rfl⟩
  rw [hinventory]
  exact (witnessAt_iff hlive.sound hlive.distinctFiles).mpr h

/-- Whether a kept generation names the record of a reference. -/
theorem rootProtectedAssociation_names {g₀ : Generation} (hroot : root ∈ hist)
    (hstands : Stands A d root) (hretired : retired ∈ hist) (hg₀ : g₀ ∈ hist)
    (hr : r ∈ objectRefs g₀.state) (hcapture : r.kind = .capture → r = retired.state.capture) :
    ∃ b, (A.rootProtectedAssociation r retired.state root.state).Ends A.host m d b m d ∧
      (b = true ↔ Names A d root.state (refLocator r)) := by
  have hlineage := hlive.lineage
  have hvalid := hlineage.valid hroot
  have hobject := object_of_named (named_of_valid (hlineage.valid hg₀) hr)
  obtain ⟨b, hmatch, hiff⟩ : ∃ b, matchProtected r retired.state root.state
      (root.state.capture :: root.state.events ++ [root.state.pending, root.state.ack]) = some b ∧
      (b = true ↔ ∃ q ∈ objectRefs root.state, refLocator q = refLocator r) := by
    have hall : ∀ q ∈ root.state.capture :: root.state.events ++
        [root.state.pending, root.state.ack], q.kind ≠ .absent → refLocator r = refLocator q →
        r = q ∧ ¬ (r.kind = .capture ∧
          retired.state.captureSchema ≠ root.state.captureSchema) := by
      intro q hq hkind hsame
      have hmem := (mem_protectedRefs hvalid).mp ⟨hq, hkind⟩
      have heq := hlineage.ref_unique hg₀ hroot hr hmem hsame
      refine ⟨heq, ?_⟩
      rintro ⟨hcap, hschema⟩
      refine hschema (hlineage.schema_unique hretired hroot ?_)
      rw [← hcapture hcap, heq]
      rw [heq] at hcap
      rcases mem_objectRefs.mp hmem with rfl | hevent | ⟨hw, rfl⟩ | ⟨ha, rfl⟩
      · rfl
      · rw [(event_of_valid hvalid hevent).2] at hcap
        contradiction
      · rw [(pending_of_valid hvalid hw).2] at hcap
        contradiction
      · rw [(ack_of_valid hvalid ha).2] at hcap
        contradiction
    obtain ⟨b, hb, hiff⟩ := matchProtected_some hall
    refine ⟨b, hb, hiff.trans ?_⟩
    constructor
    · rintro ⟨q, hq, hkind, hsame⟩
      exact ⟨q, (mem_protectedRefs hvalid).mp ⟨hq, hkind⟩, hsame.symm⟩
    · rintro ⟨q, hq, hsame⟩
      obtain ⟨hmem, hkind⟩ := (mem_protectedRefs hvalid).mpr hq
      exact ⟨q, hmem, hkind, hsame.symm⟩
  have hnamed : Names A d root.state (refLocator r) ↔
      (∃ q ∈ objectRefs root.state, refLocator q = refLocator r) ∨
        (A.validator.requiresAckWitness = true ∧
          ∃ payload, Answered A d root.state (refLocator r) payload) := by
    rw [Names, mem_namedLocators_object hobject]
  rw [rootProtectedAssociation, hmatch]
  simp only
  by_cases hwitness : root.state.ack.kind = .ack ∧ A.validator.requiresAckWitness = true
  · rw [if_pos hwitness]
    obtain ⟨l, payload, hanswered⟩ := hstands.answered hlive hwitness.1 hwitness.2
    have hread := readAckWitness_answered hlive hgranted hinventory hanswered
    simp only [ends_bind]
    by_cases hplace : refLocator r = l
    · -- The reference is the one of the request that is acknowledged.
      obtain ⟨g₁, horigin, hlocator⟩ := answered_ref hlive hroot hanswered
      have hpending := pending_of_valid (hlineage.valid horigin.mem) horigin.waits
      obtain rfl := hlineage.ref_unique hg₀ horigin.mem hr (pending_mem horigin.waits)
        (hplace.trans hlocator.symm)
      refine ⟨true, ⟨(l, payload), m, d, hread, ?_⟩, ?_⟩
      · simp only
        rw [if_pos hplace]
        simp only [ends_bind, ends_require]
        refine ⟨(), m, d, ⟨?_, rfl, rfl⟩, ends_pure.mpr ⟨rfl, rfl, rfl⟩⟩
        rw [decide_eq_true_eq]
        have hanswers := (localStateValid_iff.mp hvalid).2.2.2.2.2.1
        have hkind : root.state.ack.kind ≠ .absent := by rw [hwitness.1]; decide
        simp only [LocalState.ackValid, if_neg hkind, decide_eq_true_eq] at hanswers
        obtain ⟨first, others, rfl⟩ := hlive.nonempty
        have hsame := hlineage.same_identity
        refine ⟨hpending.2, horigin.sha, horigin.sequence, ?_, ?_, ?_⟩
        · rw [horigin.sequence, hanswers.2.2.2.2.1]
        · rw [(hsame retired hretired).1, (hsame root hroot).1]
        · rw [(hsame retired hretired).2, (hsame root hroot).2]
      · refine iff_of_true rfl (hnamed.mpr (.inr ⟨hwitness.2, payload, ?_⟩))
        rw [hplace]
        exact hanswered
    · refine ⟨b, ⟨(l, payload), m, d, hread, ?_⟩, ?_⟩
      · simp only
        rw [if_neg hplace]
        exact ends_pure.mpr ⟨rfl, rfl, rfl⟩
      · rw [hiff, hnamed]
        constructor
        · exact .inl
        · rintro (hmem | ⟨-, payload', hanswered'⟩)
          · exact hmem
          · exact absurd (hlive.answered_unique (hlive.answered_of_find hanswered')
              (hlive.answered_of_find hanswered) rfl) hplace
  · rw [if_neg hwitness]
    refine ⟨b, ends_pure.mpr ⟨rfl, rfl, rfl⟩, ?_⟩
    rw [hiff, hnamed]
    constructor
    · exact .inl
    · rintro (hmem | ⟨hrequires, payload, hanswered⟩)
      · exact hmem
      · exact absurd ⟨hanswered.ack, hrequires⟩ hwitness

end Protection

/-! ## Classification -/

theorem mem_addLocator {set : List Locator} {l x : Locator} :
    l ∈ addLocator set x ↔ l ∈ set ∨ l = x := by
  rw [addLocator]
  split
  next hmem =>
    constructor
    · exact .inl
    · rintro (h | rfl)
      · exact h
      · exact hmem
  next => simp

theorem nodup_addLocator {set : List Locator} {x : Locator} (h : set.Nodup) :
    (addLocator set x).Nodup := by
  rw [addLocator]
  split
  next => exact h
  next hmem =>
    refine List.nodup_append.mpr ⟨h, List.nodup_singleton x, ?_⟩
    intro a ha b hb heq
    rw [List.mem_singleton.mp hb] at heq
    exact hmem (heq ▸ ha)

/-- A record of the retired generation that nothing holds on to. -/
structure Free (A : TelemetryState) (d : Disk) (current previous : Generation) (r : LocalRef) :
    Prop where
  loose : Loose A d current previous (refLocator r)
  present : d.find (refLocator r) ≠ none

/-- What the classification of references adds to what was found before. -/
structure Classified (A : TelemetryState) (d : Disk) (current previous : Generation)
    (refs : List LocalRef) (found found' : Retirement) : Prop where
  mem : ∀ l, l ∈ found'.eligible ↔ l ∈ found.eligible ∨ ∃ r ∈ refs, refLocator r = l ∧
    Free A d current previous r ∧
    A.retiredReferenceEligible r current.state previous.state = true
  nodup : found.eligible.Nodup → found'.eligible.Nodup
  ineligible : found'.ineligible = true ↔ found.ineligible = true ∨ ∃ r ∈ refs,
    Free A d current previous r ∧
    A.retiredReferenceEligible r current.state previous.state = false

section Classification

variable (hlive : Live A d (current :: previous :: g :: rest))
  (hremains : Remains A d current.state previous.state g)
  (hgranted : A.Granted m d) (hinventory : m.inventory = d.entries A.sha)
include hlive hremains hgranted hinventory

omit hremains hgranted hinventory in
theorem capture_of_ref (hr : r ∈ objectRefs g.state) (hkind : r.kind = .capture) :
    r = g.state.capture := by
  have hvalid := hlive.lineage.valid (show g ∈ current :: previous :: g :: rest by simp)
  rcases mem_objectRefs.mp hr with rfl | hevent | ⟨hw, rfl⟩ | ⟨ha, rfl⟩
  · rfl
  · rw [(event_of_valid hvalid hevent).2] at hkind
    contradiction
  · rw [(pending_of_valid hvalid hw).2] at hkind
    contradiction
  · rw [(ack_of_valid hvalid ha).2] at hkind
    contradiction

theorem protectedAssociation_loose (hr : r ∈ objectRefs g.state) :
    ∃ b, (A.protectedAssociation r g.state current.state previous.state).Ends A.host m d b m d ∧
      (b = false ↔ Loose A d current previous (refLocator r)) := by
  have hg : g ∈ current :: previous :: g :: rest := by simp
  have hobject := object_of_named (named_of_valid (hlive.lineage.valid hg) hr)
  have hcapture := capture_of_ref hlive hr
  obtain ⟨b₁, hends₁, hiff₁⟩ := rootProtectedAssociation_names hlive hgranted hinventory
    (show current ∈ _ by simp) (hlive.current rfl) hg hg hr hcapture
  obtain ⟨b₂, hends₂, hiff₂⟩ := rootProtectedAssociation_names hlive hgranted hinventory
    (show previous ∈ _ by simp) (hlive.parent rfl) hg hg hr hcapture
  by_cases hheld : (b₁ || b₂) = true
  · have hpresent : d.find (refLocator r) ≠ none := by
      rcases Bool.or_eq_true .. ▸ hheld with h | h
      · exact find_of_names (hlive.current rfl) (hiff₁.mp h) hobject
      · exact find_of_names (hlive.parent rfl) (hiff₂.mp h) hobject
    have hverified := (hremains.refs r hr).resolve_right fun hgone => hpresent hgone.absent
    refine ⟨true, ?_, iff_of_false (by simp) ?_⟩
    · simp only [protectedAssociation, ends_bind]
      refine ⟨b₁, m, d, hends₁, b₂, m, d, hends₂, ?_⟩
      rw [if_pos hheld]
      simp only [ends_bind, verifyTypedReference_ends]
      refine ⟨(), m, d, ⟨hgranted, ?_, rfl, rfl⟩, ends_pure.mpr ⟨rfl, rfl, rfl⟩⟩
      rw [hinventory]
      exact hverified
    · rintro ⟨hcurrent, hprevious⟩
      rcases Bool.or_eq_true .. ▸ hheld with h | h
      · exact hcurrent (hiff₁.mp h)
      · exact hprevious (hiff₂.mp h)
  · refine ⟨false, ?_, iff_of_true rfl ?_⟩
    · simp only [protectedAssociation, ends_bind]
      refine ⟨b₁, m, d, hends₁, b₂, m, d, hends₂, ?_⟩
      rw [if_neg hheld]
      exact ends_pure.mpr ⟨rfl, rfl, rfl⟩
    · rw [Bool.not_eq_true, Bool.or_eq_false_iff] at hheld
      constructor
      · intro hnames
        rw [hiff₁.mpr hnames] at hheld
        exact absurd hheld.1 (by simp)
      · intro hnames
        rw [hiff₂.mpr hnames] at hheld
        exact absurd hheld.2 (by simp)

theorem classifyRetiredReference_classified (hr : r ∈ objectRefs g.state) (found : Retirement) :
    ∃ found', (A.classifyRetiredReference g.state current.state previous.state r found).Ends
      A.host m d found' m d ∧ Classified A d current previous [r] found found' := by
  have hg : g ∈ current :: previous :: g :: rest := by simp
  have hnamed := named_of_valid (hlive.lineage.valid hg) hr
  have haddress := addressable_refLocator hnamed.valid
  obtain ⟨b, hends, hiff⟩ := protectedAssociation_loose hlive hremains hgranted hinventory hr
  have hnothing : ¬ Free A d current previous r →
      Classified A d current previous [r] found found := by
    intro hnot
    refine ⟨fun l => ⟨.inl, ?_⟩, id, ⟨.inl, ?_⟩⟩
    · rintro (h | ⟨q, hq, -, hfree, -⟩)
      · exact h
      · rw [List.mem_singleton.mp hq] at hfree
        exact absurd hfree hnot
    · rintro (h | ⟨q, hq, hfree, -⟩)
      · exact h
      · rw [List.mem_singleton.mp hq] at hfree
        exact absurd hfree hnot
  simp only [classifyRetiredReference, ends_bind]
  cases b with
  | true =>
    refine ⟨found, ⟨true, m, d, hends, ?_⟩, hnothing ?_⟩
    · rw [if_pos rfl]
      exact ends_pure.mpr ⟨rfl, rfl, rfl⟩
    · intro hfree
      exact absurd (hiff.mpr hfree.loose) (by simp)
  | false =>
    have hloose := hiff.mp rfl
    rcases hremains.refs r hr with ⟨payload, hpayload, htyped⟩ | hgone
    · have hpresent : d.find (refLocator r) ≠ none := by
        obtain ⟨-, f, hfind, -⟩ := payloadAt_some hpayload
        rw [hfind]
        simp
      have hfree : Free A d current previous r := ⟨hloose, hpresent⟩
      have hread : (mapFail (fun _ => .recoveryRequired) (A.readReferencePayload r)).Ends A.host m d
          (some payload) m d :=
        ends_mapFail.mpr (readReferencePayload_ends.mpr
          ⟨hgranted, haddress, .inr ⟨payload, hpayload, rfl⟩, rfl, rfl⟩)
      have hvalid :
          (A.typedPayloadValid r g.state payload .recoveryRequired).Ends A.host m d () m d := by
        refine (typedPayloadValid_ends hgranted).mpr ⟨?_, rfl, rfl⟩
        rw [hinventory]
        exact htyped
      by_cases heligible : A.retiredReferenceEligible r current.state previous.state = true
      · refine ⟨{ found with eligible := addLocator found.eligible (refLocator r) },
          ⟨false, m, d, hends, ?_⟩, ?_, fun h => nodup_addLocator h, ?_⟩
        · simp only [Bool.false_eq_true, if_false, ends_bind]
          refine ⟨some payload, m, d, hread, ?_⟩
          simp only [ends_bind]
          refine ⟨(), m, d, hvalid, ?_⟩
          rw [if_pos heligible]
          exact ends_pure.mpr ⟨rfl, rfl, rfl⟩
        · intro l
          simp only [mem_addLocator, List.mem_singleton, exists_eq_left]
          refine or_congr_right ?_
          constructor
          · rintro rfl
            exact ⟨rfl, hfree, heligible⟩
          · rintro ⟨rfl, -⟩
            rfl
        · simp [heligible]
      · refine ⟨{ found with ineligible := true }, ⟨false, m, d, hends, ?_⟩, ?_, id, ?_⟩
        · simp only [Bool.false_eq_true, if_false, ends_bind]
          refine ⟨some payload, m, d, hread, ?_⟩
          simp only [ends_bind]
          refine ⟨(), m, d, hvalid, ?_⟩
          rw [if_neg heligible]
          exact ends_pure.mpr ⟨rfl, rfl, rfl⟩
        · intro l
          simp [heligible]
        · simp only [true_iff, List.mem_singleton, exists_eq_left]
          exact .inr ⟨hfree, by simpa using heligible⟩
    · refine ⟨found, ⟨false, m, d, hends, ?_⟩, hnothing fun hfree => hfree.present hgone.absent⟩
      simp only [Bool.false_eq_true, if_false, ends_bind]
      refine ⟨none, m, d, ends_mapFail.mpr (readReferencePayload_ends.mpr
        ⟨hgranted, haddress, .inl ⟨hgone.absent, rfl⟩, rfl, rfl⟩), ?_⟩
      simp only [ends_bind, ends_require]
      exact ⟨(), m, d, ⟨hgone.eligible, rfl, rfl⟩, ends_pure.mpr ⟨rfl, rfl, rfl⟩⟩

theorem classifyRetiredReferences_classified {refs : List LocalRef}
    (hrefs : ∀ r ∈ refs, r ∈ objectRefs g.state) (found : Retirement) :
    ∃ found', (A.classifyRetiredReferences g.state current.state previous.state refs found).Ends
      A.host m d found' m d ∧ Classified A d current previous refs found found' := by
  induction refs generalizing found with
  | nil =>
    exact ⟨found, ends_pure.mpr ⟨rfl, rfl, rfl⟩, by simp, id, by simp⟩
  | cons r rest ih =>
    obtain ⟨found₁, hends₁, hfound₁⟩ := classifyRetiredReference_classified hlive hremains hgranted
      hinventory (hrefs r List.mem_cons_self) found
    obtain ⟨found₂, hends₂, hfound₂⟩ := ih (fun q hq => hrefs q (List.mem_cons_of_mem r hq)) found₁
    refine ⟨found₂, ends_bind.mpr ⟨found₁, m, d, hends₁, hends₂⟩, ?_,
      fun h => hfound₂.nodup (hfound₁.nodup h), ?_⟩
    · intro l
      rw [hfound₂.mem, hfound₁.mem]
      simp only [List.mem_cons, List.not_mem_nil, or_false, exists_eq_left, exists_eq_or_imp]
      exact or_assoc
    · rw [hfound₂.ineligible, hfound₁.ineligible]
      simp only [List.mem_cons, List.not_mem_nil, or_false, exists_eq_left, exists_eq_or_imp]
      exact or_assoc

omit hremains in
theorem rootLocators_ends (hstands : Stands A d root) :
    ∃ set, (A.rootLocators root.state).Ends A.host m d set m d ∧
      ∀ l ∈ set, Names A d root.state l := by
  unfold rootLocators
  split
  next hwitness =>
    obtain ⟨l, payload, hanswered⟩ := hstands.answered hlive hwitness.1 hwitness.2
    refine ⟨namedLocators root.state ++ [l], ?_, ?_⟩
    · simp only [ends_bind, ends_mapFail]
      exact ⟨(l, payload), m, d, readAckWitness_answered hlive hgranted hinventory hanswered,
        ends_pure.mpr ⟨rfl, rfl, rfl⟩⟩
    · intro l' hl'
      rcases List.mem_append.mp hl' with hl' | hl'
      · exact .inl hl'
      · rw [List.mem_singleton.mp hl']
        exact .inr ⟨hwitness.2, payload, hanswered⟩
  next =>
    exact ⟨namedLocators root.state, ends_pure.mpr ⟨rfl, rfl, rfl⟩, fun l hl => .inl hl⟩

omit hremains hgranted hinventory in
/-- A kept generation that acknowledges the same request names it. -/
theorem names_of_retained (hroot : root ∈ current :: previous :: g :: rest)
    (hwitness : A.validator.requiresAckWitness = true) {l : Locator} {payload : Bytes}
    (hanswered : Answered A d g.state l payload) (hack : root.state.ack.kind = .ack)
    (hsha : root.state.ackPendingSha = g.state.ackPendingSha) : Names A d root.state l := by
  obtain ⟨g₀, p, -, hat⟩ := hlive.answered_archive hroot hack
  have hplace := hlive.answered_unique hat (hlive.answered_of_find hanswered) hsha
  obtain ⟨f, hfind, hhash, hdecode⟩ := hanswered.record
  refine .inr ⟨hwitness, payload, hack, hat.digest, ⟨f, hfind, ?_, hdecode⟩, ?_⟩
  · rw [hsha]
    exact hhash
  · have holder := hat.older
    rw [hplace] at holder
    exact holder

/-- The request that the retired generation acknowledges goes last, if nothing holds on to it. -/
theorem classifyRetiredAckWitness_ends (found : Retirement) :
    ∃ found', (A.classifyRetiredAckWitness g.state current.state previous.state found).Ends
      A.host m d found' m d ∧ found'.ineligible = found.ineligible ∧
      (found'.eligible = found.eligible ∨ ∃ w payload, A.validator.requiresAckWitness = true ∧
        Answered A d g.state w payload ∧ Loose A d current previous w ∧
        found'.eligible = addLocator found.eligible w) := by
  have hg : g ∈ current :: previous :: g :: rest := by simp
  have hc : current ∈ current :: previous :: g :: rest := by simp
  have hp : previous ∈ current :: previous :: g :: rest := by simp
  simp only [classifyRetiredAckWitness, ends_bind, ends_fields]
  by_cases hskip : g.state.ack.kind = .ack ∧ A.validator.requiresAckWitness = true ∧
      ¬ (((m.inventory.all fun e => e.sha ≠ g.state.ackPendingSha) = true) ∧
        inventoryEntry m.inventory (refLocator g.state.ack) = none)
  · have hfound : ∃ w payload, Answered A d g.state w payload := by
      rcases hremains.witness hskip.2.1 hskip.1 with hfound | ⟨hnone, habsent⟩
      · exact hfound
      · refine absurd ⟨?_, ?_⟩ hskip.2.2
        · rw [hinventory, List.all_eq_true]
          intro e he
          obtain ⟨f, hf, rfl⟩ := List.mem_map.mp he
          rw [decide_eq_true_eq]
          exact hnone f hf
        · rw [hinventory, inventoryEntry, List.find?_eq_none]
          intro e he
          obtain ⟨f, hf, rfl⟩ := List.mem_map.mp he
          rw [decide_eq_true_eq]
          exact Keyed.lookup_none.mp habsent f hf
    obtain ⟨w, payload, hanswered⟩ := hfound
    obtain ⟨g₀, horigin, hlocator⟩ := answered_ref hlive hg hanswered
    have hpending := pending_of_valid (hlive.lineage.valid horigin.mem) horigin.waits
    have href : makeRef .pending w.generation w.ordinal g.state.ackPendingSha g.state.ackRequest =
        g₀.state.pending := by
      have hlabelled := hpending.1.valid
      simp only [localRefValid, LocalRef.labelled, hpending.2, decide_eq_true_eq] at hlabelled
      obtain ⟨-, -, -, -, -, -, -, hid, hrecord, hdeal, hrevision⟩ := hlabelled
      rw [← hlocator, refLocator_of_object hpending.1.object, ← horigin.sha, ← horigin.sequence]
      show ({ LocalRef.empty with
        kind := .pending, generation := g₀.state.pending.generation
        ordinal := g₀.state.pending.ordinal, sha := g₀.state.pending.sha
        sequence := g₀.state.pending.sequence } : LocalRef) = _
      rw [← hpending.2, LocalRef.mk.injEq]
      exact ⟨rfl, rfl, rfl, rfl, rfl, hid.symm, hrecord.symm, hdeal.symm, hrevision.symm⟩
    have hcapture : g₀.state.pending.kind = .capture → g₀.state.pending = g.state.capture := by
      intro hkind
      rw [hpending.2] at hkind
      contradiction
    obtain ⟨b₁, hends₁, hiff₁⟩ := rootProtectedAssociation_names hlive hgranted hinventory
      hc (hlive.current rfl) hg horigin.mem (pending_mem horigin.waits) hcapture
    obtain ⟨b₂, hends₂, hiff₂⟩ := rootProtectedAssociation_names hlive hgranted hinventory
      hp (hlive.parent rfl) hg horigin.mem (pending_mem horigin.waits) hcapture
    obtain ⟨set₁, hset₁, hnames₁⟩ := rootLocators_ends hlive hgranted hinventory
      (hlive.current rfl)
    obtain ⟨set₂, hset₂, hnames₂⟩ := rootLocators_ends hlive hgranted hinventory
      (hlive.parent rfl)
    rw [hlocator] at hiff₁ hiff₂
    have hread := readAckWitness_answered hlive hgranted hinventory hanswered
    by_cases hheld : (b₁ || b₂ || w ∈ set₁ || w ∈ set₂) = true
    · refine ⟨found, ⟨m, m, d, ⟨rfl, rfl, rfl⟩, ?_⟩, rfl, .inl rfl⟩
      rw [if_pos hskip]
      simp only [ends_bind]
      refine ⟨(w, payload), m, d, hread, b₁, m, d, ?_, b₂, m, d, ?_, set₁, m, d, hset₁, set₂, m, d,
        hset₂, ?_⟩
      · rw [href]
        exact hends₁
      · rw [href]
        exact hends₂
      · rw [if_pos hheld]
        exact ends_pure.mpr ⟨rfl, rfl, rfl⟩
    · have hloose : Loose A d current previous w := by
        simp only [Bool.not_eq_true, Bool.or_eq_false_iff] at hheld
        constructor
        · intro hnames
          rw [hiff₁.mpr hnames] at hheld
          exact absurd hheld.1.1.1 (by simp)
        · intro hnames
          rw [hiff₂.mpr hnames] at hheld
          exact absurd hheld.1.1.2 (by simp)
      have hnot : ∀ {root : Generation}, root ∈ current :: previous :: g :: rest →
          ¬ Names A d root.state w →
          pendingHasRetainedAck g₀.state.pending root.state = false := by
        intro root hroot hloose
        rw [Bool.eq_false_iff]
        intro hretained
        simp only [pendingHasRetainedAck, decide_eq_true_eq] at hretained
        exact hloose (names_of_retained hlive hroot hskip.2.1 hanswered hretained.1
          (by rw [hretained.2.1, horigin.sha]))
      have heligible : A.retiredReferenceEligible g₀.state.pending current.state previous.state =
          true := by
        have hle := (hlive.lineage.counters_le g hg).1
        have hanswers := (localStateValid_iff.mp (hlive.lineage.valid hg)).2.2.2.2.2.1
        have hkind : g.state.ack.kind ≠ .absent := by rw [hskip.1]; decide
        simp only [LocalState.ackValid, if_neg hkind, decide_eq_true_eq] at hanswers
        have hsequence : g₀.state.pending.sequence ≤ current.state.acceptedRequest := by
          rw [horigin.sequence, hanswers.2.2.2.1]
          exact hle
        simp only [retiredReferenceEligible, hpending.2, hskip.2.1, if_true, hnot hc hloose.1,
          hnot hp hloose.2, Bool.or_self, Bool.not_false, Bool.and_true, decide_eq_true_eq]
        exact hsequence
      obtain ⟨hidentity, hregistration⟩ := hlive.lineage.same_identity g hg
      refine ⟨{ found with eligible := addLocator found.eligible w },
        ⟨m, m, d, ⟨rfl, rfl, rfl⟩, ?_⟩, rfl,
        .inr ⟨w, payload, hskip.2.1, hanswered, hloose, rfl⟩⟩
      rw [if_pos hskip]
      simp only [ends_bind]
      refine ⟨(w, payload), m, d, hread, b₁, m, d, ?_, b₂, m, d, ?_, set₁, m, d, hset₁, set₂, m, d,
        hset₂, ?_⟩
      · rw [href]
        exact hends₁
      · rw [href]
        exact hends₂
      · rw [if_neg hheld]
        simp only [ends_bind, ends_require]
        refine ⟨(), m, d, ⟨?_, rfl, rfl⟩, ?_⟩
        · rw [decide_eq_true_eq, hidentity, hregistration]
          exact ⟨rfl, rfl⟩
        · rw [href, if_pos heligible]
          exact ends_pure.mpr ⟨rfl, rfl, rfl⟩
  · refine ⟨found, ⟨m, m, d, ⟨rfl, rfl, rfl⟩, ?_⟩, rfl, .inl rfl⟩
    rw [if_neg hskip]
    exact ends_pure.mpr ⟨rfl, rfl, rfl⟩

omit hremains hgranted hinventory in
/-- The request that a generation acknowledges is none of its own records. -/
theorem answered_not_ref {w : Locator} {payload : Bytes}
    (hanswered : Answered A d g.state w payload) (hr : r ∈ objectRefs g.state) :
    refLocator r ≠ w := by
  have hg : g ∈ current :: previous :: g :: rest := by simp
  have hvalid := hlive.lineage.valid hg
  intro heq
  obtain ⟨g₀, horigin, hlocator⟩ := answered_ref hlive hg hanswered
  have hpending := pending_of_valid (hlive.lineage.valid horigin.mem) horigin.waits
  obtain rfl := hlive.lineage.ref_unique hg horigin.mem hr (pending_mem horigin.waits)
    (heq.trans hlocator.symm)
  have hkind := hpending.2
  rcases mem_objectRefs.mp hr with hcapture | hevent | ⟨hw, hsame⟩ | ⟨ha, hsame⟩
  · rw [hcapture, (capture_of_valid hvalid).2] at hkind
    contradiction
  · rw [(event_of_valid hvalid hevent).2] at hkind
    contradiction
  · -- The request that waits has the next number.
    have hwaiting := (localStateValid_iff.mp hvalid).2.2.2.2.1
    simp only [LocalState.pendingValid, if_neg hw, decide_eq_true_eq] at hwaiting
    have hanswers := (localStateValid_iff.mp hvalid).2.2.2.2.2.1
    have hack : g.state.ack.kind ≠ .absent := by rw [hanswered.ack]; decide
    simp only [LocalState.ackValid, if_neg hack, decide_eq_true_eq] at hanswers
    have hsequence := horigin.sequence
    rw [hsame, hwaiting.2.2.2.2.2.1, hwaiting.2.2.2.2.1, hanswers.2.2.2.1] at hsequence
    omega
  · rw [hsame, (ack_of_valid hvalid ha).2] at hkind
    contradiction

omit hremains hgranted hinventory in
/-- Nothing holds on to an answer whose request nothing holds on to. -/
theorem ack_loose {w : Locator} {payload : Bytes}
    (hwitness : A.validator.requiresAckWitness = true)
    (hanswered : Answered A d g.state w payload) (hloose : Loose A d current previous w) :
    Loose A d current previous (refLocator g.state.ack) := by
  have hg : g ∈ current :: previous :: g :: rest := by simp
  have hvalid := hlive.lineage.valid hg
  have hkind : g.state.ack.kind ≠ .absent := by rw [hanswered.ack]; decide
  have hmem : g.state.ack ∈ objectRefs g.state :=
    mem_objectRefs.mpr (.inr (.inr (.inr ⟨hkind, rfl⟩)))
  have hobject := object_of_named (named_of_valid hvalid hmem)
  have hnot : ∀ root ∈ current :: previous :: g :: rest, ¬ Names A d root.state w →
      ¬ Names A d root.state (refLocator g.state.ack) := by
    intro root hroot hloose hnames
    have hrootValid := hlive.lineage.valid hroot
    rcases hnames with hin | ⟨-, p, hother⟩
    · obtain ⟨q, hq, hsame⟩ := (mem_namedLocators_object hobject).mp hin
      obtain rfl := hlive.lineage.ref_unique hroot hg hq hmem hsame
      have hackKind := hanswered.ack
      rcases mem_objectRefs.mp hq with hcapture | hevent | ⟨hw, hpending⟩ | ⟨ha, hack⟩
      · rw [hcapture, (capture_of_valid hrootValid).2] at hackKind
        contradiction
      · rw [(event_of_valid hrootValid hevent).2] at hackKind
        contradiction
      · rw [hpending, (pending_of_valid hrootValid hw).2] at hackKind
        contradiction
      · refine hloose (names_of_retained hlive hroot hwitness hanswered ?_ ?_)
        · rw [← hack]
          exact hanswered.ack
        · exact (hlive.lineage.ackPendingSha_unique hg hroot hkind hack).symm
    · obtain ⟨g₀, horigin, hlocator⟩ := answered_ref hlive hroot hother
      have hpending := pending_of_valid (hlive.lineage.valid horigin.mem) horigin.waits
      have heq := hlive.lineage.ref_unique hg horigin.mem hmem (pending_mem horigin.waits)
        hlocator.symm
      have hackKind := hanswered.ack
      rw [heq, hpending.2] at hackKind
      contradiction
  exact ⟨hnot current (by simp) hloose.1, hnot previous (by simp) hloose.2⟩

omit hremains hgranted hinventory in
theorem ack_eligible (hack : g.state.ack.kind = .ack) :
    A.retiredReferenceEligible g.state.ack current.state previous.state = true := by
  have hg : g ∈ current :: previous :: g :: rest := by simp
  have hkind : g.state.ack.kind ≠ .absent := by rw [hack]; decide
  have hanswers := (localStateValid_iff.mp (hlive.lineage.valid hg)).2.2.2.2.2.1
  simp only [LocalState.ackValid, if_neg hkind, decide_eq_true_eq] at hanswers
  have hle := (hlive.lineage.counters_le g hg).1
  simp only [retiredReferenceEligible, hack, decide_eq_true_eq]
  rw [hanswers.2.2.2.2.1, hanswers.2.2.2.1]
  exact hle

/-- What `Compact` finds of the retired generation, in the order in which it deletes. -/
theorem loadRetiredMetadata_finds :
    ∃ found, (A.loadRetiredMetadata g.state.generation g.commitSha current.state
        previous.state).Ends A.host m d found m d ∧ found.eligible.Nodup ∧
      (∀ l ∈ found.eligible, d.find l ≠ none) ∧
      ∀ j, Deletable A d current previous g (found.eligible.take j) := by
  have hg : g ∈ current :: previous :: g :: rest := by simp
  have hvalid := hlive.lineage.valid hg
  obtain ⟨found₁, hends₁, hclassified⟩ := classifyRetiredReferences_classified hlive hremains
    hgranted hinventory (fun r (hr : r ∈ objectRefs g.state) => hr) ⟨[], false⟩
  obtain ⟨found₂, hends₂, -, hlast⟩ := classifyRetiredAckWitness_ends hlive hremains hgranted
    hinventory { eligible := SortBy.sortBy locatorKey found₁.eligible
                 ineligible := found₁.ineligible || strayObject g.state m.inventory }
  have hmem₁ : ∀ l, l ∈ SortBy.sortBy locatorKey found₁.eligible ↔ ∃ r ∈ objectRefs g.state,
      refLocator r = l ∧ Free A d current previous r ∧
      A.retiredReferenceEligible r current.state previous.state = true := by
    intro l
    rw [SortBy.mem_sortBy, hclassified.mem]
    simp
  have hnodup₁ : (SortBy.sortBy locatorKey found₁.eligible).Nodup :=
    (SortBy.sortBy_perm locatorKey found₁.eligible).nodup_iff.mpr
      (hclassified.nodup List.nodup_nil)
  have heach : ∀ l ∈ found₂.eligible,
      (∃ r ∈ objectRefs g.state, refLocator r = l ∧ Free A d current previous r ∧
        A.retiredReferenceEligible r current.state previous.state = true) ∨
      (A.validator.requiresAckWitness = true ∧ ∃ payload, Answered A d g.state l payload ∧
        Loose A d current previous l) := by
    intro l hl
    rcases hlast with heq | ⟨w, payload, hwitness, hanswered, hloose, heq⟩
    · rw [heq] at hl
      exact .inl ((hmem₁ l).mp hl)
    · rw [heq, mem_addLocator] at hl
      rcases hl with hl | rfl
      · exact .inl ((hmem₁ l).mp hl)
      · exact .inr ⟨hwitness, payload, hanswered, hloose⟩
  refine ⟨found₂, ?_, ?_, ?_, ?_⟩
  · have hregistration : A.Verified (d.entries A.sha) d g.state g.state.registration := by
      have hsame := (hlive.lineage.same_identity g hg).2
      obtain ⟨payload, hpayload, htyped⟩ := (hlive.current rfl).refs _ List.mem_cons_self
      have hkind := registration_of_valid hvalid
      rw [hsame] at hkind ⊢
      refine ⟨payload, hpayload, ?_⟩
      simp only [Typed, hkind] at htyped ⊢
      exact htyped
    have hsameSha : g.state.registration.sha = current.state.registration.sha := by
      rw [(hlive.lineage.same_identity g hg).2]
    simp only [loadRetiredMetadata, ends_bind, ends_require, ends_mapFail, ends_fields,
      readCommitMetadata_ends, readStateMetadata_ends, verifyTypedReference_ends]
    refine ⟨(g.commit, g.commitSha), m, d, ⟨hgranted, hremains.data.commitAt, rfl, rfl⟩, (), m, d,
      ⟨by simp, rfl, rfl⟩, g.state, m, d, ⟨hgranted, hremains.data.stateAt, rfl, rfl⟩, (), m, d,
      ⟨?_, rfl, rfl⟩, (), m, d, ⟨by rw [decide_eq_true_eq]; exact hsameSha, rfl, rfl⟩, (), m, d,
      ⟨hgranted, ?_, rfl, rfl⟩, found₁, m, d, hends₁, m, m, d, ⟨rfl, rfl, rfl⟩, hends₂⟩
    · rw [decide_eq_true_eq]
      exact ⟨hremains.data.identity, hremains.data.registration, hremains.data.parentGeneration,
        hremains.data.parentSha⟩
    · rw [hinventory]
      exact hregistration
  · rcases hlast with heq | ⟨w, payload, hwitness, hanswered, hloose, heq⟩
    · rw [heq]
      exact hnodup₁
    · rw [heq]
      exact nodup_addLocator hnodup₁
  · intro l hl
    rcases heach l hl with ⟨r, hr, rfl, hfree, -⟩ | ⟨-, payload, hanswered, -⟩
    · exact hfree.present
    · obtain ⟨f, hfind, -⟩ := hanswered.record
      rw [hfind]
      simp
  · intro j
    have htake : ∀ l ∈ found₂.eligible.take j, l ∈ found₂.eligible :=
      fun l hl => List.mem_of_mem_take hl
    refine ⟨?_, ?_, ?_, ?_, ?_⟩
    · intro l hl
      rcases heach l (htake l hl) with ⟨r, hr, rfl, hfree, -⟩ | ⟨-, payload, -, hloose⟩
      · exact hfree.loose
      · exact hloose
    · intro l hl
      rcases heach l (htake l hl) with ⟨r, hr, rfl, -⟩ | ⟨-, payload, hanswered, -⟩
      · exact object_of_named (named_of_valid hvalid hr)
      · obtain ⟨g₀, horigin, rfl⟩ := answered_ref hlive hg hanswered
        exact object_of_named
          (pending_of_valid (hlive.lineage.valid horigin.mem) horigin.waits).1
    · intro l hl
      rcases heach l (htake l hl) with ⟨r, hr, rfl, -⟩ | ⟨-, payload, hanswered, -⟩
      · have hnamed := named_of_valid hvalid hr
        rw [refLocator_of_object hnamed.object]
        exact hnamed.generation
      · have hkind : g.state.ack.kind ≠ .absent := by rw [hanswered.ack]; decide
        have hle := (ack_of_valid hvalid hkind).1.generation
        have holder := hanswered.older
        omega
    · intro r hr hin
      rcases heach _ (htake _ hin) with ⟨q, hq, hsame, -, heligible⟩ | ⟨-, payload, hanswered, -⟩
      · rw [← eq_of_refLocator hvalid hq hr hsame]
        exact heligible
      · exact absurd rfl (answered_not_ref hlive hanswered hr)
    · rintro l hl ⟨payload, hanswered⟩
      rcases hlast with heq | ⟨w, payload', hwitness, hanswered', hloose, heq⟩
      · have hin := htake l hl
        rw [heq, hmem₁] at hin
        obtain ⟨r, hr, hsame, -⟩ := hin
        exact absurd hsame (answered_not_ref hlive hanswered hr)
      · obtain rfl : w = l := hlive.answered_unique (hlive.answered_of_find hanswered')
          (hlive.answered_of_find hanswered) rfl
        have hnotIn : w ∉ SortBy.sortBy locatorKey found₁.eligible := by
          rw [hmem₁]
          rintro ⟨r, hr, hsame, -⟩
          exact answered_not_ref hlive hanswered hr hsame
        rw [addLocator, if_neg hnotIn] at heq
        change found₂.eligible = SortBy.sortBy locatorKey found₁.eligible ++ [w] at heq
        -- All other records stand before the request.
        have hall : (SortBy.sortBy locatorKey found₁.eligible).length < j := by
          by_contra hshort
          rw [heq, List.take_append_of_le_length (Nat.le_of_not_lt hshort)] at hl
          exact hnotIn (List.mem_of_mem_take hl)
        have hkind : g.state.ack.kind ≠ .absent := by rw [hanswered.ack]; decide
        have hack : g.state.ack ∈ objectRefs g.state :=
          mem_objectRefs.mpr (.inr (.inr (.inr ⟨hkind, rfl⟩)))
        by_cases habsent : d.find (refLocator g.state.ack) = none
        · exact .inl habsent
        · refine .inr ?_
          rw [heq, List.take_of_length_le
            (by rw [List.length_append, List.length_singleton]; omega), List.mem_append]
          exact .inl ((hmem₁ _).mpr ⟨g.state.ack, hack, rfl,
            ⟨ack_loose hlive hwitness hanswered hloose, habsent⟩,
            ack_eligible hlive hanswered.ack⟩)

end Classification

end TradeOps.Agent
