import TradeOps.Agent.Retirement

/-!
# Outcomes of compaction

Wherever `Compact` is stopped, the store is live: it has the root of before or the checkpoint that
the completed call publishes, and the records that were deleted are some of those that neither the
root nor its parent names. Called again on such a store, it finds its way.
-/

namespace TradeOps.Agent

open Prog TelemetryState

variable {A : TelemetryState} {m m' : Fields} {d d' d₀ t : Disk} {hist rest : List Generation}
  {current previous g : Generation} {l : Locator} {ls : List Locator}

/-! ## Deleting -/

theorem deleteExact_state (session : Nat) (l : Locator) (expectedSha : Text) :
    (A.host (.deleteExact session l expectedSha) d).2 = d ∨
      (A.host (.deleteExact session l expectedSha) d).2 = d.delete l := by
  simp only [host, Disk.host]
  split
  · exact .inl rfl
  · split
    · unfold Disk.deleteExact
      split
      · split
        · split
          · exact .inr rfl
          · exact .inl rfl
        · exact .inl rfl
      · exact .inl rfl
    · exact .inl rfl

theorem deleteAuthorized_visits {n : Nat} (h : (A.deleteAuthorized l n).Visits A.host m d t) :
    t = d ∨ t = d.delete l := by
  rcases visits_bind h with hread | ⟨_, m₁, d₁, hends, h⟩
  · exact .inl ((readOnly_require _ _).visits hread)
  obtain ⟨-, rfl, rfl⟩ := ends_require.mp hends
  rcases visits_bind h with hread | ⟨_, m₁, d₁, hends, h⟩
  · exact .inl (only_fields.visits (Disk.host_reads A.sha) hread)
  obtain ⟨rfl, rfl, rfl⟩ := ends_fields.mp hends
  split at h
  next => exact .inl h
  next entry hentry =>
    rcases visits_bind h with hread | ⟨_, m₁, d₁, hends, h⟩
    · exact .inl ((readOnly_require _ _).visits hread)
    obtain ⟨-, rfl, rfl⟩ := ends_require.mp hends
    rcases visits_bind h with hread | ⟨session, m₁, d₁, hends, h⟩
    · exact .inl ((readOnly_guard false).visits hread)
    obtain ⟨-, -, -, hm, hd⟩ := guard_ends.mp hends
    subst m₁ d₁
    rcases visits_bind h with hdelete | ⟨reply, m₂, d₂, hends, h⟩
    · rcases visits_call.mp hdelete with rfl | rfl
      · exact .inl rfl
      · exact deleteExact_state session l entry.sha
    · have hcall := (ends_call.mp hends).1
      have hstate := deleteExact_state (A := A) (d := d) session l entry.sha
      rw [hcall] at hstate
      have hdone : t = d₂ := h
      rw [hdone]
      exact hstate

theorem deleteAuthorized_ends {n : Nat} {u : Unit}
    (h : (A.deleteAuthorized l n).Ends A.host m d u m' d') : m' = m ∧ d' = d.delete l := by
  simp only [deleteAuthorized, ends_bind, ends_require, ends_fields] at h
  obtain ⟨-, m₁, d₁, ⟨-, rfl, rfl⟩, _, m₂, d₂, ⟨rfl, rfl, rfl⟩, h⟩ := h
  split at h
  next => exact absurd h ends_fail
  next entry hentry =>
    simp only [ends_bind, ends_require, guard_ends] at h
    obtain ⟨-, m₃, d₃, ⟨-, rfl, rfl⟩, session, m₄, d₄, ⟨-, -, -, rfl, rfl⟩, reply, m₅, d₅,
      hdelete, h⟩ := h
    obtain ⟨-, rfl, rfl⟩ := ends_pure.mp h
    obtain ⟨hcall, rfl⟩ := ends_call.mp hdelete
    refine ⟨rfl, ?_⟩
    simp only [host, Disk.host] at hcall
    split at hcall
    next => simp at hcall
    next =>
      split at hcall
      next =>
        unfold Disk.deleteExact at hcall
        split at hcall
        next f hfind =>
          split at hcall
          next =>
            split at hcall
            next => exact (Prod.mk.inj hcall).2.symm
            next => simp at hcall
          next => simp at hcall
        next hfind =>
          rw [Disk.delete_of_find_none hfind]
          exact (Prod.mk.inj hcall).2.symm
      next => simp at hcall

theorem inventoryEntry_entries {f : StoredRecord} {sha : Sha256} (h : d.find l = some f) :
    inventoryEntry (d.entries sha) l = some (Disk.entryFor sha f) := by
  rw [inventoryEntry, Disk.entries, List.find?_map]
  have hfind : d.files.find? ((fun e : StorageEntry => decide (e.locator = l)) ∘
      Disk.entryFor sha) = some f := h
  rw [hfind]
  rfl

theorem inventoryEntry_none {sha : Sha256} (h : d.find l = none) :
    inventoryEntry (d.entries sha) l = none := by
  rw [inventoryEntry, Disk.entries, List.find?_map]
  have hfind : d.files.find? ((fun e : StorageEntry => decide (e.locator = l)) ∘
      Disk.entryFor sha) = none := h
  rw [hfind]
  rfl

/-- A record that the inventory lists, and that is still there, is deleted. -/
theorem deleteAuthorized_completes {n : Nat} {f : StoredRecord} (hn : n < deleteBatch)
    (hgranted : A.Granted m d) (hready : m.reloadRequired = false)
    (hinventory : m.inventory = d₀.entries A.sha) (hlisted : d₀.find l = some f)
    (hfind : d.find l = some f) (hplaced : Disk.Placed A.sha f) :
    (A.deleteAuthorized l n).Ends A.host m d () m (d.delete l) := by
  obtain ⟨session, hsession, howner⟩ := hgranted.session
  have hlocator := (Disk.mem_of_find hfind).2
  have hdigest : digest (A.sha.hex f.bytes) = true := (Disk.localHash_some hplaced.hash).2.2
  simp only [deleteAuthorized, ends_bind, ends_require, ends_fields]
  refine ⟨(), m, d, ⟨by rw [decide_eq_true_eq]; exact hn, rfl, rfl⟩, m, m, d, ⟨rfl, rfl, rfl⟩, ?_⟩
  rw [hinventory, inventoryEntry_entries hlisted]
  simp only [ends_bind, ends_require, guard_ends]
  refine ⟨(), m, d, ⟨hdigest, rfl, rfl⟩, session, m, d,
    ⟨hgranted, hsession, .inl hready, rfl, rfl⟩, .deleted, m, d.delete l, ?_,
    ends_pure.mpr ⟨rfl, rfl, rfl⟩⟩
  refine ends_call.mpr ⟨?_, rfl⟩
  have haddress : Disk.addressable l = true := by
    rw [← hlocator]
    exact hplaced.addressable
  have hno : ¬ (Disk.addressable l = false ∨ digest (Disk.entryFor A.sha f).sha = false) := by
    rw [haddress]
    show ¬ (_ ∨ digest (A.sha.hex f.bytes) = false)
    rw [hdigest]
    simp
  simp only [host, Disk.host]
  rw [if_neg hno, if_pos howner, Disk.deleteExact, hfind]
  simp only [hplaced.hash]
  exact if_pos rfl

theorem deleteAll_visits {n : Nat} (h : (A.deleteAll ls n).Visits A.host m d t) :
    ∃ j, t = d.deleteMany (ls.take j) := by
  induction ls generalizing d n with
  | nil =>
    refine ⟨0, ?_⟩
    rw [List.take_zero, Disk.deleteMany_nil]
    exact h
  | cons l rest ih =>
    rcases visits_bind h with hfirst | ⟨u, m₁, d₁, hfirst, hrest⟩
    · rcases deleteAuthorized_visits hfirst with rfl | rfl
      · exact ⟨0, by rw [List.take_zero, Disk.deleteMany_nil]⟩
      · exact ⟨1, by rw [← Disk.deleteMany_nil (d.delete l), Disk.deleteMany_cons]; simp⟩
    · obtain ⟨rfl, rfl⟩ := deleteAuthorized_ends hfirst
      obtain ⟨j, rfl⟩ := ih hrest
      exact ⟨j + 1, by rw [List.take_succ_cons, Disk.deleteMany_cons]⟩

theorem deleteAll_ends {n : Nat} {u : Unit} (h : (A.deleteAll ls n).Ends A.host m d u m' d') :
    m' = m ∧ d' = d.deleteMany ls := by
  induction ls generalizing d n with
  | nil =>
    obtain ⟨-, rfl, rfl⟩ := ends_pure.mp h
    exact ⟨rfl, (Disk.deleteMany_nil _).symm⟩
  | cons l rest ih =>
    simp only [deleteAll, ends_bind] at h
    obtain ⟨u₁, m₁, d₁, hfirst, hrest⟩ := h
    obtain ⟨rfl, rfl⟩ := deleteAuthorized_ends hfirst
    rw [← Disk.deleteMany_cons]
    exact ih hrest

theorem deleteAll_completes {n : Nat} (hn : n + ls.length ≤ deleteBatch)
    (hgranted : A.Granted m d) (hready : m.reloadRequired = false)
    (hinventory : m.inventory = d₀.entries A.sha) (hnodup : ls.Nodup)
    (hfind : ∀ l ∈ ls, ∃ f, d₀.find l = some f ∧ d.find l = some f ∧ Disk.Placed A.sha f) :
    (A.deleteAll ls n).Ends A.host m d () m (d.deleteMany ls) := by
  induction ls generalizing d n with
  | nil =>
    rw [Disk.deleteMany_nil]
    exact ends_pure.mpr ⟨rfl, rfl, rfl⟩
  | cons l rest ih =>
    rw [List.length_cons] at hn
    rw [List.nodup_cons] at hnodup
    obtain ⟨f, hlisted, hat, hplaced⟩ := hfind l List.mem_cons_self
    have hfirst := deleteAuthorized_completes (n := n) (by omega) hgranted hready hinventory
      hlisted hat hplaced
    refine ends_bind.mpr ⟨(), m, d.delete l, hfirst, ?_⟩
    rw [← Disk.deleteMany_cons]
    refine ih (by omega) ⟨hgranted.isOpen, hgranted.session, hgranted.key, hgranted.identity⟩
      hnodup.2 ?_
    intro l' hl'
    obtain ⟨f', hlisted', hat', hplaced'⟩ := hfind l' (List.mem_cons_of_mem l hl')
    refine ⟨f', hlisted', ?_, hplaced'⟩
    have hne : l' ≠ l := fun heq => hnodup.1 (heq ▸ hl')
    rw [Disk.find_delete, if_neg hne]
    exact hat'

/-! ## The programs that only read -/

namespace TelemetryState

theorem readOnly_rootLocators (state : LocalState) : ReadOnly (A.rootLocators state) := by
  unfold rootLocators
  split
  · exact only_bind (only_mapFail (readOnly_readAckWitness _)) fun _ => only_pure _
  · exact only_pure _

theorem readOnly_rootProtectedAssociation (r : LocalRef) (retired root : LocalState) :
    ReadOnly (A.rootProtectedAssociation r retired root) := by
  unfold rootProtectedAssociation
  split
  · exact only_fail _
  · split
    · refine only_bind (readOnly_readAckWitness _) fun found => ?_
      simp only
      split
      · exact only_bind (only_require _ _) fun _ => only_pure _
      · exact only_pure _
    · exact only_pure _

theorem readOnly_protectedAssociation (r : LocalRef) (retired current previous : LocalState) :
    ReadOnly (A.protectedAssociation r retired current previous) := by
  refine only_bind (readOnly_rootProtectedAssociation _ _ _) fun _ =>
    only_bind (readOnly_rootProtectedAssociation _ _ _) fun _ => ?_
  split
  · exact only_bind (readOnly_verifyTypedReference _ _) fun _ => only_pure _
  · exact only_pure _

theorem readOnly_classifyRetiredReference (retired current previous : LocalState) (r : LocalRef)
    (found : Retirement) :
    ReadOnly (A.classifyRetiredReference retired current previous r found) := by
  refine only_bind (readOnly_protectedAssociation _ _ _ _) fun _ => ?_
  split
  · exact only_pure _
  · refine only_bind (only_mapFail (readOnly_readReferencePayload _)) fun o => ?_
    cases o with
    | none => exact only_bind (only_require _ _) fun _ => only_pure _
    | some payload =>
      refine only_bind (readOnly_typedPayloadValid _ _ _ _) fun _ => ?_
      split
      · exact only_pure _
      · exact only_pure _

theorem readOnly_classifyRetiredReferences (retired current previous : LocalState)
    (refs : List LocalRef) (found : Retirement) :
    ReadOnly (A.classifyRetiredReferences retired current previous refs found) := by
  induction refs generalizing found with
  | nil => exact only_pure _
  | cons r rest ih =>
    exact only_bind (readOnly_classifyRetiredReference _ _ _ _ _) fun _ => ih _

theorem readOnly_classifyRetiredAckWitness (retired current previous : LocalState)
    (found : Retirement) :
    ReadOnly (A.classifyRetiredAckWitness retired current previous found) := by
  refine only_bind only_fields fun m => ?_
  split
  · refine only_bind (readOnly_readAckWitness _) fun _ =>
      only_bind (readOnly_rootProtectedAssociation _ _ _) fun _ =>
        only_bind (readOnly_rootProtectedAssociation _ _ _) fun _ =>
          only_bind (readOnly_rootLocators _) fun _ =>
            only_bind (readOnly_rootLocators _) fun _ => ?_
    split
    · exact only_pure _
    · refine only_bind (only_require _ _) fun _ => ?_
      split
      · exact only_pure _
      · exact only_pure _
  · exact only_pure _

theorem readOnly_loadRetiredMetadata (generation : Nat) (sha : Text)
    (current previous : LocalState) :
    ReadOnly (A.loadRetiredMetadata generation sha current previous) :=
  only_bind (readOnly_readCommitMetadata _) fun _ => only_bind (only_require _ _) fun _ =>
    only_bind (readOnly_readStateMetadata _ _) fun _ => only_bind (only_require _ _) fun _ =>
      only_bind (only_require _ _) fun _ =>
        only_bind (only_mapFail (readOnly_verifyTypedReference _ _)) fun _ =>
          only_bind (readOnly_classifyRetiredReferences _ _ _ _ _) fun _ =>
            only_bind only_fields fun _ => readOnly_classifyRetiredAckWitness _ _ _ _

theorem readOnly_verifiedCurrent : ReadOnly A.verifiedCurrent :=
  only_bind only_fields fun _ => only_bind (only_mapFail (readOnly_loadRoot _)) fun _ =>
    only_bind (only_require _ _) fun _ => only_pure _

theorem readOnly_parentRoot : ReadOnly A.parentRoot :=
  only_bind only_fields fun _ => only_bind (only_mapFail (readOnly_loadRoot _)) fun _ =>
    only_bind (only_require _ _) fun _ => only_pure _

theorem readOnly_revalidateRoots : ReadOnly A.revalidateRoots :=
  only_bind (only_mapFail readOnly_requireInventory) fun _ => only_bind only_fields fun _ =>
    only_bind (only_mapFail (readOnly_loadRoot _)) fun _ => only_bind (only_require _ _) fun _ =>
      only_bind readOnly_parentRoot fun _ => only_pure _

theorem readOnly_unfinishedCleanup (transition : Transition) :
    ReadOnly (A.unfinishedCleanup transition) := by
  refine only_bind only_fields fun m => ?_
  split
  · refine only_bind readOnly_parentRoot fun previous => ?_
    split
    · split
      · exact only_pure _
      · exact only_bind (only_require _ _) fun _ => only_pure _
      · exact only_fail _
      · exact only_pure _
    · exact only_pure _
  · exact only_pure _

end TelemetryState

/-! ## The kept generations are read again -/

section Kept

variable (hlive : Live A d (current :: rest)) (hroot : AtRoot A m d current)
include hlive hroot

theorem AtRoot.requireInventory : A.requireInventory.Ends A.host m d () m d := by
  refine requireInventory_ends.mpr ⟨hroot.granted, ⟨_, _, hlive.listed, ?_⟩, rfl⟩
  rw [lists, ← hroot.inventory, ← hroot.highest]

theorem AtRoot.loadCurrent :
    (A.loadRoot m.state.generation).Ends A.host m d (current.state, current.commitSha) m d := by
  refine loadRoot_ends.mpr ⟨hroot.granted, ⟨current.commit, ?_⟩, rfl, rfl⟩
  rw [hroot.inventory, hroot.state]
  exact hlive.current rfl

theorem AtRoot.verifiedCurrent : A.verifiedCurrent.Ends A.host m d current.state m d := by
  simp only [TelemetryState.verifiedCurrent, ends_bind, ends_fields, ends_mapFail, ends_require]
  refine ⟨m, m, d, ⟨rfl, rfl, rfl⟩, _, m, d, hroot.loadCurrent hlive, (), m, d, ⟨?_, rfl, rfl⟩,
    ends_pure.mpr ⟨rfl, rfl, rfl⟩⟩
  rw [decide_eq_true_eq, hroot.state, hroot.commitSha]
  exact ⟨rfl, (sameState_iff (hlive.current rfl).data.stateAt.encodes).mpr rfl⟩

theorem AtRoot.readCommitMetadata :
    (A.readCommitMetadata m.state.generation).Ends A.host m d (current.commit, current.commitSha)
      m d := by
  refine readCommitMetadata_ends.mpr ⟨hroot.granted, ?_, rfl, rfl⟩
  rw [hroot.state]
  exact (hlive.current rfl).data.commitAt

end Kept

theorem AtRoot.parentRoot (hlive : Live A d (current :: previous :: rest))
    (hroot : AtRoot A m d current) : A.parentRoot.Ends A.host m d previous.state m d := by
  have hparent := hlive.lineage.parent
  simp only [TelemetryState.parentRoot, ends_bind, ends_fields, ends_mapFail, ends_require,
    loadRoot_ends]
  refine ⟨m, m, d, ⟨rfl, rfl, rfl⟩, (previous.state, previous.commitSha), m, d,
    ⟨hroot.granted, ⟨previous.commit, ?_⟩, rfl, rfl⟩, (), m, d, ⟨?_, rfl, rfl⟩,
    ends_pure.mpr ⟨rfl, rfl, rfl⟩⟩
  · rw [hroot.inventory, hroot.state, hparent.1]
    exact hlive.parent rfl
  · rw [decide_eq_true_eq, hroot.state, hparent.2]

theorem AtRoot.revalidateRoots (hlive : Live A d (current :: previous :: rest))
    (hroot : AtRoot A m d current) : A.revalidateRoots.Ends A.host m d () m d := by
  simp only [TelemetryState.revalidateRoots, ends_bind, ends_fields, ends_mapFail, ends_require]
  refine ⟨(), m, d, hroot.requireInventory hlive, m, m, d, ⟨rfl, rfl, rfl⟩, _, m, d,
    hroot.loadCurrent hlive, (), m, d, ⟨?_, rfl, rfl⟩, _, m, d, hroot.parentRoot hlive,
    ends_pure.mpr ⟨rfl, rfl, rfl⟩⟩
  rw [decide_eq_true_eq, hroot.commitSha]

/-! ## Retiring a generation -/

/-- A program that keeps a store live wherever it is stopped, and that comes to its end. -/
structure Retires (A : TelemetryState) (p : Act Unit) (m : Fields) (d : Disk)
    (hist : List Generation) : Prop where
  visits : ∀ t, p.Visits A.host m d t → Live A t hist ∧ t.written = d.written
  ends : ∃ d', p.Ends A.host m d () m d'

theorem visits_read {α β : Type} {p : Act α} {k : α → Act β} {a : α} {m₁ : Fields}
    (hp : ReadOnly p) (hends : p.Ends A.host m d a m₁ d) (h : (p >>= k).Visits A.host m d t) :
    t = d ∨ (k a).Visits A.host m₁ d t := by
  rcases visits_bind h with hread | ⟨a', m', d', hends', hrest⟩
  · exact .inl (hp.visits hread)
  · obtain ⟨rfl, rfl, rfl⟩ := hends.unique hends'
    exact .inr hrest

theorem retires_read {α : Type} {p : Act α} {k : α → Act Unit} {a : α} (hlive : Live A d hist)
    (hp : ReadOnly p) (hends : p.Ends A.host m d a m d) (hk : Retires A (k a) m d hist) :
    Retires A (p >>= k) m d hist := by
  constructor
  · intro t h
    rcases visits_read hp hends h with rfl | hrest
    · exact ⟨hlive, rfl⟩
    · exact hk.visits t hrest
  · obtain ⟨d', hends'⟩ := hk.ends
    exact ⟨d', ends_bind.mpr ⟨a, m, d, hends, hends'⟩⟩

/-- The state and the commit of the retired generation are named by no kept one. -/
theorem loose_meta (hlive : Live A d (current :: previous :: g :: rest))
    (hkind : l.kind = .state ∨ l.kind = .commit) (hgeneration : l.generation = g.state.generation) :
    Loose A d current previous l := by
  have hnot : ∀ root ∈ current :: previous :: g :: rest,
      g.state.generation < root.state.generation → ¬ Names A d root.state l := by
    intro root hmem hlt hnames
    have hvalid := hlive.lineage.valid hmem
    have hobject : l.kind ≠ .object := by rcases hkind with h | h <;> rw [h] <;> decide
    rcases hnames with hin | ⟨-, payload, hanswered⟩
    · simp only [namedLocators, List.mem_append, List.mem_cons, List.not_mem_nil, or_false,
        List.mem_map] at hin
      have hrefs : ∀ q ∈ objectRefs root.state, l ≠ refLocator q := fun q hq heq =>
        hobject (by rw [heq]; exact object_of_named (named_of_valid hvalid hq))
      rcases hin with (((rfl | rfl | rfl | rfl) | ⟨q, hq, rfl⟩) | hin) | hin
      · rcases hkind with h | h <;> exact absurd h (by decide)
      · exact absurd hgeneration (Nat.ne_of_gt hlt)
      · exact absurd hgeneration (Nat.ne_of_gt hlt)
      · exact hrefs _ (mem_objectRefs.mpr (.inl rfl)) rfl
      · exact hrefs q (mem_objectRefs.mpr (.inr (.inl hq))) rfl
      · split at hin
        next => exact absurd hin List.not_mem_nil
        next hw =>
          exact hrefs _ (mem_objectRefs.mpr (.inr (.inr (.inl ⟨hw, rfl⟩))))
            (List.mem_singleton.mp hin)
      · split at hin
        next => exact absurd hin List.not_mem_nil
        next ha =>
          exact hrefs _ (mem_objectRefs.mpr (.inr (.inr (.inr ⟨ha, rfl⟩))))
            (List.mem_singleton.mp hin)
    · obtain ⟨g₀, horigin, rfl⟩ := answered_ref hlive hmem hanswered
      exact hobject (object_of_named
        (pending_of_valid (hlive.lineage.valid horigin.mem) horigin.waits).1)
  have hcurrent : g.state.generation < current.state.generation :=
    hlive.lineage.generation_lt (by simp)
  have hprevious : g.state.generation < previous.state.generation :=
    hlive.lineage.tail.generation_lt (by simp)
  exact ⟨hnot current (by simp) hcurrent, hnot previous (by simp) hprevious⟩

/-- After the objects, the state and then the commit. -/
theorem live_headless (hlive : Live A d (current :: previous :: g :: rest))
    (hremains : Remains A d current.state previous.state g)
    (hdeletable : Deletable A d current previous g ls) :
    Live A (d.deleteMany (ls ++ [stateLocator g.state.generation]))
        (current :: previous :: g :: rest) ∧
      Live A (d.deleteMany (ls ++ [stateLocator g.state.generation,
        commitLocator g.state.generation])) (current :: previous :: g :: rest) := by
  have hstate := loose_meta hlive (l := stateLocator g.state.generation) (.inl rfl) rfl
  have hcommit := loose_meta hlive (l := commitLocator g.state.generation) (.inr rfl) rfl
  constructor
  · refine hlive.delete ?_ ?_ (.headless ?_ (hremains.data.commitAt.transfer ?_))
    · intro l hl
      rcases List.mem_append.mp hl with hl | hl
      · exact hdeletable.loose l hl
      · rw [List.mem_singleton.mp hl]
        exact hstate
    · intro l hl
      rcases List.mem_append.mp hl with hl | hl
      · exact hdeletable.older l hl
      · rw [List.mem_singleton.mp hl]
        exact Nat.le_refl _
    · rw [Disk.find_deleteMany, if_pos (by simp)]
    · intro f hf
      rw [Disk.find_deleteMany_of_not_mem, hf]
      intro hin
      rcases List.mem_append.mp hin with hin | hin
      · exact absurd (hdeletable.object _ hin) (by simp [commitLocator])
      · exact absurd (List.mem_singleton.mp hin) (by simp [commitLocator, stateLocator])
  · refine hlive.delete ?_ ?_ (.gone ?_ ?_)
    · intro l hl
      rcases List.mem_append.mp hl with hl | hl
      · exact hdeletable.loose l hl
      · simp only [List.mem_cons, List.not_mem_nil, or_false] at hl
        rcases hl with rfl | rfl
        · exact hstate
        · exact hcommit
    · intro l hl
      rcases List.mem_append.mp hl with hl | hl
      · exact hdeletable.older l hl
      · simp only [List.mem_cons, List.not_mem_nil, or_false] at hl
        rcases hl with rfl | rfl <;> exact Nat.le_refl _
    · rw [Disk.find_deleteMany, if_pos (by simp)]
    · rw [Disk.find_deleteMany, if_pos (by simp)]

theorem deleteRetired_retires {found : Retirement}
    (hlive : Live A d (current :: previous :: g :: rest)) (hroot : AtRoot A m d current)
    (hremains : Remains A d current.state previous.state g) (hnodup : found.eligible.Nodup)
    (hpresent : ∀ l ∈ found.eligible, d.find l ≠ none)
    (hdeletable : ∀ j, Deletable A d current previous g (found.eligible.take j)) :
    Retires A (A.deleteRetired g.state.generation found) m d
      (current :: previous :: g :: rest) := by
  have hpart : ∀ j, Live A (d.deleteMany (found.eligible.take j))
      (current :: previous :: g :: rest) := by
    intro j
    exact hlive.delete (hdeletable j).loose (hdeletable j).older
      (.remains (hremains.delete hlive (hdeletable j)))
  have hfound : ∀ l ∈ found.eligible, ∃ f, d.find l = some f ∧ Disk.Placed A.sha f := by
    intro l hl
    cases hfind : d.find l with
    | none => exact absurd hfind (hpresent l hl)
    | some f => exact ⟨f, rfl, hlive.sound.placed f (Disk.mem_of_find hfind).1⟩
  generalize hlimit : (if found.ineligible then deleteBatch else deleteBatch - 2) = limit
  have hlimitLe : limit ≤ deleteBatch := by
    rw [← hlimit]
    split <;> decide
  have hbatch : (found.eligible.take limit).length ≤ limit := List.length_take_le _ _
  have hfirst : (A.deleteAll (found.eligible.take limit) 0).Ends A.host m d () m
      (d.deleteMany (found.eligible.take limit)) := by
    refine deleteAll_completes (by omega) hroot.granted hroot.ready hroot.inventory
      (List.Nodup.sublist (List.take_sublist _ _) hnodup) ?_
    intro l hl
    obtain ⟨f, hfind, hplaced⟩ := hfound l (List.mem_of_mem_take hl)
    exact ⟨f, hfind, hfind, hplaced⟩
  have hunfold : A.deleteRetired g.state.generation found = (do
      A.deleteAll (found.eligible.take limit) 0
      if limit < found.eligible.length ∨ found.ineligible = true then pure ()
      else
        A.deleteAll [stateLocator g.state.generation, commitLocator g.state.generation]
          (found.eligible.take limit).length) := by
    rw [deleteRetired, hlimit]
  rw [hunfold]
  by_cases hmore : limit < found.eligible.length ∨ found.ineligible = true
  · rw [if_pos hmore]
    constructor
    · intro t h
      rcases visits_bind h with hvisit | ⟨u, m₁, d₁, hends, hrest⟩
      · obtain ⟨j, rfl⟩ := deleteAll_visits hvisit
        rw [List.take_take]
        exact ⟨hpart _, rfl⟩
      · obtain ⟨-, rfl⟩ := deleteAll_ends hends
        have hdone : t = d.deleteMany (found.eligible.take limit) := hrest
        rw [hdone]
        exact ⟨hpart _, rfl⟩
    · exact ⟨_, ends_bind.mpr ⟨(), m, _, hfirst, ends_pure.mpr ⟨rfl, rfl, rfl⟩⟩⟩
  · rw [if_neg hmore]
    have hheadless := live_headless hlive hremains (hdeletable limit)
    rw [not_or] at hmore
    have hsmall : limit = deleteBatch - 2 := by
      rw [← hlimit, if_neg hmore.2]
    constructor
    · intro t h
      rcases visits_bind h with hvisit | ⟨u, m₁, d₁, hends, hrest⟩
      · obtain ⟨j, rfl⟩ := deleteAll_visits hvisit
        rw [List.take_take]
        exact ⟨hpart _, rfl⟩
      · obtain ⟨-, rfl⟩ := deleteAll_ends hends
        obtain ⟨j, rfl⟩ := deleteAll_visits hrest
        rw [Disk.deleteMany_append]
        match j with
        | 0 =>
          rw [List.take_zero, List.append_nil]
          exact ⟨hpart _, rfl⟩
        | 1 => exact ⟨hheadless.1, rfl⟩
        | j + 2 =>
          have htake : [stateLocator g.state.generation, commitLocator g.state.generation].take
              (j + 2) = [stateLocator g.state.generation, commitLocator g.state.generation] :=
            List.take_of_length_le (by simp)
          rw [htake]
          exact ⟨hheadless.2, rfl⟩
    · refine ⟨(d.deleteMany (found.eligible.take limit)).deleteMany
          [stateLocator g.state.generation, commitLocator g.state.generation],
        ends_bind.mpr ⟨(), m, _, hfirst, ?_⟩⟩
      refine deleteAll_completes ?_
        ⟨hroot.granted.isOpen, hroot.granted.session, hroot.granted.key, hroot.granted.identity⟩
        hroot.ready hroot.inventory (by simp [stateLocator, commitLocator]) ?_
      · have hdecide : deleteBatch - 2 + 2 = deleteBatch := by decide
        show _ + 2 ≤ deleteBatch
        omega
      · obtain ⟨-, fc, pc, hcommit, -⟩ := hremains.data.commitAt
        obtain ⟨-, fs, ps, hstate, -⟩ := hremains.data.stateAt
        have hstays : ∀ {l : Locator} {f : StoredRecord}, l.kind ≠ .object → d.find l = some f →
            ∃ f, d.find l = some f ∧ (d.deleteMany (found.eligible.take limit)).find l = some f ∧
              Disk.Placed A.sha f := by
          intro l f hkind hf
          refine ⟨f, hf, ?_, hlive.sound.placed f (Disk.mem_of_find hf).1⟩
          rw [Disk.find_deleteMany_of_not_mem, hf]
          exact fun hin => hkind ((hdeletable limit).object l hin)
        intro l hl
        simp only [List.mem_cons, List.not_mem_nil, or_false] at hl
        rcases hl with rfl | rfl
        · exact hstays (by simp [stateLocator]) hstate
        · exact hstays (by simp [commitLocator]) hcommit

theorem retire_retires (hlive : Live A d (current :: previous :: g :: rest))
    (hroot : AtRoot A m d current)
    (hretiring : Remains A d current.state previous.state g ∨
      (d.find (stateLocator g.state.generation) = none ∧
        A.CommitAt d g.state.generation g.commit g.commitSha)) :
    Retires A (A.retire current.state previous.state) m d (current :: previous :: g :: rest) := by
  have hparent := hlive.lineage.tail.parent
  have hfields : (fields : Act Fields).Ends A.host m d m m d := ends_fields.mpr ⟨rfl, rfl, rfl⟩
  refine retires_read hlive only_fields hfields ?_
  dsimp only
  rw [hparent.1, hparent.2]
  rcases hretiring with hremains | ⟨hstate, hcommit⟩
  · obtain ⟨-, fc, pc, hfc, -⟩ := hremains.data.commitAt
    obtain ⟨-, fs, ps, hfs, -⟩ := hremains.data.stateAt
    obtain ⟨found, hends, hnodup, hpresent, hdeletable⟩ :=
      loadRetiredMetadata_finds hlive hremains hroot.granted hroot.inventory
    rw [hroot.inventory, inventoryEntry_entries hfc, inventoryEntry_entries hfs]
    refine retires_read hlive (readOnly_loadRetiredMetadata _ _ _ _) hends ?_
    refine retires_read hlive readOnly_revalidateRoots (hroot.revalidateRoots hlive) ?_
    exact deleteRetired_retires hlive hroot hremains hnodup hpresent hdeletable
  · obtain ⟨-, fc, pc, hfc, hhash, -⟩ := hcommit
    have hplaced := hlive.sound.placed fc (Disk.mem_of_find hfc).1
    rw [hroot.inventory, inventoryEntry_entries hfc, inventoryEntry_none hstate]
    have hsha : (require (decide ((Disk.entryFor A.sha fc).sha = g.commitSha))
        Status.recoveryRequired : Act Unit).Ends A.host m d () m d := by
      refine ends_require.mpr ⟨?_, rfl, rfl⟩
      rw [decide_eq_true_eq, Disk.localHash_eq hhash]
      rfl
    refine retires_read hlive (only_require _ _) hsha ?_
    refine retires_read hlive readOnly_revalidateRoots (hroot.revalidateRoots hlive) ?_
    constructor
    · intro t h
      rcases deleteAuthorized_visits h with rfl | rfl
      · exact ⟨hlive, rfl⟩
      · refine ⟨?_, rfl⟩
        have hone : d.delete (commitLocator g.state.generation) =
            d.deleteMany [commitLocator g.state.generation] := by
          rw [← Disk.deleteMany_cons, Disk.deleteMany_nil]
        rw [hone]
        refine hlive.delete ?_ ?_ (.gone ?_ ?_)
        · intro l hl
          rw [List.mem_singleton.mp hl]
          exact loose_meta hlive (.inr rfl) rfl
        · intro l hl
          rw [List.mem_singleton.mp hl]
          exact Nat.le_refl _
        · rw [Disk.find_deleteMany_of_not_mem (by simp [commitLocator, stateLocator])]
          exact hstate
        · rw [Disk.find_deleteMany, if_pos (by simp)]
    · exact ⟨_, deleteAuthorized_completes (by decide) hroot.granted hroot.ready hroot.inventory
        hfc hfc hplaced⟩

/-! ## `Compact` -/

/-- Whether the cleanup of the last checkpoint is finished. -/
theorem unfinishedCleanup_ends (hlive : Live A d (current :: rest)) (hroot : AtRoot A m d current)
    (transition : Transition) :
    ∃ o, (A.unfinishedCleanup transition).Ends A.host m d o m d ∧
      (o = none ∨ ∃ previous g rest', rest = previous :: g :: rest' ∧ o = some previous.state ∧
        (Remains A d current.state previous.state g ∨
          (d.find (stateLocator g.state.generation) = none ∧
            A.CommitAt d g.state.generation g.commit g.commitSha))) := by
  simp only [unfinishedCleanup, ends_bind, ends_fields]
  by_cases hcheckpoint : transition = .checkpoint ∧ 0 < m.state.parentGeneration
  · cases rest with
    | nil =>
      have hzero := hlive.lineage.parent_zero.mpr rfl
      rw [← hroot.state] at hzero
      omega
    | cons previous rest' =>
      have hprevious := hroot.parentRoot hlive
      by_cases hmore : 0 < previous.state.parentGeneration
      · cases rest' with
        | nil =>
          have hzero := hlive.lineage.tail.parent_zero.mpr rfl
          omega
        | cons g rest'' =>
          have hparent := hlive.lineage.tail.parent
          cases hlive.retired rfl with
          | remains hremains =>
            obtain ⟨-, fc, pc, hfc, -⟩ := hremains.data.commitAt
            obtain ⟨-, fs, ps, hfs, -⟩ := hremains.data.stateAt
            refine ⟨some previous.state, ⟨m, m, d, ⟨rfl, rfl, rfl⟩, ?_⟩,
              .inr ⟨previous, g, rest'', rfl, rfl, .inl hremains⟩⟩
            rw [if_pos hcheckpoint]
            refine ends_bind.mpr ⟨previous.state, m, d, hprevious, ?_⟩
            rw [if_pos hmore, hparent.1, hroot.inventory, inventoryEntry_entries hfc,
              inventoryEntry_entries hfs]
            exact ends_pure.mpr ⟨rfl, rfl, rfl⟩
          | headless hstate hcommit =>
            obtain ⟨hcounter, fc, pc, hfc, hhash, hrest⟩ := hcommit
            refine ⟨some previous.state, ⟨m, m, d, ⟨rfl, rfl, rfl⟩, ?_⟩,
              .inr ⟨previous, g, rest'', rfl, rfl,
                .inr ⟨hstate, hcounter, fc, pc, hfc, hhash, hrest⟩⟩⟩
            rw [if_pos hcheckpoint]
            refine ends_bind.mpr ⟨previous.state, m, d, hprevious, ?_⟩
            rw [if_pos hmore, hparent.1, hroot.inventory, inventoryEntry_entries hfc,
              inventoryEntry_none hstate]
            simp only [ends_bind, ends_require]
            refine ⟨(), m, d, ⟨?_, rfl, rfl⟩, ends_pure.mpr ⟨rfl, rfl, rfl⟩⟩
            rw [decide_eq_true_eq, hparent.2, Disk.localHash_eq hhash]
            rfl
          | gone hstate hcommit =>
            refine ⟨none, ⟨m, m, d, ⟨rfl, rfl, rfl⟩, ?_⟩, .inl rfl⟩
            rw [if_pos hcheckpoint]
            refine ends_bind.mpr ⟨previous.state, m, d, hprevious, ?_⟩
            rw [if_pos hmore, hparent.1, hroot.inventory, inventoryEntry_none hcommit,
              inventoryEntry_none hstate]
            exact ends_pure.mpr ⟨rfl, rfl, rfl⟩
      · refine ⟨none, ⟨m, m, d, ⟨rfl, rfl, rfl⟩, ?_⟩, .inl rfl⟩
        rw [if_pos hcheckpoint]
        refine ends_bind.mpr ⟨previous.state, m, d, hprevious, ?_⟩
        rw [if_neg hmore]
        exact ends_pure.mpr ⟨rfl, rfl, rfl⟩
  · refine ⟨none, ⟨m, m, d, ⟨rfl, rfl, rfl⟩, ?_⟩, .inl rfl⟩
    rw [if_neg hcheckpoint]
    exact ends_pure.mpr ⟨rfl, rfl, rfl⟩

end TradeOps.Agent
