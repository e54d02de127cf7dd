import TradeOps.Agent.Outcomes

/-!
# Deleting records

What is left of a live store when some records of the retired generation are deleted. Records that
the current generation or its parent name stay, so both can still be loaded; the retired generation
is then one that an interrupted compaction leaves.
-/

namespace TradeOps.Agent

open Prog TelemetryState

namespace Disk

variable {d : Disk} {sha : Sha256} {f : StoredRecord} {l : Locator} {ls : List Locator}

def deleteMany (d : Disk) (ls : List Locator) : Disk :=
  { d with files := d.files.filter fun f => f.locator ∉ ls }

theorem deleteMany_nil (d : Disk) : d.deleteMany [] = d := by
  simp [deleteMany]

theorem deleteMany_cons (d : Disk) (l : Locator) (ls : List Locator) :
    (d.delete l).deleteMany ls = d.deleteMany (l :: ls) := by
  simp only [deleteMany, delete, List.filter_filter, List.mem_cons, not_or]
  congr 2
  funext f
  rw [Bool.eq_iff_iff]
  simp only [Bool.and_eq_true, decide_eq_true_eq]
  exact and_comm

theorem deleteMany_append (d : Disk) (ls ls' : List Locator) :
    (d.deleteMany ls).deleteMany ls' = d.deleteMany (ls ++ ls') := by
  simp only [deleteMany, List.filter_filter, List.mem_append, not_or]
  congr 2
  funext f
  rw [Bool.eq_iff_iff]
  simp only [Bool.and_eq_true, decide_eq_true_eq]
  exact and_comm

theorem find_deleteMany (d : Disk) (ls : List Locator) (l : Locator) :
    (d.deleteMany ls).find l = if l ∈ ls then none else d.find l := by
  induction ls generalizing d with
  | nil => simp [deleteMany_nil]
  | cons l' rest ih =>
    rw [← deleteMany_cons, ih, find_delete]
    by_cases hl : l = l'
    · simp [hl]
    · simp [hl]

theorem find_deleteMany_of_not_mem (h : l ∉ ls) : (d.deleteMany ls).find l = d.find l := by
  rw [find_deleteMany, if_neg h]

theorem delete_of_find_none (h : d.find l = none) : d.delete l = d := by
  have hall : ∀ f ∈ d.files, f.locator ≠ l := Keyed.lookup_none.mp h
  have hfiles : d.files.filter (fun f => f.locator ≠ l) = d.files := by
    rw [List.filter_eq_self]
    intro f hf
    rw [decide_eq_true_eq]
    exact hall f hf
  rw [delete, hfiles]

theorem sum_le_of_sublist {ns ns' : List Nat} (h : ns.Sublist ns') : ns.sum ≤ ns'.sum := by
  induction h with
  | slnil => exact Nat.le_refl _
  | cons n h ih =>
    rw [List.sum_cons]
    omega
  | cons_cons n h ih =>
    rw [List.sum_cons, List.sum_cons]
    omega

/-- A sound disk stays sound while a record of a higher generation stays. -/
theorem Archived.deleteMany (h : d.Archived sha) (hf : f ∈ d.files) (hkeep : f.locator ∉ ls)
    (hlower : ∀ l ∈ ls, l.generation < f.locator.generation) : (d.deleteMany ls).Archived sha := by
  have hsub : (d.deleteMany ls).files.Sublist d.files := List.filter_sublist
  have hmem : ∀ g ∈ (d.deleteMany ls).files, g ∈ d.files := fun g hg => hsub.subset hg
  refine ⟨⟨List.Nodup.sublist (hsub.map _) h.sound.keys,
    fun g hg => h.sound.placed g (hmem g hg), ?_, ?_⟩,
    fun g hg => h.kept g (hmem g hg), h.keys, h.placed, ?_⟩
  · exact le_trans hsub.length_le h.sound.count
  · exact le_trans (sum_le_of_sublist (hsub.map _)) h.sound.bytes
  · intro g hg
    have hle := h.highest g hg
    have hstays : f ∈ (d.deleteMany ls).files :=
      List.mem_filter.mpr ⟨hf, by rw [decide_eq_true_eq]; exact hkeep⟩
    have hfle : f.locator.generation ≤ (d.deleteMany ls).highest := le_highestOf hstays
    by_cases hzero : d.highest = 0
    · omega
    · -- The record of the highest generation is not among the deleted ones.
      obtain ⟨top, htop, hgeneration⟩ := exists_highestOf hzero
      have hnot : top.locator ∉ ls := by
        intro hin
        have hlt := hlower _ hin
        have hbelow : f.locator.generation ≤ d.highest := le_highestOf hf
        have hequal : top.locator.generation = d.highest := hgeneration
        omega
      have htopStays : top ∈ (d.deleteMany ls).files :=
        List.mem_filter.mpr ⟨htop, by rw [decide_eq_true_eq]; exact hnot⟩
      have htopLe : top.locator.generation ≤ (d.deleteMany ls).highest := le_highestOf htopStays
      have hequal : top.locator.generation = d.highest := hgeneration
      omega

end Disk

/-! ## What the retired generation may lose -/

section Deleting

variable {A : TelemetryState} {d : Disk} {hist rest : List Generation}
  {current previous g : Generation} {ls : List Locator}

/-- A record that neither kept generation names. -/
def Loose (A : TelemetryState) (d : Disk) (current previous : Generation) (l : Locator) : Prop :=
  ¬ Names A d current.state l ∧ ¬ Names A d previous.state l

/-- Records of the retired generation that may be deleted together. -/
structure Deletable (A : TelemetryState) (d : Disk) (current previous g : Generation)
    (ls : List Locator) : Prop where
  loose : ∀ l ∈ ls, Loose A d current previous l
  object : ∀ l ∈ ls, l.kind = .object
  older : ∀ l ∈ ls, l.generation ≤ g.state.generation
  eligible : ∀ r ∈ objectRefs g.state, refLocator r ∈ ls →
    A.retiredReferenceEligible r current.state previous.state = true
  -- The request that was answered goes after the answer.
  last : ∀ l ∈ ls, (∃ payload, Answered A d g.state l payload) →
    d.find (refLocator g.state.ack) = none ∨ refLocator g.state.ack ∈ ls

theorem commit_not_loose :
    commitLocator current.state.generation ∈ namedLocators current.state := by
  simp [namedLocators]

/-- The disk stays sound. -/
theorem archived_delete (hlive : Live A d (current :: previous :: g :: rest))
    (hloose : ∀ l ∈ ls, Loose A d current previous l)
    (holder : ∀ l ∈ ls, l.generation ≤ g.state.generation) : (d.deleteMany ls).Archived A.sha := by
  obtain ⟨-, f, payload, hfind, -⟩ := (hlive.current rfl).data.commitAt
  obtain ⟨hmem, hlocator⟩ := Disk.mem_of_find hfind
  have hlt : g.state.generation < current.state.generation :=
    hlive.lineage.generation_lt (by simp)
  refine hlive.archived.deleteMany hmem ?_ ?_
  · intro hin
    rw [hlocator] at hin
    exact (hloose _ hin).1 (.inl commit_not_loose)
  · intro l hl
    have hle := holder l hl
    rw [hlocator]
    show l.generation < current.state.generation
    omega

theorem distinct_delete (hlive : Live A d hist) (ls : List Locator) :
    Disk.Distinct A.sha (d.deleteMany ls).files :=
  hlive.distinctFiles.mono fun _ hf => (List.mem_filter.mp hf).1

/-- A kept generation can still be loaded. -/
theorem Stands.delete {kept : Generation} (h : Stands A d kept) (hlive : Live A d hist)
    (harchived : (d.deleteMany ls).Archived A.sha)
    (hloose : ∀ l ∈ ls, ¬ Names A d kept.state l) : Stands A (d.deleteMany ls) kept := by
  refine h.transfer hlive.sound hlive.distinctFiles harchived.sound (distinct_delete hlive ls) ?_
  intro l f hnames hfind
  rw [Disk.find_deleteMany_of_not_mem fun hin => hloose l hin hnames]
  exact hfind

/-- What remains of the retired generation. -/
theorem Remains.delete (h : Remains A d current.state previous.state g)
    (hlive : Live A d (current :: previous :: g :: rest))
    (hdeletable : Deletable A d current previous g ls) :
    Remains A (d.deleteMany ls) current.state previous.state g := by
  have harchived := archived_delete hlive hdeletable.loose hdeletable.older
  have hdistinct := distinct_delete hlive ls
  have hmeta : ∀ {l : Locator}, l.kind ≠ .object → (d.deleteMany ls).find l = d.find l :=
    fun hkind => Disk.find_deleteMany_of_not_mem fun hin => hkind (hdeletable.object _ hin)
  have hg : g ∈ current :: previous :: g :: rest := by simp
  refine ⟨h.data.transfer ?_ ?_, ?_, ?_⟩
  · intro f hf
    rw [hmeta (by simp [commitLocator])]
    exact hf
  · intro f hf
    rw [hmeta (by simp [stateLocator])]
    exact hf
  · intro r hr
    by_cases hin : refLocator r ∈ ls
    · refine .inr ⟨?_, hdeletable.eligible r hr hin⟩
      rw [Disk.find_deleteMany, if_pos hin]
    · rcases h.refs r hr with hverified | hgone
      · by_cases hack : r = g.state.ack ∧ r.kind = .ack
        · -- The answer stays, so the request that it answers stays too.
          refine .inl (hverified.transfer hlive.sound hlive.distinctFiles harchived.sound hdistinct
            ?_ ?_)
          · intro f hf
            rw [Disk.find_deleteMany_of_not_mem hin]
            exact hf
          · intro l f pending hwitness hanswered hf
            rw [Disk.find_deleteMany_of_not_mem, hf]
            intro hlin
            obtain ⟨payload, hpayload, -⟩ := hverified
            obtain ⟨-, f', hfind, -⟩ := payloadAt_some hpayload
            rcases hdeletable.last l hlin ⟨pending, hanswered⟩ with habsent | hackIn
            · rw [← hack.1, hfind] at habsent
              contradiction
            · rw [← hack.1] at hackIn
              exact hin hackIn
        · refine .inl ?_
          obtain ⟨payload, hpayload, htyped⟩ := hverified
          refine ⟨payload, payloadAt_transfer hpayload ?_, ?_⟩
          · intro f hf
            rw [Disk.find_deleteMany_of_not_mem hin]
            exact hf
          · have hkind : r.kind ≠ .ack := by
              intro hkind
              refine hack ⟨?_, hkind⟩
              have hvalid := hlive.lineage.valid hg
              rcases mem_objectRefs.mp hr with rfl | hr | ⟨hw, rfl⟩ | ⟨-, rfl⟩
              · rw [(capture_of_valid hvalid).2] at hkind
                contradiction
              · rw [(event_of_valid hvalid hr).2] at hkind
                contradiction
              · rw [(pending_of_valid hvalid hw).2] at hkind
                contradiction
              · rfl
            unfold Typed at htyped ⊢
            cases hr' : r.kind with
            | ack => exact absurd hr' hkind
            | _ =>
              simp only [hr'] at htyped ⊢
              try exact htyped
      · refine .inr ⟨?_, hgone.eligible⟩
        rw [Disk.find_deleteMany_of_not_mem hin]
        exact hgone.absent
  · intro hwitness hack
    rcases h.witness hwitness hack with ⟨l, payload, hanswered⟩ | ⟨hnone, habsent⟩
    · by_cases hin : l ∈ ls
      · right
        constructor
        · intro f hf hsame
          obtain ⟨hmem, hkeep⟩ := List.mem_filter.mp hf
          obtain ⟨f₀, hfind, hhash, hdecode⟩ := hanswered.record
          obtain ⟨hmem₀, rfl⟩ := Disk.mem_of_find hfind
          have hbytes := hlive.distinctFiles f₀ hmem₀ f hmem
            (by rw [hsame, ← Disk.localHash_eq hhash])
          have heq := Disk.eq_of_pending (hlive.sound.placed f₀ hmem₀) (hlive.sound.placed f hmem)
            hbytes hdecode
          rw [decide_eq_true_eq, ← heq] at hkeep
          exact hkeep hin
        · rw [Disk.find_deleteMany]
          split
          · rfl
          · rcases hdeletable.last l hin ⟨payload, hanswered⟩ with habsent | hackIn
            · exact habsent
            · contradiction
      · refine .inl ⟨l, payload, hanswered.transfer (fun f hf => ?_) rfl rfl⟩
        rw [Disk.find_deleteMany_of_not_mem hin]
        exact hf
    · refine .inr ⟨fun f hf => hnone f (List.mem_filter.mp hf).1, ?_⟩
      rw [Disk.find_deleteMany]
      split
      · rfl
      · exact habsent

/-- A live store stays live when the retired generation loses records. -/
theorem Live.delete (hlive : Live A d (current :: previous :: g :: rest))
    (hloose : ∀ l ∈ ls, Loose A d current previous l)
    (holder : ∀ l ∈ ls, l.generation ≤ g.state.generation)
    (hretiring : Retiring A (d.deleteMany ls) current.state previous.state g) :
    Live A (d.deleteMany ls) (current :: previous :: g :: rest) := by
  have harchived := archived_delete hlive hloose holder
  refine ⟨harchived, hlive.distinct, hlive.lineage, hlive.data, hlive.refs, hlive.commits,
    ?_, ?_, ?_⟩
  · intro c gs heq
    rw [List.cons.injEq] at heq
    rw [← heq.1]
    exact (hlive.current rfl).delete hlive harchived fun l hl => (hloose l hl).1
  · intro c p gs heq
    simp only [List.cons.injEq] at heq
    rw [← heq.2.1]
    exact (hlive.parent rfl).delete hlive harchived fun l hl => (hloose l hl).2
  · intro c p g' gs heq
    simp only [List.cons.injEq] at heq
    obtain ⟨rfl, rfl, rfl, rfl⟩ := heq
    exact hretiring

end Deleting

end TradeOps.Agent
