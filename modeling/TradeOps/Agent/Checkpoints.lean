import TradeOps.Agent.Compaction
import TradeOps.Agent.Outcomes

/-!
# Checkpoints

`Compact` either goes on with the cleanup that the last checkpoint began, or publishes a checkpoint
and begins the cleanup of the generation before the parent. Stopped anywhere, it leaves the root of
before or its checkpoint; and on a live store it does not find its own root wanting.
-/

namespace TradeOps.Agent

open Prog TelemetryState

variable {A : TelemetryState} {m m' : Fields} {d d' d₁ : Disk} {rest : List Generation}
  {current previous next g : Generation}

theorem visits_written {α : Type} {p : Act α} (h : p.Visits A.host m d d₁) :
    d.written <+: d₁.written :=
  visits_rel (R := fun s t : Disk => s.written <+: t.written) (fun _ => List.prefix_rfl)
    (fun hst htu => List.IsPrefix.trans hst htu) (Disk.host_written A.sha) h

theorem distinct_of_visits {α : Type} {p : Act α} (h : p.Visits A.host m d d₁)
    (hdistinct : Disk.Distinct A.sha d₁.written) : Disk.Distinct A.sha d.written :=
  hdistinct.mono fun _ hf => (visits_written h).subset hf

namespace TelemetryState

variable (A)

/-- The part of `Compact` after its checkpoint. -/
def retireAncestor : Act Unit := do
  let current ← A.verifiedCurrent
  if current.parentGeneration < 1 then pure ()
  else do
    let previous ← A.parentRoot
    if previous.parentGeneration < 1 then pure () else A.retire current previous

/-- `Compact` when nothing is left to clean up. -/
def checkpointAndRetire : Act Unit := do
  A.publishCheckpoint
  A.retireAncestor

/-- `Compact` once the root is known to be the current one. -/
def compactRoot (generation : Nat) (rootSha : Text) : Act Unit := do
  let current ← A.verifiedCurrent
  let (commit, commitSha) ← A.readCommitMetadata generation
  require (commitSha = rootSha) .recoveryRequired
  let unfinished ← A.unfinishedCleanup commit.transition
  match unfinished with
  | some previous => A.retire current previous
  | none => A.checkpointAndRetire

theorem compact_eq : A.compact = (do
    let _ ← A.guard false
    let m ← fields
    require m.loaded .invalid
    A.requireInventory
    A.verifyCurrentRootFresh
    A.compactRoot m.state.generation m.commitSha) := rfl

end TelemetryState

/-! ## The ancestor of a new checkpoint -/

theorem retires_pure {hist : List Generation} (hlive : Live A d hist) :
    Retires A (pure ()) m d hist := by
  refine ⟨?_, d, ends_pure.mpr ⟨rfl, rfl, rfl⟩⟩
  intro t h
  have ht : t = d := h
  rw [ht]
  exact ⟨hlive, rfl⟩

theorem retireAncestor_retires (hlive : Live A d (next :: current :: rest))
    (hroot : AtRoot A m d next) (hstands : ∀ g rest', rest = g :: rest' → Stands A d g) :
    Retires A A.retireAncestor m d (next :: current :: rest) := by
  refine retires_read hlive readOnly_verifiedCurrent (hroot.verifiedCurrent hlive) ?_
  split
  · exact retires_pure hlive
  · refine retires_read hlive readOnly_parentRoot (hroot.parentRoot hlive) ?_
    split
    · exact retires_pure hlive
    next hmore =>
      match rest with
      | [] =>
        have hzero := hlive.lineage.tail.parent_zero.mpr rfl
        omega
      | g :: rest' =>
        refine retire_retires hlive hroot (.inl ?_)
        exact (hstands g rest' rfl).remains hlive.sound hlive.distinctFiles _ _

theorem Stands.of_create {fs : List StoredRecord} {hist hist' : List Generation}
    (h : Stands A d g) (hlive : Live A d hist) (hlive' : Live A (d.createMany fs) hist') :
    Stands A (d.createMany fs) g :=
  h.transfer hlive.sound hlive.distinctFiles hlive'.sound hlive'.distinctFiles
    fun _ _ _ hf => Disk.find_createMany_of_some hf fs

/-! ## What a stopped compaction leaves -/

/-- As `Outcome`, for a call that ends with an inventory of before its last deletions. -/
structure Atomic {α : Type} (A : TelemetryState) (ts : List Transition) (p : Act α) (m : Fields)
    (d d₁ : Disk) (current : Generation) (rest : List Generation) : Prop where
  grows : Grows d d₁
  live : Live A d₁ (current :: rest) ∨
    ∃ next a m' d', next.commit.transition ∈ ts ∧ Live A d₁ (next :: current :: rest) ∧
      p.Ends A.host m d a m' d' ∧ Live A d' (next :: current :: rest) ∧
      m'.state = next.state ∧ m'.commitSha = next.commitSha

theorem Outcome.atomic {α : Type} {ts : List Transition} {p : Act α}
    (h : Outcome A ts p m d d₁ current rest) : Atomic A ts p m d d₁ current rest := by
  refine ⟨h.grows, h.live.imp_right ?_⟩
  rintro ⟨next, a, m', d', ht, hnew, hends, hlive, hat⟩
  exact ⟨next, a, m', d', ht, hnew, hends, hlive, hat.state, hat.commitSha⟩

/-- A call that reads first. -/
theorem atomic_bind {α β : Type} {ts : List Transition} {p : Act α} {k : α → Act β}
    (hp : ReadOnly p) (hlive : Live A d (current :: rest)) (h : (p >>= k).Visits A.host m d d₁)
    (hk : ∀ a m₁, p.Ends A.host m d a m₁ d → (k a).Visits A.host m₁ d d₁ →
      Atomic A ts (k a) m₁ d d₁ current rest) : Atomic A ts (p >>= k) m d d₁ current rest := by
  rcases visits_bind h with hread | ⟨a, m₁, d₂, hends, hrest⟩
  · rw [hp.visits hread]
    exact ⟨Grows.refl d, .inl hlive⟩
  · obtain rfl := hp.ends hends
    have hout := hk a m₁ hends hrest
    refine ⟨hout.grows, hout.live.imp_right ?_⟩
    rintro ⟨next, b, m', d', ht, hnew, hends', hlive', hstate⟩
    exact ⟨next, b, m', d', ht, hnew, ends_bind.mpr ⟨a, m₁, _, hends, hends'⟩, hlive', hstate⟩

theorem Retires.atomic {ts : List Transition} {p : Act Unit}
    (hretires : Retires A p m d (current :: rest)) (h : p.Visits A.host m d d₁) :
    Atomic A ts p m d d₁ current rest := by
  obtain ⟨hlive, hwritten⟩ := hretires.visits d₁ h
  exact ⟨⟨[], by rw [hwritten, List.append_nil], by simp⟩, .inl hlive⟩

section Checkpoint

variable (hv : A.validator.Stable) (hlive : Live A d (current :: rest))
  (hroot : AtRoot A m d current)
include hv hlive hroot

theorem staged_checkpoint (hvalid : localStateValid (successor m) = true) :
    Staged A d (successor m) [] := by
  refine staged_of_follows hlive hroot hv .checkpoint hvalid (by simp) (by simp) List.nodup_nil ?_
  intro r hr hnew
  exact absurd hnew (old_generation_ne hlive hroot .checkpoint hr)

theorem checkpoint_free {records : List StoredRecord}
    (hrecords : A.publication .checkpoint (successor m) m.commitSha m.state.generation
      m.state.registration.sha [] = some records) : d.Free records := by
  obtain ⟨s, c, commit, commitSha, hsealed, rfl⟩ := publication_some hrecords
  exact records_free hroot .checkpoint (staged_checkpoint hv hlive hroot hsealed.valid) hsealed

theorem checkpoint_creatable {records : List StoredRecord}
    (hrecords : A.publication .checkpoint (successor m) m.commitSha m.state.generation
      m.state.registration.sha [] = some records) : ∀ f ∈ records, Creatable f := by
  obtain ⟨s, c, commit, commitSha, hsealed, rfl⟩ := publication_some hrecords
  have hstaged := staged_checkpoint hv hlive hroot hsealed.valid
  exact fun f hf => creatable_of_placed (records_placed hstaged hsealed f hf).1

theorem publishCheckpoint_completes {records : List StoredRecord}
    (hcounter : m.highestObserved < maxCounter)
    (hpublishes : Publishes A m .checkpoint (successor m) [] records)
    (hdistinct : Disk.Distinct A.sha (d.createMany records).written) :
    ∃ next m', next.commit.transition = .checkpoint ∧
      Live A (d.createMany records) (next :: current :: rest) ∧
      AtRoot A m' (d.createMany records) next ∧
      A.publishCheckpoint.Ends A.host m d () m' (d.createMany records) ∧
      Retires A A.retireAncestor m' (d.createMany records) (next :: current :: rest) := by
  obtain ⟨next, m', -, ht, hnew, hat, hends⟩ := publish_next hlive hroot .checkpoint
    (staged_checkpoint hv hlive hroot) hpublishes hdistinct
  refine ⟨next, m', ht, hnew, hat, ?_, retireAncestor_retires hnew hat ?_⟩
  · simp only [publishCheckpoint, ends_bind, ends_fields, ends_require, ends_mapFail]
    exact ⟨m, m, d, ⟨rfl, rfl, rfl⟩, (), m, d,
      ⟨by rw [decide_eq_true_eq]; exact hcounter, rfl, rfl⟩,
      (), m', _, hends, hat.requireInventory hnew⟩
  · intro g rest' hrest
    subst hrest
    exact (hlive.parent rfl).of_create hlive hnew

omit hv hlive hroot in
/-- Where the checkpoint was stopped. -/
theorem publishCheckpoint_visits (h : A.publishCheckpoint.Visits A.host m d d₁) :
    (A.publish .checkpoint (successor m) []).Visits A.host m d d₁ ∧
      (d₁ = d ∨ m.highestObserved < maxCounter) := by
  rcases visits_bind h with hread | ⟨m₀, m₁, d₂, hfields, h⟩
  · rw [only_fields.visits (Disk.host_reads A.sha) hread]
    exact ⟨visits_start _ _ _, .inl rfl⟩
  obtain ⟨rfl, rfl, rfl⟩ := ends_fields.mp hfields
  rcases visits_bind h with hread | ⟨u, m₁, d₂, hcheck, h⟩
  · rw [(readOnly_require _ _).visits hread]
    exact ⟨visits_start _ _ _, .inl rfl⟩
  obtain ⟨hcounter, rfl, rfl⟩ := ends_require.mp hcheck
  rw [decide_eq_true_eq] at hcounter
  refine ⟨?_, .inr hcounter⟩
  rcases visits_bind h with hpublish | ⟨u, m₁, d₂, hends, hread⟩
  · exact hpublish
  · rw [ReadOnly.visits (only_mapFail readOnly_requireInventory) hread]
    exact hends.visits

/-- A checkpoint that was published is the root with which the completed call ends. -/
theorem checkpointAndRetire_completes {records : List StoredRecord}
    (hcounter : m.highestObserved < maxCounter)
    (hpublishes : Publishes A m .checkpoint (successor m) [] records)
    (hdistinct : Disk.Distinct A.sha (d.createMany records).written)
    (h : d₁ = d.createMany records ∨ ∃ m₁, A.publishCheckpoint.Ends A.host m d () m₁
      (d.createMany records) ∧ A.retireAncestor.Visits A.host m₁ (d.createMany records) d₁) :
    d₁.written = (d.createMany records).written ∧
      ∃ next m' d', next.commit.transition = .checkpoint ∧
        Live A d₁ (next :: current :: rest) ∧
        A.checkpointAndRetire.Ends A.host m d () m' d' ∧ Live A d' (next :: current :: rest) ∧
        m'.state = next.state ∧ m'.commitSha = next.commitSha := by
  obtain ⟨next, m', ht, hnew, hat, hends, hretires⟩ :=
    publishCheckpoint_completes hv hlive hroot hcounter hpublishes hdistinct
  obtain ⟨d', hlast⟩ := hretires.ends
  have hkept : Live A d₁ (next :: current :: rest) ∧
      d₁.written = (d.createMany records).written := by
    rcases h with rfl | ⟨m₁, hends', hvisit⟩
    · exact ⟨hnew, rfl⟩
    · obtain ⟨-, rfl, -⟩ := hends.unique hends'
      exact hretires.visits d₁ hvisit
  exact ⟨hkept.2, next, m', d', ht, hkept.1, ends_bind.mpr ⟨(), m', _, hends, hlast⟩,
    (hretires.visits d' hlast.visits).1, hat.state, hat.commitSha⟩

theorem checkpointAndRetire_atomic (hdistinct : Disk.Distinct A.sha d₁.written)
    (h : A.checkpointAndRetire.Visits A.host m d d₁) :
    Atomic A [.checkpoint] A.checkpointAndRetire m d d₁ current rest := by
  have hfree := fun records => @checkpoint_free A m d rest current hv hlive hroot records
  have hstaged := staged_checkpoint hv hlive hroot
  rcases visits_bind h with hfirst | ⟨⟨⟩, m₁, d₂, hends, hrest⟩
  · obtain ⟨hpublish, hcounter⟩ := publishCheckpoint_visits hfirst
    obtain ⟨hgrows, hcase⟩ := publish_outcome hlive hroot .checkpoint hstaged hdistinct hpublish
    refine ⟨hgrows, ?_⟩
    rcases hcase with hkept | ⟨next, m', -, -, -, -, hends⟩
    · exact .inl hkept
    rcases hcounter with rfl | hcounter
    · exact .inl hlive
    obtain ⟨records, hpublishes, -, rfl, -⟩ :=
      publish_ends hroot.granted hroot.ready hfree hends
    obtain ⟨-, next, m', d', ht, hcompleted⟩ := checkpointAndRetire_completes hv hlive hroot
      hcounter hpublishes hdistinct (.inl rfl)
    exact .inr ⟨next, (), m', d', by rw [ht]; exact List.mem_singleton_self _, hcompleted⟩
  · have hdistinct₂ := distinct_of_visits hrest hdistinct
    have hparts := hends
    simp only [publishCheckpoint, ends_bind, ends_fields, ends_require, ends_mapFail] at hparts
    obtain ⟨_, _, _, ⟨rfl, rfl, rfl⟩, _, _, _, ⟨hcounter, rfl, rfl⟩, _, m₂, d₃, hpublish,
      hread⟩ := hparts
    rw [decide_eq_true_eq] at hcounter
    obtain rfl := readOnly_requireInventory.ends hread
    obtain ⟨hgrows, -⟩ :=
      publish_outcome hlive hroot .checkpoint hstaged hdistinct₂ hpublish.visits
    obtain ⟨records, hpublishes, -, rfl, -⟩ :=
      publish_ends hroot.granted hroot.ready hfree hpublish
    obtain ⟨hwritten, next, m', d', ht, hcompleted⟩ := checkpointAndRetire_completes hv hlive hroot
      hcounter hpublishes hdistinct₂ (.inr ⟨m₁, hends, hrest⟩)
    refine ⟨?_, .inr ⟨next, (), m', d', by rw [ht]; exact List.mem_singleton_self _, hcompleted⟩⟩
    obtain ⟨fs, hfs, hnewer⟩ := hgrows
    exact ⟨fs, by rw [hwritten, hfs], hnewer⟩

omit hv hlive in
/-- A checkpoint fails for want of room or of a number, or it is made. -/
theorem publishCheckpoint_status :
    (A.checkpointAndRetire.eval A.host m d).result = .error .limit ∨
      (A.checkpointAndRetire.eval A.host m d).result = .error .invalid ∨
      (m.highestObserved < maxCounter ∧
        ∃ records, Publishes A m .checkpoint (successor m) [] records) := by
  have hidentity : (successor m).identity = A.identity := hroot.granted.identity hroot.loaded
  rw [checkpointAndRetire, eval_bind, publishCheckpoint, eval_fields, eval_require]
  by_cases hcounter : m.highestObserved < maxCounter
  · rw [if_pos (decide_eq_true hcounter), eval_bind, publish, eval_fields, eval_require,
      if_pos (by simp [hidentity, hroot.loaded]), eval_require, if_pos (by simp)]
    cases hrecords : A.publication .checkpoint (successor m) m.commitSha m.state.generation
        m.state.registration.sha [] with
    | none => exact .inr (.inl rfl)
    | some records =>
      dsimp only
      rw [eval_require]
      by_cases hroom : storagePreflight m.inventory .checkpoint
          (records.map fun f => f.bytes.length).sum records.length = true
      · exact .inr (.inr ⟨hcounter, records, by decide, hroot.loaded, hidentity, hrecords, hroom⟩)
      · rw [if_neg hroom]
        exact .inl rfl
  · rw [if_neg (by simpa using hcounter)]
    exact .inl rfl

theorem checkpointAndRetire_status
    (hdistinct : Disk.Distinct A.sha (A.checkpointAndRetire.eval A.host m d).state.written) :
    (A.checkpointAndRetire.eval A.host m d).result = .ok () ∨
      (A.checkpointAndRetire.eval A.host m d).result = .error .limit ∨
      (A.checkpointAndRetire.eval A.host m d).result = .error .invalid := by
  rcases publishCheckpoint_status hroot with hlimit | hinvalid | ⟨hcounter, records, hpublishes⟩
  · exact .inr (.inl hlimit)
  · exact .inr (.inr hinvalid)
  have hwritten : (d.createMany records).written <+:
      (A.checkpointAndRetire.eval A.host m d).state.written := by
    refine visits_rel_end (R := fun s t : Disk => s.written <+: t.written)
      (fun _ => List.prefix_rfl) (fun hst htu => List.IsPrefix.trans hst htu)
      (Disk.host_written A.sha) (visits_bind_first ?_)
    have hpublish := publish_visits_last hroot.granted hroot.ready hpublishes (by simp)
      (checkpoint_free hv hlive hroot hpublishes.publication)
      (checkpoint_creatable hv hlive hroot hpublishes.publication)
    refine visits_bind_then (ends_fields.mpr ⟨rfl, rfl, rfl⟩) ?_
    refine visits_bind_then (a := ()) (ends_require.mpr ⟨decide_eq_true hcounter, rfl, rfl⟩) ?_
    exact visits_bind_first hpublish
  obtain ⟨-, next, m', d', -, -, hends, -⟩ := checkpointAndRetire_completes hv hlive hroot hcounter
    hpublishes (hdistinct.mono fun _ hf => hwritten.subset hf) (.inl rfl)
  left
  rw [hends]

theorem compactRoot_atomic (hdistinct : Disk.Distinct A.sha d₁.written)
    (h : (A.compactRoot m.state.generation m.commitSha).Visits A.host m d d₁) :
    Atomic A [.checkpoint] (A.compactRoot m.state.generation m.commitSha) m d d₁ current rest := by
  refine atomic_bind readOnly_verifiedCurrent hlive h fun state m₁ hcurrent h => ?_
  obtain ⟨rfl, rfl, -⟩ := (hroot.verifiedCurrent hlive).unique hcurrent
  refine atomic_bind (readOnly_readCommitMetadata _) hlive h fun p m₁ hcommit h => ?_
  obtain ⟨rfl, rfl, -⟩ := (hroot.readCommitMetadata hlive).unique hcommit
  refine atomic_bind (only_require _ _) hlive h fun _ m₁ hcheck h => ?_
  obtain ⟨-, rfl, -⟩ := ends_require.mp hcheck
  obtain ⟨o, hfound, hcase⟩ := unfinishedCleanup_ends hlive hroot current.commit.transition
  refine atomic_bind (readOnly_unfinishedCleanup _) hlive h fun o' m₁ hends h => ?_
  obtain ⟨rfl, rfl, -⟩ := hfound.unique hends
  rcases hcase with rfl | ⟨previous, g, rest', rfl, rfl, hretiring⟩
  · exact checkpointAndRetire_atomic hv hlive hroot hdistinct h
  · exact (retire_retires hlive hroot hretiring).atomic h

/-- On a live store nothing is found wanting. -/
theorem compactRoot_status
    (hdistinct : Disk.Distinct A.sha
      ((A.compactRoot m.state.generation m.commitSha).eval A.host m d).state.written) :
    ((A.compactRoot m.state.generation m.commitSha).eval A.host m d).result = .ok () ∨
      ((A.compactRoot m.state.generation m.commitSha).eval A.host m d).result = .error .limit ∨
      ((A.compactRoot m.state.generation m.commitSha).eval A.host m d).result =
        .error .invalid := by
  have hsha : (require (decide (current.commitSha = m.commitSha)) Status.recoveryRequired :
      Act Unit).Ends A.host m d () m d :=
    ends_require.mpr ⟨by rw [decide_eq_true_eq, hroot.commitSha], rfl, rfl⟩
  obtain ⟨o, hfound, hcase⟩ := unfinishedCleanup_ends hlive hroot current.commit.transition
  have heval : (A.compactRoot m.state.generation m.commitSha).eval A.host m d =
      (match o with
        | some previous => A.retire current.state previous
        | none => A.checkpointAndRetire).eval A.host m d := by
    rw [compactRoot, (hroot.verifiedCurrent hlive).bind_eval,
      (hroot.readCommitMetadata hlive).bind_eval]
    dsimp only
    rw [hsha.bind_eval, hfound.bind_eval]
  rw [heval] at hdistinct ⊢
  rcases hcase with rfl | ⟨previous, g, rest', rfl, rfl, hretiring⟩
  · exact checkpointAndRetire_status hv hlive hroot hdistinct
  · obtain ⟨d', hends⟩ := (retire_retires hlive hroot hretiring).ends
    left
    dsimp only
    rw [hends]

end Checkpoint

theorem compact_atomic (hv : A.validator.Stable) (hlive : Live A d (current :: rest))
    (hdistinct : Disk.Distinct A.sha d₁.written) (h : A.compact.Visits A.host m d d₁) :
    Atomic A [.checkpoint] A.compact m d d₁ current rest := by
  rw [compact_eq] at h ⊢
  refine atomic_bind (readOnly_guard false) hlive h fun session m₁ hguard h => ?_
  refine atomic_bind only_fields hlive h fun m₀ m₂ hfields h => ?_
  obtain ⟨rfl, rfl, -⟩ := ends_fields.mp hfields
  refine atomic_bind (only_require _ _) hlive h fun _ m₂ hcheck h => ?_
  obtain ⟨-, rfl, -⟩ := ends_require.mp hcheck
  refine atomic_bind readOnly_requireInventory hlive h fun u m₃ hlisted h => ?_
  refine atomic_bind readOnly_verifyCurrentRootFresh hlive h fun u m₄ hfresh h => ?_
  have hroot := checks_atRoot hlive hguard hlisted hfresh
  -- The inventory is new; the root that the member variables hold is not.
  obtain ⟨-, ⟨entries, b, -, rfl⟩, -⟩ := requireInventory_ends.mp hlisted
  obtain ⟨-, -, -, rfl, -⟩ := verifyCurrentRootFresh_ends.mp hfresh
  exact compactRoot_atomic hv hlive hroot hdistinct h

/-- `Compact` on a live store whose root is loaded does not ask for recovery. -/
theorem compact_status (hv : A.validator.Stable) (hlive : Live A d (current :: rest))
    (hroot : AtRoot A m d current)
    (hdistinct : Disk.Distinct A.sha (A.compact.eval A.host m d).state.written) :
    (A.compact.eval A.host m d).result = .ok () ∨
      (A.compact.eval A.host m d).result = .error .limit ∨
      (A.compact.eval A.host m d).result = .error .invalid := by
  obtain ⟨session, hsession, howner⟩ := hroot.granted.session
  have hguard : (A.guard false).Ends A.host m d session m d :=
    guard_ends.mpr ⟨hroot.granted, hsession, .inl hroot.ready, rfl, rfl⟩
  have hfresh : A.verifyCurrentRootFresh.Ends A.host m d () m d := by
    obtain ⟨-, hloaded, -, -, -, hcurrent⟩ := hroot.fresh hlive
    exact verifyCurrentRootFresh_ends.mpr ⟨hroot.granted, hloaded, hcurrent, rfl, rfl⟩
  have heval : A.compact.eval A.host m d =
      (A.compactRoot m.state.generation m.commitSha).eval A.host m d := by
    rw [compact_eq, hguard.bind_eval, eval_fields, eval_require, if_pos hroot.loaded,
      (hroot.requireInventory hlive).bind_eval, hfresh.bind_eval]
  rw [heval] at hdistinct ⊢
  exact compactRoot_status hv hlive hroot hdistinct

end TradeOps.Agent
