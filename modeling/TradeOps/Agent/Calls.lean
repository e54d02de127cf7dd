import TradeOps.Agent.Transitions

/-!
# Calls on a live store

What an operation may leave when it is stopped at any call of the storage. Every operation first
makes sure of the root, whatever the member variables were; the operations that change the store
publish one state that follows it.
-/

namespace TradeOps.Agent

open Prog TelemetryState

section Rules

variable {A : TelemetryState} {m m' : Fields} {d d₁ : Disk} {current : Generation}
  {rest : List Generation} {α β : Type}

/-- The store that a stopped call leaves: it has the root of before, or the root with which the
completed call ends, published by one of some transitions. -/
structure Outcome (A : TelemetryState) (ts : List Transition) (p : Act α) (m : Fields) (d d₁ : Disk)
    (current : Generation) (rest : List Generation) : Prop where
  grows : Grows d d₁
  live : Live A d₁ (current :: rest) ∨
    ∃ next a m' d', next.commit.transition ∈ ts ∧ Live A d₁ (next :: current :: rest) ∧
      p.Ends A.host m d a m' d' ∧ Live A d' (next :: current :: rest) ∧ AtRoot A m' d' next

variable {ts : List Transition}

theorem Outcome.unchanged {p : Act α} (h : Live A d (current :: rest)) :
    Outcome A ts p m d d current rest := ⟨Grows.refl d, .inl h⟩

/-- A program that reads first. -/
theorem outcome_bind {p : Act α} {k : α → Act β} (hp : ReadOnly p)
    (hlive : Live A d (current :: rest)) (h : (p >>= k).Visits A.host m d d₁)
    (hk : ∀ a m₁, p.Ends A.host m d a m₁ d → (k a).Visits A.host m₁ d d₁ →
      Outcome A ts (k a) m₁ d d₁ current rest) : Outcome A ts (p >>= k) m d d₁ current rest := by
  rcases visits_bind h with hread | ⟨a, m₁, d₂, hends, hrest⟩
  · rw [hp.visits hread]
    exact .unchanged hlive
  · obtain rfl := hp.ends hends
    have hout := hk a m₁ hends hrest
    refine ⟨hout.grows, ?_⟩
    rcases hout.live with hkept | ⟨next, b, m', d', ht, hnew, hends', hlive', hat⟩
    · exact .inl hkept
    · exact .inr ⟨next, b, m', d', ht, hnew, ends_bind.mpr ⟨a, m₁, _, hends, hends'⟩, hlive', hat⟩

/-- A program that reads after it has published. -/
theorem outcome_then {p : Act α} {k : α → Act β} (hk : ∀ a, ReadOnly (k a))
    (h : (p >>= k).Visits A.host m d d₁)
    (hp : p.Visits A.host m d d₁ → Outcome A ts p m d d₁ current rest)
    (hends : ∀ next a m' d', next.commit.transition ∈ ts →
      Live A d' (next :: current :: rest) → AtRoot A m' d' next →
      ∃ b m'', (k a).Ends A.host m' d' b m'' d' ∧ AtRoot A m'' d' next) :
    Outcome A ts (p >>= k) m d d₁ current rest := by
  have hvisit : p.Visits A.host m d d₁ := by
    rcases visits_bind h with hfirst | ⟨a, m₁, d₂, hend, hrest⟩
    · exact hfirst
    · rw [(hk a).visits hrest]
      exact hend.visits
  have hout := hp hvisit
  refine ⟨hout.grows, ?_⟩
  rcases hout.live with hkept | ⟨next, a, m', d', ht, hnew, hend, hlive', hat⟩
  · exact .inl hkept
  · obtain ⟨b, m'', hend', hat'⟩ := hends next a m' d' ht hlive' hat
    exact .inr ⟨next, b, m'', d', ht, hnew, ends_bind.mpr ⟨a, m', d', hend, hend'⟩, hlive', hat'⟩

theorem readOnly_outcome {p : Act α} (hp : ReadOnly p) (hlive : Live A d (current :: rest))
    (h : p.Visits A.host m d d₁) : Outcome A ts p m d d₁ current rest := by
  rw [hp.visits h]
  exact .unchanged hlive

theorem publish_outcome' {t : Transition} {candidate : LocalState} {objects : List StoredRecord}
    (hlive : Live A d (current :: rest)) (hroot : AtRoot A m d current)
    (hfollows : Follows m t candidate)
    (hstaged : localStateValid candidate = true → Staged A d candidate objects)
    (hdistinct : Disk.Distinct A.sha d₁.written)
    (h : (A.publish t candidate objects).Visits A.host m d d₁) :
    Outcome A [t] (A.publish t candidate objects) m d d₁ current rest := by
  obtain ⟨hgrows, hcase⟩ := publish_outcome hlive hroot hfollows hstaged hdistinct h
  refine ⟨hgrows, hcase.imp_right ?_⟩
  rintro ⟨next, m', -, ht, hnew, hat, hends⟩
  exact ⟨next, (), m', d₁, by rw [ht]; exact List.mem_singleton_self t, hnew, hends, hnew, hat⟩

end Rules

/-! ## The programs around a transition only read -/

namespace TelemetryState

variable {A : TelemetryState}

theorem readOnly_readPending : ReadOnly A.readPending :=
  only_bind readOnly_freshOutboxRoot fun _ => only_bind only_fields fun _ =>
    only_bind (only_require _ _) fun _ => only_bind (readOnly_readPresent _) fun _ =>
      only_bind (readOnly_typedPayloadValid _ _ _ _) fun _ => only_pure _

theorem readOnly_readArena (refs : List LocalRef) (arena : Bytes) (ends : List Nat) :
    ReadOnly (A.readArena refs arena ends) := by
  induction refs generalizing arena ends with
  | nil => exact only_pure _
  | cons r rest ih => exact only_bind (readOnly_readPresent r) fun _ => ih _ _

theorem readOnly_readOutboxContext : ReadOnly A.readOutboxContext :=
  only_bind readOnly_freshOutboxRoot fun _ => only_bind only_fields fun _ =>
    only_bind (readOnly_readPresent _) fun _ => only_bind (readOnly_readArena _ _ _) fun _ =>
      only_pure _

theorem readOnly_readCaptureContext : ReadOnly A.readCaptureContext :=
  only_bind readOnly_freshOutboxRoot fun _ => only_bind only_fields fun _ =>
    only_bind (readOnly_readPresent _) fun _ => only_bind (readOnly_readPresent _) fun _ =>
      only_bind (readOnly_typedPayloadValid _ _ _ _) fun _ =>
        only_bind (readOnly_typedPayloadValid _ _ _ _) fun _ => only_pure _

theorem readOnly_matchStored (c : AppendCandidate) (payload : Bytes) (replay : Replay) :
    ReadOnly (A.matchStored c payload replay) := by
  refine only_bind only_fields fun m => ?_
  cases findEvent m.state.events c.eventId with
  | none => exact only_pure _
  | some found =>
    exact only_bind (only_require _ _) fun _ => only_bind (only_require _ _) fun _ =>
      only_bind (only_require _ _) fun _ => only_bind (readOnly_readPresent _) fun _ =>
        only_bind (only_require _ _) fun _ => only_pure _

theorem readOnly_appendStep (arena : Bytes) (c : AppendCandidate) (last : Nat) (replay : Replay) :
    ReadOnly (A.appendStep arena c last replay) :=
  only_bind only_fields fun _ => only_bind (only_require _ _) fun _ =>
    only_bind (only_require _ _) fun _ => only_bind (only_require _ _) fun _ =>
      only_bind (only_require _ _) fun _ => only_bind (readOnly_matchStored _ _ _) fun _ =>
        only_bind (only_require _ _) fun _ => only_pure _

theorem readOnly_appendLoop (arena : Bytes) (candidates : List (AppendCandidate × Nat))
    (replay : Replay) : ReadOnly (A.appendLoop arena candidates replay) := by
  induction candidates generalizing replay with
  | nil => exact only_pure _
  | cons p rest ih => exact only_bind (readOnly_appendStep _ _ _ _) fun _ => ih _

theorem readOnly_currentCaptureMatches (capture : Bytes) (captureSchema : Text) :
    ReadOnly (A.currentCaptureMatches capture captureSchema) := by
  refine only_bind only_fields fun m => ?_
  split
  · exact only_pure _
  · exact only_bind (readOnly_readPresent _) fun _ => only_pure _

end TelemetryState

/-! ## The root at the time of a transition -/

section Roots

variable {A : TelemetryState} {m m' : Fields} {d d' d₁ : Disk} {current : Generation}
  {rest : List Generation}

theorem freshOutboxRoot_atRoot {u : Unit} (hlive : Live A d (current :: rest))
    (h : A.freshOutboxRoot.Ends A.host m d u m' d') : AtRoot A m' d current := by
  obtain ⟨⟨b, hfresh⟩, -, -⟩ := freshOutboxRoot_ends.mp h
  exact hfresh.atRoot hlive

/-- From the root, another look at it finds it again. -/
theorem AtRoot.freshOutboxRoot (h : AtRoot A m d current) (hlive : Live A d (current :: rest)) :
    A.freshOutboxRoot.Ends A.host m d () m d :=
  freshOutboxRoot_ends.mpr ⟨⟨_, h.fresh hlive⟩, rfl, rfl⟩

/-- The checks of the operations that take the inventory themselves. -/
theorem checks_atRoot {session : Nat} {m₁ m₂ : Fields} {u u' : Unit}
    (hlive : Live A d (current :: rest)) (hguard : (A.guard false).Ends A.host m d session m₁ d)
    (hlisted : A.requireInventory.Ends A.host m₁ d u m₂ d)
    (hfresh : A.verifyCurrentRootFresh.Ends A.host m₂ d u' m' d) : AtRoot A m' d current := by
  obtain ⟨-, -, hready, rfl, -⟩ := guard_ends.mp hguard
  obtain ⟨-, ⟨entries, b, hlist, rfl⟩, -⟩ := requireInventory_ends.mp hlisted
  obtain ⟨hgranted, hloaded, hcurrent, rfl, -⟩ := verifyCurrentRootFresh_ends.mp hfresh
  have hready' : m₁.reloadRequired = false := by simpa using hready
  exact TelemetryState.Fresh.atRoot ⟨hgranted, hloaded, hready', hlist, rfl, hcurrent⟩ hlive

/-- The request that waits is read as it was stored. -/
theorem readPending_atRoot {bytes : Bytes} (hlive : Live A d (current :: rest))
    (h : A.readPending.Ends A.host m d bytes m' d') :
    AtRoot A m' d current ∧ current.state.pending.kind ≠ .absent ∧
      A.payloadAt d current.state.pending = some bytes := by
  simp only [readPending, ends_bind, ends_fields, ends_require, readPresent_ends] at h
  obtain ⟨u₀, m₁, d₁, hfresh, a, m₂, d₂, ⟨rfl, rfl, rfl⟩, -, m₃, d₃, ⟨hwaits, rfl, rfl⟩, stored, m₄,
    d₄, ⟨hgranted, hstored, rfl, rfl⟩, u, m₅, d₅, htyped, hpure⟩ := h
  obtain ⟨rfl, rfl, rfl⟩ := ends_pure.mp hpure
  obtain ⟨-, rfl, rfl⟩ := (typedPayloadValid_ends hgranted).mp htyped
  obtain ⟨-, -, rfl⟩ := freshOutboxRoot_ends.mp hfresh
  have hat := freshOutboxRoot_atRoot hlive hfresh
  simp only [decide_eq_true_eq] at hwaits
  rw [hat.state] at hwaits hstored
  exact ⟨hat, hwaits, hstored⟩

theorem AtRoot.readPending (h : AtRoot A m d current) (hlive : Live A d (current :: rest))
    (hwaits : current.state.pending.kind ≠ .absent) :
    ∃ bytes, A.readPending.Ends A.host m d bytes m d := by
  have hmem : current.state.pending ∈ rootRefs current.state :=
    List.mem_cons_of_mem _ (mem_objectRefs.mpr (.inr (.inr (.inl ⟨hwaits, rfl⟩))))
  obtain ⟨bytes, hpayload, htyped⟩ := (hlive.current rfl).refs _ hmem
  refine ⟨bytes, ?_⟩
  simp only [TelemetryState.readPending, ends_bind, ends_fields, ends_require, readPresent_ends]
  refine ⟨(), m, d, h.freshOutboxRoot hlive, m, m, d, ⟨rfl, rfl, rfl⟩, (), m, d,
    ⟨?_, rfl, rfl⟩, bytes, m, d, ⟨h.granted, ?_, rfl, rfl⟩, (), m, d,
    (typedPayloadValid_ends h.granted).mpr ⟨?_, rfl, rfl⟩, ends_pure.mpr ⟨rfl, rfl, rfl⟩⟩
  · rw [decide_eq_true_eq, h.state]
    exact hwaits
  · rw [h.state]
    exact hpayload
  · rw [h.inventory, h.state]
    exact htyped

end Roots

end TradeOps.Agent
