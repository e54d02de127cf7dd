import Mathlib.Logic.Relation

/-!
# Systems and their runs

A system is a set of initial states and a labelled step relation. An invariant is proved by one
lemma about the initial states and one about a step; a relation between an earlier and a later
state of a run is proved from a step, given an invariant. A map that sends the steps of one system
to runs of another carries the second system's invariants over.
-/

/-- Initial states and labelled steps. -/
structure System (σ ℓ : Type) where
  init : σ → Prop
  step : ℓ → σ → σ → Prop

namespace System

variable {σ τ ℓ m : Type}

/-- One step, whatever its label. -/
def Next (S : System σ ℓ) (s s' : σ) : Prop :=
  ∃ l, S.step l s s'

/-- Any number of steps. -/
def Run (S : System σ ℓ) : σ → σ → Prop :=
  Relation.ReflTransGen S.Next

/-- A state that a run from an initial state ends in. -/
def Reachable (S : System σ ℓ) (s : σ) : Prop :=
  ∃ s₀, S.init s₀ ∧ S.Run s₀ s

variable {S : System σ ℓ} {s s' s'' : σ} {l : ℓ}

theorem Run.refl (S : System σ ℓ) (s : σ) : S.Run s s :=
  Relation.ReflTransGen.refl

theorem Run.snoc (h : S.Run s s') (hstep : S.step l s' s'') : S.Run s s'' :=
  Relation.ReflTransGen.tail h ⟨l, hstep⟩

theorem Run.trans (h : S.Run s s') (h' : S.Run s' s'') : S.Run s s'' :=
  Relation.ReflTransGen.trans h h'

theorem Reachable.run (h : S.Reachable s) (hrun : S.Run s s') : S.Reachable s' := by
  obtain ⟨s₀, hinit, h₀⟩ := h
  exact ⟨s₀, hinit, h₀.trans hrun⟩

theorem Reachable.init (h : S.init s) : S.Reachable s :=
  ⟨s, h, Run.refl S s⟩

theorem Reachable.snoc (h : S.Reachable s) (hstep : S.step l s s') : S.Reachable s' :=
  h.run ((Run.refl S s).snoc hstep)

/-- What a step keeps, a run keeps. -/
theorem Run.keeps {I : σ → Prop} (hstep : ∀ l s s', I s → S.step l s s' → I s')
    (hrun : S.Run s s') (hs : I s) : I s' := by
  induction hrun with
  | refl => exact hs
  | tail _ hnext ih =>
    obtain ⟨l, hl⟩ := hnext
    exact hstep l _ _ ih hl

/-- An inductive invariant holds in every reachable state. -/
theorem Reachable.invariant {I : σ → Prop} (hinit : ∀ s, S.init s → I s)
    (hstep : ∀ l s s', I s → S.step l s s' → I s') (h : S.Reachable s) : I s := by
  obtain ⟨s₀, h₀, hrun⟩ := h
  exact hrun.keeps hstep (hinit s₀ h₀)

/-- A preorder that every step from a state of an invariant respects relates the two ends of a
run. -/
theorem Run.related {I : σ → Prop} {R : σ → σ → Prop} (hrefl : ∀ s, R s s)
    (htrans : ∀ s s' s'', R s s' → R s' s'' → R s s'')
    (hkeep : ∀ l s s', I s → S.step l s s' → I s')
    (hstep : ∀ l s s', I s → S.step l s s' → R s s') (hs : I s) (hrun : S.Run s s') : R s s' := by
  suffices h : I s' ∧ R s s' from h.2
  induction hrun with
  | refl => exact ⟨hs, hrefl s⟩
  | tail _ hnext ih =>
    obtain ⟨l, hl⟩ := hnext
    exact ⟨hkeep l _ _ ih.1 hl, htrans _ _ _ ih.2 (hstep l _ _ ih.1 hl)⟩

/-- A map that sends initial states to initial states and steps to runs sends reachable states to
reachable states. -/
theorem Reachable.map {T : System τ m} {f : σ → τ} (hinit : ∀ s, S.init s → T.init (f s))
    (hstep : ∀ l s s', S.step l s s' → T.Run (f s) (f s')) (h : S.Reachable s) :
    T.Reachable (f s) := by
  obtain ⟨s₀, h₀, hrun⟩ := h
  refine ⟨f s₀, hinit s₀ h₀, ?_⟩
  induction hrun with
  | refl => exact Run.refl T _
  | tail _ hnext ih =>
    obtain ⟨l, hl⟩ := hnext
    exact ih.trans (hstep l _ _ hl)

end System
