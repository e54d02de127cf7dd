import Mathlib.Logic.Basic

/-!
# Programs over a service that may fail

A program keeps fields of its own and calls a service. It ends at the first call that fails, with
a status that it derives from the failure; a failed call is never made good. The service is either
healthy, or it follows a script of faults: a call may fail before or after it took effect, and the
program may be stopped at a call.

Whatever the script is, the program leaves the service in a state that the same program passes
through on the healthy service (`visits_of_run`), and if it ends well the run is the healthy one
(`eval_of_run_done`). So a property of interrupted runs is proved about the states that one
deterministic run visits.
-/

/-- The calls of a service, what they answer, and how they fail. -/
structure Service where
  Call : Type
  Reply : Call → Type
  Failure : Type

/-- A service in good health, on its states. -/
abbrev Service.Host (V : Service) (σ : Type) := (c : V.Call) → σ → Except V.Failure (V.Reply c) × σ

/-- What happens to one call. -/
inductive Service.Event (V : Service) where
  | served
  | refused (f : V.Failure)
  | lost (f : V.Failure)
  | stopped

/-- A program with fields `μ` and statuses `ε`. -/
inductive Prog (V : Service) (μ ε α : Type) : Type where
  | done (a : α)
  | fail (e : ε)
  | load (k : μ → Prog V μ ε α)
  | store (m : μ) (next : Prog V μ ε α)
  | call (c : V.Call) (onFailure : V.Failure → μ → ε × μ) (k : V.Reply c → Prog V μ ε α)

namespace Prog

variable {V : Service} {μ ε α β σ : Type}

def bind : Prog V μ ε α → (α → Prog V μ ε β) → Prog V μ ε β
  | done a, k => k a
  | fail e, _ => fail e
  | load f, k => load fun m => (f m).bind k
  | store m p, k => store m (p.bind k)
  | call c h f, k => call c h fun r => (f r).bind k

instance : Monad (Prog V μ ε) where
  pure := done
  bind := bind

/-- The fields. -/
def fields : Prog V μ ε μ := load done

/-- Overwrite the fields. -/
def update (f : μ → μ) : Prog V μ ε Unit := load fun m => store (f m) (done ())

/-- End with a status unless a test holds. -/
def require (ok : Bool) (e : ε) : Prog V μ ε Unit := if ok then done () else fail e

/-- Change the status of a program that fails. -/
def mapFail (f : ε → ε) : Prog V μ ε α → Prog V μ ε α
  | done a => done a
  | fail e => fail (f e)
  | load k => load fun m => (k m).mapFail f
  | store m p => store m (p.mapFail f)
  | call c h k => call c (fun x m => (f (h x m).1, (h x m).2)) fun r => (k r).mapFail f

/-! ## The healthy run -/

/-- The result, the fields and the service at the end. -/
structure End (ε α μ σ : Type) where
  result : Except ε α
  fields : μ
  state : σ

/-- The run over a healthy service. -/
def eval (host : V.Host σ) : Prog V μ ε α → μ → σ → End ε α μ σ
  | done a, m, s => ⟨.ok a, m, s⟩
  | fail e, m, s => ⟨.error e, m, s⟩
  | load k, m, s => (k m).eval host m s
  | store m p, _, s => p.eval host m s
  | call c h k, m, s =>
    match host c s with
    | (.ok r, s') => (k r).eval host m s'
    | (.error f, s') => ⟨.error (h f m).1, (h f m).2, s'⟩

/-- The states of the service that the healthy run passes through. -/
def Visits (host : V.Host σ) : Prog V μ ε α → μ → σ → σ → Prop
  | done _, _, s, t => t = s
  | fail _, _, s, t => t = s
  | load k, m, s, t => (k m).Visits host m s t
  | store m p, _, s, t => p.Visits host m s t
  | call c _ k, m, s, t =>
    t = s ∨
      match host c s with
      | (.ok r, s') => (k r).Visits host m s' t
      | (.error _, s') => t = s'

/-- The run ends well, with this value and these fields. -/
def Ends (host : V.Host σ) (p : Prog V μ ε α) (m : μ) (s : σ) (a : α) (m' : μ) (s' : σ) : Prop :=
  p.eval host m s = ⟨.ok a, m', s'⟩

attribute [local simp] bind mapFail eval Visits

variable {host : V.Host σ} {m m' : μ} {s s' t : σ}

theorem visits_start (p : Prog V μ ε α) (m : μ) (s : σ) : p.Visits host m s s := by
  induction p generalizing m s with
  | done a => exact rfl
  | fail e => exact rfl
  | load k ih => exact ih m m s
  | store m' p ih => exact ih m' s
  | call c h k ih =>
    rw [Visits]
    exact .inl rfl

theorem visits_end (p : Prog V μ ε α) (m : μ) (s : σ) :
    p.Visits host m s (p.eval host m s).state := by
  induction p generalizing m s with
  | done a => exact rfl
  | fail e => exact rfl
  | load k ih => exact ih m m s
  | store m' p ih => exact ih m' s
  | call c h k ih =>
    rw [Visits, eval]
    refine .inr ?_
    split
    next r s' hr => exact ih r m s'
    next f s' hf => rfl

theorem Ends.visits {p : Prog V μ ε α} {a : α} (h : p.Ends host m s a m' s') :
    p.Visits host m s s' := by
  have hlast : p.Visits host m s (p.eval host m s).state := visits_end p m s
  rw [h] at hlast
  exact hlast

/-- What every call of the service keeps, a run keeps. -/
theorem visits_rel {R : σ → σ → Prop} (hrefl : ∀ s, R s s)
    (htrans : ∀ {s₁ s₂ s₃}, R s₁ s₂ → R s₂ s₃ → R s₁ s₃) (hcall : ∀ c s, R s (host c s).2)
    {p : Prog V μ ε α} (h : p.Visits host m s t) : R s t := by
  induction p generalizing m s with
  | done a => exact h ▸ hrefl s
  | fail e => exact h ▸ hrefl s
  | load k ih => exact ih m h
  | store m' p ih => exact ih h
  | call c g k ih =>
    have hone := hcall c s
    rw [Visits] at h
    rcases h with rfl | h
    · exact hrefl t
    · split at h
      next r s' hr =>
        rw [hr] at hone
        exact htrans hone (ih r h)
      next x s' hx =>
        rw [hx] at hone
        exact h ▸ hone

/-- What every call of the service keeps is kept from a state that a run visits to its end. -/
theorem visits_rel_end {R : σ → σ → Prop} (hrefl : ∀ s, R s s)
    (htrans : ∀ {s₁ s₂ s₃}, R s₁ s₂ → R s₂ s₃ → R s₁ s₃) (hcall : ∀ c s, R s (host c s).2)
    {p : Prog V μ ε α} (h : p.Visits host m s t) : R t (p.eval host m s).state := by
  induction p generalizing m s with
  | done a => exact h ▸ hrefl s
  | fail e => exact h ▸ hrefl s
  | load k ih => exact ih m h
  | store m' p ih => exact ih h
  | call c g k ih =>
    rw [Visits] at h
    rcases h with rfl | h
    · exact visits_rel hrefl htrans hcall (visits_end (call c g k) m t)
    · rw [eval]
      split at h
      next r s' hr => exact ih r h
      next x s' hx => exact h ▸ hrefl s'

/-- A run ends in one way. -/
theorem Ends.unique {p : Prog V μ ε α} {a b : α} {m₁ m₂ : μ} {s₁ s₂ : σ}
    (h : p.Ends host m s a m₁ s₁) (h' : p.Ends host m s b m₂ s₂) :
    a = b ∧ m₁ = m₂ ∧ s₁ = s₂ := by
  have heq := h.symm.trans h'
  rw [End.mk.injEq, Except.ok.injEq] at heq
  exact heq

/-! ## Rules for the healthy run -/

theorem ends_pure {a b : α} :
    (pure b : Prog V μ ε α).Ends host m s a m' s' ↔ b = a ∧ m = m' ∧ s = s' := by
  show End.mk _ _ _ = End.mk _ _ _ ↔ _
  rw [End.mk.injEq, Except.ok.injEq]

theorem eval_bind (p : Prog V μ ε α) (k : α → Prog V μ ε β) (m : μ) (s : σ) :
    (p >>= k).eval host m s =
      match (p.eval host m s).result with
      | .ok a => (k a).eval host (p.eval host m s).fields (p.eval host m s).state
      | .error e => ⟨.error e, (p.eval host m s).fields, (p.eval host m s).state⟩ := by
  show (p.bind k).eval host m s = _
  induction p generalizing m s with
  | done a => rfl
  | fail e => rfl
  | load f ih => exact ih m m s
  | store m' p ih => exact ih m' s
  | call c h f ih =>
    simp only [bind, eval]
    split
    next r s' hr => exact ih r m s'
    next x s' hx => rfl

theorem ends_bind {p : Prog V μ ε α} {k : α → Prog V μ ε β} {b : β} :
    (p >>= k).Ends host m s b m' s' ↔
      ∃ a m₁ s₁, p.Ends host m s a m₁ s₁ ∧ (k a).Ends host m₁ s₁ b m' s' := by
  unfold Ends
  rw [eval_bind]
  constructor
  · intro h
    generalize p.eval host m s = finish at h
    obtain ⟨result, m₁, s₁⟩ := finish
    cases result with
    | ok a => exact ⟨a, m₁, s₁, rfl, h⟩
    | error e => simp at h
  · rintro ⟨a, m₁, s₁, hp, hk⟩
    rw [hp]
    exact hk

/-- A run that ends well goes on with its value. -/
theorem Ends.bind_eval {p : Prog V μ ε α} {a : α} (h : p.Ends host m s a m' s')
    (k : α → Prog V μ ε β) : (p >>= k).eval host m s = (k a).eval host m' s' := by
  rw [eval_bind, h]

theorem visits_bind {p : Prog V μ ε α} {k : α → Prog V μ ε β} (h : (p >>= k).Visits host m s t) :
    p.Visits host m s t ∨
      ∃ a m₁ s₁, p.Ends host m s a m₁ s₁ ∧ (k a).Visits host m₁ s₁ t := by
  change (p.bind k).Visits host m s t at h
  unfold Ends
  induction p generalizing m s with
  | done a => exact .inr ⟨a, m, s, rfl, h⟩
  | fail e => exact .inl h
  | load f ih => exact ih m h
  | store m' p ih => exact ih h
  | call c g f ih =>
    simp only [bind, Visits, eval] at h ⊢
    rcases h with h | h
    · exact .inl (.inl h)
    · split at h
      next r s' hr =>
        rcases ih r h with hvisit | hrest
        · exact .inl (.inr hvisit)
        · exact .inr hrest
      next x s' hx => exact .inl (.inr h)

theorem visits_bind_first {p : Prog V μ ε α} {k : α → Prog V μ ε β} (h : p.Visits host m s t) :
    (p >>= k).Visits host m s t := by
  show (p.bind k).Visits host m s t
  induction p generalizing m s with
  | done a =>
    have ht : t = s := h
    rw [ht]
    exact visits_start (k a) m s
  | fail e => exact h
  | load f ih => exact ih m h
  | store m' p ih => exact ih h
  | call c g f ih =>
    simp only [bind, Visits] at h ⊢
    refine h.imp_right fun h => ?_
    split at h
    next r s' hr => exact ih r h
    next x s' hx => exact h

theorem visits_bind_then {p : Prog V μ ε α} {k : α → Prog V μ ε β} {a : α}
    (hp : p.Ends host m s a m' s') (h : (k a).Visits host m' s' t) :
    (p >>= k).Visits host m s t := by
  show (p.bind k).Visits host m s t
  unfold Ends at hp
  induction p generalizing m s with
  | done b =>
    simp only [eval, End.mk.injEq, Except.ok.injEq] at hp
    obtain ⟨rfl, rfl, rfl⟩ := hp
    exact h
  | fail e => simp [eval] at hp
  | load f ih => exact ih m hp
  | store m' p ih => exact ih hp
  | call c g f ih =>
    simp only [bind, Visits, eval] at hp ⊢
    right
    split at hp
    next r s₁ hr => exact ih r hp
    next x s₁ hx => simp at hp

@[simp] theorem ends_fields {a : μ} :
    (fields : Prog V μ ε μ).Ends host m s a m' s' ↔ m = a ∧ m = m' ∧ s = s' := by
  show (pure m : Prog V μ ε μ).Ends host m s a m' s' ↔ _
  exact ends_pure

@[simp] theorem ends_update {f : μ → μ} {u : Unit} :
    (update f : Prog V μ ε Unit).Ends host m s u m' s' ↔ f m = m' ∧ s = s' := by
  show End.mk _ _ _ = End.mk _ _ _ ↔ _
  rw [End.mk.injEq]
  simp

@[simp] theorem ends_fail {e : ε} {a : α} : ¬ (fail e : Prog V μ ε α).Ends host m s a m' s' := by
  rintro ⟨⟩

@[simp] theorem ends_require {ok : Bool} {e : ε} {u : Unit} :
    (require ok e : Prog V μ ε Unit).Ends host m s u m' s' ↔ ok = true ∧ m = m' ∧ s = s' := by
  cases ok with
  | true =>
    show (pure () : Prog V μ ε Unit).Ends host m s u m' s' ↔ _
    rw [ends_pure]
    simp
  | false =>
    refine iff_of_false ends_fail ?_
    simp

theorem eval_require (ok : Bool) (e : ε) (k : Unit → Prog V μ ε α) (m : μ) (s : σ) :
    (require ok e >>= k).eval host m s =
      if ok then (k ()).eval host m s else ⟨.error e, m, s⟩ := by
  cases ok <;> rfl

theorem eval_fields (k : μ → Prog V μ ε α) (m : μ) (s : σ) :
    (fields >>= k).eval host m s = (k m).eval host m s := rfl

theorem ends_call {c : V.Call} {h : V.Failure → μ → ε × μ} {a : V.Reply c} :
    (call c h done : Prog V μ ε (V.Reply c)).Ends host m s a m' s' ↔
      host c s = (.ok a, s') ∧ m = m' := by
  unfold Ends
  rw [eval]
  split
  next r s₁ hr =>
    rw [hr, eval, End.mk.injEq, Except.ok.injEq, Prod.mk.injEq, Except.ok.injEq]
    constructor
    · rintro ⟨ha, hm, hs⟩
      exact ⟨⟨ha, hs⟩, hm⟩
    · rintro ⟨⟨ha, hs⟩, hm⟩
      exact ⟨ha, hm, hs⟩
  next f s₁ hf =>
    rw [hf]
    simp

theorem visits_call {c : V.Call} {h : V.Failure → μ → ε × μ} :
    (call c h done : Prog V μ ε (V.Reply c)).Visits host m s t ↔ t = s ∨ t = (host c s).2 := by
  rw [Visits]
  refine or_congr_right ?_
  split
  next r s₁ hr =>
    rw [hr]
    exact Iff.rfl
  next f s₁ hf => rw [hf]

theorem eval_mapFail (f : ε → ε) (p : Prog V μ ε α) (m : μ) (s : σ) :
    (p.mapFail f).eval host m s =
      ⟨(p.eval host m s).result.mapError f, (p.eval host m s).fields, (p.eval host m s).state⟩ := by
  induction p generalizing m s with
  | done a => rfl
  | fail e => rfl
  | load k ih => exact ih m m s
  | store m' p ih => exact ih m' s
  | call c h k ih =>
    simp only [mapFail, eval]
    split
    next r s' hr => exact ih r m s'
    next x s' hx => rfl

@[simp] theorem ends_mapFail {f : ε → ε} {p : Prog V μ ε α} {a : α} :
    (p.mapFail f).Ends host m s a m' s' ↔ p.Ends host m s a m' s' := by
  unfold Ends
  rw [eval_mapFail]
  obtain ⟨result, m₁, s₁⟩ := p.eval host m s
  cases result with
  | ok b => rfl
  | error e => exact ⟨fun h => (by cases h), fun h => (by cases h)⟩

/-! ## Programs that only read -/

/-- Every call is one of a set. -/
def Only (reads : V.Call → Prop) : Prog V μ ε α → Prop
  | done _ => True
  | fail _ => True
  | load k => ∀ m, (k m).Only reads
  | store _ p => p.Only reads
  | call c _ k => reads c ∧ ∀ r, (k r).Only reads

variable {reads : V.Call → Prop}

theorem only_pure (a : α) : (pure a : Prog V μ ε α).Only reads := trivial

theorem only_fail (e : ε) : (fail e : Prog V μ ε α).Only reads := trivial

theorem only_fields : (fields : Prog V μ ε μ).Only reads := fun _ => trivial

theorem only_update (f : μ → μ) : (update f : Prog V μ ε Unit).Only reads := fun _ => trivial

theorem only_require (ok : Bool) (e : ε) : (require ok e : Prog V μ ε Unit).Only reads := by
  cases ok <;> exact trivial

theorem only_bind {p : Prog V μ ε α} {k : α → Prog V μ ε β} (hp : p.Only reads)
    (hk : ∀ a, (k a).Only reads) : (p >>= k).Only reads := by
  show (p.bind k).Only reads
  induction p with
  | done a => exact hk a
  | fail e => exact trivial
  | load f ih => exact fun m => ih m (hp m)
  | store m' p ih => exact ih hp
  | call c h f ih => exact ⟨hp.1, fun r => ih r (hp.2 r)⟩

theorem only_mapFail {f : ε → ε} {p : Prog V μ ε α} (hp : p.Only reads) :
    (p.mapFail f).Only reads := by
  induction p with
  | done a => exact trivial
  | fail e => exact trivial
  | load k ih => exact fun m => ih m (hp m)
  | store m' p ih => exact ih hp
  | call c h k ih => exact ⟨hp.1, fun r => ih r (hp.2 r)⟩

/-- A program that only reads passes through one state. -/
theorem Only.visits {p : Prog V μ ε α} (hp : p.Only reads)
    (hreads : ∀ c, reads c → ∀ s, (host c s).2 = s) (h : p.Visits host m s t) : t = s := by
  induction p generalizing m s with
  | done a => exact h
  | fail e => exact h
  | load k ih => exact ih m (hp m) h
  | store m' p ih => exact ih hp h
  | call c g k ih =>
    have hkeep := hreads c hp.1 s
    rw [Visits] at h
    rcases h with h | h
    · exact h
    · split at h
      next r s' hr =>
        rw [hr] at hkeep
        rw [ih r (hp.2 r) h]
        exact hkeep
      next x s' hx =>
        rw [hx] at hkeep
        rw [h]
        exact hkeep

theorem Only.state {p : Prog V μ ε α} (hp : p.Only reads)
    (hreads : ∀ c, reads c → ∀ s, (host c s).2 = s) : (p.eval host m s).state = s :=
  hp.visits hreads (visits_end p m s)

/-! ## Runs with faults -/

/-- How a run ends that may be stopped. -/
inductive Exit (ε α : Type) where
  | done (a : α)
  | failed (e : ε)
  | stopped

/-- The exit, the fields and the service at the end. -/
structure Trace (ε α μ σ : Type) where
  exit : Exit ε α
  fields : μ
  state : σ

/-- The run over a service that follows a script, and is healthy after it. -/
def run (host : V.Host σ) : List V.Event → Prog V μ ε α → μ → σ → Trace ε α μ σ
  | _, done a, m, s => ⟨.done a, m, s⟩
  | _, fail e, m, s => ⟨.failed e, m, s⟩
  | script, load k, m, s => run host script (k m) m s
  | script, store m p, _, s => run host script p m s
  | .refused f :: _, call _ h _, m, s => ⟨.failed (h f m).1, (h f m).2, s⟩
  | .lost f :: _, call c h _, m, s => ⟨.failed (h f m).1, (h f m).2, (host c s).2⟩
  | .stopped :: _, call _ _ _, m, s => ⟨.stopped, m, s⟩
  | script, call c h k, m, s =>
    match host c s with
    | (.ok r, s') => run host script.tail (k r) m s'
    | (.error f, s') => ⟨.failed (h f m).1, (h f m).2, s'⟩

/-- What a run that ends well did, the healthy run does. -/
theorem eval_of_run_done {script : List V.Event} {p : Prog V μ ε α} {a : α}
    (h : run host script p m s = ⟨.done a, m', s'⟩) : p.Ends host m s a m' s' := by
  unfold Ends
  induction p generalizing script m s with
  | done b =>
    simp only [run, Trace.mk.injEq, Exit.done.injEq] at h
    simp only [eval, h]
  | fail e => simp [run] at h
  | load k ih =>
    rw [run] at h
    exact ih m h
  | store m₁ p ih =>
    rw [run] at h
    exact ih h
  | call c g k ih =>
    have hserved : ∀ rest : List V.Event,
        (match host c s with
          | (.ok r, s₁) => run host rest (k r) m s₁
          | (.error f, s₁) => (⟨.failed (g f m).1, (g f m).2, s₁⟩ : Trace ε α μ σ)) =
            ⟨.done a, m', s'⟩ →
          (call c g k).eval host m s = ⟨.ok a, m', s'⟩ := by
      intro rest hrest
      rw [eval]
      split at hrest
      next r s₁ hr => exact ih r hrest
      next f s₁ hf => simp at hrest
    match script with
    | [] => exact hserved [] (by rw [run] at h; exact h; all_goals nofun)
    | .served :: rest => exact hserved rest (by rw [run] at h; exact h; all_goals nofun)
    | .refused f :: rest => simp [run] at h
    | .lost f :: rest => simp [run] at h
    | .stopped :: rest => simp [run] at h

/-- Without faults the run is the healthy one. -/
theorem run_of_ends {p : Prog V μ ε α} {a : α} (h : p.Ends host m s a m' s') :
    run host [] p m s = ⟨.done a, m', s'⟩ := by
  unfold Ends at h
  induction p generalizing m s with
  | done b =>
    simp only [eval, End.mk.injEq, Except.ok.injEq] at h
    obtain ⟨rfl, rfl, rfl⟩ := h
    rw [run]
  | fail e => simp [eval] at h
  | load k ih =>
    rw [run]
    exact ih m h
  | store m₁ p ih =>
    rw [run]
    exact ih h
  | call c g k ih =>
    rw [eval] at h
    rw [run]
    · split at h
      next r s₁ hr => exact ih r h
      next f s₁ hf => simp at h
    all_goals nofun

/-- An interrupted run ends in a state of the healthy run. -/
theorem visits_of_run (script : List V.Event) (p : Prog V μ ε α) (m : μ) (s : σ) :
    p.Visits host m s (run host script p m s).state := by
  induction p generalizing script m s with
  | done b => exact rfl
  | fail e => exact rfl
  | load k ih =>
    rw [run]
    exact ih m script m s
  | store m₁ p ih =>
    rw [run]
    exact ih script m₁ s
  | call c g k ih =>
    have hserved : ∀ rest : List V.Event,
        (call c g k).Visits host m s
          (match host c s with
            | (.ok r, s₁) => run host rest (k r) m s₁
            | (.error f, s₁) => (⟨.failed (g f m).1, (g f m).2, s₁⟩ : Trace ε α μ σ)).state := by
      intro rest
      rw [Visits]
      refine .inr ?_
      split
      next r s₁ hr => exact ih r rest m s₁
      next f s₁ hf => rfl
    match script with
    | [] => rw [run]; exact hserved []; all_goals nofun
    | .served :: rest => rw [run]; exact hserved rest; all_goals nofun
    | .refused f :: rest => exact visits_start (call c g k) m s
    | .lost f :: rest =>
      rw [run, Visits]
      refine .inr ?_
      split
      next r s₁ hr =>
        rw [hr]
        exact visits_start (k r) m s₁
      next f s₁ hf =>
        rw [hf]
    | .stopped :: rest => exact visits_start (call c g k) m s

end Prog
