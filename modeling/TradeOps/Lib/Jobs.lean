import TradeOps.Lib.Runs
import Mathlib.Data.List.Basic
import Mathlib.Logic.Function.Basic

/-!
# Jobs over a shared store

A job reads the store and sends batches of statements to it; other jobs run between any two of
its steps. A batch takes effect as a whole or not at all. Jobs are proved safe one by one, against
an invariant of the store and a relation that every change of the store respects: a job may rely
on both whenever it is resumed and guarantees both with every batch. Then any interleaving of safe
jobs keeps the invariant and every job ends with what it promises (`World.reachable_safe`).

A job may note a read: the state that it saw is kept until the next batch of the job. Runs may be
restricted by what happens between such a read and the batch: a batch is sent only in a state that
is allowed after the states noted before it.
-/

/-- The statements of a store. -/
structure Store where
  State : Type
  Statement : Type
  Failure : Type
  exec : Statement → State → Except Failure State

/-- A batch: the statements one after the other, or the failure of the first that fails. -/
def Store.batch (V : Store) : List V.Statement → V.State → Except V.Failure V.State
  | [], s => .ok s
  | statement :: rest, s => V.exec statement s >>= V.batch rest

theorem Store.batch_singleton (V : Store) (statement : V.Statement) (s : V.State) :
    V.batch [statement] s = V.exec statement s := by
  rw [Store.batch]
  cases V.exec statement s with
  | error failure => rfl
  | ok s' => rfl

theorem Store.batch_append (V : Store) (first rest : List V.Statement) (s : V.State) :
    V.batch (first ++ rest) s = V.batch first s >>= V.batch rest := by
  induction first generalizing s with
  | nil => rfl
  | cons statement first ih =>
    rw [List.cons_append, Store.batch, Store.batch]
    cases V.exec statement s with
    | error failure => rfl
    | ok s' => exact ih s'

/-- A job ends with a value or throws; a read may be noted. -/
inductive Job (V : Store) (ε α : Type) : Type where
  | done (a : α)
  | throw (e : ε)
  | read (noted : Bool) (k : V.State → Job V ε α)
  | send (statements : List V.Statement) (next : Job V ε α) (refused : V.Failure → Job V ε α)

/-- A computation that only reads. -/
inductive Reads (σ α : Type) : Type where
  | done (a : α)
  | read (k : σ → Reads σ α)

namespace Reads

variable {σ α β : Type}

def bind : Reads σ α → (α → Reads σ β) → Reads σ β
  | done a, k => k a
  | read f, k => read fun s => (f s).bind k

instance : Monad (Reads σ) where
  pure := done
  bind := bind

/-- One read. -/
def get (q : σ → α) : Reads σ α := read fun s => done (q s)

/-- A value that the computation ends with, whatever it reads. -/
def Yields : Reads σ α → α → Prop
  | done a, b => a = b
  | read k, b => ∃ s, (k s).Yields b

theorem yields_bind {reads : Reads σ α} {k : α → Reads σ β} {b : β} :
    (reads >>= k).Yields b ↔ ∃ a, reads.Yields a ∧ (k a).Yields b := by
  show (reads.bind k).Yields b ↔ _
  induction reads with
  | done a => exact ⟨fun h => ⟨a, rfl, h⟩, fun ⟨_, ha, h⟩ => ha ▸ h⟩
  | read f ih =>
    constructor
    · rintro ⟨s, h⟩
      obtain ⟨a, ha, hk⟩ := (ih s).mp h
      exact ⟨a, ⟨s, ha⟩, hk⟩
    · rintro ⟨a, ⟨s, ha⟩, hk⟩
      exact ⟨s, (ih s).mpr ⟨a, ha, hk⟩⟩

end Reads

namespace Job

variable {V : Store} {ε α β : Type}

def bind : Job V ε α → (α → Job V ε β) → Job V ε β
  | done a, k => k a
  | throw e, _ => throw e
  | read noted f, k => read noted fun s => (f s).bind k
  | send statements next refused, k =>
    send statements (next.bind k) fun failure => (refused failure).bind k

instance : Monad (Job V ε) where
  pure := done
  bind := bind

/-- One read of the store. -/
def query (q : V.State → α) : Job V ε α := read false fun s => done (q s)

/-- One read of the store that is noted. -/
def note (q : V.State → α) : Job V ε α := read true fun s => done (q s)

def ofReads : Reads V.State α → Job V ε α
  | .done a => done a
  | .read k => read false fun s => ofReads (k s)

/-- Send a batch, and throw when it is refused. -/
def commit (statements : List V.Statement) (refusal : V.Failure → ε) : Job V ε Unit :=
  send statements (done ()) fun failure => throw (refusal failure)

/-- Run another job when this one throws. -/
def catch_ : Job V ε α → (ε → Job V ε α) → Job V ε α
  | done a, _ => done a
  | throw e, h => h e
  | read noted f, h => read noted fun s => (f s).catch_ h
  | send statements next refused, h =>
    send statements (next.catch_ h) fun failure => (refused failure).catch_ h

/-- One step of a job. -/
def advance : Job V ε α → V.State → Option (Job V ε α × V.State)
  | done _, _ => none
  | throw _, _ => none
  | read _ k, s => some (k s, s)
  | send statements next refused, s =>
    match V.batch statements s with
    | .ok s' => some (next, s')
    | .error failure => some (refused failure, s)

/-- The job sends a batch next. -/
def sends : Job V ε α → Bool
  | send _ _ _ => true
  | _ => false

/-- The states noted since the last batch, the latest first, after a step that reads. -/
def kept (noted : Bool) (s : V.State) (seen : List V.State) : List V.State :=
  bif noted then s :: seen else seen

/-- The states noted since the last batch, after the next step. -/
def noting : Job V ε α → V.State → List V.State → List V.State
  | read noted _, s, seen => kept noted s seen
  | _, _, _ => []

/-- The value that a job ended with. -/
def answer : Job V ε α → Option α
  | done a => some a
  | _ => none

theorem answer_eq_some {p : Job V ε α} {a : α} : p.answer = some a ↔ p = done a := by
  cases p <;> simp [answer]

/-! ## Safety -/

section Safety

variable (I : V.State → Prop) (R : V.State → V.State → Prop)
  (allowed : List V.State → V.State → Prop)

/-- Between its steps the store may change as `R` allows within the invariant; a batch that is
allowed keeps both; the job ends with `Q`. The states noted so far stand beside the present one. -/
def Safe (Q : Except ε α → List V.State → V.State → Prop) :
    Job V ε α → List V.State → V.State → Prop
  | done a, seen, s => Q (.ok a) seen s
  | throw e, seen, s => Q (.error e) seen s
  | read noted k, seen, s => ∀ s', R s s' → I s' → Safe Q (k s') (kept noted s' seen) s'
  | send statements next refused, seen, s =>
    ∀ s', R s s' → I s' → allowed seen s' →
      (∀ s'', V.batch statements s' = .ok s'' → I s'' ∧ R s' s'' ∧ Safe Q next [] s'') ∧
      (∀ failure, V.batch statements s' = .error failure → Safe Q (refused failure) [] s')

variable {I R allowed} {Q Q' : Except ε α → List V.State → V.State → Prop} {p : Job V ε α}
  {seen : List V.State} {s s' : V.State}

theorem Safe.stable (htrans : ∀ a b c, R a b → R b c → R a c)
    (hQ : ∀ r seen a b, Q r seen a → R a b → Q r seen b) (h : p.Safe I R allowed Q seen s)
    (hR : R s s') : p.Safe I R allowed Q seen s' := by
  cases p with
  | done a => exact hQ _ _ _ _ h hR
  | throw e => exact hQ _ _ _ _ h hR
  | read noted k => exact fun s'' hR' hI => h s'' (htrans _ _ _ hR hR') hI
  | send statements next refused => exact fun s'' hR' hI => h s'' (htrans _ _ _ hR hR') hI

theorem Safe.mono (h : p.Safe I R allowed Q seen s) (hQ : ∀ r seen s, Q r seen s → Q' r seen s) :
    p.Safe I R allowed Q' seen s := by
  induction p generalizing seen s with
  | done a => exact hQ _ _ _ h
  | throw e => exact hQ _ _ _ h
  | read noted k ih => exact fun s' hR hI => ih s' (h s' hR hI)
  | send statements next refused ihn ihr =>
    intro s' hR hI hallowed
    obtain ⟨hok, herror⟩ := h s' hR hI hallowed
    refine ⟨fun s'' hbatch => ?_, fun failure hbatch => ihr failure (herror failure hbatch)⟩
    obtain ⟨hI', hR', hnext⟩ := hok s'' hbatch
    exact ⟨hI', hR', ihn hnext⟩

/-- A job followed by another. -/
theorem Safe.bind {k : α → Job V ε β} {Q : Except ε β → List V.State → V.State → Prop}
    (h : p.Safe I R allowed (fun r seen s => match r with
      | .ok a => (k a).Safe I R allowed Q seen s
      | .error e => Q (.error e) seen s) seen s) :
    (p.bind k).Safe I R allowed Q seen s := by
  induction p generalizing seen s with
  | done a => exact h
  | throw e => exact h
  | read noted f ih => exact fun s' hR hI => ih s' (h s' hR hI)
  | send statements next refused ihn ihr =>
    intro s' hR hI hallowed
    obtain ⟨hok, herror⟩ := h s' hR hI hallowed
    refine ⟨fun s'' hbatch => ?_, fun failure hbatch => ihr failure (herror failure hbatch)⟩
    obtain ⟨hI', hR', hnext⟩ := hok s'' hbatch
    exact ⟨hI', hR', ihn hnext⟩

/-- A job whose exceptions are handled. -/
theorem Safe.catch_ {handler : ε → Job V ε α}
    (h : p.Safe I R allowed (fun r seen s => match r with
      | .ok a => Q (.ok a) seen s
      | .error e => (handler e).Safe I R allowed Q seen s) seen s) :
    (p.catch_ handler).Safe I R allowed Q seen s := by
  induction p generalizing seen s with
  | done a => exact h
  | throw e => exact h
  | read noted f ih => exact fun s' hR hI => ih s' (h s' hR hI)
  | send statements next refused ihn ihr =>
    intro s' hR hI hallowed
    obtain ⟨hok, herror⟩ := h s' hR hI hallowed
    refine ⟨fun s'' hbatch => ?_, fun failure hbatch => ihr failure (herror failure hbatch)⟩
    obtain ⟨hI', hR', hnext⟩ := hok s'' hbatch
    exact ⟨hI', hR', ihn hnext⟩

/-- A computation that only reads may be interrupted anywhere. -/
theorem Safe.ofReads (hrefl : ∀ s, R s s) (htrans : ∀ a b c, R a b → R b c → R a c)
    {reads : Reads V.State α}
    (h : ∀ a s', reads.Yields a → R s s' → Q (.ok a) seen s') :
    (Job.ofReads reads).Safe I R allowed Q seen s := by
  induction reads generalizing s with
  | done a => exact h a s rfl (hrefl s)
  | read k ih =>
    intro s' hR hI
    exact ih s' fun a s'' hyields hR' => h a s'' ⟨s', hyields⟩ (htrans _ _ _ hR hR')

/-! The rules for the operations, in front of the rest of a job. -/

theorem Safe.query_bind {q : V.State → β} {k : β → Job V ε α}
    (h : ∀ s', R s s' → I s' → (k (q s')).Safe I R allowed Q seen s') :
    (Job.query q >>= k).Safe I R allowed Q seen s :=
  h

theorem Safe.note_bind {q : V.State → β} {k : β → Job V ε α}
    (h : ∀ s', R s s' → I s' → (k (q s')).Safe I R allowed Q (s' :: seen) s') :
    (Job.note q >>= k).Safe I R allowed Q seen s :=
  h

theorem Safe.commit_bind {statements : List V.Statement} {refusal : V.Failure → ε}
    {k : Unit → Job V ε α}
    (h : ∀ s', R s s' → I s' → allowed seen s' →
      (∀ s'', V.batch statements s' = .ok s'' →
        I s'' ∧ R s' s'' ∧ (k ()).Safe I R allowed Q [] s'') ∧
      (∀ failure, V.batch statements s' = .error failure → Q (.error (refusal failure)) [] s')) :
    (Job.commit statements refusal >>= k).Safe I R allowed Q seen s :=
  h

theorem Safe.ofReads_bind (hrefl : ∀ s, R s s) (htrans : ∀ a b c, R a b → R b c → R a c)
    {reads : Reads V.State β} {k : β → Job V ε α}
    (h : ∀ b s', reads.Yields b → R s s' → (k b).Safe I R allowed Q seen s') :
    (Job.ofReads reads >>= k).Safe I R allowed Q seen s :=
  Safe.bind (Safe.ofReads hrefl htrans h)

/-- One step of a safe job, with the promise kept. -/
theorem Safe.advance {p' : Job V ε α} (h : p.Safe I R allowed Q seen s) (hrefl : R s s) (hI : I s)
    (hallowed : p.sends = true → allowed seen s) (hstep : p.advance s = some (p', s')) :
    I s' ∧ R s s' ∧ p'.Safe I R allowed Q (p.noting s seen) s' := by
  cases p with
  | done a => exact absurd hstep (by simp [Job.advance])
  | throw e => exact absurd hstep (by simp [Job.advance])
  | read noted k =>
    obtain ⟨rfl, rfl⟩ : k s = p' ∧ s = s' := by simpa [Job.advance] using hstep
    exact ⟨hI, hrefl, h s hrefl hI⟩
  | send statements next refused =>
    obtain ⟨hok, herror⟩ := h s hrefl hI (hallowed rfl)
    rw [Job.advance] at hstep
    split at hstep
    next s'' hbatch =>
      obtain ⟨rfl, rfl⟩ : next = p' ∧ s'' = s' := by simpa using hstep
      exact hok s'' hbatch
    next failure hbatch =>
      obtain ⟨rfl, rfl⟩ : refused failure = p' ∧ s = s' := by simpa using hstep
      exact ⟨hI, hrefl, herror failure hbatch⟩

end Safety

end Job

/-! ## Interleavings -/

namespace Jobs

variable {V : Store} {ε α τ : Type}

/-- The store and the jobs that were started, each with the request it serves and the states that
it noted since its last batch, the latest first. -/
structure World (V : Store) (ε α τ : Type) where
  state : V.State
  calls : List (τ × Job V ε α)
  noted : Nat → List V.State := fun _ => []

inductive Label (τ : Type) where
  | arrive (request : τ)
  | step (i : Nat)

/-- The world after a step of a call. -/
def World.stepped (w : World V ε α τ) (i : Nat) (request : τ) (p p' : Job V ε α) (s' : V.State) :
    World V ε α τ :=
  { state := s'
    calls := w.calls.set i (request, p')
    noted := Function.update w.noted i (p.noting w.state (w.noted i)) }

/-- Jobs that serve requests, interleaved: a request arrives, or one job makes a step. A batch is
sent only when it is allowed. -/
def system (init : V.State → Prop) (serve : τ → Job V ε α) (admits : τ → Prop)
    (allowed : τ → List V.State → V.State → Prop) : System (World V ε α τ) (Label τ) where
  init w := init w.state ∧ w.calls = [] ∧ w.noted = fun _ => []
  step
    | .arrive request, w, w' =>
      admits request ∧ w' = { w with calls := w.calls ++ [(request, serve request)] }
    | .step i, w, w' => ∃ request p p' s',
      w.calls[i]? = some (request, p) ∧ p.advance w.state = some (p', s') ∧
        (p.sends = true → allowed request (w.noted i) w.state) ∧
        w' = w.stepped i request p p' s'

section

variable {init : V.State → Prop} {serve : τ → Job V ε α} {admits : τ → Prop}
  {allowed : τ → List V.State → V.State → Prop} {I : V.State → Prop}
  {R : V.State → V.State → Prop} {Q : τ → Except ε α → V.State → Prop}

/-- The invariant holds, and every call that was started is safe. -/
structure World.Safe (admits : τ → Prop) (I : V.State → Prop) (R : V.State → V.State → Prop)
    (allowed : τ → List V.State → V.State → Prop) (Q : τ → Except ε α → V.State → Prop)
    (w : World V ε α τ) : Prop where
  state : I w.state
  unused : ∀ i, w.calls.length ≤ i → w.noted i = []
  calls : ∀ i request (p : Job V ε α), w.calls[i]? = some (request, p) →
    admits request ∧ p.Safe I R (allowed request) (fun r _ => Q request r) (w.noted i) w.state

section

variable (hrefl : ∀ s, R s s) (htrans : ∀ a b c, R a b → R b c → R a c)
  (hQ : ∀ request r a b, Q request r a → R a b → Q request r b)
  (hserve : ∀ request, admits request → ∀ s, I s →
    (serve request).Safe I R (allowed request) (fun r _ => Q request r) [] s)

include hrefl htrans hQ hserve

/-- A step of the system keeps the world safe and changes the store as `R` allows. -/
theorem World.step_safe {w w' : World V ε α τ} {l : Label τ}
    (hsafe : w.Safe admits I R allowed Q) (hstep : (system init serve admits allowed).step l w w') :
    w'.Safe admits I R allowed Q ∧ R w.state w'.state := by
  obtain ⟨hI, hunused, hcalls⟩ := hsafe
  cases l with
  | arrive request =>
    obtain ⟨hadmits, rfl⟩ := hstep
    refine ⟨⟨hI, fun i hi => ?_, fun i request' p hget => ?_⟩, hrefl _⟩
    · apply hunused
      rw [List.length_append] at hi
      omega
    · by_cases hi : i < w.calls.length
      · exact hcalls i request' p ((List.getElem?_append_left hi).symm.trans hget)
      · have hnew : i = w.calls.length := by
          have hlt := (List.getElem?_eq_some_iff.mp hget).1
          rw [List.length_append, List.length_singleton] at hlt
          omega
        rw [hnew] at hget ⊢
        obtain ⟨rfl, rfl⟩ : request = request' ∧ serve request = p := by
          simpa using hget
        rw [hunused _ (Nat.le_refl _)]
        exact ⟨hadmits, hserve request hadmits _ hI⟩
  | step i =>
    obtain ⟨request, p, p', s', hget, hadvance, hallowed, rfl⟩ := hstep
    obtain ⟨hadmits, hp⟩ := hcalls i request p hget
    obtain ⟨hI', hR, hp'⟩ := hp.advance (hrefl _) hI hallowed hadvance
    refine ⟨⟨hI', fun j hj => ?_, fun j request' q hget' => ?_⟩, hR⟩
    · have hlt := (List.getElem?_eq_some_iff.mp hget).1
      have hlength : (w.stepped i request p p' s').calls.length = w.calls.length :=
        List.length_set
      show Function.update w.noted i _ j = []
      rw [Function.update_of_ne (by omega)]
      exact hunused j (by omega)
    · by_cases hij : i = j
      · subst hij
        have hset : (w.calls.set i (request, p'))[i]? = some (request, p') :=
          List.getElem?_set_self (List.getElem?_eq_some_iff.mp hget).1
        obtain ⟨rfl, rfl⟩ : request = request' ∧ p' = q := by
          simpa using hset.symm.trans hget'
        show admits request ∧ p'.Safe I R _ _ (Function.update w.noted i _ i) s'
        rw [Function.update_self]
        exact ⟨hadmits, hp'⟩
      · have hold : w.calls[j]? = some (request', q) := (List.getElem?_set_ne hij).symm.trans hget'
        obtain ⟨hadmits', hq⟩ := hcalls j request' q hold
        show admits request' ∧ q.Safe I R _ _ (Function.update w.noted i _ j) s'
        rw [Function.update_of_ne (Ne.symm hij)]
        exact ⟨hadmits', hq.stable htrans (fun r _ => hQ request' r) hR⟩

/-- What one call promises from a world on, it keeps through any run. -/
theorem World.run_call_safe {P : Except ε α → V.State → Prop}
    (hP : ∀ r a b, P r a → R a b → P r b) {w w' : World V ε α τ} {i : Nat} {request : τ}
    {p : Job V ε α} (hsafe : w.Safe admits I R allowed Q) (hget : w.calls[i]? = some (request, p))
    (hp : p.Safe I R (allowed request) (fun r _ => P r) (w.noted i) w.state)
    (hrun : (system init serve admits allowed).Run w w') :
    ∃ p', w'.calls[i]? = some (request, p') ∧
      p'.Safe I R (allowed request) (fun r _ => P r) (w'.noted i) w'.state := by
  suffices h : w'.Safe admits I R allowed Q ∧ ∃ p', w'.calls[i]? = some (request, p') ∧
      p'.Safe I R (allowed request) (fun r _ => P r) (w'.noted i) w'.state from h.2
  refine System.Run.keeps (I := fun w => w.Safe admits I R allowed Q ∧
    ∃ p', w.calls[i]? = some (request, p') ∧
      p'.Safe I R (allowed request) (fun r _ => P r) (w.noted i) w.state) ?_ hrun
    ⟨hsafe, p, hget, hp⟩
  rintro l w₁ w₂ ⟨hsafe, q, hq, hqsafe⟩ hstep
  obtain ⟨hsafe', hR⟩ := World.step_safe hrefl htrans hQ hserve hsafe hstep
  refine ⟨hsafe', ?_⟩
  cases l with
  | arrive request' =>
    obtain ⟨-, rfl⟩ := hstep
    refine ⟨q, ?_, hqsafe⟩
    rw [List.getElem?_append_left (List.getElem?_eq_some_iff.mp hq).1]
    exact hq
  | step j =>
    obtain ⟨request', q', q'', s', hget', hadvance, hallowed, rfl⟩ := hstep
    by_cases hij : j = i
    · obtain rfl := hij
      obtain ⟨rfl, rfl⟩ : request = request' ∧ q = q' := by simpa using hq.symm.trans hget'
      refine ⟨q'', List.getElem?_set_self (List.getElem?_eq_some_iff.mp hq).1, ?_⟩
      show q''.Safe I R _ _ (Function.update w₁.noted j _ j) s'
      rw [Function.update_self]
      exact (hqsafe.advance (hrefl _) hsafe.state hallowed hadvance).2.2
    · refine ⟨q, (List.getElem?_set_ne hij).trans hq, ?_⟩
      show q.Safe I R _ _ (Function.update w₁.noted j _ i) s'
      rw [Function.update_of_ne (Ne.symm hij)]
      exact hqsafe.stable htrans (fun r _ => hP r) hR

end

/-- Any interleaving of safe jobs keeps the invariant and the promises. -/
theorem World.reachable_safe (hinit : ∀ s, init s → I s) (hrefl : ∀ s, R s s)
    (htrans : ∀ a b c, R a b → R b c → R a c)
    (hQ : ∀ request r a b, Q request r a → R a b → Q request r b)
    (hserve : ∀ request, admits request → ∀ s, I s →
      (serve request).Safe I R (allowed request) (fun r _ => Q request r) [] s)
    {w : World V ε α τ} (h : (system init serve admits allowed).Reachable w) :
    w.Safe admits I R allowed Q := by
  refine System.Reachable.invariant ?_ ?_ h
  · rintro w ⟨hw, hcalls, hnoted⟩
    refine ⟨hinit _ hw, fun i _ => by rw [hnoted], fun i request p hget => ?_⟩
    rw [hcalls] at hget
    cases hget
  · intro l w w' hsafe hstep
    exact (World.step_safe hrefl htrans hQ hserve hsafe hstep).1

end

/-! ## Schedules -/

/-- What a label does to a world; a job that has ended makes no step. -/
def World.next (serve : τ → Job V ε α) (w : World V ε α τ) : Label τ → World V ε α τ
  | .arrive request => { w with calls := w.calls ++ [(request, serve request)] }
  | .step i =>
    match w.calls[i]? with
    | none => w
    | some (request, p) =>
      match p.advance w.state with
      | none => w
      | some (p', s') => w.stepped i request p p' s'

/-- The value that a call ended with. -/
def World.answer (w : World V ε α τ) (i : Nat) : Option α :=
  w.calls[i]?.bind fun call => call.2.answer

/-- The batch that a label sends, if any, passes a check. -/
def World.passes (check : τ → List V.State → V.State → Bool) (w : World V ε α τ) : Label τ → Bool
  | .arrive _ => true
  | .step i =>
    match w.calls[i]? with
    | none => true
    | some (request, p) => !p.sends || check request (w.noted i) w.state

/-- Every batch of a schedule passes a check when it is sent. -/
def World.permits (serve : τ → Job V ε α) (check : τ → List V.State → V.State → Bool) :
    World V ε α τ → List (Label τ) → Bool
  | _, [] => true
  | w, l :: rest => w.passes check l && permits serve check (w.next serve l) rest

section

variable {init : V.State → Prop} {serve : τ → Job V ε α} {admits : τ → Prop}
  {allowed : τ → List V.State → V.State → Prop} {w : World V ε α τ}

theorem World.next_run {l : Label τ} (hadmits : ∀ request, l = .arrive request → admits request)
    (hallowed : ∀ i request p, l = .step i → w.calls[i]? = some (request, p) → p.sends = true →
      allowed request (w.noted i) w.state) :
    (system init serve admits allowed).Run w (w.next serve l) := by
  cases l with
  | arrive request =>
    exact (System.Run.refl _ w).snoc (l := .arrive request) ⟨hadmits request rfl, rfl⟩
  | step i =>
    rw [World.next]
    split
    next => exact System.Run.refl _ w
    next request p hget =>
      split
      next => exact System.Run.refl _ w
      next p' s' hadvance =>
        exact (System.Run.refl _ w).snoc (l := .step i)
          ⟨request, p, p', s', hget, hadvance, hallowed i request p rfl hget, rfl⟩

/-- A schedule is a run. -/
theorem World.schedule_run {check : τ → List V.State → V.State → Bool} {schedule : List (Label τ)}
    (hcheck : ∀ request seen s, check request seen s = true → allowed request seen s)
    (hadmits : ∀ request, .arrive request ∈ schedule → admits request)
    (hpermits : w.permits serve check schedule = true) :
    (system init serve admits allowed).Run w (schedule.foldl (World.next serve) w) := by
  induction schedule generalizing w with
  | nil => exact System.Run.refl _ w
  | cons l rest ih =>
    rw [World.permits, Bool.and_eq_true] at hpermits
    refine (World.next_run ?_ ?_).trans (ih ?_ hpermits.2)
    · rintro request rfl
      exact hadmits request List.mem_cons_self
    · rintro i request p rfl hget hsends
      have hpasses := hpermits.1
      rw [World.passes, hget] at hpasses
      dsimp only at hpasses
      rw [hsends] at hpasses
      exact hcheck request _ _ hpasses
    · intro request hmem
      exact hadmits request (List.mem_cons_of_mem _ hmem)

/-- The world that a schedule leads to is reachable. -/
theorem World.schedule_reachable {check : τ → List V.State → V.State → Bool}
    {schedule : List (Label τ)} (h : (system init serve admits allowed).Reachable w)
    (hcheck : ∀ request seen s, check request seen s = true → allowed request seen s)
    (hadmits : ∀ request, .arrive request ∈ schedule → admits request)
    (hpermits : w.permits serve check schedule = true) :
    (system init serve admits allowed).Reachable (schedule.foldl (World.next serve) w) :=
  h.run (World.schedule_run hcheck hadmits hpermits)

end

end Jobs
