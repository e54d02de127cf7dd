import Mathlib.Logic.Function.Basic

/-!
# Promises and their jobs

The promises of a script and the queue of its jobs. A promise is pending, with the reactions that
were registered on it, or settled. When it settles, or when a reaction is registered on it later,
the reaction becomes a job; jobs run one at a time, first in, first out. A promise that is resolved
with another one first waits for a job, which registers a reaction that forwards the outcome.

`P` names the promises, `R` the reactions of the script, `O` the outcomes.
-/

namespace Promises

variable {P R O : Type}

/-- A reaction of the script, or the one that settles a promise as another one did. -/
inductive Reaction (P R : Type) where
  | handler (reaction : R)
  | forward (target : P)
  deriving DecidableEq, Repr

inductive Promise (P R O : Type) where
  | pending (reactions : List (Reaction P R))
  | settled (outcome : O)
  deriving DecidableEq, Repr

inductive Job (P R O : Type) where
  | react (reaction : Reaction P R) (outcome : O)
  /-- Resolve a promise with another promise. -/
  | resolve (target source : P)
  deriving DecidableEq, Repr

structure Heap (P R O : Type) where
  promise : P → Promise P R O
  jobs : List (Job P R O)

namespace Heap

variable [DecidableEq P] {heap : Heap P R O} {p q : P} {reaction : Reaction P R} {outcome : O}
  {reactions : List (Reaction P R)}

/-- Settle a promise; a promise that has settled stays as it is. -/
def settle (heap : Heap P R O) (p : P) (outcome : O) : Heap P R O :=
  match heap.promise p with
  | .pending reactions =>
    { promise := Function.update heap.promise p (.settled outcome)
      jobs := heap.jobs ++ reactions.map (.react · outcome) }
  | .settled _ => heap

/-- Register a reaction. -/
def register (heap : Heap P R O) (p : P) (reaction : Reaction P R) : Heap P R O :=
  match heap.promise p with
  | .pending reactions =>
    { heap with promise := Function.update heap.promise p (.pending (reactions ++ [reaction])) }
  | .settled outcome => { heap with jobs := heap.jobs ++ [.react reaction outcome] }

/-- Resolve a promise with another one. -/
def resolveWith (heap : Heap P R O) (target source : P) : Heap P R O :=
  { heap with jobs := heap.jobs ++ [.resolve target source] }

theorem settle_promise : (heap.settle p outcome).promise q =
    match heap.promise q with
    | .pending reactions => if q = p then .settled outcome else .pending reactions
    | .settled settled => .settled settled := by
  rw [settle]
  by_cases hq : q = p
  · subst hq
    cases h : heap.promise q with
    | pending reactions => simp
    | settled settled => simp [h]
  · cases heap.promise p with
    | pending reactions => cases hq' : heap.promise q <;> simp [hq, hq']
    | settled settled => cases hq' : heap.promise q <;> simp [hq]

theorem settle_jobs : (heap.settle p outcome).jobs =
    match heap.promise p with
    | .pending reactions => heap.jobs ++ reactions.map (.react · outcome)
    | .settled _ => heap.jobs := by
  rw [settle]
  cases heap.promise p <;> rfl

theorem register_promise : (heap.register p reaction).promise q =
    match heap.promise q with
    | .pending reactions => .pending (if q = p then reactions ++ [reaction] else reactions)
    | .settled settled => .settled settled := by
  rw [register]
  by_cases hq : q = p
  · subst hq
    cases h : heap.promise q with
    | pending reactions => simp
    | settled settled => simp [h]
  · cases heap.promise p with
    | pending reactions => cases hq' : heap.promise q <;> simp [hq, hq']
    | settled settled => cases hq' : heap.promise q <;> simp [hq]

theorem register_jobs : (heap.register p reaction).jobs =
    match heap.promise p with
    | .pending _ => heap.jobs
    | .settled outcome => heap.jobs ++ [.react reaction outcome] := by
  rw [register]
  cases heap.promise p <;> rfl

/-- A promise that has settled keeps its outcome. -/
theorem settle_promise_of_settled (h : heap.promise q = .settled outcome) (outcome' : O) :
    (heap.settle p outcome').promise q = .settled outcome := by
  rw [settle_promise, h]

theorem register_promise_of_settled (h : heap.promise q = .settled outcome)
    (reaction : Reaction P R) : (heap.register p reaction).promise q = .settled outcome := by
  rw [register_promise, h]

end Heap

end Promises
