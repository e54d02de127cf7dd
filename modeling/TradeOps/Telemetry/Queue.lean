import TradeOps.Lib.Promises
import TradeOps.Lib.Runs
import Mathlib.Data.List.Range

/-!
# The telemetry queue

Embeds `telemetry-queue-v2.ts`. A call of `run` appends its operation to a chain of promises: the
operation starts when the tail of the chain settles, and the new tail settles when the operation
has, whatever its outcome. The call itself waits for the operation and then counts itself out.

Calls come in any order, also from within an operation; an operation throws or gives a promise, and
the promise of an operation settles at any time. Between these events the jobs run.
-/

namespace TradeOps.Telemetry

open Promises

/-- The promises of the queue. `tail k` is the tail that the call `k` finds; the call makes the
others, its own operation the promise `operation k`. -/
inductive QueuePromise where
  | tail (call : Nat)
  | result (call : Nat)
  | operation (call : Nat)
  | returned (call : Nat)
  deriving DecidableEq, Repr

inductive QueueReaction where
  /-- `operation`. -/
  | start (call : Nat)
  /-- `() => undefined`. -/
  | swallow (call : Nat)
  /-- What follows `await result`. -/
  | resume (call : Nat)
  deriving DecidableEq, Repr

/-- The queue, with what has happened to its operations. The value `default` is `undefined`. -/
structure TelemetryQueueV2 (ε α : Type) where
  heap : Heap QueuePromise QueueReaction (Except ε α)
  queued : Nat
  /-- The calls that were accepted. -/
  calls : Nat
  /-- The operations that were started, in order. -/
  started : List Nat
  /-- How their bodies ended, in order: with an exception, or with a promise. -/
  bodies : List (Option ε)
  /-- The operation whose body runs. -/
  running : Option Nat

namespace TelemetryQueueV2

variable {ε α : Type} [Inhabited α]

def initial : TelemetryQueueV2 ε α where
  heap :=
    { promise := fun p => if p = .tail 0 then .settled (.ok default) else .pending []
      jobs := [] }
  queued := 0
  calls := 0
  started := []
  bodies := []
  running := none

/-- A call is refused with `TELEMETRY_BUSY`, or gets a number. -/
def run (queue : TelemetryQueueV2 ε α) : Option Nat × TelemetryQueueV2 ε α :=
  if queue.queued ≥ 8 then (none, queue)
  else
    let call := queue.calls
    let heap := queue.heap.register (.tail call) (.handler (.start call))
    let heap := heap.register (.result call) (.handler (.swallow call))
    let heap := heap.register (.result call) (.handler (.resume call))
    (some call, { queue with heap, queued := queue.queued + 1, calls := call + 1 })

def handle (queue : TelemetryQueueV2 ε α) :
    QueueReaction → Except ε α → TelemetryQueueV2 ε α
  | .start call, .ok _ =>
    { queue with running := some call, started := queue.started ++ [call] }
  | .start call, .error reason =>
    { queue with heap := queue.heap.settle (.result call) (.error reason) }
  | .swallow call, _ =>
    { queue with heap := queue.heap.settle (.tail (call + 1)) (.ok default) }
  | .resume call, outcome =>
    { queue with
      heap := queue.heap.settle (.returned call) outcome, queued := queue.queued - 1 }

def perform (queue : TelemetryQueueV2 ε α) :
    Job QueuePromise QueueReaction (Except ε α) → TelemetryQueueV2 ε α
  | .react (.handler reaction) outcome => queue.handle reaction outcome
  | .react (.forward target) outcome =>
    { queue with heap := queue.heap.settle target outcome }
  | .resolve target source =>
    { queue with heap := queue.heap.register source (.forward target) }

/-- The body that runs throws, or gives the promise of its operation. -/
def leave (queue : TelemetryQueueV2 ε α) (call : Nat) (exception : Option ε) :
    TelemetryQueueV2 ε α :=
  let heap :=
    match exception with
    | some reason => queue.heap.settle (.result call) (.error reason)
    | none => queue.heap.resolveWith (.result call) (.operation call)
  { queue with heap, bodies := queue.bodies ++ [exception], running := none }

inductive Action (ε α : Type) where
  | call
  | settle (call : Nat) (outcome : Except ε α)
  | leave (exception : Option ε)
  | job

/-- Jobs run one after the other, and none while a body runs. -/
def step (action : Action ε α) (queue : TelemetryQueueV2 ε α) : Option (TelemetryQueueV2 ε α) :=
  match action with
  | .call => some queue.run.2
  | .settle call outcome =>
    some { queue with heap := queue.heap.settle (.operation call) outcome }
  | .leave exception => queue.running.map fun call => queue.leave call exception
  | .job =>
    match queue.running, queue.heap.jobs with
    | none, job :: jobs => some ({ queue with heap := { queue.heap with jobs } }.perform job)
    | _, _ => none

def system (ε α : Type) [Inhabited α] : System (TelemetryQueueV2 ε α) (Action ε α) where
  init queue := queue = initial
  step action queue queue' := queue.step action = some queue'

/-! ## What a queue shows -/

/-- The outcome of an operation: its exception, or how its promise settled. -/
def outcome (queue : TelemetryQueueV2 ε α) (call : Nat) : Option (Except ε α) :=
  match queue.bodies[call]? with
  | none => none
  | some (some reason) => some (.error reason)
  | some none =>
    match queue.heap.promise (.operation call) with
    | .settled outcome => some outcome
    | .pending _ => none

/-- What the caller got. -/
def answer (queue : TelemetryQueueV2 ε α) (call : Nat) : Option (Except ε α) :=
  match queue.heap.promise (.returned call) with
  | .settled outcome => some outcome
  | .pending _ => none

/-- The accepted calls that wait for their operation. -/
def unfinished (queue : TelemetryQueueV2 ε α) : List Nat :=
  (List.range queue.calls).filter fun call => queue.answer call = none

/-- Nothing runs, and every operation that was started has its outcome. -/
structure Quiet (queue : TelemetryQueueV2 ε α) : Prop where
  running : queue.running = none
  jobs : queue.heap.jobs = []
  outcomes : ∀ call ∈ queue.started, queue.outcome call ≠ none

/-! ## The shape of the chain -/

/-- Where the call is whose turn it is. -/
inductive Phase where
  /-- It waits for its job, or there is no such call yet. -/
  | starting
  | body
  /-- Its result waits for the job that asks its promise. -/
  | adopting
  /-- Its promise is pending. -/
  | waiting
  | forwarding
  /-- Its result has settled. -/
  | settled
  /-- The next tail has settled. -/
  | released
  deriving DecidableEq, Repr

namespace Phase

/-- The body of the operation has ended. -/
def ended : Phase → Bool
  | starting | body => false
  | _ => true

/-- The outcome of the operation has reached the chain. -/
def known : Phase → Bool
  | forwarding | settled | released => true
  | _ => false

def resultSettled : Phase → Bool
  | settled | released => true
  | _ => false

/-- The jobs that can run before something else has to happen, at most. -/
def jobsLeft : Phase → Nat
  | body | waiting => 0
  | starting => 1
  | released => 2
  | settled => 3
  | forwarding => 4
  | adopting => 5

end Phase

section Chain

variable (calls current : Nat) (phase : Phase) (outcomes : Nat → Except ε α)
  (operations : Nat → Option (Except ε α))

/-- The promises when it is the turn of the call `current`. -/
def chainPromise : QueuePromise → Promise QueuePromise QueueReaction (Except ε α)
  | .tail k =>
    if k ≤ current ∨ (phase = .released ∧ k = current + 1) then .settled (.ok default)
    else .pending (if k < calls then [.handler (.start k)] else [])
  | .result k =>
    if k < current ∨ (phase.resultSettled ∧ k = current) then .settled (outcomes k)
    else .pending (if k < calls then [.handler (.swallow k), .handler (.resume k)] else [])
  | .operation k =>
    match operations k with
    | some outcome => .settled outcome
    | none => .pending (if phase = .waiting ∧ k = current then [.forward (.result k)] else [])
  | .returned k => if k < current then .settled (outcomes k) else .pending []

/-- The jobs at that time. -/
def chainJobs : List (Job QueuePromise QueueReaction (Except ε α)) :=
  let start k := if k < calls then [.react (.handler (.start k)) (.ok default)] else []
  match phase with
  | .starting => start current
  | .body => []
  | .adopting => [.resolve (.result current) (.operation current)]
  | .waiting => []
  | .forwarding => [.react (.forward (.result current)) (outcomes current)]
  | .settled =>
    [.react (.handler (.swallow current)) (outcomes current),
      .react (.handler (.resume current)) (outcomes current)]
  | .released => .react (.handler (.resume current)) (outcomes current) :: start (current + 1)

end Chain

/-- The queue when it is the turn of a call. -/
structure Shape (queue : TelemetryQueueV2 ε α) (current : Nat) (phase : Phase)
    (outcomes : Nat → Except ε α) (operations : Nat → Option (Except ε α)) : Prop where
  current_le : current ≤ queue.calls
  current_lt : phase ≠ .starting → current < queue.calls
  promise : ∀ p, queue.heap.promise p =
    chainPromise queue.calls current phase outcomes operations p
  jobs : queue.heap.jobs = chainJobs queue.calls current phase outcomes
  running : queue.running = if phase = .body then some current else none
  queued : queue.queued + current = queue.calls
  queued_le : queue.queued ≤ 8
  started : queue.started = List.range (if phase = .starting then current else current + 1)
  bodies : queue.bodies.length = if phase.ended then current + 1 else current
  outcome : ∀ k, k < current ∨ (phase.known ∧ k = current) → queue.outcome k = some (outcomes k)
  promised : phase = .adopting ∨ phase = .waiting → queue.bodies[current]? = some none
  waiting : phase = .waiting → operations current = none

/-- It is the turn of some call. -/
def Ordered (queue : TelemetryQueueV2 ε α) : Prop :=
  ∃ current phase outcomes operations, queue.Shape current phase outcomes operations

theorem initial_ordered : (initial : TelemetryQueueV2 ε α).Ordered := by
  refine ⟨0, .starting, fun _ => .ok default, fun _ => none, ?_⟩
  constructor <;> try simp [initial, chainJobs, Phase.ended, Phase.known]
  intro p
  cases p <;> simp [chainPromise, Phase.resultSettled]

section Steps

variable {queue queue' : TelemetryQueueV2 ε α} {current : Nat} {phase : Phase}
  {outcomes : Nat → Except ε α} {operations : Nat → Option (Except ε α)}

/-- A new call is the last of the chain. -/
theorem Shape.run (h : queue.Shape current phase outcomes operations) :
    queue.run.2.Shape current phase outcomes operations := by
  rw [TelemetryQueueV2.run]
  by_cases hbusy : queue.queued ≥ 8
  · rw [if_pos hbusy]
    exact h
  rw [if_neg hbusy]
  have hcurrent := h.current_le
  have hresult : queue.heap.promise (.result queue.calls) = .pending [] := by
    rw [h.promise, chainPromise, if_neg, if_neg (lt_irrefl _)]
    rintro (hlt | ⟨hsettled, heq⟩)
    · omega
    · have hlt := h.current_lt (by rintro rfl; cases hsettled)
      omega
  refine
    { h with
      current_le := by dsimp only; omega
      current_lt := fun hphase => by have := h.current_lt hphase; dsimp only; omega
      promise := fun p => ?_
      jobs := ?_
      queued := by have := h.queued; dsimp only; omega
      queued_le := by dsimp only; omega
      outcome := ?_ }
  · simp only [Heap.register_promise, h.promise]
    cases p <;> simp only [chainPromise] <;> grind
  · simp only [Heap.register_jobs, Heap.register_promise, hresult, reduceCtorEq, if_false]
    rw [h.promise, h.jobs]
    have hlt := h.current_lt
    simp only [chainPromise, chainJobs]
    cases phase <;> grind
  · intro k hk
    have houtcome := h.outcome k hk
    simp only [TelemetryQueueV2.outcome, Heap.register_promise, reduceCtorEq, if_false]
      at houtcome ⊢
    rw [← houtcome]
    cases queue.heap.promise (.operation k) <;> rfl

/-- An outcome changes nothing unless the queue waits for it. -/
theorem Shape.settle (h : queue.Shape current phase outcomes operations) (call : Nat)
    (outcome : Except ε α) :
    Ordered { queue with heap := queue.heap.settle (.operation call) outcome } := by
  have hpromise : ∀ k, queue.heap.promise (.operation k) = _ := fun k => h.promise (.operation k)
  simp only [chainPromise] at hpromise
  have hkept : ∀ k, k < current ∨ (phase.known ∧ k = current) →
      TelemetryQueueV2.outcome
        { queue with heap := queue.heap.settle (.operation call) outcome } k =
        some (outcomes k) := by
    intro k hk
    have houtcome := h.outcome k hk
    simp only [TelemetryQueueV2.outcome, Heap.settle_promise] at houtcome ⊢
    rw [← houtcome]
    cases hcase : queue.heap.promise (.operation k) with
    | pending reactions =>
      rw [hcase] at houtcome
      grind
    | settled settled => rfl
  by_cases hturn : phase = .waiting ∧ call = current
  · obtain ⟨rfl, rfl⟩ := hturn
    have hpending := h.waiting rfl
    refine ⟨call, .forwarding, fun k => if k = call then outcome else outcomes k,
      fun k => if k = call then some outcome else operations k, ?_⟩
    refine
      { h with
        promise := fun p => ?_
        jobs := ?_
        current_lt := fun _ => h.current_lt (by decide)
        running := by simpa using h.running
        started := by simpa using h.started
        bodies := by simpa [Phase.ended] using h.bodies
        outcome := fun k hk => ?_
        promised := by simp
        waiting := by simp }
    · simp only [Heap.settle_promise, h.promise]
      cases p <;> simp only [chainPromise] <;> grind [Phase.resultSettled]
    · simp only [Heap.settle_jobs, hpromise, h.jobs, chainJobs]
      grind
    · by_cases hcall : k = call
      · subst hcall
        simp [TelemetryQueueV2.outcome, Heap.settle_promise, h.promised (.inr rfl), hpromise,
          hpending]
      · rw [hkept k (by grind)]
        simp [hcall]
  · refine ⟨current, phase, outcomes,
      fun k => if k = call then some ((operations call).getD outcome) else operations k, ?_⟩
    refine { h with promise := fun p => ?_, jobs := ?_, outcome := hkept, waiting := ?_ }
    · simp only [Heap.settle_promise, h.promise]
      cases p <;> simp only [chainPromise] <;> grind
    · simp only [Heap.settle_jobs, hpromise, h.jobs, chainJobs]
      grind
    · have := h.waiting
      grind

/-- A body that ends takes its operation into the chain. -/
theorem Shape.leave (h : queue.Shape current .body outcomes operations) (exception : Option ε) :
    (queue.leave current exception).Ordered := by
  have hlength : queue.bodies.length = current := h.bodies
  have hkept : ∀ k, k < current → (queue.leave current exception).outcome k =
      some (outcomes k) := by
    intro k hk
    have houtcome := h.outcome k (.inl hk)
    simp only [TelemetryQueueV2.outcome, TelemetryQueueV2.leave] at houtcome ⊢
    rw [List.getElem?_append_left (by omega), ← houtcome]
    cases exception with
    | none => rfl
    | some reason =>
      simp only [Heap.settle_promise, reduceCtorEq, if_false]
      cases queue.heap.promise (.operation k) <;> rfl
  cases exception with
  | none =>
    refine ⟨current, .adopting, outcomes, operations, ?_⟩
    refine
      { h with
        promise := fun p => ?_
        jobs := ?_
        running := rfl
        current_lt := fun _ => h.current_lt (by decide)
        started := by simpa [TelemetryQueueV2.leave] using h.started
        bodies := by simp [TelemetryQueueV2.leave, hlength, Phase.ended]
        outcome := fun k hk => hkept k (by simpa [Phase.known] using hk)
        promised := fun _ => by simp [TelemetryQueueV2.leave, ← hlength]
        waiting := by simp }
    · rw [TelemetryQueueV2.leave, Heap.resolveWith, h.promise]
      cases p <;> simp [chainPromise, Phase.resultSettled]
    · simp [TelemetryQueueV2.leave, Heap.resolveWith, h.jobs, chainJobs]
  | some reason =>
    refine ⟨current, .settled, fun k => if k = current then .error reason else outcomes k,
      operations, ?_⟩
    have hlt := h.current_lt (by decide)
    have hresult : queue.heap.promise (.result current) = _ := h.promise (.result current)
    simp only [chainPromise, lt_irrefl, hlt, Phase.resultSettled, if_true] at hresult
    refine
      { h with
        promise := fun p => ?_
        jobs := ?_
        running := rfl
        current_lt := fun _ => h.current_lt (by decide)
        started := by simpa [TelemetryQueueV2.leave] using h.started
        bodies := by simp [TelemetryQueueV2.leave, hlength, Phase.ended]
        outcome := fun k hk => ?_
        promised := by simp
        waiting := by simp }
    · simp only [TelemetryQueueV2.leave, Heap.settle_promise, h.promise]
      cases p <;> simp only [chainPromise] <;> grind [Phase.resultSettled]
    · simp only [TelemetryQueueV2.leave, Heap.settle_jobs, hresult, h.jobs, chainJobs]
      simp
    · by_cases hk' : k = current
      · subst hk'
        simp [TelemetryQueueV2.outcome, TelemetryQueueV2.leave, ← hlength]
      · rw [hkept k (by grind)]
        simp [hk']

/-- The operation starts. -/
theorem Shape.start (h : queue.Shape current .starting outcomes operations)
    (hlt : current < queue.calls) :
    Shape ({ queue with heap := { queue.heap with jobs := [] } }.handle (.start current)
      (.ok default)) current .body outcomes operations := by
  refine
    { h with
      promise := fun p => ?_
      jobs := rfl
      current_lt := fun _ => hlt
      running := rfl
      started := ?_
      bodies := h.bodies
      outcome := h.outcome
      promised := by simp
      waiting := by simp }
  · rw [handle, h.promise]
    cases p <;> simp [chainPromise, Phase.resultSettled]
  · rw [handle, h.started]
    exact List.range_succ.symm

/-- The result asks the promise of the operation. -/
theorem Shape.adopt (h : queue.Shape current .adopting outcomes operations) :
    ∃ phase, (phase = .waiting ∨ phase = .forwarding) ∧ ∃ outcomes, Shape { queue with
      heap := { queue.heap with jobs := [] }.register (.operation current)
        (.forward (.result current)) } current phase outcomes operations := by
  have hlt := h.current_lt (by decide)
  have hpromised := h.promised (.inl rfl)
  have hoperation : queue.heap.promise (.operation current) = _ := h.promise (.operation current)
  simp only [chainPromise] at hoperation
  have hkept : ∀ k, queue.outcome k ≠ none →
      TelemetryQueueV2.outcome { queue with
        heap := { queue.heap with jobs := [] }.register (.operation current)
          (.forward (.result current)) } k = queue.outcome k := by
    intro k hk
    simp only [TelemetryQueueV2.outcome, Heap.register_promise] at hk ⊢
    cases hcase : queue.heap.promise (.operation k) <;> rfl
  have hbefore : ∀ k, k < current → queue.outcome k = some (outcomes k) := fun k hk =>
    h.outcome k (.inl hk)
  cases hsettled : operations current with
  | none =>
    refine ⟨.waiting, .inl rfl, outcomes, ?_⟩
    refine
      { h with
        promise := fun p => ?_
        jobs := ?_
        current_lt := fun _ => hlt
        running := h.running
        started := h.started
        bodies := h.bodies
        outcome := fun k hk => ?_
        promised := fun _ => hpromised
        waiting := fun _ => hsettled }
    · simp only [Heap.register_promise, h.promise]
      cases p <;> simp only [chainPromise] <;> grind [Phase.resultSettled]
    · simp only [Heap.register_jobs, hoperation, hsettled, chainJobs]
    · have hlt' : k < current := by simpa [Phase.known] using hk
      rw [hkept k (by rw [hbefore k hlt']; simp), hbefore k hlt']
  | some outcome =>
    refine ⟨.forwarding, .inr rfl, fun k => if k = current then outcome else outcomes k, ?_⟩
    refine
      { h with
        promise := fun p => ?_
        jobs := ?_
        current_lt := fun _ => hlt
        running := h.running
        started := h.started
        bodies := h.bodies
        outcome := fun k hk => ?_
        promised := by simp
        waiting := by simp }
    · simp only [Heap.register_promise, h.promise]
      cases p <;> simp only [chainPromise] <;> grind [Phase.resultSettled]
    · simp [Heap.register_jobs, hoperation, hsettled, chainJobs]
    · have hcurrent : queue.outcome current = some outcome := by
        simp [TelemetryQueueV2.outcome, hpromised, hoperation, hsettled]
      by_cases hk' : k = current
      · subst hk'
        rw [hkept k (by rw [hcurrent]; simp), hcurrent, if_pos rfl]
      · have hlt' : k < current := by simpa [Phase.known, hk'] using hk
        rw [hkept k (by rw [hbefore k hlt']; simp), hbefore k hlt', if_neg hk']

omit [Inhabited α] in
/-- Settling a promise other than that of an operation changes no outcome. -/
theorem outcome_settle {p : QueuePromise} (hp : ∀ k, .operation k ≠ p) (jobs)
    (outcome : Except ε α) (k : Nat) :
    TelemetryQueueV2.outcome
      { queue with heap := { queue.heap with jobs }.settle p outcome } k = queue.outcome k := by
  simp only [TelemetryQueueV2.outcome, Heap.settle_promise, hp, if_false]
  cases queue.heap.promise (.operation k) <;> rfl

/-- The result settles as the promise of the operation did. -/
theorem Shape.forward (h : queue.Shape current .forwarding outcomes operations) :
    Shape { queue with
      heap := { queue.heap with jobs := [] }.settle (.result current) (outcomes current) }
      current .settled outcomes operations := by
  have hlt := h.current_lt (by decide)
  have hresult : queue.heap.promise (.result current) = _ := h.promise (.result current)
  simp only [chainPromise, lt_irrefl, hlt, Phase.resultSettled, if_true] at hresult
  refine
    { h with
      promise := fun p => ?_
      jobs := ?_
      current_lt := fun _ => hlt
      running := h.running
      started := h.started
      bodies := h.bodies
      outcome := fun k hk => ?_
      promised := by simp
      waiting := by simp }
  · simp only [Heap.settle_promise, h.promise]
    cases p <;> simp only [chainPromise] <;> grind [Phase.resultSettled]
  · simp only [Heap.settle_jobs, hresult, chainJobs]
    simp
  · rw [outcome_settle (by simp)]
    exact h.outcome k hk

/-- The next tail settles, and the call after this one gets its job. -/
theorem Shape.swallow (h : queue.Shape current .settled outcomes operations) (jobs)
    (hjobs : jobs = [.react (.handler (.resume current)) (outcomes current)]) :
    Shape ({ queue with heap := { queue.heap with jobs } }.handle (.swallow current)
      (outcomes current)) current .released outcomes operations := by
  have hlt := h.current_lt (by decide)
  have htail : queue.heap.promise (.tail (current + 1)) = _ := h.promise (.tail (current + 1))
  simp only [chainPromise, reduceCtorEq, false_and, or_false,
    show ¬ current + 1 ≤ current by omega, if_false] at htail
  refine
    { h with
      promise := fun p => ?_
      jobs := ?_
      current_lt := fun _ => hlt
      running := h.running
      started := h.started
      bodies := h.bodies
      outcome := fun k hk => ?_
      promised := by simp
      waiting := by simp }
  · simp only [handle, Heap.settle_promise, h.promise]
    cases p <;> simp only [chainPromise] <;> grind [Phase.resultSettled]
  · simp only [handle, Heap.settle_jobs, htail, hjobs, chainJobs]
    grind
  · rw [handle, outcome_settle (by simp)]
    exact h.outcome k hk

/-- The caller gets the outcome, and it is the turn of the next call. -/
theorem Shape.resume (h : queue.Shape current .released outcomes operations) (jobs)
    (hjobs : jobs = chainJobs queue.calls (current + 1) .starting outcomes) :
    Shape ({ queue with heap := { queue.heap with jobs } }.handle (.resume current)
      (outcomes current)) (current + 1) .starting outcomes operations := by
  have hlt := h.current_lt (by decide)
  have hqueued := h.queued
  have hqueued_le := h.queued_le
  have hreturned : queue.heap.promise (.returned current) = _ := h.promise (.returned current)
  simp only [chainPromise, lt_irrefl, if_false] at hreturned
  refine
    { current_le := hlt
      current_lt := by simp
      promise := fun p => ?_
      jobs := ?_
      running := h.running
      queued := by rw [handle]; dsimp only; omega
      queued_le := by rw [handle]; dsimp only; omega
      started := h.started
      bodies := h.bodies
      outcome := fun k hk => ?_
      promised := by simp
      waiting := by simp }
  · simp only [handle, Heap.settle_promise, h.promise]
    cases p <;> simp only [chainPromise] <;> grind [Phase.resultSettled]
  · simp only [handle, Heap.settle_jobs, hreturned, hjobs]
    simp
  · refine (outcome_settle (by simp) jobs (outcomes current) k).trans (h.outcome k ?_)
    have : k < current + 1 := by simpa [Phase.known] using hk
    simp only [Phase.known, true_and]
    omega

theorem step_job (h : queue.step .job = some queue') :
    queue.running = none ∧ ∃ job jobs, queue.heap.jobs = job :: jobs ∧
      queue' = { queue with heap := { queue.heap with jobs } }.perform job := by
  rw [step] at h
  split at h
  next job jobs hrunning hjobs => exact ⟨hrunning, job, jobs, hjobs, (Option.some.inj h).symm⟩
  next => cases h

/-- The first job takes the chain one step further. -/
theorem Shape.job (h : queue.Shape current phase outcomes operations)
    (hstep : queue.step .job = some queue') :
    ∃ current' phase' outcomes', phase'.jobsLeft < phase.jobsLeft ∧
      queue'.Shape current' phase' outcomes' operations := by
  obtain ⟨hrunning, job, jobs, hjobs, rfl⟩ := step_job hstep
  rw [h.jobs] at hjobs
  cases phase with
  | starting =>
    by_cases hlt : current < queue.calls
    · simp only [chainJobs, hlt, if_true, List.cons.injEq] at hjobs
      obtain ⟨rfl, rfl⟩ := hjobs
      exact ⟨_, _, _, by decide, h.start hlt⟩
    · simp [chainJobs, hlt] at hjobs
  | body => cases hjobs
  | adopting =>
    obtain ⟨rfl, rfl⟩ := List.cons.inj hjobs
    obtain ⟨phase, hphase, outcomes', hshape⟩ := h.adopt
    refine ⟨_, phase, outcomes', ?_, hshape⟩
    rcases hphase with rfl | rfl
    · decide
    · decide
  | waiting => cases hjobs
  | forwarding =>
    obtain ⟨rfl, rfl⟩ := List.cons.inj hjobs
    exact ⟨_, _, _, by decide, h.forward⟩
  | settled =>
    obtain ⟨rfl, rfl⟩ := List.cons.inj hjobs
    exact ⟨_, _, _, by decide, h.swallow _ rfl⟩
  | released =>
    obtain ⟨rfl, rfl⟩ := List.cons.inj hjobs
    exact ⟨_, _, _, by decide, h.resume _ rfl⟩

/-- Whatever happens, it is the turn of some call. -/
theorem Ordered.step {action : Action ε α} (h : queue.Ordered)
    (hstep : queue.step action = some queue') : queue'.Ordered := by
  obtain ⟨current, phase, outcomes, operations, h⟩ := h
  cases action with
  | call =>
    rw [TelemetryQueueV2.step, Option.some.injEq] at hstep
    exact hstep ▸ ⟨_, _, _, _, h.run⟩
  | settle call outcome =>
    rw [TelemetryQueueV2.step, Option.some.injEq] at hstep
    exact hstep ▸ h.settle call outcome
  | leave exception =>
    rw [TelemetryQueueV2.step, h.running] at hstep
    by_cases hbody : phase = .body
    · subst hbody
      rw [if_pos rfl, Option.map_some, Option.some.injEq] at hstep
      exact hstep ▸ h.leave exception
    · rw [if_neg hbody] at hstep
      cases hstep
  | job =>
    obtain ⟨current', phase', outcomes', -, h'⟩ := h.job hstep
    exact ⟨current', phase', outcomes', operations, h'⟩

theorem ordered_of_reachable (h : (system ε α).Reachable queue) : queue.Ordered :=
  h.invariant (fun queue (hinit : queue = initial) => hinit ▸ initial_ordered)
    fun _ _ _ hs hstep => hs.step hstep

end Steps

/-! ## What every queue does -/

/-- Run jobs, at most so many. -/
def drain : Nat → TelemetryQueueV2 ε α → TelemetryQueueV2 ε α
  | 0, queue => queue
  | n + 1, queue =>
    match queue.step .job with
    | some queue' => drain n queue'
    | none => queue

/-- The queue serves its calls one at a time, in the order of the calls. -/
structure Serves (queue : TelemetryQueueV2 ε α) : Prop where
  in_order : queue.started = List.range queue.started.length
  accepted : queue.started.length ≤ queue.calls
  /-- An operation has its outcome before the next one starts. -/
  one_at_a_time : ∀ call, call + 1 < queue.started.length → queue.outcome call ≠ none
  bounded : queue.queued ≤ 8
  counted : queue.queued = queue.unfinished.length
  refused : queue.run.1 = none ↔ queue.unfinished.length = 8
  own : ∀ call outcome, queue.answer call = some outcome → queue.outcome call = some outcome
  /-- When every operation that was started has its outcome, the jobs leave no call waiting. -/
  not_blocked : queue.Quiet → queue.started.length = queue.calls ∧ queue.unfinished = []

section Results

variable {queue queue' : TelemetryQueueV2 ε α} {current : Nat} {phase : Phase}
  {outcomes : Nat → Except ε α} {operations : Nat → Option (Except ε α)}

theorem Shape.answer (h : queue.Shape current phase outcomes operations) (call : Nat) :
    queue.answer call = if call < current then some (outcomes call) else none := by
  rw [TelemetryQueueV2.answer, h.promise, chainPromise]
  split_ifs <;> rfl

theorem Shape.unfinished_length (h : queue.Shape current phase outcomes operations) :
    queue.unfinished.length = queue.queued := by
  have hqueued := h.queued
  have hrange : List.range queue.calls =
      List.range current ++ (List.range queue.queued).map (current + ·) := by
    rw [← hqueued, Nat.add_comm, List.range_add]
  have hdone : (List.range current).filter (fun call => queue.answer call = none) = [] := by
    rw [List.filter_eq_nil_iff]
    intro call hcall
    rw [List.mem_range] at hcall
    simp [h.answer, hcall]
  have hwaits : ((List.range queue.queued).map (current + ·)).filter
      (fun call => queue.answer call = none) = (List.range queue.queued).map (current + ·) := by
    rw [List.filter_eq_self]
    intro call hcall
    obtain ⟨k, -, rfl⟩ := List.mem_map.1 hcall
    simp [h.answer]
  rw [unfinished, hrange, List.filter_append, hdone, hwaits, List.nil_append, List.length_map,
    List.length_range]

theorem Shape.started_length (h : queue.Shape current phase outcomes operations) :
    queue.started.length = if phase = .starting then current else current + 1 := by
  rw [h.started, List.length_range]

/-- Only the first call can wait when nothing runs: its operation has no outcome. -/
theorem Shape.quiet (h : queue.Shape current phase outcomes operations) (hquiet : queue.Quiet) :
    phase = .starting ∧ current = queue.calls := by
  have hjobs := h.jobs
  have hrunning := h.running
  rw [hquiet.jobs] at hjobs
  rw [hquiet.running] at hrunning
  cases phase with
  | starting =>
    refine ⟨rfl, ?_⟩
    have hle := h.current_le
    by_contra hne
    simp [chainJobs, show current < queue.calls by omega] at hjobs
  | body => simp at hrunning
  | waiting =>
    have hmem : current ∈ queue.started := by
      rw [h.started]
      simp
    have hoperation : queue.heap.promise (.operation current) = _ := h.promise (.operation current)
    simp only [chainPromise, h.waiting rfl] at hoperation
    have houtcome := hquiet.outcomes current hmem
    simp [TelemetryQueueV2.outcome, h.promised (.inr rfl), hoperation] at houtcome
  | adopting => cases hjobs
  | forwarding => cases hjobs
  | settled => cases hjobs
  | released => cases hjobs

theorem Shape.serves (h : queue.Shape current phase outcomes operations) : queue.Serves := by
  have hlength := h.started_length
  have hunfinished := h.unfinished_length
  refine
    { in_order := by rw [hlength, h.started]
      accepted := ?_
      one_at_a_time := fun call hcall => ?_
      bounded := h.queued_le
      counted := hunfinished.symm
      refused := ?_
      own := fun call outcome hanswer => ?_
      not_blocked := fun hquiet => ?_ }
  · have hle := h.current_le
    have hlt := h.current_lt
    rw [hlength]
    split_ifs with hphase
    · exact hle
    · exact hlt hphase
  · have hbefore : call < current := by
      rw [hlength] at hcall
      split_ifs at hcall <;> omega
    rw [h.outcome call (.inl hbefore)]
    simp
  · have hqueued_le := h.queued_le
    rw [hunfinished, TelemetryQueueV2.run]
    split_ifs with hbusy
    · exact iff_of_true rfl (by omega)
    · refine iff_of_false (by simp) (by omega)
  · rw [h.answer] at hanswer
    by_cases hcall : call < current
    · rw [if_pos hcall] at hanswer
      rw [h.outcome call (.inl hcall), hanswer]
    · rw [if_neg hcall] at hanswer
      cases hanswer
  · obtain ⟨rfl, hcurrent⟩ := h.quiet hquiet
    have hqueued := h.queued
    rw [hlength, if_pos rfl]
    refine ⟨hcurrent, List.length_eq_zero_iff.1 ?_⟩
    omega

/-- The jobs run out. -/
theorem Shape.drain (h : queue.Shape current phase outcomes operations) (n : Nat)
    (hn : phase.jobsLeft ≤ n) : (queue.drain n).step .job = none := by
  induction n generalizing queue current phase outcomes with
  | zero =>
    rw [TelemetryQueueV2.drain]
    cases hstep : queue.step .job with
    | none => rfl
    | some queue' =>
      obtain ⟨_, _, _, hless, -⟩ := h.job hstep
      omega
  | succ n ih =>
    rw [TelemetryQueueV2.drain]
    cases hstep : queue.step .job with
    | none => exact hstep
    | some queue' =>
      obtain ⟨_, _, _, hless, h'⟩ := h.job hstep
      exact ih h' (by omega)

theorem jobsLeft_le (phase : Phase) : phase.jobsLeft ≤ 5 := by
  cases phase <;> decide

theorem perform_bodies (job : Job QueuePromise QueueReaction (Except ε α)) :
    (queue.perform job).bodies = queue.bodies := by
  cases job with
  | resolve target source => rfl
  | react reaction outcome =>
    cases reaction with
    | forward target => rfl
    | handler reaction =>
      cases reaction with
      | start call => cases outcome <;> rfl
      | swallow call => rfl
      | resume call => rfl

/-- A job leaves a promise that has settled as it is. -/
theorem perform_settled (job : Job QueuePromise QueueReaction (Except ε α)) {p : QueuePromise}
    {settled : Except ε α} (h : queue.heap.promise p = .settled settled) :
    (queue.perform job).heap.promise p = .settled settled := by
  cases job with
  | resolve target source => exact Heap.register_promise_of_settled h _
  | react reaction outcome =>
    cases reaction with
    | forward target => exact Heap.settle_promise_of_settled h _
    | handler reaction =>
      cases reaction with
      | start call =>
        cases outcome with
        | error reason => exact Heap.settle_promise_of_settled h _
        | ok value => exact h
      | swallow call => exact Heap.settle_promise_of_settled h _
      | resume call => exact Heap.settle_promise_of_settled h _

/-- What has happened to an operation, nothing undoes. -/
theorem outcome_step {action : Action ε α} {call : Nat} {outcome : Except ε α}
    (h : queue.step action = some queue') (hbefore : queue.outcome call = some outcome) :
    queue'.outcome call = some outcome := by
  have hkept : ∀ {queue' : TelemetryQueueV2 ε α},
      (∀ body, queue.bodies[call]? = some body → queue'.bodies[call]? = some body) →
      (∀ settled, queue.heap.promise (.operation call) = .settled settled →
        queue'.heap.promise (.operation call) = .settled settled) →
      queue'.outcome call = some outcome := by
    intro queue' hbodies hpromise
    rw [TelemetryQueueV2.outcome] at hbefore ⊢
    cases hbody : queue.bodies[call]? with
    | none => simp [hbody] at hbefore
    | some body =>
      rw [hbodies body hbody]
      rw [hbody] at hbefore
      cases body with
      | some reason => exact hbefore
      | none =>
        cases hsettled : queue.heap.promise (.operation call) with
        | pending reactions => simp [hsettled] at hbefore
        | settled settled =>
          simp only [hsettled] at hbefore
          simp only [hpromise settled hsettled, hbefore]
  cases action with
  | call =>
    rw [step, Option.some.injEq, run] at h
    split_ifs at h with hbusy
    · exact h ▸ hbefore
    · subst h
      refine hkept (fun _ h => h) fun settled hsettled => ?_
      iterate 3 apply Heap.register_promise_of_settled
      exact hsettled
  | settle other outcome' =>
    rw [step, Option.some.injEq] at h
    subst h
    exact hkept (fun _ h => h) fun settled hsettled =>
      Heap.settle_promise_of_settled hsettled outcome'
  | leave exception =>
    rw [step, Option.map_eq_some_iff] at h
    obtain ⟨current, -, rfl⟩ := h
    refine hkept (fun body hbody => ?_) fun settled hsettled => ?_
    · have hlt := (List.getElem?_eq_some_iff.1 hbody).1
      show (queue.bodies ++ [exception])[call]? = some body
      rw [List.getElem?_append_left hlt, hbody]
    · cases exception with
      | none => exact hsettled
      | some reason => exact Heap.settle_promise_of_settled hsettled _
  | job =>
    obtain ⟨-, job, jobs, -, rfl⟩ := step_job h
    refine hkept (fun body hbody => ?_) fun settled hsettled => ?_
    · rw [perform_bodies, hbody]
    · exact perform_settled job hsettled

/-- For any order of calls, outcomes and jobs: the queue serves its calls one at a time and in
order, what happened to an operation stays, and at most five jobs run before something else has to
happen. -/
theorem queue_serves (h : (system ε α).Reachable queue) :
    queue.Serves ∧ (queue.drain 5).step .job = none ∧
      ∀ queue', (system ε α).Run queue queue' → ∀ call outcome,
        queue.outcome call = some outcome → queue'.outcome call = some outcome := by
  obtain ⟨current, phase, outcomes, operations, hshape⟩ := ordered_of_reachable h
  refine ⟨hshape.serves, hshape.drain 5 (jobsLeft_le phase), ?_⟩
  intro queue' hrun call outcome houtcome
  exact hrun.keeps (I := fun queue => queue.outcome call = some outcome)
    (fun _ _ _ hbefore hstep => outcome_step hstep hbefore) houtcome

/-- Actions, one after the other. -/
def replay : List (Action ε α) → TelemetryQueueV2 ε α → Option (TelemetryQueueV2 ε α)
  | [], queue => some queue
  | action :: actions, queue => (queue.step action).bind (replay actions)

theorem reachable_replay {actions : List (Action ε α)}
    (h : replay actions queue = some queue') (hreachable : (system ε α).Reachable queue) :
    (system ε α).Reachable queue' := by
  induction actions generalizing queue with
  | nil => exact Option.some.inj h ▸ hreachable
  | cons action actions ih =>
    obtain ⟨next, hstep, hrest⟩ := Option.bind_eq_some_iff.1 h
    exact ih hrest (hreachable.snoc hstep)

/-- Two calls; the first operation is rejected while the second waits, which then ends well. -/
def twoCalls : List (Action Nat Nat) :=
  [.call, .call, .job, .leave none, .job, .settle 0 (.error 1), .job, .job, .job, .job,
    .leave none, .settle 1 (.ok 2), .job, .job, .job, .job]

theorem queue_serves_twoCalls : ∃ queue : TelemetryQueueV2 Nat Nat,
    (system Nat Nat).Reachable queue ∧ queue.Serves ∧ queue.queued = 0 ∧
      queue.answer 0 = some (.error 1) ∧ queue.answer 1 = some (.ok 2) := by
  have hsteps : (replay twoCalls initial).map
      (fun queue => (queue.queued, queue.answer 0, queue.answer 1)) =
        some (0, some (.error 1), some (.ok 2)) := rfl
  obtain ⟨queue, hqueue, hseen⟩ := Option.map_eq_some_iff.1 hsteps
  obtain ⟨hqueued, hanswers⟩ := Prod.mk.inj hseen
  obtain ⟨hfirst, hsecond⟩ := Prod.mk.inj hanswers
  have hreachable := reachable_replay hqueue (.init rfl)
  exact ⟨queue, hreachable, (queue_serves hreachable).1, hqueued, hfirst, hsecond⟩

end Results

end TelemetryQueueV2

end TradeOps.Telemetry
