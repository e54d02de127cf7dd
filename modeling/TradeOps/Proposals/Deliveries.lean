import TradeOps.Lib.Checks
import TradeOps.Lib.Doubles
import TradeOps.Lib.Tables

/-!
# Candidate deliveries

Embeds the delivery table of the proposal schema (`execution-proposal-v1-legacy.sql`), with its
checks, its unique claim tokens and its update guard, and the functions of
`observation-outbox-dispatcher.ts` that write it. An update statement rewrites the rows it selects,
or aborts when the guard, a `CHECK` or the index refuses one of them; the statements of a batch
take effect together. `last_error`, which nothing reads, is left out, and so is the payload that a
claim is joined with.
-/

namespace TradeOps.Proposals

open Tables

/-! ## The table -/

inductive DeliveryStatus where
  | pending
  | retry
  | claimed
  | acknowledged
  | expired
  | failedTerminal
  deriving DecidableEq, Repr

/-- A row of `observation_execution_candidate_v1_deliveries`. -/
structure DeliveryRow where
  logicalCandidateId : String
  status : DeliveryStatus
  attemptCount : Nat
  nextAttemptAtEpoch : Nat
  leaseOwner : Option String
  leaseExpiresAtEpoch : Option Nat
  claimToken : Option String
  acknowledgedAtEpoch : Option Nat
  receiverStatus : Option Nat
  createdAtEpoch : Nat
  expiresAtEpoch : Nat
  updatedAtEpoch : Nat
  deriving DecidableEq, Repr

/-- The row that the ingestion of a proposal inserts. -/
def DeliveryRow.ofProposal (logicalCandidateId : String) (receivedAtEpoch expiresAtEpoch : Nat) :
    DeliveryRow where
  logicalCandidateId
  status := if expiresAtEpoch ≤ receivedAtEpoch then .expired else .pending
  attemptCount := 0
  nextAttemptAtEpoch := receivedAtEpoch
  leaseOwner := none
  leaseExpiresAtEpoch := none
  claimToken := none
  acknowledgedAtEpoch := none
  receiverStatus := none
  createdAtEpoch := receivedAtEpoch
  expiresAtEpoch
  updatedAtEpoch := receivedAtEpoch

/-- The `CHECK` clauses. -/
def DeliveryRow.checks (row : DeliveryRow) : Bool :=
  row.attemptCount ≤ 5 ∧
    row.claimToken.all (·.length = 64) ∧
    row.receiverStatus.all (fun status => 100 ≤ status ∧ status ≤ 599) ∧
    row.createdAtEpoch ≤ row.updatedAtEpoch ∧
    (if row.status = .claimed then
      row.leaseOwner.isSome ∧ row.leaseExpiresAtEpoch.isSome ∧ row.claimToken.isSome
    else row.leaseOwner.isNone ∧ row.leaseExpiresAtEpoch.isNone ∧ row.claimToken.isNone) ∧
    (if row.status = .acknowledged then row.acknowledgedAtEpoch.isSome
    else row.acknowledgedAtEpoch.isNone)

/-- `observation_execution_candidate_v1_deliveries_update_guard` lets the update pass. -/
def updateGuard (old new : DeliveryRow) : Bool :=
  new.logicalCandidateId = old.logicalCandidateId ∧ new.createdAtEpoch = old.createdAtEpoch ∧
    new.expiresAtEpoch = old.expiresAtEpoch ∧
    ((old.status ∈ [.pending, .retry] ∧ new.status ∈ [.claimed, .expired]) ∨
      (old.status = .claimed ∧ new.status ∈ [.acknowledged, .retry, .expired, .failedTerminal]))

/-- The claim tokens are unique where they are not `NULL`. -/
def TokensDistinct (deliveries : List DeliveryRow) : Prop :=
  deliveries.Pairwise fun a b => a.claimToken.isSome → a.claimToken ≠ b.claimToken

instance (deliveries : List DeliveryRow) : Decidable (TokensDistinct deliveries) :=
  inferInstanceAs (Decidable (List.Pairwise _ _))

inductive Abort where
  | updateGuard
  | check
  | claimToken
  deriving DecidableEq, Repr

/-- One row of an update statement. -/
def updateRow (selects : DeliveryRow → Bool) (assign : DeliveryRow → DeliveryRow)
    (row : DeliveryRow) : Except Abort DeliveryRow :=
  if !selects row then .ok row
  else if !updateGuard row (assign row) then .error .updateGuard
  else if !(assign row).checks then .error .check
  else .ok (assign row)

def update (selects : DeliveryRow → Bool) (assign : DeliveryRow → DeliveryRow)
    (deliveries : List DeliveryRow) : Except Abort (List DeliveryRow) := do
  let next ← deliveries.mapM (updateRow selects assign)
  if TokensDistinct next then .ok next else .error .claimToken

/-! ## Claims -/

def leaseSeconds : Nat := 30

def maxAttempts : Nat := 5

def maxBackoffSeconds : Nat := 300

/-- `Number.isSafeInteger` of a reading that is not negative. -/
def validNow (value : Nat) : Bool := value ≤ 9007199254740991

/-- `LEASE_OWNER`: visible ASCII characters without the backslash. -/
def isLeaseOwner (owner : String) : Bool :=
  (1 ≤ owner.length && owner.length ≤ 160) &&
    owner.toList.all fun c => 0x21 ≤ c.toNat ∧ c.toNat ≤ 0x7e ∧ c.toNat ≠ 0x5c

/-- The variables of the environment that the dispatcher reads. -/
structure DispatchEnv where
  candidateDispatchEnabled : Option String
  receiverManifestSha256 : Option String
  deriving DecidableEq, Repr

def isSha256 (text : String) : Bool :=
  text.length = 64 ∧ text.toList.all fun c => c.isDigit || ('a' ≤ c && c ≤ 'f')

def dispatchEnabled (env : DispatchEnv) : Bool :=
  env.candidateDispatchEnabled = some "true" &&
    env.receiverManifestSha256.any fun manifest =>
      isSha256 manifest && manifest ≠ String.ofList (List.replicate 64 '0')

/-- `ObservationCandidateDeliveryClaim`. -/
structure Claim where
  logicalCandidateId : String
  attemptCount : Nat
  leaseOwner : String
  leaseExpiresAtEpoch : Nat
  claimToken : String
  expiresAtEpoch : Nat
  deriving DecidableEq, Repr

namespace DeliveryRow

variable (row : DeliveryRow)

/-- The columns that every statement which ends a lease sets alike. -/
def release (status : DeliveryStatus) (nowEpoch : Nat) : DeliveryRow :=
  { row with
    status
    leaseOwner := none
    leaseExpiresAtEpoch := none
    claimToken := none
    acknowledgedAtEpoch := none
    receiverStatus := none
    updatedAtEpoch := nowEpoch }

def isStale (nowEpoch : Nat) : Bool :=
  row.status ∈ [.pending, .retry, .claimed] && row.expiresAtEpoch ≤ nowEpoch

/-- A claimed row whose lease is over, while the candidate is not. -/
def leaseOver (nowEpoch : Nat) : Bool :=
  row.status = .claimed && row.leaseExpiresAtEpoch.any (· ≤ nowEpoch) &&
    nowEpoch < row.expiresAtEpoch

def isDue (nowEpoch : Nat) : Bool :=
  row.status ∈ [.pending, .retry] && row.nextAttemptAtEpoch ≤ nowEpoch &&
    nowEpoch < row.expiresAtEpoch

/-- `ORDER BY next_attempt_at_epoch, created_at_epoch, logical_candidate_id`. -/
def comesBefore (other : DeliveryRow) : Bool :=
  row.nextAttemptAtEpoch < other.nextAttemptAtEpoch ||
    (row.nextAttemptAtEpoch = other.nextAttemptAtEpoch &&
      (row.createdAtEpoch < other.createdAtEpoch ||
        (row.createdAtEpoch = other.createdAtEpoch &&
          row.logicalCandidateId < other.logicalCandidateId)))

/-- The row as the last statement of a claim selects it. -/
def claim? : Option Claim := do
  let leaseOwner ← row.leaseOwner
  let leaseExpiresAtEpoch ← row.leaseExpiresAtEpoch
  let claimToken ← row.claimToken
  return ⟨row.logicalCandidateId, row.attemptCount, leaseOwner, leaseExpiresAtEpoch, claimToken,
    row.expiresAtEpoch⟩

end DeliveryRow

/-- The first row of a list in the order of the claims. -/
def firstDue : List DeliveryRow → Option DeliveryRow
  | [] => none
  | row :: rest =>
    match firstDue rest with
    | none => some row
    | some best => if best.comesBefore row then some best else some row

def expireStaleDeliveries (nowEpoch : Nat) : List DeliveryRow → Except Abort (List DeliveryRow) :=
  update (·.isStale nowEpoch) (·.release .expired nowEpoch)

/-- The second statement of a claim: the last lease of a row is over. -/
def failFinalLeases (nowEpoch : Nat) : List DeliveryRow → Except Abort (List DeliveryRow) :=
  update (fun row => row.leaseOver nowEpoch && maxAttempts ≤ row.attemptCount)
    (·.release .failedTerminal nowEpoch)

/-- The third statement of a claim. -/
def retryLeases (nowEpoch : Nat) : List DeliveryRow → Except Abort (List DeliveryRow) :=
  update (fun row => row.leaseOver nowEpoch && row.attemptCount < maxAttempts)
    fun row => { row.release .retry nowEpoch with nextAttemptAtEpoch := nowEpoch }

/-- The fourth statement of a claim. -/
def claimFirstDue (leaseOwner : String) (nowEpoch : Nat) (token : String)
    (deliveries : List DeliveryRow) : Except Abort (List DeliveryRow) :=
  let due := firstDue (deliveries.filter fun row =>
    row.isDue nowEpoch && row.attemptCount < maxAttempts)
  update
    (fun row => due.any (·.logicalCandidateId = row.logicalCandidateId) && row.isDue nowEpoch)
    (fun row => { row with
      status := .claimed
      attemptCount := row.attemptCount + 1
      leaseOwner := some leaseOwner
      leaseExpiresAtEpoch := some (Double.ofNat (nowEpoch + leaseSeconds))
      claimToken := some token
      acknowledgedAtEpoch := none
      receiverStatus := none
      updatedAtEpoch := nowEpoch })
    deliveries

def claimObservationCandidateDelivery (env : DispatchEnv) (leaseOwner : String) (nowEpoch : Nat)
    (token : String) (deliveries : List DeliveryRow) :
    Except Abort (List DeliveryRow × Option Claim) :=
  if !dispatchEnabled env || !isLeaseOwner leaseOwner || !validNow nowEpoch then
    .ok (deliveries, none)
  else do
    let deliveries ← expireStaleDeliveries nowEpoch deliveries
    let deliveries ← failFinalLeases nowEpoch deliveries
    let deliveries ← retryLeases nowEpoch deliveries
    let deliveries ← claimFirstDue leaseOwner nowEpoch token deliveries
    let claimed := deliveries.find? fun row => row.status = .claimed && row.claimToken = some token
    return (deliveries, claimed.bind DeliveryRow.claim?)

/-! ## Finalization -/

inductive DeliveryFinalization where
  | acknowledged (receiverStatus : Nat)
  | transientFailure
  | failedTerminal (receiverStatus : Nat)
  deriving DecidableEq, Repr

inductive ObservationOutboxOutcome where
  | disabled
  | empty
  | retry
  | acknowledged
  | expired
  | failedTerminal
  deriving DecidableEq, Repr

/-- The row is claimed, by the owner and with the lease and the token of the claim. -/
def Claim.holds (claim : Claim) (row : DeliveryRow) : Bool :=
  row.logicalCandidateId = claim.logicalCandidateId && row.status = .claimed &&
    row.leaseOwner = some claim.leaseOwner &&
    row.leaseExpiresAtEpoch = some claim.leaseExpiresAtEpoch &&
    row.claimToken = some claim.claimToken

/-- An update of the row that the claim holds, with its outcome when it changed one row. -/
def Claim.settle (claim : Claim) (assign : DeliveryRow → DeliveryRow)
    (outcome : ObservationOutboxOutcome) (deliveries : List DeliveryRow) :
    Except Abort (List DeliveryRow × ObservationOutboxOutcome) := do
  let next ← update claim.holds assign deliveries
  return (next, if deliveries.countP claim.holds = 1 then outcome else .empty)

def finalizeObservationCandidateDelivery (claim : Claim) (finalization : DeliveryFinalization)
    (nowEpoch : Nat) (deliveries : List DeliveryRow) :
    Except Abort (List DeliveryRow × ObservationOutboxOutcome) :=
  if !validNow nowEpoch then .ok (deliveries, .failedTerminal)
  else if claim.expiresAtEpoch ≤ nowEpoch then
    claim.settle (·.release .expired nowEpoch) .expired deliveries
  else if claim.leaseExpiresAtEpoch ≤ nowEpoch then
    if maxAttempts ≤ claim.attemptCount then
      claim.settle (fun row => { row.release .failedTerminal nowEpoch with
        nextAttemptAtEpoch := nowEpoch }) .failedTerminal deliveries
    else
      claim.settle (fun row => { row.release .retry nowEpoch with
        nextAttemptAtEpoch := nowEpoch }) .retry deliveries
  else match finalization with
    | .acknowledged receiverStatus =>
      claim.settle (fun row => { row.release .acknowledged nowEpoch with
        acknowledgedAtEpoch := some nowEpoch
        receiverStatus := some receiverStatus }) .acknowledged deliveries
    | .failedTerminal receiverStatus =>
      claim.settle (fun row => { row.release .failedTerminal nowEpoch with
        receiverStatus := some receiverStatus }) .failedTerminal deliveries
    | .transientFailure =>
      if maxAttempts ≤ claim.attemptCount then
        claim.settle (·.release .failedTerminal nowEpoch) .failedTerminal deliveries
      else
        let backoffSeconds := min maxBackoffSeconds (2 ^ claim.attemptCount)
        claim.settle (fun row => { row.release .retry nowEpoch with
          nextAttemptAtEpoch := Double.ofNat (nowEpoch + backoffSeconds) }) .retry deliveries

/-! ## The dispatcher -/

/-- The reading after the request, `none` when the clock throws. -/
def freshCompletionEpoch (preSendEpoch : Nat) (clock : Option Nat) : Nat :=
  match clock with
  | some fresh => if validNow fresh then max preSendEpoch fresh else preSendEpoch
  | none => preSendEpoch

/-- How `dispatchObservationOutboxOnce` finalizes after a response, or after a request that
failed. -/
def finalizationOfResponse : Option Nat → DeliveryFinalization
  | none => .transientFailure
  | some status =>
    if 200 ≤ status ∧ status < 300 then .acknowledged status
    else if status = 408 ∨ status = 425 ∨ status = 429 ∨ 500 ≤ status then .transientFailure
    else .failedTerminal status

end TradeOps.Proposals
