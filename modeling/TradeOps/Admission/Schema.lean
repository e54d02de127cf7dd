import TradeOps.Entry.ValidationV3
import TradeOps.Lib.SafeIntegers
import TradeOps.Lib.Tables

/-!
# The signal admission tables

Embeds the migrations `0031_signal_admission_v1.sql`,
`0032_signal_admission_receipt_evidence_v1.sql` and `0033_signal_admission_dispatch_v1.sql`: the
rows of the tables, what their `CHECK`, `UNIQUE`, `REFERENCES` clauses and their triggers demand of
a written row, and the statements that the store sends in a batch. A statement that violates a
constraint fails, and a batch with a failing statement has no effect.

The columns `authority` and `execution_allowed` hold one constant each and are left out. `jsonValid`
is SQLite's `json_valid`; nothing is assumed about it.
-/

namespace TradeOps.Admission

open Tables
open SafeIntegers (maxSafeInteger)
open TradeOps.Entry (isSafeInteger sha256Text)

/-! ## Rows -/

inductive StreamState where
  | active | quarantined | retired
  deriving DecidableEq, Repr

inductive ReceiptOutcome where
  | accepted | noCandidate | auditOnly | rejected
  deriving DecidableEq, Repr

inductive AdmissionCode where
  | sequenceGap | unknownOldSequence | bodyConflict | invalidEvidence | stale | future
  | clockRegression | attemptConflict | streamBlocked
  deriving DecidableEq, Repr

inductive OutboxStatus where
  | pending | claimed | retry | acknowledged | expired | failedTerminal | quarantined
  deriving DecidableEq, Repr

inductive FailureReason where
  | clockRegression | attemptsExhausted | deliveryFailed
  deriving DecidableEq, Repr

/-- A row of `signal_admission_v1_registrations`. -/
structure RegistrationRow where
  registrationId : String
  namespace_ : String
  scopeKey : String
  activeGeneration : Int
  revision : Int
  enabled : Bool
  registrationJson : String
  deriving DecidableEq, Repr

/-- A row of `signal_admission_v1_streams`. -/
structure StreamRow where
  registrationId : String
  generation : Int
  registryRevision : Int
  revision : Int
  nextSequence : Int
  state : StreamState
  lastAcceptedAt : Option Int
  reason : Option String
  deriving DecidableEq, Repr

/-- A row of `signal_admission_v1_receipts`. -/
structure ReceiptRow where
  registrationId : String
  generation : Int
  sequence : Int
  receiptId : String
  bodySha256 : String
  outcome : ReceiptOutcome
  code : Option AdmissionCode
  admittedAt : Int
  deriving DecidableEq, Repr

/-- A row of `signal_admission_v1_evidence`. -/
structure EvidenceRow where
  evidenceId : String
  namespace_ : String
  attemptKey : String
  evidenceHash : String
  receiptId : String
  body : String
  deriving DecidableEq, Repr

/-- A row of `signal_admission_v1_attempts`. -/
structure AttemptRow where
  namespace_ : String
  attemptKey : String
  formationHash : String
  evidenceId : Option String
  evidenceHash : Option String
  triggerEpoch : Option Int
  selectionKey : Option String
  disputed : Bool
  deriving DecidableEq, Repr

/-- The columns of a delivery that are written once. -/
structure Delivery where
  deliveryId : String
  namespace_ : String
  attemptKey : String
  registrationId : String
  generation : Int
  receiptId : String
  evidenceId : String
  deliveryBodySha256 : String
  body : String
  admittedAtEpoch : Int
  expiresAtEpoch : Int
  deriving DecidableEq, Repr

/-- A row of `signal_admission_v1_outbox`. -/
structure OutboxRow extends Delivery where
  status : OutboxStatus
  claimToken : Option String
  leaseUntilEpoch : Option Int
  deliveryAttempts : Int
  nextAttemptAtEpoch : Int
  lastDispatchAtEpoch : Option Int
  failureReason : Option FailureReason
  deriving DecidableEq, Repr

/-- A row of `signal_admission_v1_receipt_evidence`. -/
structure ReceiptEvidenceRow where
  receiptId : String
  evidenceId : String
  namespace_ : String
  attemptKey : String
  deriving DecidableEq, Repr

/-- A row of `signal_admission_v1_audit`. -/
structure AuditRow where
  auditId : String
  registrationId : String
  generation : Int
  sequence : Option Int
  bodySha256 : Option String
  reason : String
  deriving DecidableEq, Repr

/-- The database; of a guard only its token outlives the statement that inserts it. -/
structure Db where
  registrations : List RegistrationRow
  streams : List StreamRow
  receipts : List ReceiptRow
  evidence : List EvidenceRow
  attempts : List AttemptRow
  outbox : List OutboxRow
  receiptEvidence : List ReceiptEvidenceRow
  audit : List AuditRow
  guards : List String
  deriving DecidableEq, Repr

def Db.empty : Db := ⟨[], [], [], [], [], [], [], [], []⟩

/-- The primary key of a stream. -/
def StreamRow.key (row : StreamRow) : String × Int := (row.registrationId, row.generation)

/-- The stream that a receipt belongs to. -/
def ReceiptRow.stream (row : ReceiptRow) : String × Int := (row.registrationId, row.generation)

/-- The stream that a delivery belongs to. -/
def Delivery.stream (row : Delivery) : String × Int := (row.registrationId, row.generation)

/-- The primary key of an attempt. -/
def AttemptRow.key (row : AttemptRow) : String × String := (row.namespace_, row.attemptKey)

/-- The attempt that a delivery is for. -/
def Delivery.attempt (row : Delivery) : String × String := (row.namespace_, row.attemptKey)

/-! ## Constraints -/

/-- `BETWEEN 1 AND 9007199254740991`. -/
def isOrdinal (value : Int) : Bool := 1 ≤ value ∧ value ≤ maxSafeInteger

/-- `BETWEEN 0 AND 9007199254740991`. -/
def isStoredEpoch (value : Int) : Bool := 0 ≤ value ∧ value ≤ maxSafeInteger

section Constraints

variable (jsonValid : String → Bool)

def RegistrationRow.check (row : RegistrationRow) : Bool :=
  isOrdinal row.activeGeneration && isOrdinal row.revision && jsonValid row.registrationJson

/-- The partial index `signal_admission_v1_active_scope`. -/
def activeScopesUnique (rows : List RegistrationRow) : Bool :=
  decide ((rows.filter (·.enabled)).map (·.scopeKey)).Nodup

def StreamRow.check (row : StreamRow) : Bool :=
  isOrdinal row.generation && isOrdinal row.registryRevision && isOrdinal row.revision &&
    isOrdinal row.nextSequence && row.lastAcceptedAt.all isStoredEpoch

/-- The partial index `signal_admission_v1_active_stream`. -/
def activeStreamsUnique (rows : List StreamRow) : Bool :=
  decide ((rows.filter (·.state = .active)).map (·.registrationId)).Nodup

/-- The trigger `signal_admission_v1_streams_sticky` lets the update pass. -/
def StreamRow.sticky (old new : StreamRow) : Bool :=
  !((old.state = .retired && new.state ≠ .retired) ||
    (old.state = .quarantined && new.state = .active))

def ReceiptRow.check (row : ReceiptRow) : Bool :=
  isOrdinal row.generation && isOrdinal row.sequence && sha256Text row.bodySha256 &&
    isStoredEpoch row.admittedAt

def EvidenceRow.check (row : EvidenceRow) : Bool :=
  sha256Text row.evidenceHash && jsonValid row.body

def AttemptRow.check (row : AttemptRow) : Bool :=
  sha256Text row.formationHash && row.triggerEpoch.all isStoredEpoch &&
    row.selectionKey.all jsonValid &&
    ((row.evidenceId.isNone && row.evidenceHash.isNone && row.triggerEpoch.isNone &&
        row.selectionKey.isNone) ||
      (row.evidenceId.isSome && row.evidenceHash.isSome && row.evidenceHash.all sha256Text &&
        row.triggerEpoch.isSome && row.selectionKey.isSome))

/-- The trigger `signal_admission_v1_attempts_immutable` lets the update pass. -/
def AttemptRow.immutable (old new : AttemptRow) : Bool :=
  !(new.namespace_ ≠ old.namespace_ || new.attemptKey ≠ old.attemptKey ||
    new.formationHash ≠ old.formationHash || (old.disputed && !new.disputed) ||
    (old.evidenceId.isSome && (new.evidenceId ≠ old.evidenceId ||
      new.evidenceHash ≠ old.evidenceHash || new.triggerEpoch ≠ old.triggerEpoch ||
      new.selectionKey ≠ old.selectionKey)) ||
    (old.disputed && old.evidenceId.isNone && new.evidenceId.isSome))

def OutboxRow.check (row : OutboxRow) : Bool :=
  isOrdinal row.generation && sha256Text row.deliveryBodySha256 && jsonValid row.body &&
    isStoredEpoch row.admittedAtEpoch &&
    decide (row.admittedAtEpoch < row.expiresAtEpoch ∧ row.expiresAtEpoch ≤ maxSafeInteger) &&
    row.leaseUntilEpoch.all isStoredEpoch && isStoredEpoch row.deliveryAttempts &&
    isStoredEpoch row.nextAttemptAtEpoch && row.lastDispatchAtEpoch.all isStoredEpoch

/-- The triggers `signal_admission_v1_outbox_immutable` and
`signal_admission_v1_outbox_quarantine_sticky` let the update pass. -/
def OutboxRow.immutable (old new : OutboxRow) : Bool :=
  !(new.deliveryId ≠ old.deliveryId || new.namespace_ ≠ old.namespace_ ||
    new.attemptKey ≠ old.attemptKey || new.registrationId ≠ old.registrationId ||
    new.generation ≠ old.generation || new.receiptId ≠ old.receiptId ||
    new.evidenceId ≠ old.evidenceId || new.deliveryBodySha256 ≠ old.deliveryBodySha256 ||
    new.body ≠ old.body || new.admittedAtEpoch ≠ old.admittedAtEpoch ||
    new.expiresAtEpoch ≠ old.expiresAtEpoch) &&
  !(old.status = .quarantined && new.status ≠ .quarantined)

def AuditRow.check (row : AuditRow) : Bool :=
  isOrdinal row.generation && row.sequence.all isOrdinal

/-- The trigger `signal_admission_v1_receipt_evidence_consistent` lets the insert pass. -/
def ReceiptEvidenceRow.consistent (db : Db) (row : ReceiptEvidenceRow) : Bool :=
  db.evidence.any fun e => db.receipts.any fun c => db.registrations.any fun r =>
    c.receiptId = row.receiptId && r.registrationId = c.registrationId &&
    e.evidenceId = row.evidenceId && e.namespace_ = row.namespace_ &&
    e.attemptKey = row.attemptKey && r.namespace_ = row.namespace_ && c.outcome ≠ .rejected

end Constraints

/-! ## Reads -/

/-- The stream of a registration and generation. -/
def Db.stream (db : Db) (registrationId : String) (generation : Int) : Option StreamRow :=
  db.streams.find? fun s => s.registrationId = registrationId && s.generation = generation

def Db.registration (db : Db) (registrationId : String) : Option RegistrationRow :=
  db.registrations.find? fun r => r.registrationId = registrationId

def Db.receipt (db : Db) (registrationId : String) (generation sequence : Int) :
    Option ReceiptRow :=
  db.receipts.find? fun c => c.registrationId = registrationId && c.generation = generation &&
    c.sequence = sequence

def Db.attempt (db : Db) (namespace_ attemptKey : String) : Option AttemptRow :=
  db.attempts.find? fun a => a.namespace_ = namespace_ && a.attemptKey = attemptKey

def Db.evidenceFact (db : Db) (namespace_ evidenceId : String) : Option EvidenceRow :=
  db.evidence.find? fun e => e.namespace_ = namespace_ && e.evidenceId = evidenceId

/-- A row of `receipt_evidence` links the receipt to the attempt. -/
def Db.linked (db : Db) (namespace_ receiptId attemptKey : String) : Bool :=
  db.receiptEvidence.any fun l => l.namespace_ = namespace_ && l.receiptId = receiptId &&
    l.attemptKey = attemptKey

end TradeOps.Admission
