import TradeOps.Admission.Decision
import TradeOps.Admission.Evolution
import TradeOps.Lib.Runs

/-!
# The signal admission store

Embeds `signal-admission-store-v1.ts`: `admitSignal` with its snapshot, its guarded batch and its
retries, `installGeneration`, `claimSignalDelivery` and `settleSignalDelivery`.

A call of `admitSignal` reads the store in several queries and commits one batch, and other calls
run between any two of them. So a call is a record with the phase it is in, every query and every
batch is one step, and the world is the tables with all the calls made so far. Clock readings and
random tokens are chosen freely at each step; a query or a batch may also fail without effect.
-/

namespace TradeOps.Admission

open Tables SortBy
open scoped JsString

def AdmissionCode.name : AdmissionCode → String
  | .sequenceGap => "SEQUENCE_GAP"
  | .unknownOldSequence => "UNKNOWN_OLD_SEQUENCE"
  | .bodyConflict => "BODY_CONFLICT"
  | .invalidEvidence => "INVALID_EVIDENCE"
  | .stale => "STALE"
  | .future => "FUTURE"
  | .clockRegression => "CLOCK_REGRESSION"
  | .attemptConflict => "ATTEMPT_CONFLICT"
  | .streamBlocked => "STREAM_BLOCKED"

structure AdmissionResult where
  receiptId : Option String
  outcome : ReceiptOutcome
  code : Option AdmissionCode
  duplicate : Bool
  streamState : StreamState
  deriving DecidableEq, Repr

structure FactKeys where
  attemptKey : String
  evidenceId : String
  deriving DecidableEq, Repr

structure Snapshot extends AdmissionSnapshot where
  casRevision : Int
  namespace_ : String
  registration : Registration
  factKeys : List FactKeys
  deriving DecidableEq, Repr

section Identities

variable (codec : Codec)

/-- The text of a registration; the binding's bytes may fail to parse. -/
def registrationJson (r : Registration) : Option String :=
  (codec.parseBinding r.bindingBytes).map fun binding =>
    Json.canonical (.obj [
      ("schema_version", .str "TradeOpsSignalAdmissionRegistrationV1"),
      ("registration_id", .str r.registrationId), ("generation", .num r.generation),
      ("revision", .num r.revision), ("scope_key", .str r.scopeKey),
      ("producer_instance_id", .str r.producerInstanceId),
      ("credential_sha256", .str r.credentialSha256), ("reviewed_binding", binding),
      ("active_from", .num r.activeFrom), ("active_until", .num r.activeUntil),
      ("enabled", .bool r.enabled),
      ("freshness", .obj [
        ("max_event_age_seconds", .num r.freshness.maxEventAgeSeconds),
        ("max_observation_age_seconds", .num r.freshness.maxObservationAgeSeconds),
        ("future_skew_seconds", .num r.freshness.futureSkewSeconds),
        ("max_queue_age_seconds", .num r.freshness.maxQueueAgeSeconds)])])

def receiptIdentity (t : Transport) : String :=
  codec.hash (.obj [
    ("schema_version", .str "TradeOpsSignalReceiptIdentityV1"),
    ("registration_id", .str t.registrationId), ("generation", .num t.generation),
    ("sequence", .num t.sequence)])

def deliveryIdentity (entry : SignalEvidenceEntryV1) : String :=
  codec.hash (.obj [
    ("schema_version", .str "TradeOpsSignalDeliveryIdentityV1"),
    ("attempt_key", .str entry.attemptKey), ("evidence_id", .str entry.evidenceId)])

/-- The fields of a delivery document, without its own digest. -/
def deliveryFields (t : Transport) (entry : SignalEvidenceEntryV1) (now expiresAt : Int) :
    List (String × Json) :=
  [("schema_version", .str "TradeOpsSignalDeliveryV1"), ("authority", .str "EVIDENCE_ONLY"),
    ("execution_allowed", .bool false), ("delivery_id", .str (deliveryIdentity codec entry)),
    ("receipt_id", .str (receiptIdentity codec t)), ("registration_id", .str t.registrationId),
    ("generation", .num t.generation), ("attempt_key", .str entry.attemptKey),
    ("evidence_id", .str entry.evidenceId),
    ("evidence_body_sha256", .str entry.evidenceBodySha256), ("admitted_at_epoch", .num now),
    ("expires_at_epoch", .num expiresAt), ("evidence", entry.document)]

/-- The delivery that a new entry puts into the outbox. -/
def newDelivery (t : Transport) (namespace_ : String) (entry : SignalEvidenceEntryV1)
    (now expiresAt : Int) : Delivery where
  deliveryId := deliveryIdentity codec entry
  namespace_ := namespace_
  attemptKey := entry.attemptKey
  registrationId := t.registrationId
  generation := t.generation
  receiptId := receiptIdentity codec t
  evidenceId := entry.evidenceId
  deliveryBodySha256 := codec.hash (.obj (deliveryFields codec t entry now expiresAt))
  body := Json.canonical (.obj (deliveryFields codec t entry now expiresAt ++
    [("delivery_body_sha256",
      .str (codec.hash (.obj (deliveryFields codec t entry now expiresAt))))]))
  admittedAtEpoch := now
  expiresAtEpoch := expiresAt

def Delivery.pending (delivery : Delivery) : OutboxRow where
  toDelivery := delivery
  status := .pending
  claimToken := none
  leaseUntilEpoch := none
  deliveryAttempts := 0
  nextAttemptAtEpoch := delivery.admittedAtEpoch
  lastDispatchAtEpoch := none
  failureReason := none

end Identities

/-! ## The batch of an admission -/

/-- A statement that waits for the random token of its guard. -/
abbrev Draft := String → Statement

def guardThat (condition : Guard) : Draft := fun token => .guard token condition

def always (statement : Statement) : Draft := fun _ => statement

/-- Give every draft a token of its own. -/
def number (token : Nat → String) : Nat → List Draft → List Statement
  | _, [] => []
  | n, draft :: rest => draft (token n) :: number token (n + 1) rest

def Statement.token? : Statement → Option String
  | .guard token _ => some token
  | _ => none

/-- The drafts with their tokens, and the removal of the guards at the end. -/
def finish (token : Nat → String) (drafts : List Draft) : List Statement :=
  number token 0 drafts ++ ((number token 0 drafts).filterMap (·.token?)).map .deleteGuard

section Batch

variable (codec : Codec) (t : Transport) (r : Registration) (s : Snapshot) (now : Int)
  (json auditId : String)

def streamGuard : Guard :=
  .stream t.registrationId t.generation s.casRevision r.revision s.nextSequence s.state r.revision
    s.namespace_ json

def receiptGuard : Guard :=
  match s.existingReceipt with
  | some prior => .receipt t.registrationId t.generation t.sequence prior.bodySha256
  | none => .noReceipt t.registrationId t.generation t.sequence

def attemptGuard (attemptKey : String) : Guard :=
  match s.attempts.lookup attemptKey with
  | some a => .attempt ⟨s.namespace_, attemptKey, a.formationHash, a.evidenceId, a.evidenceHash,
      a.triggerEpoch, a.selectionKey, a.disputed⟩
  | none => .noAttempt s.namespace_ attemptKey

def evidenceGuard (evidenceId : String) : Guard :=
  match s.evidenceFacts.lookup evidenceId with
  | some e => .evidence s.namespace_ evidenceId e.attemptKey e.evidenceHash
  | none => .noEvidence evidenceId

/-- The guards of every admission batch, over the stream, the receipt and each fact that was
read. -/
def guardDrafts : List Draft :=
  ([streamGuard t r s json, receiptGuard t s] ++
    s.factKeys.flatMap fun k => [attemptGuard s k.attemptKey, evidenceGuard s k.evidenceId]).map
      guardThat

def insertReceipt (outcome : ReceiptOutcome) (code : Option AdmissionCode) : Draft :=
  always (.insertReceipt ⟨t.registrationId, t.generation, t.sequence, receiptIdentity codec t,
    t.bodySha256, outcome, code, now⟩)

def quarantineDrafts (code : AdmissionCode) (disputedAttemptKeys : List String) : List Draft :=
  (if s.existingReceipt.isNone then [insertReceipt codec t now .rejected (some code)] else []) ++
  [always (.insertAudit ⟨auditId, t.registrationId, t.generation, some t.sequence,
    some t.bodySha256, code.name⟩)] ++
  (disputedAttemptKeys.map fun key => always (.disputeAttempt s.namespace_ key)) ++
  (if code = .bodyConflict then
    [always (.disputeReceiptAttempts s.namespace_ (receiptIdentity codec t))] else []) ++
  [always (.quarantineStreamDeliveries s.namespace_ t.registrationId t.generation)] ++
  (disputedAttemptKeys.map fun key => always (.quarantineAttemptDeliveries s.namespace_ key)) ++
  (if code = .bodyConflict then
    [always (.quarantineReceiptDeliveries s.namespace_ (receiptIdentity codec t))] else []) ++
  [always (.quarantineStream code.name t.registrationId t.generation),
    guardThat .changedOne]

def entryDrafts (d : AdmissionEntryDecision) : List Draft :=
  (if (s.evidenceFacts.lookup d.entry.evidenceId).isNone then
    [always (.insertEvidence ⟨d.entry.evidenceId, s.namespace_, d.entry.attemptKey,
      d.entry.evidenceBodySha256, receiptIdentity codec t, Json.canonical d.entry.document⟩)]
    else []) ++
  (if (s.attempts.lookup d.entry.attemptKey).isNone then
    [always (.insertAttempt s.namespace_ d.entry.attemptKey d.entry.formationBodySha256)]
    else []) ++
  [always (.insertReceiptEvidence ⟨receiptIdentity codec t, d.entry.evidenceId, s.namespace_,
    d.entry.attemptKey⟩), guardThat .changedOne] ++
  match d.action with
  | .new expiresAt =>
    [always (.reserveAttempt d.entry.evidenceId d.entry.evidenceBodySha256 d.entry.triggerAt
        d.selectionKey s.namespace_ d.entry.attemptKey),
      guardThat .changedOne,
      always (.insertDelivery (newDelivery codec t s.namespace_ d.entry now expiresAt).pending)]
  | _ => []

def EntryAction.isNew : EntryAction → Bool
  | .new _ => true
  | _ => false

def commitOutcome (entries : List AdmissionEntryDecision) : ReceiptOutcome :=
  if entries.any (·.action.isNew) then .accepted
  else if entries.any fun d => d.action = .auditOnly then .auditOnly
  else .noCandidate

def commitDrafts (entries : List AdmissionEntryDecision) : List Draft :=
  [insertReceipt codec t now (commitOutcome entries) none] ++
  entries.flatMap (entryDrafts codec t s now) ++
  [always (.advanceStream now t.registrationId t.generation s.casRevision), guardThat .changedOne]

end Batch

/-! ## Calls of `admitSignal` -/

/-- A read of the snapshot's loop. -/
inductive FactRead where
  | attempt (attemptKey : String)
  | evidence (evidenceId : String)
  deriving DecidableEq, Repr

/-- Where a call stands: before the first query of a try, after the stream was read, reading facts,
or at its end. -/
inductive Phase where
  | begin
  | streamRead (s : Snapshot)
  | facts (s : Snapshot) (pending : List FactRead)
  | returned (result : AdmissionResult)
  | unavailable
  deriving DecidableEq, Repr

structure Call where
  transport : Transport
  registration : Registration
  now : Int
  retry : Nat
  phase : Phase
  deriving DecidableEq, Repr

/-- The random values of one batch. -/
structure Randomness where
  token : Nat → String
  auditId : String

section Admit

variable (codec : Codec) (db : Db)

/-- The first query of `snapshot`. -/
def readStream (t : Transport) : Option Snapshot := do
  let stream ← db.stream t.registrationId t.generation
  let row ← db.registration stream.registrationId
  let registration ← codec.readRegistration row.registrationJson
  return {
    state := stream.state, revision := stream.registryRevision, casRevision := stream.revision,
    nextSequence := stream.nextSequence, lastAcceptedAt := stream.lastAcceptedAt,
    namespace_ := row.namespace_, registration := registration, existingReceipt := none,
    attempts := [], evidenceFacts := [], factKeys := [] }

def admissionFactKeys (t : Transport) (bindingBytes : List UInt8) : List FactKeys :=
  ((codec.validateSignalEvidenceV1 t.evidenceBytes bindingBytes).getD []).map fun entry =>
    ⟨entry.attemptKey, entry.evidenceId⟩

/-- The query for an existing receipt; without one, an active stream reads the facts it needs. -/
def readReceipt (t : Transport) (s : Snapshot) : Phase :=
  match db.receipt t.registrationId t.generation t.sequence with
  | some row =>
    .facts { s with existingReceipt := some ⟨row.receiptId, row.bodySha256, row.outcome, row.code⟩ }
      []
  | none =>
    if s.state = .active then
      let keys := admissionFactKeys codec t s.registration.bindingBytes
      .facts { s with factKeys := keys }
        (keys.flatMap fun k => [.attempt k.attemptKey, .evidence k.evidenceId])
    else .facts s []

def readFact (s : Snapshot) : FactRead → Snapshot
  | .attempt attemptKey =>
    match db.attempt s.namespace_ attemptKey with
    | some a => { s with attempts := (attemptKey, ⟨a.formationHash, a.evidenceId, a.evidenceHash,
        a.triggerEpoch, a.selectionKey, a.disputed⟩) :: s.attempts }
    | none => s
  | .evidence evidenceId =>
    match db.evidenceFact s.namespace_ evidenceId with
    | some e => { s with evidenceFacts :=
        (evidenceId, ⟨e.attemptKey, e.evidenceHash⟩) :: s.evidenceFacts }
    | none => s

/-- What follows the snapshot: an answer without a write, a batch with its answer, or a throw. -/
inductive Plan where
  | answer (result : AdmissionResult)
  | write (statements : List Statement) (result : AdmissionResult)
  | throw
  deriving DecidableEq, Repr

def planAdmission (t : Transport) (r : Registration) (s : Snapshot) (now : Int)
    (random : Randomness) : Plan :=
  let blocked : AdmissionResult := ⟨none, .rejected, some .streamBlocked, false, s.state⟩
  match evaluateAdmission codec t r s.toAdmissionSnapshot now with
  | .duplicate receipt streamState =>
    .answer ⟨some receipt.id, receipt.outcome, receipt.code, true, streamState⟩
  | .blocked => .answer blocked
  | .quarantine code disputedAttemptKeys =>
    if r.revision ≠ s.registration.revision ∨ r.generation ≠ s.registration.generation then
      .answer blocked
    else
      match registrationJson codec r, registrationJson codec s.registration with
      | some json, some stored =>
        if json ≠ stored then .answer blocked
        else if s.state = .active ∨
            (s.state = .quarantined ∧ code = .bodyConflict ∧ s.existingReceipt.isSome) then
          .write (finish random.token (guardDrafts t r s json ++
              quarantineDrafts codec t s now random.auditId code disputedAttemptKeys))
            ⟨some ((s.existingReceipt.map (·.id)).getD (receiptIdentity codec t)), .rejected,
              some code, false, .quarantined⟩
        else .answer blocked
      | _, _ => .throw
  | .commit entries =>
    if r.revision ≠ s.registration.revision ∨ r.generation ≠ s.registration.generation then
      .answer blocked
    else
      match registrationJson codec r, registrationJson codec s.registration with
      | some json, some stored =>
        if json ≠ stored then .answer blocked
        else if s.state = .active then
          .write (finish random.token
            (guardDrafts t r s json ++ commitDrafts codec t s now entries))
            ⟨some (receiptIdentity codec t), commitOutcome entries, none, false, .active⟩
        else .answer blocked
      | _, _ => .throw

/-- The batch of a call, and what the call does with its outcome: a lost comparison is tried again,
twice at most; any other failure ends the call. -/
def commitPlan (call : Call) : Plan → Db × Call
  | .answer result => (db, { call with phase := .returned result })
  | .throw => (db, { call with phase := .unavailable })
  | .write statements result =>
    match batch codec.jsonValid statements db with
    | .ok db' => (db', { call with phase := .returned result })
    | .error .cas =>
      if call.retry = 2 then (db, { call with phase := .unavailable })
      else (db, { call with retry := call.retry + 1, phase := .begin })
    | .error _ => (db, { call with phase := .unavailable })

/-- One query or one batch of a call. -/
def Call.advance (random : Randomness) (call : Call) : Db × Call :=
  match call.phase with
  | .begin =>
    match readStream codec db call.transport with
    | some s => (db, { call with phase := .streamRead s })
    | none => (db, { call with phase := .unavailable })
  | .streamRead s => (db, { call with phase := readReceipt codec db call.transport s })
  | .facts s (read :: pending) => (db, { call with phase := .facts (readFact db s read) pending })
  | .facts s [] =>
    commitPlan codec db call
      (planAdmission codec call.transport call.registration s call.now random)
  | .returned _ | .unavailable => (db, call)

end Admit

end TradeOps.Admission
