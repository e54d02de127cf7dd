import TradeOps.Lib.JobRules
import TradeOps.Lib.JsValue
import TradeOps.Lib.SafeIntegers
import TradeOps.Proposals.Deliveries

/-!
# Ingestion of execution proposals

Embeds `execution-proposal-ingestion.ts` over the proposal schema
(`execution-proposal-v1-legacy.sql`): what a call checks before it reads, the reads by which it
tells a replay, a gap and a conflict, the batch that records a proposal, and the reads after a
batch that failed. Every `SELECT` is a read of its own and a batch is one atomic step, so other
calls run in between. A statement fails on a key, a `CHECK` or the trigger before the events; no
table is updated or deleted from.

The parser, the validation of a proposal under the reviewed identities with the derivation of its
candidate, and SHA-256 are parameters: nothing is assumed of them. The columns whose type has one
value and the JSON form of the stored texts are left out.
-/

namespace TradeOps.Proposals

open JsString JsValue

/-! ## Texts -/

abbrev Text := List Char

/-- `JSON.stringify` of an object with these fields, in this order. -/
def objectText (fields : List (String × JsValue)) : Text :=
  '\x7b' :: (commaSeparated (fields.map fun field =>
    quoted (js field.1) ++ ':' :: text field.2) ++ ['\x7d'])

/-- `parts.join("\u0000")`. -/
def joined (parts : List String) : Text := List.intercalate ['\x00'] (parts.map String.toList)

structure Response where
  status : Nat
  body : Text
  deriving DecidableEq, Repr

/-- The text of an object whose one field is an object. -/
def errorText (fields : List (String × JsValue)) : Text :=
  '\x7b' :: (quoted (js "error") ++ ':' :: objectText fields ++ ['\x7d'])

def errorResponse (status : Nat) (code message : String) : Response :=
  ⟨status, errorText [("code", .str (js code)), ("message", .str (js message))]⟩

/-! ## Proposals -/

inductive Direction where
  | long
  | short
  deriving DecidableEq, Repr

/-- The fields of a validated proposal that the ingestion reads, and its text. -/
structure Proposal where
  producerInstanceId : String
  producerSequence : Int
  direction : Direction
  entryTicks : Int
  stopTicks : Int
  riskDistanceTicks : Int
  targetTicks : Int
  observedAtEpoch : Nat
  json : Text
  deriving DecidableEq, Repr

structure Candidate where
  logicalCandidateId : String
  candidateBodySha256 : String
  json : Text
  deriving DecidableEq, Repr

/-- The environment of a call: whether a database is bound, the reviewed identities when they are
configured and well formed, and the switches of emission and dispatch. -/
structure IngestEnv (ι : Type) where
  storage : Bool
  reviewedIdentities : Option ι
  candidateEmissionEnabled : Option String
  dispatch : DispatchEnv
  deriving DecidableEq, Repr

/-- A call, with the identifier that an incident of it would draw. -/
structure Call (ι β : Type) where
  env : IngestEnv ι
  proposalBytes : β
  receivedAtEpoch : Int
  randomUUID : String
  deriving DecidableEq, Repr

/-! ## Tables -/

structure EventRow where
  eventId : String
  producerInstanceId : String
  producerSequence : Int
  proposalSha256 : String
  proposalJson : Text
  logicalCandidateId : String
  candidateBodySha256 : String
  direction : Direction
  entryTicks : Int
  stopTicks : Int
  riskDistanceTicks : Int
  targetTicks : Int
  receivedAtEpoch : Nat
  deriving DecidableEq, Repr

structure ResultRow where
  eventId : String
  statusCode : Nat
  responseJson : Text
  recordedAtEpoch : Nat
  deriving DecidableEq, Repr

structure CheckpointRow where
  checkpointId : String
  producerInstanceId : String
  producerSequence : Int
  proposalSha256 : String
  recordedAtEpoch : Nat
  deriving DecidableEq, Repr

inductive IncidentKind where
  | sequenceGap
  | outOfOrder
  | bodyConflict
  | candidateConflict
  deriving DecidableEq, Repr

def IncidentKind.text : IncidentKind → String
  | .sequenceGap => "SEQUENCE_GAP"
  | .outOfOrder => "OUT_OF_ORDER"
  | .bodyConflict => "BODY_CONFLICT"
  | .candidateConflict => "CANDIDATE_CONFLICT"

structure IncidentRow where
  incidentId : String
  producerInstanceId : String
  producerSequence : Int
  incidentKind : IncidentKind
  expectedSequence : Int
  proposalSha256 : String
  existingSha256 : Option String
  incidentJson : Text
  recordedAtEpoch : Nat
  deriving DecidableEq, Repr

structure PayloadRow where
  logicalCandidateId : String
  candidateBodySha256 : String
  eventId : String
  payloadJson : Text
  createdAtEpoch : Nat
  expiresAtEpoch : Nat
  deriving DecidableEq, Repr

structure Database where
  events : List EventRow
  results : List ResultRow
  checkpoints : List CheckpointRow
  incidents : List IncidentRow
  payloads : List PayloadRow
  deliveries : List DeliveryRow
  deriving DecidableEq, Repr

def Database.empty : Database := ⟨[], [], [], [], [], []⟩

/-! ## Statements -/

inductive Statement where
  | insertEvent (row : EventRow)
  | insertResult (row : ResultRow)
  | insertCheckpoint (row : CheckpointRow)
  | insertIncident (row : IncidentRow)
  | insertPayload (row : PayloadRow)
  | insertDelivery (row : DeliveryRow)
  deriving DecidableEq, Repr

inductive Failure where
  | constraint
  | candidateBodyConflict
  deriving DecidableEq, Repr

/-- The stop lies against the direction, and the target at four times the risk. -/
def EventRow.isGeometric (row : EventRow) : Bool :=
  match row.direction with
  | .long => row.stopTicks < row.entryTicks ∧
      row.riskDistanceTicks = row.entryTicks - row.stopTicks ∧
      row.targetTicks = row.entryTicks + 4 * row.riskDistanceTicks
  | .short => row.entryTicks < row.stopTicks ∧
      row.riskDistanceTicks = row.stopTicks - row.entryTicks ∧
      row.targetTicks = row.entryTicks - 4 * row.riskDistanceTicks

/-- The `CHECK` clauses of the events. -/
def EventRow.checks (row : EventRow) : Bool :=
  row.eventId.length = 64 ∧ 1 ≤ row.producerSequence ∧ row.proposalSha256.length = 64 ∧
    row.logicalCandidateId.length = 64 ∧ row.candidateBodySha256.length = 64 ∧
    0 < row.riskDistanceTicks ∧ row.isGeometric

def CheckpointRow.checks (row : CheckpointRow) : Bool :=
  row.checkpointId.length = 64 ∧ 1 ≤ row.producerSequence ∧ row.proposalSha256.length = 64

def IncidentRow.checks (row : IncidentRow) : Bool :=
  row.incidentId.length = 64 ∧ 1 ≤ row.producerSequence ∧ 1 ≤ row.expectedSequence ∧
    row.proposalSha256.length = 64 ∧ row.existingSha256.all (·.length = 64)

def PayloadRow.checks (row : PayloadRow) : Bool :=
  row.logicalCandidateId.length = 64 ∧ row.candidateBodySha256.length = 64

namespace Database

variable (db : Database)

/-- The body that the trigger before the events finds in conflict. -/
def candidateBodyConflict (row : EventRow) : Bool :=
  db.events.any fun existing => existing.logicalCandidateId = row.logicalCandidateId ∧
    existing.candidateBodySha256 ≠ row.candidateBodySha256

/-- A row goes in when its constraints hold. -/
def insertWhen (holds : Bool) (next : Database) : Except Failure Database :=
  if holds then .ok next else .error .constraint

def exec : Statement → Database → Except Failure Database
  | .insertEvent row, db =>
    if db.candidateBodyConflict row then .error .candidateBodyConflict
    else insertWhen (row.checks && !db.events.any fun other => other.eventId = row.eventId ∨
        other.producerInstanceId = row.producerInstanceId ∧
          other.producerSequence = row.producerSequence)
      { db with events := db.events ++ [row] }
  | .insertResult row, db =>
    insertWhen (row.statusCode = 202 && db.events.any (·.eventId = row.eventId) &&
        !db.results.any (·.eventId = row.eventId))
      { db with results := db.results ++ [row] }
  | .insertCheckpoint row, db =>
    insertWhen (row.checks && !db.checkpoints.any fun other =>
        other.checkpointId = row.checkpointId ∨
          other.producerInstanceId = row.producerInstanceId ∧
            other.producerSequence = row.producerSequence)
      { db with checkpoints := db.checkpoints ++ [row] }
  | .insertIncident row, db =>
    insertWhen (row.checks && !db.incidents.any (·.incidentId = row.incidentId))
      { db with incidents := db.incidents ++ [row] }
  | .insertPayload row, db =>
    insertWhen (row.checks && db.events.any (·.eventId = row.eventId) &&
        !db.payloads.any fun other =>
          other.logicalCandidateId = row.logicalCandidateId ∨ other.eventId = row.eventId)
      { db with payloads := db.payloads ++ [row] }
  | .insertDelivery row, db =>
    insertWhen (row.checks && db.payloads.any (·.logicalCandidateId = row.logicalCandidateId) &&
        !db.deliveries.any (·.logicalCandidateId = row.logicalCandidateId))
      { db with deliveries := db.deliveries ++ [row] }

/-! ## Reads -/

def eventAt (producerInstanceId : String) (producerSequence : Int) : Option EventRow :=
  db.events.find? fun row => row.producerInstanceId = producerInstanceId ∧
    row.producerSequence = producerSequence

def checkpointsOf (producerInstanceId : String) : List CheckpointRow :=
  db.checkpoints.filter (·.producerInstanceId = producerInstanceId)

def expectedProducerSequence (producerInstanceId : String) : Int :=
  ((db.checkpointsOf producerInstanceId).map (·.producerSequence)).foldr max 0 + 1

/-- The first row by its receipt and its identifier. -/
def firstReceived : List EventRow → Option EventRow
  | [] => none
  | row :: rest =>
    match firstReceived rest with
    | none => some row
    | some best =>
      if best.receivedAtEpoch < row.receivedAtEpoch ∨
          best.receivedAtEpoch = row.receivedAtEpoch ∧ best.eventId < row.eventId then some best
      else some row

def conflictingCandidateEvent (logicalCandidateId candidateBodySha256 : String) : Option EventRow :=
  firstReceived (db.events.filter fun row => row.logicalCandidateId = logicalCandidateId ∧
    row.candidateBodySha256 ≠ candidateBodySha256)

def storedCandidate (logicalCandidateId : String) : Option PayloadRow :=
  db.payloads.find? (·.logicalCandidateId = logicalCandidateId)

def replayResponse (eventId : String) : Option Response :=
  match db.results.find? (·.eventId = eventId) with
  | some stored =>
    if stored.statusCode = 202 then some ⟨stored.statusCode, stored.responseJson⟩ else none
  | none => none

end Database

abbrev store : Store := ⟨Database, Statement, Failure, Database.exec⟩

/-! ## Calls -/

section Ingest

variable {ι β ν : Type} (parseStrictJson : β → Option ν)
  (validatedProposalAndCandidate : ν → ι → Option (Proposal × Candidate))
  (sha256 : Text → String)

def candidateTtlSeconds : Nat := 300

/-- What a call checks before its first read. -/
def review (call : Call ι β) : Except Response (Proposal × Candidate) :=
  let invalid := errorResponse 422 "EXECUTION_PROPOSAL_V1_INVALID"
  match parseStrictJson call.proposalBytes with
  | none => .error (invalid "Execution proposal failed strict validation")
  | some value =>
    if SafeIntegers.maxSafeInteger < call.receivedAtEpoch ∨ call.receivedAtEpoch < 0 then
      .error (errorResponse 422 "EXECUTION_PROPOSAL_RECEIVED_AT_INVALID"
        "Proposal receipt time failed validation")
    else if !call.env.storage then
      .error (errorResponse 503 "EXECUTION_PROPOSAL_STORAGE_UNAVAILABLE"
        "Proposal storage is unavailable")
    else match call.env.reviewedIdentities with
      | none =>
        .error (errorResponse 503 "EXECUTION_PROPOSAL_IDENTITIES_UNAVAILABLE"
          "Reviewed proposal identities are unavailable")
      | some identities =>
        match validatedProposalAndCandidate value identities with
        | none => .error (invalid "Execution proposal failed strict validation")
        | some (proposal, candidate) =>
          if SafeIntegers.maxSafeInteger <
              (proposal.observedAtEpoch + candidateTtlSeconds : Nat) then
            .error (invalid "Execution proposal market expiry is outside the safe integer range")
          else .ok (proposal, candidate)

/-- `proposal_sha256`. -/
def Proposal.digest (proposal : Proposal) : String := sha256 proposal.json

def Proposal.eventId (proposal : Proposal) : String :=
  sha256 (joined ["proposal-event-v1", proposal.producerInstanceId,
    toString proposal.producerSequence, proposal.digest sha256])

def Proposal.checkpointId (proposal : Proposal) : String :=
  sha256 (joined ["producer-checkpoint-v1", proposal.producerInstanceId,
    toString proposal.producerSequence, proposal.digest sha256])

def incidentRow (call : Call ι β) (proposal : Proposal) (kind : IncidentKind)
    (expectedSequence : Int) (existingSha256 : Option String) : IncidentRow :=
  let proposalSha256 := proposal.digest sha256
  let incidentId := sha256 (joined ["incident-v1", proposal.producerInstanceId,
    toString proposal.producerSequence, kind.text, proposalSha256, toString call.receivedAtEpoch,
    call.randomUUID])
  { incidentId
    producerInstanceId := proposal.producerInstanceId
    producerSequence := proposal.producerSequence
    incidentKind := kind
    expectedSequence
    proposalSha256
    existingSha256
    incidentJson := objectText
      [("schema_version", .str (js "rd-entry-execution-producer-incident-v1")),
        ("execution_mode", .str (js "PAPER_ONLY")),
        ("incident_id", .str (js incidentId)),
        ("incident_kind", .str (js kind.text)),
        ("producer_instance_id", .str (js proposal.producerInstanceId)),
        ("producer_sequence", .num proposal.producerSequence),
        ("expected_sequence", .num expectedSequence),
        ("proposal_sha256", .str (js proposalSha256)),
        ("existing_sha256", match existingSha256 with
          | some digest => .str (js digest)
          | none => .null),
        ("recorded_at_epoch", .num call.receivedAtEpoch)]
    recordedAtEpoch := call.receivedAtEpoch.toNat }

/-- Record an incident and answer that the proposal is quarantined. -/
def quarantine (call : Call ι β) (proposal : Proposal) (kind : IncidentKind)
    (expectedSequence : Int) (existingSha256 : Option String) (code message : String) :
    Job store Failure Response :=
  let row := incidentRow sha256 call proposal kind expectedSequence existingSha256
  .send [.insertIncident row]
    (.done ⟨409, errorText [("code", .str (js code)), ("message", .str (js message)),
      ("quarantine_id", .str (js row.incidentId))]⟩)
    .throw

def candidateEmissionEnabled (env : IngestEnv ι) : Bool :=
  env.candidateEmissionEnabled = some "true"

def ingestionResponse (call : Call ι β) (proposal : Proposal) (candidate : Candidate) : Text :=
  objectText
    [("schema_version", .str (js "rd-entry-execution-proposal-ingestion-v1")),
      ("status", .str (js "RECORDED")),
      ("execution_mode", .str (js "PAPER_ONLY")),
      ("event_id", .str (js (proposal.eventId sha256))),
      ("producer_instance_id", .str (js proposal.producerInstanceId)),
      ("producer_sequence", .num proposal.producerSequence),
      ("proposal_sha256", .str (js (proposal.digest sha256))),
      ("logical_candidate_id", .str (js candidate.logicalCandidateId)),
      ("candidate_body_sha256", .str (js candidate.candidateBodySha256)),
      ("paper_result", .str (js "VALIDATED_ONLY")),
      ("candidate_emission",
        .str (js (if candidateEmissionEnabled call.env then "STORED" else "DISABLED"))),
      ("candidate_dispatch",
        .str (js (if dispatchEnabled call.env.dispatch then "ENABLED" else "DISABLED")))]

def eventRow (call : Call ι β) (proposal : Proposal) (candidate : Candidate) : EventRow where
  eventId := proposal.eventId sha256
  producerInstanceId := proposal.producerInstanceId
  producerSequence := proposal.producerSequence
  proposalSha256 := proposal.digest sha256
  proposalJson := proposal.json
  logicalCandidateId := candidate.logicalCandidateId
  candidateBodySha256 := candidate.candidateBodySha256
  direction := proposal.direction
  entryTicks := proposal.entryTicks
  stopTicks := proposal.stopTicks
  riskDistanceTicks := proposal.riskDistanceTicks
  targetTicks := proposal.targetTicks
  receivedAtEpoch := call.receivedAtEpoch.toNat

/-- The batch that records a proposal, with the candidate when it is emitted for the first time. -/
def recordStatements (call : Call ι β) (proposal : Proposal) (candidate : Candidate)
    (candidateAlreadyStored : Bool) : List Statement :=
  let receivedAtEpoch := call.receivedAtEpoch.toNat
  let expiresAtEpoch := proposal.observedAtEpoch + candidateTtlSeconds
  ([.insertEvent (eventRow sha256 call proposal candidate),
    .insertResult ⟨proposal.eventId sha256, 202, ingestionResponse sha256 call proposal candidate,
      receivedAtEpoch⟩,
    .insertCheckpoint ⟨proposal.checkpointId sha256, proposal.producerInstanceId,
      proposal.producerSequence, proposal.digest sha256, receivedAtEpoch⟩] : List Statement) ++
  (if candidateEmissionEnabled call.env && !candidateAlreadyStored then
    [.insertPayload ⟨candidate.logicalCandidateId, candidate.candidateBodySha256,
        proposal.eventId sha256, candidate.json, receivedAtEpoch, expiresAtEpoch⟩,
      .insertDelivery (.ofProposal candidate.logicalCandidateId receivedAtEpoch expiresAtEpoch)]
  else [] : List Statement)

def storageFailed (message : String) : Response :=
  errorResponse 503 "EXECUTION_PROPOSAL_STORAGE_UNAVAILABLE" message

/-- The last reads after a batch that failed: another body of the candidate may have come first. -/
def classifyCandidate (call : Call ι β) (proposal : Proposal) (candidate : Candidate) :
    Job store Failure Response := do
  let conflict ← Job.query fun db : Database =>
    db.conflictingCandidateEvent candidate.logicalCandidateId candidate.candidateBodySha256
  match conflict with
  | some existing => do
    let expectedSequence ← Job.query fun db : Database =>
      db.expectedProducerSequence proposal.producerInstanceId
    quarantine sha256 call proposal .candidateConflict expectedSequence
      (some existing.candidateBodySha256) "EXECUTION_CANDIDATE_BODY_CONFLICT"
      "Logical candidate was concurrently used for different content"
  | none => return storageFailed "Proposal storage transaction failed"

/-- The reads after a batch that failed, which classify the conflict. -/
def classifyFailure (call : Call ι β) (proposal : Proposal) (candidate : Candidate) :
    Job store Failure Response := do
  let concurrent ← Job.query fun db : Database =>
    db.eventAt proposal.producerInstanceId proposal.producerSequence
  match concurrent with
  | some existing =>
    if existing.proposalSha256 = proposal.digest sha256 then do
      let replay ← Job.query fun db : Database => db.replayResponse existing.eventId
      match replay with
      | some response => return response
      | none => classifyCandidate sha256 call proposal candidate
    else do
      let expectedSequence ← Job.query fun db : Database =>
        db.expectedProducerSequence proposal.producerInstanceId
      quarantine sha256 call proposal .bodyConflict expectedSequence (some existing.proposalSha256)
        "EXECUTION_PROPOSAL_BODY_CONFLICT"
        "Producer sequence was concurrently used for different proposal content"
  | none => classifyCandidate sha256 call proposal candidate

/-- Send the batch that records a proposal. -/
def record (call : Call ι β) (proposal : Proposal) (candidate : Candidate)
    (candidateAlreadyStored : Bool) : Job store Failure Response :=
  .send (recordStatements sha256 call proposal candidate candidateAlreadyStored)
    (.done ⟨202, ingestionResponse sha256 call proposal candidate⟩)
    fun _ => classifyFailure sha256 call proposal candidate

/-- A proposal of a producer's sequence that is not stored. -/
def ingestNew (call : Call ι β) (proposal : Proposal) (candidate : Candidate) :
    Job store Failure Response := do
  let candidateConflict ← Job.query fun db : Database =>
    db.conflictingCandidateEvent candidate.logicalCandidateId candidate.candidateBodySha256
  let expectedSequence ← Job.query fun db : Database =>
    db.expectedProducerSequence proposal.producerInstanceId
  if expectedSequence < proposal.producerSequence then
    quarantine sha256 call proposal .sequenceGap expectedSequence none
      "EXECUTION_PROPOSAL_SEQUENCE_GAP" "Producer sequence is not the next contiguous value"
  else if proposal.producerSequence < expectedSequence then
    quarantine sha256 call proposal .outOfOrder expectedSequence none
      "EXECUTION_PROPOSAL_OUT_OF_ORDER" "Producer sequence is not the next contiguous value"
  else match candidateConflict with
    | some existing =>
      quarantine sha256 call proposal .candidateConflict expectedSequence
        (some existing.candidateBodySha256) "EXECUTION_CANDIDATE_BODY_CONFLICT"
        "Logical candidate was already used for different content"
    | none =>
      if candidateEmissionEnabled call.env then do
        let stored ← Job.query fun db : Database =>
          db.storedCandidate candidate.logicalCandidateId
        match stored with
        | some payload =>
          if payload.candidateBodySha256 = candidate.candidateBodySha256 then
            record sha256 call proposal candidate true
          else
            quarantine sha256 call proposal .candidateConflict expectedSequence
              (some payload.candidateBodySha256) "EXECUTION_CANDIDATE_BODY_CONFLICT"
              "Logical candidate was already used for different content"
        | none => record sha256 call proposal candidate false
      else record sha256 call proposal candidate false

def ingestExecutionProposalV1 (call : Call ι β) : Job store Failure Response :=
  match review parseStrictJson validatedProposalAndCandidate call with
  | .error response => .done response
  | .ok (proposal, candidate) => do
    let existing ← Job.query fun db : Database =>
      db.eventAt proposal.producerInstanceId proposal.producerSequence
    match existing with
    | some existing =>
      if existing.proposalSha256 = proposal.digest sha256 then do
        let replay ← Job.query fun db : Database => db.replayResponse existing.eventId
        return replay.getD (storageFailed "Stored proposal result is unavailable")
      else do
        let expectedSequence ← Job.query fun db : Database =>
          db.expectedProducerSequence proposal.producerInstanceId
        quarantine sha256 call proposal .bodyConflict expectedSequence
          (some existing.proposalSha256) "EXECUTION_PROPOSAL_BODY_CONFLICT"
          "Producer sequence was already used for different proposal content"
    | none => ingestNew sha256 call proposal candidate

/-- Calls over the empty tables, in any interleaving. -/
def ingestion : System (Jobs.World store Failure Response (Call ι β)) (Jobs.Label (Call ι β)) :=
  Jobs.system (· = Database.empty)
    (ingestExecutionProposalV1 parseStrictJson validatedProposalAndCandidate sha256)
    (fun _ => True) fun _ _ _ => True

end Ingest

end TradeOps.Proposals
