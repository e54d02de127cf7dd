import TradeOps.Lib.Tables
import TradeOps.Telemetry.Journal

/-!
# The telemetry tables

Embeds the migration `0004_account_telemetry_v2.sql` and the four statements of `statementsV2`: the
rows, what their `CHECK`, `UNIQUE` and `REFERENCES` clauses and their triggers demand of a written
row, and the batch, which either executes every statement or has no effect. `jsonValid` is SQLite's
`json_valid`; nothing is assumed about it. Nothing deletes a row, and receipts and events are never
updated.
-/

namespace TradeOps.Telemetry

open Tables JsValue Checks

/-! ## Rows -/

/-- A row of `telemetry_session_v2`. -/
structure SessionRow where
  accountId : String
  scope : String
  identityJson : String
  registrationJson : String
  lastRequestSequence : Nat
  lastEventSequence : Nat
  requestDigest : String
  acceptedAt : Nat
  latestJson : String
  accountJson : Option String
  exposureJson : Option String
  deriving DecidableEq, Repr

/-- A row of `telemetry_receipt_v2`. -/
structure ReceiptRow where
  scope : String
  requestSequence : Nat
  requestDigest : String
  responseBytes : String
  acceptedAt : Nat
  acknowledgedEvents : Nat
  deriving DecidableEq, Repr

inductive EventKind where
  | deal | protectionObservation
  deriving DecidableEq, Repr

/-- A row of `telemetry_event_v2`. -/
structure EventRow where
  scope : String
  sequence : Nat
  eventId : String
  kind : EventKind
  dealId : Option String
  revision : Option Nat
  previousDigest : Option String
  recordDigest : String
  eventJson : String
  projectionJson : Option String
  deriving DecidableEq, Repr

/-- A row of `telemetry_deal_current_v2`. -/
structure DealRow where
  scope : String
  dealId : String
  sequence : Nat
  revision : Nat
  recordDigest : String
  deriving DecidableEq, Repr

structure Db where
  sessions : List SessionRow
  receipts : List ReceiptRow
  events : List EventRow
  deals : List DealRow
  deriving DecidableEq, Repr

def Db.empty : Db := ⟨[], [], [], []⟩

/-! ## Constraints -/

inductive DbError where
  | constraint
  deriving DecidableEq, Repr

/-- `BETWEEN minimum AND 9007199254740991`. -/
def inRange (minimum n : Nat) : Bool := minimum ≤ n ∧ n ≤ maxSafeInteger

/-- The session of an account. -/
def Db.session (db : Db) (accountId : String) : Option SessionRow :=
  db.sessions.find? fun s => s.accountId = accountId

def Db.receipt (db : Db) (scope : String) (requestSequence : Nat) : Option ReceiptRow :=
  db.receipts.find? fun r => r.scope = scope && r.requestSequence = requestSequence

def Db.deal (db : Db) (scope dealId : String) : Option DealRow :=
  db.deals.find? fun d => d.scope = scope && d.dealId = dealId

section Constraints

variable (jsonValid : String → Bool)

def SessionRow.check (row : SessionRow) : Bool :=
  jsonValid row.identityJson && jsonValid row.registrationJson &&
    inRange 1 row.lastRequestSequence && inRange 0 row.lastEventSequence &&
    inRange 1 row.acceptedAt && jsonValid row.latestJson && row.accountJson.all jsonValid &&
    row.exposureJson.all jsonValid

def ReceiptRow.check (row : ReceiptRow) : Bool :=
  inRange 1 row.requestSequence && inRange 1 row.acceptedAt && inRange 0 row.acknowledgedEvents

def EventRow.check (row : EventRow) : Bool :=
  inRange 1 row.sequence && jsonValid row.eventJson && row.projectionJson.all jsonValid &&
    match row.kind with
    | .deal => row.dealId.isSome && row.revision.any (inRange 1)
    | .protectionObservation =>
      row.dealId.isNone && row.revision.isNone && row.previousDigest.isNone

/-- The trigger `telemetry_receipt_v2_claim`. -/
def ReceiptRow.claimed (db : Db) (row : ReceiptRow) : Bool :=
  db.sessions.any fun s => s.scope = row.scope && s.lastRequestSequence = row.requestSequence &&
    s.requestDigest = row.requestDigest && s.lastEventSequence = row.acknowledgedEvents &&
    s.acceptedAt = row.acceptedAt

/-- The trigger `telemetry_event_v2_revision`: a deal goes on from its current revision. -/
def EventRow.revises (db : Db) (row : EventRow) : Bool :=
  match row.kind, row.dealId with
  | .deal, some dealId =>
    let current := db.deal row.scope dealId
    row.revision = some ((current.map (·.revision)).getD 0 + 1) &&
      row.previousDigest = current.map (·.recordDigest)
  | _, _ => true

/-- The triggers `telemetry_deal_current_v2_insert_guard` and `_update_guard`. -/
def DealRow.pointsAtEvent (db : Db) (row : DealRow) : Bool :=
  db.events.any fun e => e.scope = row.scope && e.sequence = row.sequence && e.kind = .deal &&
    e.dealId = some row.dealId && e.revision = some row.revision &&
    e.recordDigest = row.recordDigest

/-- The unique keys of the event table; two rows without a deal have no key in common. -/
def EventRow.distinct (a b : EventRow) : Bool :=
  a.scope ≠ b.scope || (a.sequence ≠ b.sequence && a.eventId ≠ b.eventId &&
    !(a.dealId.isSome && a.dealId = b.dealId && a.revision.isSome && a.revision = b.revision))

/-! ## Statements -/

/-- What the upsert makes of the session that is there: another state than the one the request was
admitted in leaves a sequence that the `CHECK` refuses. -/
def SessionRow.advance (row : SessionRow) (previous : Nat) (old : SessionRow) : SessionRow :=
  { old with
    lastRequestSequence :=
      if old.lastRequestSequence = previous ∧ old.scope = row.scope ∧
          old.registrationJson = row.registrationJson then row.lastRequestSequence else 0
    lastEventSequence := row.lastEventSequence
    requestDigest := row.requestDigest
    acceptedAt := row.acceptedAt
    latestJson := row.latestJson
    accountJson := row.accountJson.or old.accountJson
    exposureJson := row.exposureJson.or old.exposureJson }

def upsertSession (db : Db) (row : SessionRow) (previous : Nat) : Except DbError Db :=
  if ¬ row.check jsonValid then .error .constraint
  else
    match db.session row.accountId with
    | none =>
      if db.sessions.any fun s => s.scope = row.scope then .error .constraint
      else .ok { db with sessions := db.sessions ++ [row] }
    | some old =>
      if (row.advance previous old).check jsonValid then
        .ok { db with
          sessions := updateWhere (fun s => s.accountId = row.accountId) (row.advance previous)
            db.sessions }
      else .error .constraint

def insertReceipt (db : Db) (row : ReceiptRow) : Except DbError Db :=
  if row.claimed db && row.check && (db.receipt row.scope row.requestSequence).isNone then
    .ok { db with receipts := db.receipts ++ [row] }
  else .error .constraint

def insertEvent (db : Db) (row : EventRow) : Except DbError Db :=
  if row.revises db && row.check jsonValid && db.events.all (fun e => e.distinct row) &&
      db.sessions.any (fun s => s.scope = row.scope) then
    .ok { db with events := db.events ++ [row] }
  else .error .constraint

def upsertDeal (db : Db) (row : DealRow) : Except DbError Db :=
  if row.pointsAtEvent db then
    if (db.deal row.scope row.dealId).isSome then
      .ok { db with
        deals := updateWhere (fun d => d.scope = row.scope && d.dealId = row.dealId)
          (fun d => { d with
            sequence := row.sequence, revision := row.revision,
            recordDigest := row.recordDigest }) db.deals }
    else .ok { db with deals := db.deals ++ [row] }
  else .error .constraint

/-- The four statements of a request. -/
structure Batch where
  session : SessionRow
  previous : Nat
  receipt : ReceiptRow
  events : List EventRow
  deriving DecidableEq, Repr

/-- The pointer that the last statement makes of an event, when it records a deal. -/
def EventRow.pointer (row : EventRow) : Option DealRow :=
  match row.kind, row.dealId, row.revision with
  | .deal, some dealId, some revision =>
    some ⟨row.scope, dealId, row.sequence, revision, row.recordDigest⟩
  | _, _, _ => none

def Batch.exec (db : Db) (batch : Batch) : Except DbError Db := do
  let db ← upsertSession jsonValid db batch.session batch.previous
  let db ← insertReceipt db batch.receipt
  let db ← batch.events.foldlM (insertEvent jsonValid) db
  (batch.events.filterMap EventRow.pointer).foldlM upsertDeal db

end Constraints

end TradeOps.Telemetry
