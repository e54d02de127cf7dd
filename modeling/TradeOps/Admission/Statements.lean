import TradeOps.Admission.Schema

/-!
# The statements of an admission batch

The SQL statements that `admitSignal` and `installGeneration` prepare, as data, and what each does
on a connection: it fails when a constraint of the written table is violated, and otherwise leaves
the number of rows it wrote for `changes()`. A guard is an insert whose `CHECK` fails when its
condition is false; that failure is the one the store takes for contention.

The results here are about every statement: what a row of an earlier state has become in a later
one (`Db.Evolves`, what the triggers enforce), that keys stay unique (`Db.Keys`), and which tables a
statement leaves alone.
-/

namespace TradeOps.Admission

open Tables Keyed

inductive DbError where
  | cas | constraint | unavailable
  deriving DecidableEq, Repr

/-- A connection inside a transaction: the tables and what `changes()` returns. -/
structure Conn where
  db : Db
  changes : Nat
  deriving DecidableEq, Repr

/-- The conditions that guards test. -/
inductive Guard where
  | stream (registrationId : String) (generation revision registryRevision nextSequence : Int)
      (state : StreamState) (registrationRevision : Int) (namespace_ registrationJson : String)
  | receipt (registrationId : String) (generation sequence : Int) (bodySha256 : String)
  | noReceipt (registrationId : String) (generation sequence : Int)
  | attempt (row : AttemptRow)
  | noAttempt (namespace_ attemptKey : String)
  | evidence (namespace_ evidenceId attemptKey evidenceHash : String)
  | noEvidence (evidenceId : String)
  | changedOne
  | registry (registrationId : String) (revision generation : Int) (namespace_ scopeKey : String)
  deriving DecidableEq, Repr

def Guard.holds (c : Conn) : Guard → Bool
  | .stream registrationId generation revision registryRevision nextSequence state
      registrationRevision namespace_ registrationJson =>
    c.db.streams.any fun s => c.db.registrations.any fun r =>
      s.registrationId = r.registrationId && s.registrationId = registrationId &&
      s.generation = generation && s.revision = revision &&
      s.registryRevision = registryRevision && s.nextSequence = nextSequence && s.state = state &&
      r.revision = registrationRevision && r.activeGeneration = s.generation && r.enabled &&
      r.namespace_ = namespace_ && r.registrationJson = registrationJson
  | .receipt registrationId generation sequence bodySha256 =>
    c.db.receipts.any fun x => x.registrationId = registrationId && x.generation = generation &&
      x.sequence = sequence && x.bodySha256 = bodySha256
  | .noReceipt registrationId generation sequence =>
    !c.db.receipts.any fun x => x.registrationId = registrationId && x.generation = generation &&
      x.sequence = sequence
  | .attempt row => decide (row ∈ c.db.attempts)
  | .noAttempt namespace_ attemptKey =>
    !c.db.attempts.any fun a => a.namespace_ = namespace_ && a.attemptKey = attemptKey
  | .evidence namespace_ evidenceId attemptKey evidenceHash =>
    c.db.evidence.any fun e => e.namespace_ = namespace_ && e.evidenceId = evidenceId &&
      e.attemptKey = attemptKey && e.evidenceHash = evidenceHash
  | .noEvidence evidenceId => !c.db.evidence.any fun e => e.evidenceId = evidenceId
  | .changedOne => c.changes = 1
  | .registry registrationId revision generation namespace_ scopeKey =>
    c.db.registrations.any fun r => r.registrationId = registrationId && r.revision = revision &&
      r.activeGeneration < generation && r.namespace_ = namespace_ && r.scopeKey = scopeKey

inductive Statement where
  | guard (token : String) (condition : Guard)
  | deleteGuard (token : String)
  | insertReceipt (row : ReceiptRow)
  | insertAudit (row : AuditRow)
  | disputeAttempt (namespace_ attemptKey : String)
  | disputeReceiptAttempts (namespace_ receiptId : String)
  | quarantineStreamDeliveries (namespace_ registrationId : String) (generation : Int)
  | quarantineAttemptDeliveries (namespace_ attemptKey : String)
  | quarantineReceiptDeliveries (namespace_ receiptId : String)
  | quarantineStream (reason registrationId : String) (generation : Int)
  | insertEvidence (row : EvidenceRow)
  | insertAttempt (namespace_ attemptKey formationHash : String)
  | insertReceiptEvidence (row : ReceiptEvidenceRow)
  | reserveAttempt (evidenceId evidenceHash : String) (triggerEpoch : Option Int)
      (selectionKey : Option String) (namespace_ attemptKey : String)
  | insertDelivery (row : OutboxRow)
  | advanceStream (now : Int) (registrationId : String) (generation revision : Int)
  | insertRegistration (row : RegistrationRow)
  | retireActiveStream (reason registrationId : String)
  | updateRegistration (generation revision : Int) (enabled : Bool) (registrationJson : String)
      (registrationId : String) (previousRevision : Int)
  | insertStream (row : StreamRow)
  deriving DecidableEq, Repr

/-- An insert that passes its constraints writes one row. -/
def written (ok : Bool) (db : Db) : Except DbError Conn :=
  if ok then .ok ⟨db, 1⟩ else .error .constraint

/-- An update passes when every row it writes does. -/
def rewritten {α : Type} (rows : List α) (p : α → Bool) (f : α → α) (allowed : α → α → Bool)
    (put : List α → Db) : Except DbError Conn :=
  if rows.all fun row => !p row || allowed row (f row) then
    .ok ⟨put (updateWhere p f rows), rows.countP p⟩
  else .error .constraint

/-- The statuses that a delivery can still be moved out of. -/
def OutboxStatus.live : OutboxStatus → Bool
  | .pending | .retry | .claimed => true
  | _ => false

def OutboxRow.quarantine (row : OutboxRow) : OutboxRow :=
  { row with status := .quarantined, claimToken := none, leaseUntilEpoch := none }

section Exec

variable (jsonValid : String → Bool)

/-- What an update of an attempt must satisfy. -/
def AttemptRow.allowed (db : Db) (old new : AttemptRow) : Bool :=
  old.immutable new && new.check jsonValid &&
    new.evidenceId.all fun id => db.evidence.any fun e => e.evidenceId = id

/-- What an update of a delivery must satisfy. -/
def OutboxRow.allowed (old new : OutboxRow) : Bool :=
  old.immutable new && new.check jsonValid

/-- What an update of a stream must satisfy. -/
def StreamRow.allowed (old new : StreamRow) : Bool :=
  old.sticky new && new.check

def rewriteAttempts (c : Conn) (p : AttemptRow → Bool) (f : AttemptRow → AttemptRow) :
    Except DbError Conn :=
  rewritten c.db.attempts p f (AttemptRow.allowed jsonValid c.db)
    fun rows => { c.db with attempts := rows }

def rewriteOutbox (c : Conn) (p : OutboxRow → Bool) (f : OutboxRow → OutboxRow) :
    Except DbError Conn :=
  rewritten c.db.outbox p f (OutboxRow.allowed jsonValid) fun rows => { c.db with outbox := rows }

def rewriteStreams (c : Conn) (p : StreamRow → Bool) (f : StreamRow → StreamRow) :
    Except DbError Conn :=
  rewritten c.db.streams p f StreamRow.allowed fun rows => { c.db with streams := rows }

def Statement.exec (c : Conn) : Statement → Except DbError Conn
  | .guard token condition =>
    -- the CHECK is evaluated before the primary key
    if condition.holds c then
      written (token ∉ c.db.guards) { c.db with guards := c.db.guards ++ [token] }
    else .error .cas
  | .deleteGuard token =>
    .ok ⟨{ c.db with guards := c.db.guards.filter (· ≠ token) }, c.db.guards.count token⟩
  | .insertReceipt row =>
    written (row.check && (c.db.receipt row.registrationId row.generation row.sequence).isNone &&
        (c.db.receipts.all fun x => x.receiptId ≠ row.receiptId) &&
        (c.db.stream row.registrationId row.generation).isSome)
      { c.db with receipts := c.db.receipts ++ [row] }
  | .insertAudit row =>
    written (row.check && c.db.audit.all fun x => x.auditId ≠ row.auditId)
      { c.db with audit := c.db.audit ++ [row] }
  | .disputeAttempt namespace_ attemptKey =>
    rewriteAttempts jsonValid c (fun a => a.namespace_ = namespace_ && a.attemptKey = attemptKey)
      fun a => { a with disputed := true }
  | .disputeReceiptAttempts namespace_ receiptId =>
    rewriteAttempts jsonValid c
      (fun a => a.namespace_ = namespace_ && c.db.linked namespace_ receiptId a.attemptKey)
      fun a => { a with disputed := true }
  | .quarantineStreamDeliveries namespace_ registrationId generation =>
    rewriteOutbox jsonValid c
      (fun o => o.namespace_ = namespace_ && o.status.live && o.registrationId = registrationId &&
        o.generation = generation)
      OutboxRow.quarantine
  | .quarantineAttemptDeliveries namespace_ attemptKey =>
    rewriteOutbox jsonValid c
      (fun o => o.namespace_ = namespace_ && o.attemptKey = attemptKey && o.status.live)
      OutboxRow.quarantine
  | .quarantineReceiptDeliveries namespace_ receiptId =>
    rewriteOutbox jsonValid c
      (fun o => o.namespace_ = namespace_ && c.db.linked namespace_ receiptId o.attemptKey &&
        o.status.live)
      OutboxRow.quarantine
  | .quarantineStream reason registrationId generation =>
    rewriteStreams c (fun s => s.registrationId = registrationId && s.generation = generation)
      fun s => { s with state := .quarantined, reason := some reason, revision := s.revision + 1 }
  | .insertEvidence row =>
    written (row.check jsonValid && (c.db.evidence.all fun e => e.evidenceId ≠ row.evidenceId) &&
        c.db.receipts.any fun x => x.receiptId = row.receiptId)
      { c.db with evidence := c.db.evidence ++ [row] }
  | .insertAttempt namespace_ attemptKey formationHash =>
    let row : AttemptRow :=
      ⟨namespace_, attemptKey, formationHash, none, none, none, none, false⟩
    written (row.check jsonValid && (c.db.attempt namespace_ attemptKey).isNone)
      { c.db with attempts := c.db.attempts ++ [row] }
  | .insertReceiptEvidence row =>
    written (row.consistent c.db &&
        (c.db.receiptEvidence.all fun l =>
          !(l.receiptId = row.receiptId && l.evidenceId = row.evidenceId)) &&
        (c.db.receiptEvidence.all fun l => !(l.receiptId = row.receiptId &&
          l.namespace_ = row.namespace_ && l.attemptKey = row.attemptKey)) &&
        (c.db.receipts.any fun x => x.receiptId = row.receiptId) &&
        (c.db.evidence.any fun e => e.evidenceId = row.evidenceId) &&
        (c.db.attempt row.namespace_ row.attemptKey).isSome)
      { c.db with receiptEvidence := c.db.receiptEvidence ++ [row] }
  | .reserveAttempt evidenceId evidenceHash triggerEpoch selectionKey namespace_ attemptKey =>
    rewriteAttempts jsonValid c
      (fun a => a.namespace_ = namespace_ && a.attemptKey = attemptKey && a.evidenceId.isNone &&
        !a.disputed)
      fun a => { a with
        evidenceId := some evidenceId, evidenceHash := some evidenceHash,
        triggerEpoch := triggerEpoch, selectionKey := selectionKey }
  | .insertDelivery row =>
    written (row.check jsonValid && (c.db.outbox.all fun o => o.deliveryId ≠ row.deliveryId) &&
        (c.db.outbox.all fun o => o.attempt ≠ row.attempt) &&
        (c.db.receipts.any fun x => x.receiptId = row.receiptId) &&
        (c.db.evidence.any fun e => e.evidenceId = row.evidenceId) &&
        (c.db.attempt row.namespace_ row.attemptKey).isSome &&
        (c.db.stream row.registrationId row.generation).isSome)
      { c.db with outbox := c.db.outbox ++ [row] }
  | .advanceStream now registrationId generation revision =>
    rewriteStreams c
      (fun s => s.registrationId = registrationId && s.generation = generation &&
        s.revision = revision)
      fun s => { s with
        nextSequence := s.nextSequence + 1, revision := s.revision + 1, lastAcceptedAt := some now }
  | .insertRegistration row =>
    written (row.check jsonValid && (c.db.registration row.registrationId).isNone &&
        activeScopesUnique (c.db.registrations ++ [row]))
      { c.db with registrations := c.db.registrations ++ [row] }
  | .retireActiveStream reason registrationId =>
    rewriteStreams c
      (fun s => s.registrationId = registrationId &&
        (c.db.registration registrationId).map (·.activeGeneration) = some s.generation)
      fun s => { s with state := .retired, reason := some reason, revision := s.revision + 1 }
  | .updateRegistration generation revision enabled registrationJson registrationId
      previousRevision =>
    let p : RegistrationRow → Bool := fun r =>
      r.registrationId = registrationId && r.revision = previousRevision
    let f : RegistrationRow → RegistrationRow := fun r => { r with
      activeGeneration := generation, revision := revision, enabled := enabled,
      registrationJson := registrationJson }
    if activeScopesUnique (updateWhere p f c.db.registrations) then
      rewritten c.db.registrations p f (fun _ new => new.check jsonValid)
        fun rows => { c.db with registrations := rows }
    else .error .constraint
  | .insertStream row =>
    written (row.check && (c.db.stream row.registrationId row.generation).isNone &&
        activeStreamsUnique (c.db.streams ++ [row]) &&
        (c.db.registration row.registrationId).isSome)
      { c.db with streams := c.db.streams ++ [row] }

/-- The statements of a transaction, one after the other. -/
def execAll (statements : List Statement) (c : Conn) : Except DbError Conn :=
  statements.foldlM (fun c s => s.exec jsonValid c) c

/-- `db.batch`: all statements, or none. -/
def batch (statements : List Statement) (db : Db) : Except DbError Db :=
  (execAll jsonValid statements ⟨db, 0⟩).map (·.db)

end Exec

/-! ## What one statement can do to a table -/

theorem written_ok_iff {ok : Bool} {db : Db} {c' : Conn} :
    written ok db = .ok c' ↔ ok = true ∧ c' = ⟨db, 1⟩ := by
  cases ok <;> simp [written, eq_comm]

theorem rewritten_ok_iff {α : Type} {rows : List α} {p : α → Bool} {f : α → α}
    {allowed : α → α → Bool} {put : List α → Db} {c' : Conn} :
    rewritten rows p f allowed put = .ok c' ↔
      (∀ row ∈ rows, p row = true → allowed row (f row) = true) ∧
        c' = ⟨put (updateWhere p f rows), rows.countP p⟩ := by
  unfold rewritten
  split
  · rename_i hall
    rw [List.all_eq_true] at hall
    have hall' : ∀ row ∈ rows, p row = true → allowed row (f row) = true := by
      intro row hrow hp
      simpa [hp] using hall row hrow
    exact ⟨fun h => ⟨hall', (Except.ok.inj h).symm⟩, fun h => by rw [h.2]⟩
  · rename_i hall
    refine ⟨nofun, fun h => absurd ?_ hall⟩
    rw [List.all_eq_true]
    intro row hrow
    cases hp : p row with
    | false => rfl
    | true => simpa using h.1 row hrow hp

/-- The receipt that a statement inserts. -/
def Statement.receipt? : Statement → Option ReceiptRow
  | .insertReceipt row => some row
  | _ => none

/-- The delivery that a statement inserts. -/
def Statement.delivery? : Statement → Option OutboxRow
  | .insertDelivery row => some row
  | _ => none

def Statement.writesStreams : Statement → Bool
  | .quarantineStream .. | .advanceStream .. | .retireActiveStream .. | .insertStream .. => true
  | _ => false

variable {jsonValid : String → Bool} {c c' : Conn} {s : Statement}

theorem exec_guard_ok_iff {token : String} {condition : Guard} :
    (Statement.guard token condition).exec jsonValid c = .ok c' ↔
      condition.holds c = true ∧ token ∉ c.db.guards ∧
        c' = ⟨{ c.db with guards := c.db.guards ++ [token] }, 1⟩ := by
  simp only [Statement.exec]
  split
  · simp [written_ok_iff, *]
  · simp [*]

theorem rewriteOutbox_ok {p : OutboxRow → Bool} {f : OutboxRow → OutboxRow}
    (h : ∀ o ∈ c.db.outbox, p o = true → o.allowed jsonValid (f o) = true) :
    rewriteOutbox jsonValid c p f =
      .ok ⟨{ c.db with outbox := updateWhere p f c.db.outbox }, c.db.outbox.countP p⟩ :=
  rewritten_ok_iff.2 ⟨h, rfl⟩

theorem rewriteAttempts_ok {p : AttemptRow → Bool} {f : AttemptRow → AttemptRow}
    (h : ∀ a ∈ c.db.attempts, p a = true → a.allowed jsonValid c.db (f a) = true) :
    rewriteAttempts jsonValid c p f =
      .ok ⟨{ c.db with attempts := updateWhere p f c.db.attempts }, c.db.attempts.countP p⟩ :=
  rewritten_ok_iff.2 ⟨h, rfl⟩

theorem exec_updateRegistration_ok {generation revision previousRevision : Int} {enabled : Bool}
    {registrationJson registrationId : String}
    (h : (Statement.updateRegistration generation revision enabled registrationJson registrationId
      previousRevision).exec jsonValid c = .ok c') :
    ∃ (p : RegistrationRow → Bool) (f : RegistrationRow → RegistrationRow),
      (∀ r, (f r).registrationId = r.registrationId ∧ (f r).namespace_ = r.namespace_ ∧
        (f r).scopeKey = r.scopeKey) ∧
      c'.db = { c.db with registrations := updateWhere p f c.db.registrations } := by
  simp only [Statement.exec] at h
  split at h
  · obtain ⟨-, rfl⟩ := rewritten_ok_iff.1 h
    refine ⟨_, _, ?_, rfl⟩
    exact fun r => ⟨rfl, rfl, rfl⟩
  · cases h

theorem exec_receipts (h : s.exec jsonValid c = .ok c') :
    c'.db.receipts = c.db.receipts ++ s.receipt?.toList := by
  cases s with
  | guard token condition =>
    obtain ⟨-, -, rfl⟩ := exec_guard_ok_iff.1 h
    simp [Statement.receipt?]
  | updateRegistration =>
    obtain ⟨p, f, -, hdb⟩ := exec_updateRegistration_ok h
    simp [Statement.receipt?, hdb]
  | deleteGuard token =>
    cases h
    simp [Statement.receipt?]
  | _ =>
    simp only [Statement.exec, rewriteAttempts, rewriteOutbox, rewriteStreams, written_ok_iff,
      rewritten_ok_iff] at h
    obtain ⟨-, rfl⟩ := h
    simp [Statement.receipt?]

theorem exec_insertReceipt_stream {row : ReceiptRow}
    (h : (Statement.insertReceipt row).exec jsonValid c = .ok c') :
    ∃ s ∈ c.db.streams, s.key = row.stream := by
  simp only [Statement.exec, written_ok_iff, Bool.and_eq_true] at h
  obtain ⟨s, hs⟩ := Option.isSome_iff_exists.1 h.1.2
  refine ⟨s, List.mem_of_find?_eq_some hs, ?_⟩
  simpa [StreamRow.key, ReceiptRow.stream] using List.find?_some hs

theorem exec_evidence (h : s.exec jsonValid c = .ok c') :
    c'.db.evidence = c.db.evidence ∨
      ∃ row, s = .insertEvidence row ∧ c'.db.evidence = c.db.evidence ++ [row] := by
  cases s with
  | guard token condition =>
    obtain ⟨-, -, rfl⟩ := exec_guard_ok_iff.1 h
    exact .inl rfl
  | updateRegistration =>
    obtain ⟨p, f, -, hdb⟩ := exec_updateRegistration_ok h
    exact .inl (by rw [hdb])
  | insertEvidence row =>
    simp only [Statement.exec, written_ok_iff] at h
    obtain ⟨-, rfl⟩ := h
    exact .inr ⟨row, rfl, rfl⟩
  | deleteGuard token =>
    cases h
    exact .inl rfl
  | _ =>
    simp only [Statement.exec, rewriteAttempts, rewriteOutbox, rewriteStreams, written_ok_iff,
      rewritten_ok_iff] at h
    obtain ⟨-, rfl⟩ := h
    exact .inl rfl

theorem exec_registrations (h : s.exec jsonValid c = .ok c') :
    c'.db.registrations = c.db.registrations ∨
      (∃ row, c.db.registration row.registrationId = none ∧
        c'.db.registrations = c.db.registrations ++ [row]) ∨
      ∃ (p : RegistrationRow → Bool) (f : RegistrationRow → RegistrationRow),
        (∀ r, (f r).registrationId = r.registrationId ∧ (f r).namespace_ = r.namespace_ ∧
          (f r).scopeKey = r.scopeKey) ∧
        c'.db.registrations = updateWhere p f c.db.registrations := by
  cases s with
  | guard token condition =>
    obtain ⟨-, -, rfl⟩ := exec_guard_ok_iff.1 h
    exact .inl rfl
  | updateRegistration =>
    obtain ⟨p, f, hf, hdb⟩ := exec_updateRegistration_ok h
    exact .inr (.inr ⟨p, f, hf, by rw [hdb]⟩)
  | insertRegistration row =>
    simp only [Statement.exec, written_ok_iff, Bool.and_eq_true, Option.isNone_iff_eq_none] at h
    obtain ⟨hok, rfl⟩ := h
    exact .inr (.inl ⟨row, hok.1.2, rfl⟩)
  | deleteGuard token =>
    cases h
    exact .inl rfl
  | _ =>
    simp only [Statement.exec, rewriteAttempts, rewriteOutbox, rewriteStreams, written_ok_iff,
      rewritten_ok_iff] at h
    obtain ⟨-, rfl⟩ := h
    exact .inl rfl

/-- The attempts stay, gain an unreserved attempt under a new key, or are rewritten within what
their trigger allows. -/
theorem exec_attempts (h : s.exec jsonValid c = .ok c') :
    c'.db.attempts = c.db.attempts ∨
      (∃ namespace_ attemptKey formationHash, c.db.attempt namespace_ attemptKey = none ∧
        c'.db.attempts = c.db.attempts ++
          [⟨namespace_, attemptKey, formationHash, none, none, none, none, false⟩]) ∨
      ∃ (p : AttemptRow → Bool) (f : AttemptRow → AttemptRow), (∀ a, (f a).key = a.key) ∧
        (∀ a ∈ c.db.attempts, p a = true → a.immutable (f a) = true) ∧
        c'.db.attempts = updateWhere p f c.db.attempts := by
  cases s with
  | guard token condition =>
    obtain ⟨-, -, rfl⟩ := exec_guard_ok_iff.1 h
    exact .inl rfl
  | updateRegistration =>
    obtain ⟨p, f, -, hdb⟩ := exec_updateRegistration_ok h
    exact .inl (by rw [hdb])
  | insertAttempt namespace_ attemptKey formationHash =>
    simp only [Statement.exec, written_ok_iff, Bool.and_eq_true, Option.isNone_iff_eq_none] at h
    obtain ⟨hok, rfl⟩ := h
    exact .inr (.inl ⟨namespace_, attemptKey, formationHash, hok.2, rfl⟩)
  | disputeAttempt | disputeReceiptAttempts | reserveAttempt =>
    simp only [Statement.exec, rewriteAttempts, rewritten_ok_iff, AttemptRow.allowed,
      Bool.and_eq_true] at h
    obtain ⟨hok, rfl⟩ := h
    refine .inr (.inr ⟨_, _, ?_, fun a ha hp => (hok a ha ?_).1.1, rfl⟩)
    · exact fun a => rfl
    · simpa using hp
  | deleteGuard token =>
    cases h
    exact .inl rfl
  | _ =>
    simp only [Statement.exec, rewriteOutbox, rewriteStreams, written_ok_iff,
      rewritten_ok_iff] at h
    obtain ⟨-, rfl⟩ := h
    exact .inl rfl

/-- The outbox stays, gains a delivery under a new id and for a new attempt, or has live deliveries
quarantined. -/
theorem exec_outbox (h : s.exec jsonValid c = .ok c') :
    (s.delivery? = none ∧ c'.db.outbox = c.db.outbox) ∨
      (∃ row, s.delivery? = some row ∧
        (∀ o ∈ c.db.outbox, o.deliveryId ≠ row.deliveryId ∧ o.attempt ≠ row.attempt) ∧
        c'.db.outbox = c.db.outbox ++ [row]) ∨
      ∃ p : OutboxRow → Bool, s.delivery? = none ∧ (∀ o, p o = true → o.status.live = true) ∧
        c'.db.outbox = updateWhere p OutboxRow.quarantine c.db.outbox := by
  cases s with
  | guard token condition =>
    obtain ⟨-, -, rfl⟩ := exec_guard_ok_iff.1 h
    exact .inl ⟨rfl, rfl⟩
  | updateRegistration =>
    obtain ⟨p, f, -, hdb⟩ := exec_updateRegistration_ok h
    exact .inl ⟨rfl, by rw [hdb]⟩
  | insertDelivery row =>
    simp only [Statement.exec, written_ok_iff, Bool.and_eq_true, List.all_eq_true,
      decide_eq_true_eq] at h
    obtain ⟨hok, rfl⟩ := h
    obtain ⟨⟨⟨⟨⟨⟨-, hid⟩, hattempt⟩, -⟩, -⟩, -⟩, -⟩ := hok
    exact .inr (.inl ⟨row, rfl, fun o ho => ⟨hid o ho, hattempt o ho⟩, rfl⟩)
  | quarantineStreamDeliveries | quarantineAttemptDeliveries | quarantineReceiptDeliveries =>
    simp only [Statement.exec, rewriteOutbox, rewritten_ok_iff] at h
    obtain ⟨-, rfl⟩ := h
    refine .inr (.inr ⟨_, rfl, fun o hp => ?_, rfl⟩)
    simp only [Bool.and_eq_true] at hp
    simp [hp]
  | deleteGuard token =>
    cases h
    exact .inl ⟨rfl, rfl⟩
  | _ =>
    simp only [Statement.exec, rewriteAttempts, rewriteStreams, written_ok_iff,
      rewritten_ok_iff] at h
    obtain ⟨-, rfl⟩ := h
    exact .inl ⟨rfl, rfl⟩

theorem exec_streams_of_not_writes (hw : s.writesStreams = false)
    (h : s.exec jsonValid c = .ok c') : c'.db.streams = c.db.streams := by
  cases s with
  | guard token condition =>
    obtain ⟨-, -, rfl⟩ := exec_guard_ok_iff.1 h
    rfl
  | updateRegistration =>
    obtain ⟨p, f, -, hdb⟩ := exec_updateRegistration_ok h
    rw [hdb]
  | quarantineStream | advanceStream | retireActiveStream | insertStream =>
    simp [Statement.writesStreams] at hw
  | deleteGuard token =>
    cases h
    rfl
  | _ =>
    simp only [Statement.exec, rewriteAttempts, rewriteOutbox, written_ok_iff,
      rewritten_ok_iff] at h
    obtain ⟨-, rfl⟩ := h
    rfl

/-- The streams stay, gain a stream under a new key, or are rewritten within what their trigger
allows. Only the statement that follows an accepted receipt moves a sequence. -/
theorem exec_streams (h : s.exec jsonValid c = .ok c') :
    c'.db.streams = c.db.streams ∨
      (∃ row, s = .insertStream row ∧
        c.db.stream row.registrationId row.generation = none ∧
        c'.db.streams = c.db.streams ++ [row]) ∨
      ∃ (p : StreamRow → Bool) (f : StreamRow → StreamRow),
        (∀ x, (f x).key = x.key ∧ (f x).registryRevision = x.registryRevision) ∧
        (∀ x ∈ c.db.streams, p x = true → x.sticky (f x) = true) ∧
        ((∀ x, (f x).nextSequence = x.nextSequence) ∨
          ∃ now registrationId generation revision,
            s = .advanceStream now registrationId generation revision) ∧
        c'.db.streams = updateWhere p f c.db.streams := by
  cases s with
  | insertStream row =>
    simp only [Statement.exec, written_ok_iff, Bool.and_eq_true, Option.isNone_iff_eq_none] at h
    obtain ⟨hok, rfl⟩ := h
    exact .inr (.inl ⟨row, rfl, hok.1.1.2, rfl⟩)
  | quarantineStream | retireActiveStream =>
    simp only [Statement.exec, rewriteStreams, rewritten_ok_iff, StreamRow.allowed,
      Bool.and_eq_true] at h
    obtain ⟨hok, rfl⟩ := h
    refine .inr (.inr ⟨_, _, ?_, fun x hx hp => (hok x hx ?_).1, .inl ?_, rfl⟩)
    · exact fun x => ⟨rfl, rfl⟩
    · simpa using hp
    · exact fun x => rfl
  | advanceStream now registrationId generation revision =>
    simp only [Statement.exec, rewriteStreams, rewritten_ok_iff, StreamRow.allowed,
      Bool.and_eq_true] at h
    obtain ⟨hok, rfl⟩ := h
    refine .inr (.inr ⟨_, _, ?_, fun x hx hp => (hok x hx ?_).1, .inr ⟨_, _, _, _, rfl⟩, rfl⟩)
    · exact fun x => ⟨rfl, rfl⟩
    · simpa using hp
  | _ => exact .inl (exec_streams_of_not_writes rfl h)

end TradeOps.Admission
