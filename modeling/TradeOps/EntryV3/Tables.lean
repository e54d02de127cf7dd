import TradeOps.EntryV3.Payload
import TradeOps.Paper.Readiness
import TradeOps.Lib.Jobs
import TradeOps.Lib.Tables

/-!
# The tables of the v3 entry store

Embeds the tables that `rd-entry-store-v3.ts` writes, with the keys, the foreign keys and the
triggers of the migrations `0009`, `0016`, `0019`, `0024`, `0028` and `0029`. A table is the list of
its rows in the order of their row numbers. Every row is of the attempt `INITIAL`: no statement
writes another. The texts that only repeat a record are replaced by the record, and the stored
payload of an event by the observation. `CHECK` clauses that say what the types or the validators of
the writers already say are left out.
-/

namespace TradeOps.EntryV3

open Checks Entry Tables

/-! ## Rows -/

/-- A row of `observation_entry_v3_events`. -/
structure EventRow where
  eventId : String
  receiptId : String
  observation : Observation
  strategyVersion : String
  ruleContractVersion : String
  payloadSha256 : String
  recordedAt : String
  deriving DecidableEq, Repr

inductive Disposition where
  | accepted | conflict
  deriving DecidableEq, Repr

/-- A row of `observation_entry_v3_event_dispositions`; a conflict is an `EXIT_CONFLICT`. -/
structure DispositionRow where
  eventId : String
  receiptId : String
  disposition : Disposition
  recordedAt : String
  deriving DecidableEq, Repr

/-- A row of `observation_entry_v3_candidates`; the id of the candidate is the logical one. -/
structure CandidateRow where
  candidateId : String
  eventId : String
  candidate : EntryCandidateV3
  deriving DecidableEq, Repr

/-- A row of `observation_entry_v3_evidence`; the id of the evidence is the logical one. -/
structure EvidenceRow where
  evidenceId : String
  eventId : String
  candidateId : String
  evidence : EntryCandidateEvidenceV3
  deriving DecidableEq, Repr

inductive EffectiveActionReason where
  | oneCandleExperimentNotPromoted | promotionIdentityMismatch | paperConfigurationUnavailable
  | notSelectedAlreadyOpen
  deriving DecidableEq, Repr

/-- A row of `observation_entry_v3_selections`; the action of the selection is the policy's. -/
structure SelectionRow where
  selectionId : String
  eventId : String
  selection : EntrySelectionV3
  canonicalCandidateId : Option String
  canonicalEvidenceId : Option String
  action : SelectionActionV3
  effectiveActionReason : Option EffectiveActionReason
  liquidityCohort : LiquidityCohortV3
  oneCandleEnabled : Bool
  selectedTriggerEpoch : Option Int
  selectedTriggerSequence : Option Int
  tradePlan : TradePlan
  deriving DecidableEq, Repr

inductive ObjectKind where
  | candidate | evidence
  deriving DecidableEq, Repr

/-- A row of `observation_entry_v3_selection_members`. -/
structure MemberRow where
  selectionId : String
  objectKind : ObjectKind
  objectId : String
  deriving DecidableEq, Repr

inductive ParityStatus where
  | match_ | mismatch | notProvided
  deriving DecidableEq, Repr

inductive ParityMismatchReason where
  | candidateIdentities | evidenceIdentities | selectedCandidate | reason | action | multiple
  deriving DecidableEq, Repr

/-- A row of `observation_entry_v3_parity`. -/
structure ParityRow where
  parityId : String
  eventId : String
  selectionId : String
  parityStatus : ParityStatus
  mismatchReason : Option ParityMismatchReason
  comparedAt : String
  deriving DecidableEq, Repr

inductive Side where
  | buy | sell
  deriving DecidableEq, Repr

/-- A row of `paper_trade_intents`; the idempotency key is `paper-intent:` and the id. -/
structure IntentRow where
  intentId : String
  payloadSha256 : String
  symbol : String
  side : Side
  entryPrice : String
  stopLoss : String
  takeProfit : String
  riskBps : Int
  createdAt : String
  deriving DecidableEq, Repr

/-- Where a position stands: `StoredPaperLinkV3` and `StoredShadowPositionV3` have it in common. -/
structure Position where
  setupId : JsString
  direction : EntryDirectionV3
  triggerEpoch : Int
  triggerSequence : Int
  evaluatedAtEpoch : Int
  entryTicks : Int
  stopTicks : Int
  targetTicks : Int
  deriving DecidableEq, Repr

/-- A row of `observation_entry_v3_paper_links`. -/
structure LinkRow extends Position where
  selectionId : String
  intentId : String
  createdAt : String
  deriving DecidableEq, Repr

inductive ShadowState where
  | open_ | stopped | targetHit | ambiguous
  deriving DecidableEq, Repr

/-- A row of `observation_entry_v3_shadow_positions`. -/
structure ShadowRow extends Position where
  candidateId : String
  state : ShadowState
  exitEventId : Option String
  outcomeRMillis : Option Int
  liquidityCohort : LiquidityCohortV3
  oneCandleEnabled : Bool
  createdAt : String
  terminalAt : Option String
  deriving DecidableEq, Repr

inductive Terminal where
  | stop | target
  deriving DecidableEq, Repr

/-- A row of `paper_trade_settlements`; the idempotency key is `paper-settlement:` and the id of the
intent. -/
structure SettlementRow extends Paper.SettlementRow where
  payloadSha256 : String
  exitReason : Terminal
  deriving DecidableEq, Repr

/-- What an exit is applied to, with the code that it ends with. -/
inductive ExitTarget where
  | paper (intentId : String) (terminal : Terminal)
  | shadow (candidateId : String) (state : ShadowState)
  deriving DecidableEq, Repr

def ExitTarget.isPaper : ExitTarget → Bool
  | paper _ _ => true
  | shadow _ _ => false

/-- A row of `observation_entry_v3_exit_applications`. -/
structure ApplicationRow where
  applicationId : String
  eventId : String
  exitEventId : String
  setupId : JsString
  target : ExitTarget
  outcomeRMillis : Option Int
  appliedAt : String
  deriving DecidableEq, Repr

structure Database where
  receipts : List EntryV2.ReceiptRow
  events : List EventRow
  dispositions : List DispositionRow
  candidates : List CandidateRow
  evidence : List EvidenceRow
  selections : List SelectionRow
  members : List MemberRow
  parity : List ParityRow
  links : List LinkRow
  shadows : List ShadowRow
  applications : List ApplicationRow
  accounts : List Paper.AccountRow
  ledgerEntries : List Paper.LedgerEntryRow
  killSwitchEvents : List Paper.KillSwitchEventRow
  blockedIntents : List String
  intents : List IntentRow
  allocations : List Paper.AllocationRow
  settlements : List SettlementRow

/-- The paper tables, as the views of the readiness gate see them. -/
def Database.paper (db : Database) : Paper.Database where
  accounts := db.accounts
  ledgerEntries := db.ledgerEntries
  allocations := db.allocations
  settlements := db.settlements.map (·.toSettlementRow)
  killSwitchEvents := db.killSwitchEvents

/-! ## Statements -/

/-- What refuses a statement. -/
inductive Failure where
  | receiptKeys | eventKeys | dispositionKeys | candidateKeys | evidenceKeys | selectionKeys
  | memberKeys | parityKeys | applicationKeys | shadowKeys | allocationKeys | settlementKeys
  | intentKeys | linkSetup | linkSelection | linkIntent
  | check | reference
  | intentBlocked | readinessGate | settlementBalance
  | linkAuthorization | shadowAuthorization | shadowTransition
  deriving DecidableEq, Repr

def isReadinessConstraint (failure : Failure) : Bool := failure = .readinessGate

def isExitApplicationRace (failure : Failure) : Bool :=
  failure = .applicationKeys ∨ failure = .settlementKeys

def isPaperLinkRace (failure : Failure) : Bool := failure = .linkSetup ∨ failure = .intentKeys

/-- An allocation before the gate computes its amounts from the balance of the account. -/
structure AllocationRequest where
  allocationId : String
  intentId : String
  payloadSha256 : String
  accountId : String
  riskBps : Int
  createdAt : String
  deriving DecidableEq, Repr

/-- The update of `TERMINATE_ENTRY_V3_SHADOW_POSITION_SQL`. -/
structure Termination where
  candidateId : String
  state : ShadowState
  exitEventId : String
  outcomeRMillis : Option Int
  terminalAt : String
  deriving DecidableEq, Repr

/-- The statements of the store. A shadow position with a missing column is refused. -/
inductive Statement where
  | insertReceipt (row : EntryV2.ReceiptRow)
  | insertEvent (row : EventRow)
  | insertDisposition (row : DispositionRow)
  | insertCandidates (rows : List CandidateRow)
  | insertEvidence (rows : List EvidenceRow)
  | insertSelections (rows : List SelectionRow)
  | insertMembers (rows : List MemberRow)
  | insertParity (rows : List ParityRow)
  | insertIntent (row : IntentRow)
  | insertAllocation (request : AllocationRequest)
  | insertLink (row : LinkRow)
  | insertShadow (row : Option ShadowRow)
  | insertSettlement (row : SettlementRow)
  | insertApplication (row : ApplicationRow)
  | terminateShadow (termination : Termination)
  deriving DecidableEq, Repr

section Triggers

/-- `observation_entry_v3_paper_links_authorization_guard`: the selection that allows the link. -/
def authorisesLink (db : Database) (row : LinkRow) (selection : SelectionRow) : Bool :=
  selection.selectionId = row.selectionId ∧ selection.selection.setupId = row.setupId ∧
    selection.action = .paperEligible ∧ selection.liquidityCohort = .twoPlusCandles ∧
    db.events.any fun event =>
      event.eventId = selection.eventId ∧ event.observation.eventRole = .entryDecision

/-- The cases of `observation_entry_v3_shadow_positions_authorization_guard`. -/
def shadowCase (db : Database) (row : ShadowRow) (candidate : CandidateRow)
    (selection : SelectionRow) : Bool :=
  (selection.liquidityCohort = .twoPlusCandles ∧ candidate.candidate.model = .boc ∧
    candidate.candidate.bocTier = some .discretionary5m) ∨
  (selection.liquidityCohort = .twoPlusCandles ∧
    selection.canonicalCandidateId = some candidate.candidateId ∧
    selection.selection.action = .paperEligible ∧ selection.action = .shadowOnly ∧
    selection.effectiveActionReason = some .paperConfigurationUnavailable) ∨
  (selection.liquidityCohort = .oneCandle ∧ selection.oneCandleEnabled = true ∧
    selection.selection.action = .shadowOnly ∧ selection.action = .shadowOnly ∧
    selection.selection.evaluatedAtEpoch = row.evaluatedAtEpoch ∧
    db.members.any fun member => member.selectionId = selection.selectionId ∧
      member.objectKind = .candidate ∧ member.objectId = candidate.candidateId)

def authorisesShadow (db : Database) (row : ShadowRow) (candidate : CandidateRow)
    (selection : SelectionRow) : Bool :=
  candidate.candidateId = row.candidateId ∧ candidate.candidate.setupId = row.setupId ∧
    candidate.candidate.state = .matched ∧ selection.eventId = candidate.eventId ∧
    selection.selection.setupId = candidate.candidate.setupId ∧
    selection.liquidityCohort = row.liquidityCohort ∧
    selection.oneCandleEnabled = row.oneCandleEnabled ∧
    (db.events.any fun event =>
      event.eventId = candidate.eventId ∧ event.observation.eventRole = .entryDecision) ∧
    shadowCase db row candidate selection

/-- The `CHECK` that ties the state of a shadow to its outcome. -/
def shadowStateFits (row : ShadowRow) : Bool :=
  match row.state with
  | .open_ => row.exitEventId = none ∧ row.outcomeRMillis = none ∧ row.terminalAt = none
  | .stopped => row.exitEventId ≠ none ∧ row.outcomeRMillis = some (-1000) ∧ row.terminalAt ≠ none
  | .targetHit => row.exitEventId ≠ none ∧
    (row.outcomeRMillis.any fun outcome => 0 ≤ outcome ∧ outcome ≤ 10000) ∧ row.terminalAt ≠ none
  | .ambiguous => row.exitEventId ≠ none ∧ row.outcomeRMillis = none ∧ row.terminalAt ≠ none

/-- `paper_trade_settlement_safe_balance`. -/
def settlementBlocked (db : Database) (row : SettlementRow) : Bool :=
  let allocations := db.allocations.filter (·.intentId = row.intentId)
  allocations = [] ∨ allocations.any fun allocation =>
    (db.accounts.find? (·.accountId = allocation.accountId)).any fun account =>
      let pnl := Paper.pnlMinor allocation row.toSettlementRow
      let balance := db.paper.balanceMinor account
      pnl < -SafeIntegers.maxSafeInteger - balance ∨ pnl > SafeIntegers.maxSafeInteger - balance

/-- The selections that the `CHECK` on the effective action allows. -/
def selectionFits (row : SelectionRow) : Bool :=
  row.selectedTriggerEpoch.isNone = row.selectedTriggerSequence.isNone ∧
    (row.action = .paperEligible →
      row.selection.action = .paperEligible ∧ row.canonicalCandidateId ≠ none ∧
        row.canonicalEvidenceId ≠ none ∧ row.selection.canonicalModel ≠ none ∧
        row.selection.fidelity = some .exact ∧ row.selectedTriggerEpoch ≠ none ∧
        row.effectiveActionReason = none) ∧
    (row.liquidityCohort = .oneCandle → row.oneCandleEnabled = true)

end Triggers

section Exec

def insertReceipt (row : EntryV2.ReceiptRow) (db : Database) : Except Failure Database := do
  failIf (row.sequence < 1) .check
  failIf (db.receipts.any fun stored =>
    stored.idempotencyKey = row.idempotencyKey ∨ stored.receiptId = row.receiptId) .receiptKeys
  return { db with receipts := db.receipts ++ [row] }

def insertEvent (row : EventRow) (db : Database) : Except Failure Database := do
  failIf (row.observation.producerSequence < 1) .check
  failIf (db.events.any fun stored =>
    stored.eventId = row.eventId ∨ stored.receiptId = row.receiptId ∨
      (stored.observation.metadata.producerInstanceId =
          row.observation.metadata.producerInstanceId ∧
        stored.observation.producerSequence = row.observation.producerSequence)) .eventKeys
  failIf (¬db.receipts.any (·.receiptId = row.receiptId)) .reference
  return { db with events := db.events ++ [row] }

def insertDisposition (row : DispositionRow) (db : Database) : Except Failure Database := do
  failIf (db.dispositions.any fun stored =>
    stored.eventId = row.eventId ∨ stored.receiptId = row.receiptId) .dispositionKeys
  failIf (¬db.events.any (·.eventId = row.eventId)) .reference
  failIf (¬db.receipts.any (·.receiptId = row.receiptId)) .reference
  return { db with dispositions := db.dispositions ++ [row] }

def insertCandidate (db : Database) (row : CandidateRow) : Except Failure Database := do
  failIf (db.candidates.any fun stored => stored.candidateId = row.candidateId ∨
    (stored.eventId = row.eventId ∧
      stored.candidate.candidateId = row.candidate.candidateId)) .candidateKeys
  failIf (¬db.events.any (·.eventId = row.eventId)) .reference
  return { db with candidates := db.candidates ++ [row] }

def insertEvidenceRow (db : Database) (row : EvidenceRow) : Except Failure Database := do
  failIf (db.evidence.any fun stored => stored.evidenceId = row.evidenceId ∨
    (stored.eventId = row.eventId ∧
      stored.evidence.evidenceId = row.evidence.evidenceId)) .evidenceKeys
  failIf (¬db.events.any (·.eventId = row.eventId)) .reference
  failIf (¬db.candidates.any (·.candidateId = row.candidateId)) .reference
  return { db with evidence := db.evidence ++ [row] }

def insertSelection (db : Database) (row : SelectionRow) : Except Failure Database := do
  failIf (¬selectionFits row) .check
  failIf (db.selections.any fun stored => stored.selectionId = row.selectionId ∨
    (stored.eventId = row.eventId ∧
      stored.selection.selectionId = row.selection.selectionId)) .selectionKeys
  failIf (¬db.events.any (·.eventId = row.eventId)) .reference
  return { db with selections := db.selections ++ [row] }

def insertMember (db : Database) (row : MemberRow) : Except Failure Database := do
  failIf (row ∈ db.members) .memberKeys
  failIf (¬db.selections.any (·.selectionId = row.selectionId)) .reference
  return { db with members := db.members ++ [row] }

def insertParityRow (db : Database) (row : ParityRow) : Except Failure Database := do
  failIf (db.parity.any fun stored =>
    stored.parityId = row.parityId ∨ stored.selectionId = row.selectionId) .parityKeys
  failIf (¬db.events.any (·.eventId = row.eventId)) .reference
  failIf (¬db.selections.any (·.selectionId = row.selectionId)) .reference
  return { db with parity := db.parity ++ [row] }

def insertIntent (row : IntentRow) (db : Database) : Except Failure Database := do
  failIf (row.intentId ∈ db.blockedIntents) .intentBlocked
  failIf (db.intents.any (·.intentId = row.intentId)) .intentKeys
  return { db with intents := db.intents ++ [row] }

/-- The row of `INSERT_PAPER_TRADE_ALLOCATION_SQL`; its sub-selects are empty for an unknown intent
or account and for a balance that gives no risk. -/
def allocationRow (request : AllocationRequest) (db : Database) : Option Paper.AllocationRow := do
  let intent ← db.intents.find? fun intent =>
    intent.intentId = request.intentId ∧ intent.payloadSha256 = request.payloadSha256
  let account ← db.accounts.find? (·.accountId = request.accountId)
  let balance := db.paper.balanceMinor account
  let risk := Paper.riskAmountMinor balance request.riskBps
  if balance > 0 ∧ risk > 0 then
    some
      { allocationId := request.allocationId
        intentId := intent.intentId
        accountId := request.accountId
        riskAmountMinor := risk
        balanceBeforeMinor := balance
        createdAt := request.createdAt }
  else none

def insertAllocation (isToday : String → Bool) (request : AllocationRequest) (db : Database) :
    Except Failure Database :=
  match allocationRow request db with
  | none => .error .readinessGate
  | some row => do
    failIf (Paper.readinessGateBlocks isToday db.paper row) .readinessGate
    failIf (row.riskAmountMinor > SafeIntegers.maxSafeInteger ∨
      ¬SafeIntegers.isSafeInteger row.balanceBeforeMinor) .check
    failIf (db.allocations.any fun stored => stored.allocationId = row.allocationId ∨
      (stored.intentId = row.intentId ∧ stored.accountId = row.accountId)) .allocationKeys
    return { db with allocations := db.allocations ++ [row] }

def insertLink (row : LinkRow) (db : Database) : Except Failure Database := do
  failIf (¬db.selections.any (authorisesLink db row)) .linkAuthorization
  failIf (db.links.any (·.setupId = row.setupId)) .linkSetup
  failIf (db.links.any (·.selectionId = row.selectionId)) .linkSelection
  failIf (db.links.any (·.intentId = row.intentId)) .linkIntent
  failIf (¬db.selections.any (·.selectionId = row.selectionId)) .reference
  failIf (¬db.intents.any (·.intentId = row.intentId)) .reference
  return { db with links := db.links ++ [row] }

def insertShadow (row : ShadowRow) (db : Database) : Except Failure Database := do
  failIf (¬db.candidates.any fun candidate =>
    db.selections.any (authorisesShadow db row candidate)) .shadowAuthorization
  failIf (¬shadowStateFits row) .check
  failIf (db.shadows.any fun stored =>
    stored.candidateId = row.candidateId ∨ stored.setupId = row.setupId) .shadowKeys
  failIf (¬db.candidates.any (·.candidateId = row.candidateId)) .reference
  return { db with shadows := db.shadows ++ [row] }

def insertSettlement (row : SettlementRow) (db : Database) : Except Failure Database := do
  failIf (settlementBlocked db row) .settlementBalance
  failIf (row.outcomeRMillis < -1000 ∨ row.outcomeRMillis > 10000) .check
  failIf (db.settlements.any fun stored =>
    stored.settlementId = row.settlementId ∨ stored.intentId = row.intentId) .settlementKeys
  failIf (¬db.intents.any (·.intentId = row.intentId)) .reference
  return { db with settlements := db.settlements ++ [row] }

/-- The keys of `observation_entry_v3_exit_applications`. -/
def applicationConflicts (row stored : ApplicationRow) : Bool :=
  stored.applicationId = row.applicationId ∨
    (stored.target.isPaper = row.target.isPaper ∧
      (stored.exitEventId = row.exitEventId ∨ stored.setupId = row.setupId))

def applicationReferences (db : Database) (row : ApplicationRow) : Bool :=
  db.events.any (·.eventId = row.eventId) &&
    match row.target with
    | .paper intentId _ => db.intents.any (·.intentId = intentId)
    | .shadow candidateId _ => db.candidates.any (·.candidateId = candidateId)

def insertApplication (row : ApplicationRow) (db : Database) : Except Failure Database := do
  failIf (row.outcomeRMillis.any fun outcome => outcome < -1000 ∨ outcome > 10000) .check
  failIf (db.applications.any (applicationConflicts row)) .applicationKeys
  failIf (¬applicationReferences db row) .reference
  return { db with applications := db.applications ++ [row] }

def terminated (termination : Termination) (row : ShadowRow) : ShadowRow :=
  { row with
    state := termination.state
    exitEventId := some termination.exitEventId
    outcomeRMillis := termination.outcomeRMillis
    terminalAt := some termination.terminalAt }

def terminateShadow (termination : Termination) (db : Database) : Except Failure Database := do
  let open_ (row : ShadowRow) : Bool :=
    row.candidateId = termination.candidateId ∧ row.state = .open_
  failIf (termination.state = .open_ ∧ db.shadows.any open_) .shadowTransition
  failIf (db.shadows.any fun row =>
    open_ row ∧ ¬shadowStateFits (terminated termination row)) .check
  return { db with shadows := updateWhere open_ (terminated termination) db.shadows }

def exec (isToday : String → Bool) : Statement → Database → Except Failure Database
  | .insertReceipt row, db => insertReceipt row db
  | .insertEvent row, db => insertEvent row db
  | .insertDisposition row, db => insertDisposition row db
  | .insertCandidates rows, db => rows.foldlM insertCandidate db
  | .insertEvidence rows, db => rows.foldlM insertEvidenceRow db
  | .insertSelections rows, db => rows.foldlM insertSelection db
  | .insertMembers rows, db => rows.foldlM insertMember db
  | .insertParity rows, db => rows.foldlM insertParityRow db
  | .insertIntent row, db => insertIntent row db
  | .insertAllocation request, db => insertAllocation isToday request db
  | .insertLink row, db => insertLink row db
  | .insertShadow none, _ => .error .check
  | .insertShadow (some row), db => insertShadow row db
  | .insertSettlement row, db => insertSettlement row db
  | .insertApplication row, db => insertApplication row db
  | .terminateShadow termination, db => terminateShadow termination db

/-- The database, with its batches of statements. -/
abbrev database (isToday : String → Bool) : Store where
  State := Database
  Statement := Statement
  Failure := Failure
  exec := exec isToday

end Exec

end TradeOps.EntryV3
