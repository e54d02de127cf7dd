import TradeOps.Paper.Readiness

/-!
# The paper ledger

Embeds the statements that write the paper tables, with the triggers that stand before them:
account creation and manual adjustment (`paper-ledger-queries.ts`, `0002_paper_ledger.sql`,
`0007_paper_ledger_contiguous_sequence.sql`, `0008_paper_ledger_safe_balance.sql`), trade intents
with their allocations and settlements (`paper-simulator-queries.ts`, `0009_paper_simulator.sql`,
`0016_paper_trade_settlement_safe_balance.sql`, `0019_paper_readiness_atomic_gates.sql`).

An intent is always inserted in one batch with its allocations, and the basis points that the
allocations are bound with are those of the intent. `INSERT OR IGNORE` passes over a row that a
`CHECK` or a key refuses; a trigger aborts the batch. The checks of texts are left out, and so are
the columns that no view and no trigger reads; the random key of a ledger entry is taken as fresh.
-/

namespace TradeOps.Paper

open SafeIntegers

/-! ## The tables -/

/-- A row of `paper_ledger_entries` with its sequence. -/
structure SequencedEntryRow where
  accountId : String
  sequence : Int
  amountMinor : Int
  deriving DecidableEq, Repr

/-- A row of `paper_trade_intents`. -/
structure IntentRow where
  intentId : String
  riskBps : Int
  deriving DecidableEq, Repr

structure Books where
  accounts : List AccountRow
  entries : List SequencedEntryRow
  intents : List IntentRow
  allocations : List AllocationRow
  settlements : List SettlementRow
  killSwitchEvents : List KillSwitchEventRow
  deriving DecidableEq, Repr

namespace Books

def empty : Books := ⟨[], [], [], [], [], []⟩

/-- The tables as the views read them. -/
def database (books : Books) : Database :=
  { accounts := books.accounts
    ledgerEntries := books.entries.map fun entry => ⟨entry.accountId, entry.amountMinor⟩
    allocations := books.allocations
    settlements := books.settlements
    killSwitchEvents := books.killSwitchEvents }

variable (books : Books) (accountId : String)

def account : Option AccountRow := books.accounts.find? (·.accountId = accountId)

def accountEntries : List SequencedEntryRow := books.entries.filter (·.accountId = accountId)

/-- `COALESCE(MAX(sequence), 0)`. -/
def lastSequence : Int := ((books.accountEntries accountId).map (·.sequence)).foldr max 0

def manualDeltaMinor : Int := books.database.manualDeltaMinor accountId

/-- `ledger_delta_minor` of `paper_account_projections`. -/
def ledgerDeltaMinor : Int :=
  books.manualDeltaMinor accountId + books.database.simulatedPnlMinor accountId

/-- `balance_minor` of `paper_account_projections`. -/
def balanceMinor (account : AccountRow) : Int := books.database.balanceMinor account

end Books

/-! ## Statements -/

inductive Abort where
  | ledgerSequenceConflict
  | balanceOutOfSafeRange
  | safetyGateBlocked
  | settlementBalanceOutOfRange
  | constraint
  deriving DecidableEq, Repr

/-- The amount, added to the total, stays within the safe integers. -/
def staysSafe (amount total : Int) : Bool :=
  -maxSafeInteger - total ≤ amount ∧ amount ≤ maxSafeInteger - total

inductive Statement where
  | insertAccount (row : AccountRow)
  | insertLedgerEntry (row : SequencedEntryRow)
  | insertIntent (row : IntentRow)
  | insertAllocation (intent : IntentRow) (allocationId accountId createdAt : String)
  | insertSettlement (row : SettlementRow)
  | insertKillSwitchEvent (enabled : Bool)
  deriving DecidableEq, Repr

namespace Books

variable (books : Books)

def insertAccount (row : AccountRow) : Books :=
  if (books.account row.accountId).isNone ∧
      0 ≤ row.openingBalanceMinor ∧ row.openingBalanceMinor ≤ maxSafeInteger then
    { books with accounts := books.accounts ++ [row] }
  else books

/-- The rows that `INSERT_PAPER_LEDGER_ENTRY_SQL` selects. -/
def selectsEntry (row : SequencedEntryRow) (account : AccountRow) : Bool :=
  row.sequence = books.lastSequence row.accountId + 1 ∧
    staysSafe row.amountMinor (books.balanceMinor account) ∧
    staysSafe row.amountMinor (books.ledgerDeltaMinor row.accountId)

/-- `paper_ledger_safe_balance` lets the row pass: it counts the manual entries only. -/
def manualStaysSafe (row : SequencedEntryRow) (account : AccountRow) : Bool :=
  staysSafe row.amountMinor (account.openingBalanceMinor + books.manualDeltaMinor row.accountId) ∧
    staysSafe row.amountMinor (books.manualDeltaMinor row.accountId)

/-- The `CHECK` clauses of `paper_ledger_entries`. -/
def entryChecks (row : SequencedEntryRow) : Bool :=
  1 ≤ row.sequence ∧ row.sequence ≤ maxSafeInteger ∧ isSafeInteger row.amountMinor ∧
    row.amountMinor ≠ 0

def insertLedgerEntry (row : SequencedEntryRow) : Except Abort Books :=
  match books.account row.accountId with
  | none => .ok books
  | some account =>
    if !books.selectsEntry row account then .ok books
    else if row.sequence ≠ books.lastSequence row.accountId + 1 then .error .ledgerSequenceConflict
    else if !books.manualStaysSafe row account then .error .balanceOutOfSafeRange
    else if !entryChecks row then .ok books
    else .ok { books with entries := books.entries ++ [row] }

def insertIntent (row : IntentRow) : Except Abort Books :=
  if books.intents.any (·.intentId = row.intentId) ∨ row.riskBps < 1 ∨ 500 < row.riskBps then
    .error .constraint
  else .ok { books with intents := books.intents ++ [row] }

/-- `risk_amount_minor` of `account_state`. -/
def riskAmountMinor (account : AccountRow) (riskBps : Int) : Int :=
  Paper.riskAmountMinor (books.balanceMinor account) riskBps

/-- A balance or a risk that is not positive is selected as `NULL`, which the gate refuses, and so
is an intent that is not there. -/
def insertAllocation (isToday : String → Bool) (intent : IntentRow)
    (allocationId accountId createdAt : String) : Except Abort Books :=
  match books.account accountId with
  | none => .error .safetyGateBlocked
  | some account =>
    let risk := books.riskAmountMinor account intent.riskBps
    let row : AllocationRow := ⟨allocationId, intent.intentId, accountId, risk,
      books.balanceMinor account, createdAt⟩
    if intent ∉ books.intents ∨ books.balanceMinor account ≤ 0 ∨ risk ≤ 0 ∨
        readinessGateBlocks isToday books.database row then .error .safetyGateBlocked
    else if maxSafeInteger < risk ∨ !isSafeInteger (books.balanceMinor account) ∨
        (books.allocations.any fun other => other.allocationId = allocationId ∨
          (other.intentId = intent.intentId ∧ other.accountId = accountId)) then .error .constraint
    else .ok { books with allocations := books.allocations ++ [row] }

/-- `paper_trade_settlement_safe_balance` lets the row pass. -/
def settlementStaysSafe (row : SettlementRow) : Bool :=
  (books.allocations.any (·.intentId = row.intentId)) ∧
    books.allocations.all fun allocation =>
      allocation.intentId ≠ row.intentId ∨
        (books.account allocation.accountId).all fun account =>
          staysSafe (pnlMinor allocation row) (books.balanceMinor account)

def insertSettlement (row : SettlementRow) : Except Abort Books :=
  if !books.settlementStaysSafe row then .error .settlementBalanceOutOfRange
  else if row.outcomeRMillis < -1000 ∨ 10000 < row.outcomeRMillis ∨
      !books.intents.any (·.intentId = row.intentId) ∨
      (books.settlements.any fun other =>
        other.settlementId = row.settlementId ∨ other.intentId = row.intentId) then
    .error .constraint
  else .ok { books with settlements := books.settlements ++ [row] }

/-- One statement, on a day that `isToday` tells. -/
def exec (isToday : String → Bool) (books : Books) : Statement → Except Abort Books
  | .insertAccount row => .ok (books.insertAccount row)
  | .insertLedgerEntry row => books.insertLedgerEntry row
  | .insertIntent row => books.insertIntent row
  | .insertAllocation intent allocationId accountId createdAt =>
    books.insertAllocation isToday intent allocationId accountId createdAt
  | .insertSettlement row => books.insertSettlement row
  | .insertKillSwitchEvent enabled =>
    .ok { books with
      killSwitchEvents := books.killSwitchEvents ++ [⟨books.killSwitchEvents.length + 1, enabled⟩] }

end Books

/-! ## Operations -/

inductive Operation where
  | createAccount (row : AccountRow)
  | adjust (row : SequencedEntryRow)
  | openTrade (intent : IntentRow) (allocations : List (String × String)) (createdAt : String)
  | settle (row : SettlementRow)
  | setKillSwitch (enabled : Bool)
  deriving DecidableEq, Repr

/-- The batch of an operation; an allocation is given by its own id and the id of its account. -/
def Operation.statements : Operation → List Statement
  | .createAccount row => [.insertAccount row]
  | .adjust row => [.insertLedgerEntry row]
  | .openTrade intent allocations createdAt =>
    .insertIntent intent :: allocations.map fun allocation =>
      .insertAllocation intent allocation.1 allocation.2 createdAt
  | .settle row => [.insertSettlement row]
  | .setKillSwitch enabled => [.insertKillSwitchEvent enabled]

/-- An operation on a day. -/
structure Command where
  operation : Operation
  isToday : String → Bool

/-- The batch as a whole, or nothing of it. -/
def Books.apply (books : Books) (command : Command) : Books :=
  match command.operation.statements.foldlM (Books.exec command.isToday) books with
  | .ok next => next
  | .error _ => books

def Books.run (books : Books) (commands : List Command) : Books :=
  commands.foldl Books.apply books

end TradeOps.Paper
