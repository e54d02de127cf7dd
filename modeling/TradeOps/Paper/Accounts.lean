import TradeOps.Lib.Doubles
import TradeOps.Lib.SafeIntegers
import TradeOps.Lib.SortBy
import TradeOps.Lib.Tables
import Mathlib.Data.String.Basic
import Mathlib.Algebra.Order.BigOperators.Group.List

/-!
# Paper accounts

Embeds the paper tables of `0002_paper_ledger.sql`, `0009_paper_simulator.sql` and
`0019_paper_readiness_atomic_gates.sql` with the views `paper_account_projections` and
`paper_account_readiness_metrics`. A table is the list of its rows in the order of their row
numbers. `INTEGER` division truncates. The products `risk_amount_minor * outcome_r_millis` stay
below `2 ^ 63` for every allocation that passed the readiness gate, whose risk is at most a
fiftieth of a safe integer. A number that JavaScript binds is a `REAL`, and what is computed with it
is a double.

Columns that no view and no trigger of the risk gate reads are left out. `isToday` is the test
`date(settled_at) = date('now')`.
-/

namespace TradeOps.Paper

open SafeIntegers SortBy

/-! ## Rows -/

/-- A row of `paper_accounts`. -/
structure AccountRow where
  accountId : String
  label : String
  openingBalanceMinor : Int
  deriving DecidableEq, Repr

/-- A row of `paper_ledger_entries`. -/
structure LedgerEntryRow where
  accountId : String
  amountMinor : Int
  deriving DecidableEq, Repr

/-- A row of `paper_trade_allocations`. -/
structure AllocationRow where
  allocationId : String
  intentId : String
  accountId : String
  riskAmountMinor : Int
  balanceBeforeMinor : Int
  createdAt : String
  deriving DecidableEq, Repr

/-- A row of `paper_trade_settlements`. -/
structure SettlementRow where
  settlementId : String
  intentId : String
  outcomeRMillis : Int
  settledAt : String
  deriving DecidableEq, Repr

/-- A row of `paper_kill_switch_events`. -/
structure KillSwitchEventRow where
  controlSequence : Int
  enabled : Bool
  deriving DecidableEq, Repr

structure Database where
  accounts : List AccountRow
  ledgerEntries : List LedgerEntryRow
  allocations : List AllocationRow
  settlements : List SettlementRow
  killSwitchEvents : List KillSwitchEventRow
  deriving DecidableEq, Repr

/-- A row of `paper_account_readiness_metrics`, `PaperReadinessAccountInput` of the application. -/
structure ReadinessMetric where
  accountId : String
  label : String
  openingBalanceMinor : Int
  balanceMinor : Int
  dailyPnlMinor : Int
  openRiskMinor : Int
  openPositions : Int
  maxDrawdownMinor : Int
  deriving DecidableEq, Repr

/-! ## Risk -/

/-- The magnitude of `balance_minor * ?`, for basis points that are bound. -/
def riskProduct (balanceMinor riskBps : Int) : Nat :=
  Double.ofNat (Double.ofNat balanceMinor.natAbs * riskBps.natAbs)

/-- `CAST(balance_minor * ? / 10000 AS INTEGER)`. -/
def riskAmountMinor (balanceMinor riskBps : Int) : Int :=
  (balanceMinor * riskBps).sign * Double.truncDiv (riskProduct balanceMinor riskBps) 10000

/-- The basis points of an intent take at most nine bits. -/
theorem riskProduct_le {balanceMinor riskBps : Int} (hbalance : IsSafe balanceMinor)
    (hlow : 1 ≤ riskBps) (hhigh : riskBps ≤ 500) : riskProduct balanceMinor riskBps ≤ 2 ^ 62 := by
  have hmax : maxSafeInteger = 2 ^ 53 - 1 := rfl
  have habs : balanceMinor.natAbs < 2 ^ 53 := by
    unfold IsSafe at hbalance
    omega
  have hbps : riskBps.natAbs ≤ 500 := by omega
  rw [riskProduct, Double.ofNat_eq habs]
  apply Double.ofNat_le_pow _ (by decide)
  calc balanceMinor.natAbs * riskBps.natAbs ≤ balanceMinor.natAbs * 500 :=
        Nat.mul_le_mul_left _ hbps
    _ < 2 ^ 62 := by omega

theorem natAbs_riskAmountMinor_le {balanceMinor riskBps : Int} (hbalance : IsSafe balanceMinor)
    (hlow : 1 ≤ riskBps) (hhigh : riskBps ≤ 500) :
    10000 * (riskAmountMinor balanceMinor riskBps).natAbs ≤ 2 ^ 62 + 10000 := by
  have hproduct := riskProduct_le hbalance hlow hhigh
  have hquotient := Double.truncDiv_le (a := riskProduct balanceMinor riskBps) (b := 10000)
    (by decide) (by omega)
  have hsign : (balanceMinor * riskBps).sign.natAbs ≤ 1 := by
    rw [Int.natAbs_sign]
    split <;> decide
  have habs : (riskAmountMinor balanceMinor riskBps).natAbs ≤
      Double.truncDiv (riskProduct balanceMinor riskBps) 10000 := by
    rw [riskAmountMinor, Int.natAbs_mul, Int.natAbs_natCast]
    exact (Nat.mul_le_mul_right _ hsign).trans_eq (Nat.one_mul _)
  omega

/-! ## Views -/

/-- `CAST(risk_amount_minor * outcome_r_millis / 1000 AS INTEGER)`. -/
def pnlMinor (allocation : AllocationRow) (settlement : SettlementRow) : Int :=
  (allocation.riskAmountMinor * settlement.outcomeRMillis).tdiv 1000

/-- The drawdown at every point of a run of results: the highest total so far, at least zero, less
the total. -/
def drawdowns : Int → Int → List Int → List Int
  | _, _, [] => []
  | peak, total, pnl :: rest =>
    (max peak (total + pnl) - (total + pnl)) ::
      drawdowns (max peak (total + pnl)) (total + pnl) rest

namespace Database

variable (isToday : String → Bool) (db : Database) (accountId : String)

def manualDeltaMinor : Int :=
  ((db.ledgerEntries.filter (·.accountId = accountId)).map (·.amountMinor)).sum

/-- The settled allocations of an account, in the order of their settlements. -/
def settled : List (AllocationRow × SettlementRow) :=
  db.settlements.flatMap fun settlement =>
    (db.allocations.filter fun allocation =>
      allocation.intentId = settlement.intentId ∧ allocation.accountId = accountId).map
      fun allocation => (allocation, settlement)

def simulatedPnlMinor : Int :=
  ((db.settled accountId).map fun row => pnlMinor row.1 row.2).sum

def dailyPnlMinor : Int :=
  (((db.settled accountId).filter fun row => isToday row.2.settledAt).map
    fun row => pnlMinor row.1 row.2).sum

-- `ORDER BY settled_at, settlement_order`: the rows stand in the order of the settlements and the
-- sort is stable.
def maxDrawdownMinor : Int :=
  (drawdowns 0 0 ((sortBy (fun row => row.2.settledAt) (db.settled accountId)).map
    fun row => pnlMinor row.1 row.2)).foldr max 0

/-- The allocations of an account whose intent has no settlement. -/
def openAllocations : List AllocationRow :=
  db.allocations.filter fun allocation =>
    allocation.accountId = accountId ∧
      (db.settlements.all fun settlement => settlement.intentId ≠ allocation.intentId)

def openRiskMinor : Int := ((db.openAllocations accountId).map (·.riskAmountMinor)).sum

def balanceMinor (account : AccountRow) : Int :=
  account.openingBalanceMinor + db.manualDeltaMinor account.accountId +
    db.simulatedPnlMinor account.accountId

/-- `paper_account_readiness_metrics`, at one account. -/
def readinessMetric : Option ReadinessMetric :=
  (db.accounts.find? (·.accountId = accountId)).map fun account =>
    { accountId := account.accountId
      label := account.label
      openingBalanceMinor := account.openingBalanceMinor
      balanceMinor := db.balanceMinor account
      dailyPnlMinor := db.dailyPnlMinor isToday account.accountId
      openRiskMinor := db.openRiskMinor account.accountId
      openPositions := (db.openAllocations account.accountId).length
      maxDrawdownMinor := db.maxDrawdownMinor account.accountId }

/-- The newest event decides; without an event the switch is on. -/
def killSwitchEnabled : Bool :=
  match minBy (fun event => -event.controlSequence) db.killSwitchEvents with
  | some event => event.enabled
  | none => true

end Database

/-! ## Statements -/

/-- What the `CHECK` clauses say of the rows. -/
structure Database.WellFormed (db : Database) : Prop where
  opening : ∀ account ∈ db.accounts,
    0 ≤ account.openingBalanceMinor ∧ account.openingBalanceMinor ≤ maxSafeInteger
  risk : ∀ allocation ∈ db.allocations,
    1 ≤ allocation.riskAmountMinor ∧ allocation.riskAmountMinor ≤ maxSafeInteger

def Database.insertAllocation (db : Database) (row : AllocationRow) : Database :=
  { db with allocations := db.allocations ++ [row] }

/-- The intent of the row has no settlement yet. -/
def Database.Unsettled (db : Database) (row : AllocationRow) : Prop :=
  ∀ settlement ∈ db.settlements, settlement.intentId ≠ row.intentId

section Insert

variable {isToday : String → Bool} {db : Database} {row : AllocationRow} {accountId : String}

@[simp] theorem killSwitchEnabled_insertAllocation :
    (db.insertAllocation row).killSwitchEnabled = db.killSwitchEnabled := rfl

@[simp] theorem unsettled_insertAllocation {row' : AllocationRow} :
    (db.insertAllocation row).Unsettled row' ↔ db.Unsettled row' := Iff.rfl

theorem settled_insertAllocation (h : db.Unsettled row) (accountId : String) :
    (db.insertAllocation row).settled accountId = db.settled accountId := by
  unfold Database.settled
  apply List.flatMap_congr
  intro settlement hs
  have hrow : ¬(row.intentId = settlement.intentId ∧ row.accountId = accountId) :=
    fun hboth => h settlement hs hboth.1.symm
  simp [Database.insertAllocation, List.filter_append, hrow]

theorem openAllocations_insertAllocation (h : db.Unsettled row)
    (haccount : row.accountId = accountId) :
    (db.insertAllocation row).openAllocations accountId =
    db.openAllocations accountId ++ [row] := by
  have hopen : (row.accountId = accountId ∧
      (db.settlements.all fun settlement => settlement.intentId ≠ row.intentId) = true) := by
    refine ⟨haccount, ?_⟩
    rw [List.all_eq_true]
    intro settlement hs
    simpa using h settlement hs
  show (db.allocations ++ [row]).filter (fun allocation => allocation.accountId = accountId ∧
    (db.settlements.all fun settlement => settlement.intentId ≠ allocation.intentId)) = _
  rw [List.filter_append, List.filter_cons_of_pos (by simpa using hopen), List.filter_nil]
  rfl

/-- An allocation for an intent without a settlement adds to the open risk and to the open
positions of its account and leaves the other metrics alone. -/
theorem readinessMetric_insertAllocation (h : db.Unsettled row)
    (haccount : row.accountId = accountId) :
    (db.insertAllocation row).readinessMetric isToday accountId =
      (db.readinessMetric isToday accountId).map fun metric =>
        { metric with
          openRiskMinor := metric.openRiskMinor + row.riskAmountMinor
          openPositions := metric.openPositions + 1 } := by
  unfold Database.readinessMetric
  rw [Option.map_map]
  show (db.accounts.find? _).map _ = _
  apply Option.map_congr
  intro account hfind
  have hid : account.accountId = accountId := by
    have hfound := List.find?_some (Option.mem_def.1 hfind)
    simpa using hfound
  have hsettled := settled_insertAllocation h account.accountId
  have hopen := openAllocations_insertAllocation h (haccount.trans hid.symm)
  simp only [Function.comp_apply, Database.balanceMinor, Database.simulatedPnlMinor,
    Database.dailyPnlMinor, Database.maxDrawdownMinor, Database.openRiskMinor, hsettled, hopen,
    List.map_append, List.sum_append, List.map_cons, List.map_nil, List.sum_cons, List.sum_nil,
    List.length_append, List.length_cons, List.length_nil]
  congr 1
  omega

/-- The open risk is a sum of positive amounts. -/
theorem openRiskMinor_nonneg (h : db.WellFormed) (accountId : String) :
    0 ≤ db.openRiskMinor accountId := by
  unfold Database.openRiskMinor
  apply List.sum_nonneg
  intro risk hrisk
  obtain ⟨allocation, hmem, rfl⟩ := List.mem_map.1 hrisk
  have hpositive := (h.risk allocation (List.mem_of_mem_filter hmem)).1
  omega

theorem readinessMetric_nonneg {metric : ReadinessMetric} (h : db.WellFormed)
    (hmetric : db.readinessMetric isToday accountId = some metric) :
    0 ≤ metric.openingBalanceMinor ∧ 0 ≤ metric.openRiskMinor ∧ 0 ≤ metric.openPositions := by
  obtain ⟨account, hfind, rfl⟩ := Option.map_eq_some_iff.mp hmetric
  exact ⟨(h.opening account (List.mem_of_find?_eq_some hfind)).1, openRiskMinor_nonneg h _,
    Int.natCast_nonneg _⟩

end Insert

end TradeOps.Paper
