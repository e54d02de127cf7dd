import TradeOps.Paper.Accounts

/-!
# The two paper risk gates

Embeds `paperAccountAllowsNewOpen` of `paper-readiness.ts` and the trigger
`paper_trade_allocations_readiness_gate` of `0019_paper_readiness_atomic_gates.sql`. The application
asks once for all the positions it wants to open, with ratios in basis points; the trigger is asked
at every insert and compares amounts. For a positive opening balance the two agree at every
rounding boundary. An opening balance of zero passes the ratios of the application, where a
quotient by zero counts as zero, and no loss is below the zero thresholds of the trigger.

Numbers of the application are safe integers, for which the arithmetic of doubles is exact; a sum
of two safe integers that is not safe stays above the bound when it is rounded.
-/

namespace TradeOps.Paper

open SafeIntegers

/-! ## The application -/

/-- `PAPER_READINESS_THRESHOLDS`, as far as the accounts are concerned. -/
def maxDailyLossBps : Int := 500
def maxTotalDrawdownBps : Int := 1000
def maxOpenRiskBps : Int := 200
def maxOpenPositions : Int := 4

def ratioBps (numerator denominator : Int) : Int :=
  if numerator ≤ 0 ∨ denominator ≤ 0 then 0
  else
    let value := numerator * 10000 / denominator
    if value > maxSafeInteger then maxSafeInteger else value

def ratioExceedsBps (numerator denominator limitBps : Int) : Bool :=
  if numerator ≤ 0 ∨ denominator ≤ 0 then false
  else numerator * 10000 > denominator * limitBps

inductive ReasonCode where
  | nonPositiveBalance | dailyLossLimit | totalDrawdownLimit | openRiskLimit | openPositionLimit
  deriving DecidableEq, Repr

structure Reason where
  code : ReasonCode
  accountId : String
  message : String
  deriving DecidableEq, Repr

inductive AccountState where
  | ready | stopped
  deriving DecidableEq, Repr

structure AccountReport where
  accountId : String
  label : String
  state : AccountState
  dailyPnlMinor : Int
  dailyLossBps : Int
  totalDrawdownBps : Int
  openRiskBps : Int
  openPositions : Int
  reasons : List Reason
  deriving DecidableEq, Repr

def accountReasons (account : ReadinessMetric) (dailyLossBps totalDrawdownBps : Int) :
    List Reason :=
  let reason (holds : Bool) (code : ReasonCode) (text : String) : List Reason :=
    if holds then [{ code, accountId := account.accountId, message := account.label ++ text }]
    else []
  reason (account.balanceMinor ≤ 0) .nonPositiveBalance " has no positive paper balance." ++
  reason (dailyLossBps ≥ maxDailyLossBps) .dailyLossLimit " reached the daily-loss limit." ++
  reason (totalDrawdownBps ≥ maxTotalDrawdownBps) .totalDrawdownLimit
    " reached the total-drawdown limit." ++
  reason (ratioExceedsBps account.openRiskMinor account.balanceMinor maxOpenRiskBps)
    .openRiskLimit " exceeds the aggregate open-risk limit." ++
  reason (account.openPositions > maxOpenPositions) .openPositionLimit
    " exceeds the open-position limit."

def accountReport (account : ReadinessMetric) : AccountReport :=
  let dailyLossBps := ratioBps (max 0 (-account.dailyPnlMinor)) account.openingBalanceMinor
  let totalDrawdownBps := ratioBps account.maxDrawdownMinor account.openingBalanceMinor
  let reasons := accountReasons account dailyLossBps totalDrawdownBps
  { accountId := account.accountId
    label := account.label
    state := if reasons = [] then .ready else .stopped
    dailyPnlMinor := account.dailyPnlMinor
    dailyLossBps
    totalDrawdownBps
    openRiskBps := ratioBps account.openRiskMinor account.balanceMinor
    openPositions := account.openPositions
    reasons }

def paperAccountAllowsNewOpen (account : ReadinessMetric)
    (candidateRiskMinor candidatePositions : Int) : Bool :=
  if !isSafeInteger candidateRiskMinor || candidateRiskMinor ≤ 0 ||
      !isSafeInteger candidatePositions || candidatePositions < 1 then false
  else
    let openRiskMinor := account.openRiskMinor + candidateRiskMinor
    let openPositions := account.openPositions + candidatePositions
    if !isSafeInteger openRiskMinor || !isSafeInteger openPositions then false
    else (accountReport { account with openRiskMinor, openPositions }).state = .ready

/-! ## The trigger -/

/-- The loss from which on the trigger refuses, in two steps that keep the product small:
`balance * bps / 10000` rounded up. -/
def lossThreshold (openingBalanceMinor bps : Int) : Int :=
  openingBalanceMinor.tdiv 10000 * bps + (openingBalanceMinor.tmod 10000 * bps + 9999).tdiv 10000

/-- The open risk up to which the trigger lets an allocation pass, rounded down. -/
def openRiskLimit (balanceMinor : Int) : Int :=
  balanceMinor.tdiv 10000 * 200 + (balanceMinor.tmod 10000 * 200).tdiv 10000

/-- The condition on the metrics of the account. -/
def metricBlocks (metric : ReadinessMetric) (riskAmountMinor : Int) : Bool :=
  metric.balanceMinor ≤ 0 ||
  max 0 (-metric.dailyPnlMinor) ≥ lossThreshold metric.openingBalanceMinor 500 ||
  metric.maxDrawdownMinor ≥ lossThreshold metric.openingBalanceMinor 1000 ||
  metric.openRiskMinor + riskAmountMinor > openRiskLimit metric.balanceMinor ||
  metric.openPositions ≥ 4

/-- `paper_trade_allocations_readiness_gate`: the `WHEN` clause for a row whose columns are not
`NULL`. -/
def readinessGateBlocks (isToday : String → Bool) (db : Database) (row : AllocationRow) : Bool :=
  row.riskAmountMinor ≤ 0 || db.killSwitchEnabled ||
    (db.readinessMetric isToday row.accountId).any fun metric =>
      metricBlocks metric row.riskAmountMinor

/-- Every one of a sequence of inserts passes the trigger, each asked after the ones before it. -/
def insertsPass (isToday : String → Bool) : Database → List AllocationRow → Bool
  | _, [] => true
  | db, row :: rest =>
    !readinessGateBlocks isToday db row && insertsPass isToday (db.insertAllocation row) rest

/-! ## Thresholds and ratios -/

/-- What both gates ask of the risk, the balance and the open positions, for `k` more positions. -/
def Fits (account : ReadinessMetric) (risk k : Int) : Prop :=
  0 < risk ∧ 0 < account.balanceMinor ∧
    (account.openRiskMinor + k * risk) * 10000 ≤ account.balanceMinor * 200 ∧
    account.openPositions + k ≤ 4

/-- The losses are below the ratios of the application. -/
def BelowRatios (account : ReadinessMetric) : Prop :=
  ratioBps (max 0 (-account.dailyPnlMinor)) account.openingBalanceMinor < maxDailyLossBps ∧
    ratioBps account.maxDrawdownMinor account.openingBalanceMinor < maxTotalDrawdownBps

/-- The losses are below the thresholds of the trigger. -/
def BelowThresholds (account : ReadinessMetric) : Prop :=
  max 0 (-account.dailyPnlMinor) < lossThreshold account.openingBalanceMinor 500 ∧
    account.maxDrawdownMinor < lossThreshold account.openingBalanceMinor 1000

/-- The threshold is the quotient rounded up. -/
theorem lt_lossThreshold_iff {opening bps loss : Int} (hopening : 0 ≤ opening) (hbps : 0 ≤ bps) :
    loss < lossThreshold opening bps ↔ loss * 10000 < opening * bps := by
  have hmod : 0 ≤ opening % 10000 := Int.emod_nonneg _ (by decide)
  have hrest : 0 ≤ opening % 10000 * bps := Int.mul_nonneg hmod hbps
  have hsplit : opening * bps = 10000 * (opening / 10000 * bps) + opening % 10000 * bps := by
    conv_lhs => rw [← Int.mul_ediv_add_emod opening 10000]
    rw [Int.add_mul, Int.mul_assoc]
  unfold lossThreshold
  rw [Int.tdiv_eq_ediv_of_nonneg hopening, Int.tmod_eq_emod_of_nonneg hopening,
    Int.tdiv_eq_ediv_of_nonneg (by omega), hsplit]
  omega

/-- The limit is the quotient rounded down. -/
theorem le_openRiskLimit_iff {balance risk : Int} (hbalance : 0 < balance) :
    risk ≤ openRiskLimit balance ↔ risk * 10000 ≤ balance * 200 := by
  have hmod : 0 ≤ balance % 10000 := Int.emod_nonneg _ (by decide)
  unfold openRiskLimit
  rw [Int.tdiv_eq_ediv_of_nonneg (by omega), Int.tmod_eq_emod_of_nonneg (by omega),
    Int.tdiv_eq_ediv_of_nonneg (by omega)]
  omega

theorem ratioBps_lt_iff {opening bps loss : Int} (hopening : 0 < opening) (hbps : 0 < bps)
    (hsafe : bps ≤ maxSafeInteger) :
    ratioBps loss opening < bps ↔ loss * 10000 < opening * bps := by
  unfold ratioBps
  by_cases hloss : loss ≤ 0
  · have hpositive : 0 < opening * bps := Int.mul_pos hopening hbps
    rw [if_pos (.inl hloss)]
    omega
  · rw [if_neg (by omega)]
    have hquotient : loss * 10000 / opening < bps ↔ loss * 10000 < opening * bps := by
      rw [Int.ediv_lt_iff_lt_mul hopening, Int.mul_comm bps]
    show (if _ then _ else _) < bps ↔ _
    by_cases hlarge : loss * 10000 / opening > maxSafeInteger
    · rw [if_pos hlarge, ← hquotient]
      omega
    · rw [if_neg hlarge, hquotient]

/-- With a positive opening balance the ratios and the thresholds say the same. -/
theorem belowRatios_iff {account : ReadinessMetric} (hopening : 0 < account.openingBalanceMinor) :
    BelowRatios account ↔ BelowThresholds account := by
  unfold BelowRatios BelowThresholds maxDailyLossBps maxTotalDrawdownBps
  rw [ratioBps_lt_iff hopening (by decide) (by decide),
    ratioBps_lt_iff hopening (by decide) (by decide),
    lt_lossThreshold_iff (by omega) (by decide), lt_lossThreshold_iff (by omega) (by decide)]

/-- A quotient by zero counts as zero. -/
theorem belowRatios_of_zero {account : ReadinessMetric}
    (hopening : account.openingBalanceMinor = 0) :
    BelowRatios account := by
  simp [BelowRatios, ratioBps, hopening, maxDailyLossBps, maxTotalDrawdownBps]

/-- No loss is below a threshold of zero. -/
theorem not_belowThresholds_of_zero {account : ReadinessMetric}
    (hopening : account.openingBalanceMinor = 0) : ¬BelowThresholds account := by
  rintro ⟨hdaily, -⟩
  rw [hopening, lt_lossThreshold_iff (by decide) (by decide)] at hdaily
  omega

/-! ## What each gate lets pass -/

theorem ratioExceedsBps_eq_false_iff {numerator denominator limitBps : Int} (hn : 0 < numerator)
    (hd : 0 < denominator) :
    ratioExceedsBps numerator denominator limitBps = false ↔
      numerator * 10000 ≤ denominator * limitBps := by
  unfold ratioExceedsBps
  rw [if_neg (by omega), decide_eq_false_iff_not]
  omega

theorem accountReport_ready_iff {account : ReadinessMetric} (hrisk : 0 < account.openRiskMinor) :
    (accountReport account).state = .ready ↔
      0 < account.balanceMinor ∧ BelowRatios account ∧
        account.openRiskMinor * 10000 ≤ account.balanceMinor * 200 ∧
        account.openPositions ≤ 4 := by
  have hstate : ∀ reasons : List Reason,
      ((if reasons = [] then AccountState.ready else .stopped) = .ready) ↔ reasons = [] := by
    intro reasons
    split <;> simp_all
  unfold accountReport
  rw [hstate]
  simp only [accountReasons, List.append_eq_nil_iff, ite_eq_right_iff, reduceCtorEq, imp_false,
    decide_eq_true_eq, not_le, not_lt, Bool.not_eq_true, ge_iff_le, gt_iff_lt]
  by_cases hbalance : 0 < account.balanceMinor
  · rw [ratioExceedsBps_eq_false_iff hrisk hbalance]
    simp only [BelowRatios, maxOpenRiskBps, maxOpenPositions, and_assoc]
  · exact ⟨fun h => absurd h.1.1.1.1 hbalance, fun h => absurd h.1 hbalance⟩

/-- The application lets `k` positions of one risk be opened when they fit and the losses are
below its ratios. The safe-integer tests exclude nothing more: what fits is at most a fiftieth of
the balance. -/
theorem paperAccountAllowsNewOpen_iff {account : ReadinessMetric} {risk k : Int} (hk : 1 ≤ k)
    (hbalance : isSafeInteger account.balanceMinor = true) (hrisk : 0 ≤ account.openRiskMinor)
    (hpositions : 0 ≤ account.openPositions) :
    paperAccountAllowsNewOpen account (k * risk) k = true ↔
      Fits account risk k ∧ BelowRatios account := by
  have hpositive : 0 < k * risk ↔ 0 < risk := by
    constructor
    · intro h
      by_contra hrisk
      have hneg : k * risk ≤ 0 := Int.mul_nonpos_of_nonneg_of_nonpos (by omega) (by omega)
      omega
    · intro h
      exact Int.mul_pos (by omega) h
  rw [isSafeInteger_iff] at hbalance
  unfold paperAccountAllowsNewOpen Fits
  rw [← hpositive]
  generalize k * risk = total
  by_cases htotal : 0 < total
  · have hready := @accountReport_ready_iff { account with
      openRiskMinor := account.openRiskMinor + total
      openPositions := account.openPositions + k }
      (by show 0 < account.openRiskMinor + total; omega)
    constructor
    · intro h
      split at h
      next => exact absurd h Bool.false_ne_true
      next =>
        dsimp only at h
        split at h
        next => exact absurd h Bool.false_ne_true
        next =>
          obtain ⟨hbal, hratios, hopen, hcount⟩ := hready.mp (of_decide_eq_true h)
          exact ⟨⟨htotal, hbal, hopen, hcount⟩, hratios⟩
    · rintro ⟨⟨-, hbal, hopen, hcount⟩, hratios⟩
      have hsafe : isSafeInteger total = true ∧ isSafeInteger k = true ∧
          isSafeInteger (account.openRiskMinor + total) = true ∧
          isSafeInteger (account.openPositions + k) = true := by
        simp only [isSafeInteger_iff]
        exact ⟨⟨by omega, by omega⟩, ⟨by omega, by omega⟩, ⟨by omega, by omega⟩, by omega, by omega⟩
      obtain ⟨htotalSafe, hkSafe, hopenSafe, hcountSafe⟩ := hsafe
      rw [if_neg (by simp [htotalSafe, hkSafe]; omega)]
      show (if _ then _ else _) = true
      rw [if_neg (by simp [hopenSafe, hcountSafe])]
      exact decide_eq_true (hready.mpr ⟨hbal, hratios, hopen, hcount⟩)
  · rw [if_pos (by simp; omega)]
    exact ⟨fun h => absurd h Bool.false_ne_true, fun h => absurd h.1.1 htotal⟩

theorem readinessGateBlocks_eq_false_iff {isToday : String → Bool} {db : Database}
    {row : AllocationRow} {account : ReadinessMetric}
    (hmetric : db.readinessMetric isToday row.accountId = some account)
    (hkill : db.killSwitchEnabled = false) :
    readinessGateBlocks isToday db row = false ↔
      Fits account row.riskAmountMinor 1 ∧ BelowThresholds account := by
  unfold readinessGateBlocks metricBlocks Fits BelowThresholds
  rw [hmetric, hkill]
  by_cases hbalance : 0 < account.balanceMinor
  · have hlimit := @le_openRiskLimit_iff account.balanceMinor
      (account.openRiskMinor + row.riskAmountMinor) hbalance
    simp only [Option.any_some, Bool.or_false, Bool.or_eq_false_iff, decide_eq_false_iff_not]
    omega
  · simp only [Option.any_some, Bool.or_false, Bool.or_eq_false_iff, decide_eq_false_iff_not]
    omega

/-- The trigger lets a sequence of inserts of one risk pass when they fit and the losses are below
its thresholds. -/
theorem insertsPass_iff {isToday : String → Bool} {accountId : String} {risk : Int}
    {rows : List AllocationRow} {db : Database} {account : ReadinessMetric}
    (hmetric : db.readinessMetric isToday accountId = some account)
    (hkill : db.killSwitchEnabled = false) (hrows : rows ≠ [])
    (hrow : ∀ row ∈ rows,
      row.accountId = accountId ∧ row.riskAmountMinor = risk ∧ db.Unsettled row) :
    insertsPass isToday db rows = true ↔
      Fits account risk rows.length ∧ BelowThresholds account := by
  induction rows generalizing db account with
  | nil => exact absurd rfl hrows
  | cons row rest ih =>
    obtain ⟨rfl, rfl, hunsettled⟩ := hrow row List.mem_cons_self
    have hgate := readinessGateBlocks_eq_false_iff hmetric hkill
    unfold insertsPass
    rw [Bool.and_eq_true, Bool.not_eq_true', hgate]
    by_cases hrest : rest = []
    · subst hrest
      exact ⟨fun h => h.1, fun h => ⟨h, rfl⟩⟩
    · have hmetric' : (db.insertAllocation row).readinessMetric isToday row.accountId =
          some { account with
            openRiskMinor := account.openRiskMinor + row.riskAmountMinor
            openPositions := account.openPositions + 1 } := by
        rw [readinessMetric_insertAllocation hunsettled rfl, hmetric]
        rfl
      rw [ih hmetric' hkill hrest fun row' hmem => hrow row' (List.mem_cons_of_mem _ hmem)]
      have hlength : 1 ≤ (rest.length : Int) := by
        have hpos := List.length_pos_iff.mpr hrest
        omega
      have hsum : ((row :: rest).length : Int) * row.riskAmountMinor =
          row.riskAmountMinor + rest.length * row.riskAmountMinor := by
        rw [List.length_cons, Int.natCast_add, Int.natCast_one, Int.add_mul, Int.one_mul,
          Int.add_comm]
      unfold Fits BelowThresholds
      rw [hsum, List.length_cons, Int.natCast_add, Int.natCast_one]
      constructor
      · rintro ⟨⟨⟨hrisk, hbalance, hopen, hcount⟩, hlosses⟩, ⟨-, -, hopen', hcount'⟩, -⟩
        simp only at hopen' hcount'
        exact ⟨⟨hrisk, hbalance, by omega, by omega⟩, hlosses⟩
      · rintro ⟨⟨hrisk, hbalance, hopen, hcount⟩, hlosses⟩
        have hmore : 0 ≤ (rest.length : Int) * row.riskAmountMinor :=
          Int.mul_nonneg (by omega) (by omega)
        exact ⟨⟨⟨hrisk, hbalance, by omega, by omega⟩, hlosses⟩,
          ⟨hrisk, hbalance, by simp only; omega, by simp only; omega⟩, hlosses⟩

/-! ## Agreement -/

/-- The two gates agree exactly when the opening balance is positive or the positions do not fit. -/
theorem riskGates_agree_iff {isToday : String → Bool} {db : Database} {accountId : String}
    {account : ReadinessMetric} {risk : Int} {rows : List AllocationRow} (hdb : db.WellFormed)
    (hmetric : db.readinessMetric isToday accountId = some account)
    (hsafe : isSafeInteger account.balanceMinor = true) (hkill : db.killSwitchEnabled = false)
    (hrows : rows ≠ [])
    (hrow : ∀ row ∈ rows,
      row.accountId = accountId ∧ row.riskAmountMinor = risk ∧ db.Unsettled row) :
    (paperAccountAllowsNewOpen account (rows.length * risk) rows.length = true ↔
        insertsPass isToday db rows = true) ↔
      0 < account.openingBalanceMinor ∨ ¬Fits account risk rows.length := by
  obtain ⟨hopening, hopenRisk, hpositions⟩ := readinessMetric_nonneg hdb hmetric
  have hlength : 1 ≤ (rows.length : Int) := by
    have hpos := List.length_pos_iff.mpr hrows
    omega
  rw [paperAccountAllowsNewOpen_iff hlength hsafe hopenRisk hpositions,
    insertsPass_iff hmetric hkill hrows hrow]
  by_cases hzero : account.openingBalanceMinor = 0
  · have hratios := belowRatios_of_zero hzero
    have hthresholds := not_belowThresholds_of_zero hzero
    constructor
    · intro hagree
      exact .inr fun hfits => hthresholds (hagree.mp ⟨hfits, hratios⟩).2
    · rintro (hpositive | hfits)
      · omega
      · exact ⟨fun h => absurd h.1 hfits, fun h => absurd h.1 hfits⟩
  · have hpositive : 0 < account.openingBalanceMinor := by omega
    rw [belowRatios_iff hpositive]
    exact ⟨fun _ => .inl hpositive, fun _ => Iff.rfl⟩

/-- One account with a balance of 1000.00, of which a part is its opening balance and the rest a
manual adjustment. -/
def funded (opening : Int) : Database :=
  { accounts := [⟨"paper-1", "Paper 1", opening⟩]
    ledgerEntries := [⟨"paper-1", 100000 - opening⟩]
    allocations := []
    settlements := []
    killSwitchEvents := [⟨1, true⟩, ⟨2, false⟩] }

def fundedMetric (opening : Int) : ReadinessMetric :=
  { accountId := "paper-1", label := "Paper 1", openingBalanceMinor := opening
    balanceMinor := 100000, dailyPnlMinor := 0, openRiskMinor := 0, openPositions := 0
    maxDrawdownMinor := 0 }

/-- Two positions of 5.00. -/
def twoAllocations : List AllocationRow :=
  [⟨"allocation-1", "intent-1", "paper-1", 500, 100000, "2026-07-01T00:00:00.000Z"⟩,
    ⟨"allocation-2", "intent-2", "paper-1", 500, 100000, "2026-07-01T00:00:00.000Z"⟩]

theorem funded_wellFormed {opening : Int} (h : 0 ≤ opening) (h' : opening ≤ maxSafeInteger) :
    (funded opening).WellFormed := by
  refine ⟨?_, fun allocation hmem => absurd hmem List.not_mem_nil⟩
  intro account hmem
  rw [List.mem_singleton.mp hmem]
  exact ⟨h, h'⟩

theorem twoAllocations_rows (opening : Int) : ∀ row ∈ twoAllocations,
    row.accountId = "paper-1" ∧ row.riskAmountMinor = 500 ∧ (funded opening).Unsettled row := by
  intro row hmem
  have hcolumns : row.accountId = "paper-1" ∧ row.riskAmountMinor = 500 := by
    revert row
    decide
  exact ⟨hcolumns.1, hcolumns.2, fun settlement hs => absurd hs List.not_mem_nil⟩

/-- Without an opening balance the application lets two positions pass that the trigger refuses. -/
theorem unopened_account_disagrees :
    (funded 0).WellFormed ∧
    (funded 0).readinessMetric (fun _ => false) "paper-1" = some (fundedMetric 0) ∧
    (funded 0).killSwitchEnabled = false ∧
    paperAccountAllowsNewOpen (fundedMetric 0) (2 * 500) 2 = true ∧
    insertsPass (fun _ => false) (funded 0) twoAllocations = false := by
  refine ⟨funded_wellFormed (by decide) (by decide), ?_, ?_, ?_, ?_⟩ <;> decide

theorem opened_account_agrees :
    paperAccountAllowsNewOpen (fundedMetric 100000) (twoAllocations.length * 500)
        twoAllocations.length = true ↔
      insertsPass (fun _ => false) (funded 100000) twoAllocations = true :=
  (riskGates_agree_iff (funded_wellFormed (by decide) (by decide)) (by decide) (by decide)
    (by decide) (by decide) (twoAllocations_rows 100000)).mpr (.inl (by decide))

end TradeOps.Paper
