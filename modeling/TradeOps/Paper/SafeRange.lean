import TradeOps.Lib.Gapless
import TradeOps.Paper.Ledger

/-!
# The paper ledger and the safe integers

The insert of a ledger entry asks that the balance and the ledger delta stay safe integers; the
trigger before a settlement asks it of the balance only. `Kept` collects what every run keeps:
balances, sequences, the accumulated manual entries, and the bounds that the products of the SQL
need. The ledger delta stays safe in every run whose settlements ask of it what the ledger insert
asks.
-/

namespace TradeOps.Paper

open Books SafeIntegers

variable {books next : Books}

/-! ## What one row adds -/

theorem manualDeltaMinor_append (books : Books) (row : SequencedEntryRow) (accountId : String) :
    { books with entries := books.entries ++ [row] }.manualDeltaMinor accountId =
      books.manualDeltaMinor accountId +
        if row.accountId = accountId then row.amountMinor else 0 := by
  unfold Books.manualDeltaMinor Database.manualDeltaMinor Books.database
  dsimp only
  rw [List.map_append, List.filter_append, List.map_append, List.sum_append]
  by_cases h : row.accountId = accountId <;> simp [h]

/-- The results of a settlement for an account. -/
def settlementPnl (books : Books) (row : SettlementRow) (accountId : String) : Int :=
  ((books.allocations.filter fun allocation =>
    allocation.intentId = row.intentId ∧ allocation.accountId = accountId).map
    fun allocation => pnlMinor allocation row).sum

theorem simulatedPnlMinor_append (books : Books) (row : SettlementRow) (accountId : String) :
    { books with settlements := books.settlements ++ [row] }.database.simulatedPnlMinor accountId =
      books.database.simulatedPnlMinor accountId + settlementPnl books row accountId := by
  unfold Database.simulatedPnlMinor Database.settled settlementPnl Books.database
  dsimp only
  rw [List.flatMap_append, List.map_append, List.sum_append, List.flatMap_singleton, List.map_map]
  rfl

/-- The allocations are told apart by their intent and account. -/
def OneEach (allocations : List AllocationRow) : Prop :=
  allocations.Pairwise fun a b => ¬(a.intentId = b.intentId ∧ a.accountId = b.accountId)

/-- A settlement gives an account the result of its one allocation, or nothing. -/
theorem settlementPnl_cases (h : OneEach books.allocations) (row : SettlementRow)
    (accountId : String) :
    settlementPnl books row accountId = 0 ∨
      ∃ allocation ∈ books.allocations, allocation.intentId = row.intentId ∧
        allocation.accountId = accountId ∧
          settlementPnl books row accountId = pnlMinor allocation row := by
  have hfiltered : OneEach (books.allocations.filter fun allocation =>
      allocation.intentId = row.intentId ∧ allocation.accountId = accountId) :=
    List.Pairwise.filter _ h
  unfold settlementPnl
  cases hlist : books.allocations.filter fun allocation =>
      allocation.intentId = row.intentId ∧ allocation.accountId = accountId with
  | nil => exact .inl rfl
  | cons first rest =>
    have hmem : ∀ allocation ∈ first :: rest, allocation ∈ books.allocations ∧
        allocation.intentId = row.intentId ∧ allocation.accountId = accountId := by
      intro allocation hallocation
      rw [← hlist, List.mem_filter, decide_eq_true_eq] at hallocation
      exact hallocation
    cases rest with
    | nil =>
      obtain ⟨hfirst, hintent, haccount⟩ := hmem first List.mem_cons_self
      exact .inr ⟨first, hfirst, hintent, haccount, by simp⟩
    | cons second rest =>
      obtain ⟨-, hintent, haccount⟩ := hmem first List.mem_cons_self
      obtain ⟨-, hintent', haccount'⟩ := hmem second (by simp)
      rw [hlist] at hfiltered
      have hne := (List.pairwise_cons.1 hfiltered).1 second List.mem_cons_self
      exact absurd ⟨hintent.trans hintent'.symm, haccount.trans haccount'.symm⟩ hne

/-! ## What every run keeps -/

structure Kept (books : Books) : Prop where
  accountIds : (books.accounts.map (·.accountId)).Nodup
  opening : ∀ account ∈ books.accounts,
    0 ≤ account.openingBalanceMinor ∧ account.openingBalanceMinor ≤ maxSafeInteger
  entryAccounts : ∀ entry ∈ books.entries, (books.account entry.accountId).isSome
  allocationAccounts : ∀ allocation ∈ books.allocations,
    (books.account allocation.accountId).isSome
  oneEach : OneEach books.allocations
  settlementIntents : ∀ settlement ∈ books.settlements,
    ∃ intent ∈ books.intents, intent.intentId = settlement.intentId
  riskBps : ∀ intent ∈ books.intents, 1 ≤ intent.riskBps ∧ intent.riskBps ≤ 500
  outcomes : ∀ settlement ∈ books.settlements,
    -1000 ≤ settlement.outcomeRMillis ∧ settlement.outcomeRMillis ≤ 10000
  risks : ∀ allocation ∈ books.allocations,
    1 ≤ allocation.riskAmountMinor ∧ 10000 * allocation.riskAmountMinor ≤ 2 ^ 62 + 10000
  balances : ∀ account ∈ books.accounts, IsSafe (books.balanceMinor account)
  amounts : ∀ entry ∈ books.entries, IsSafe entry.amountMinor
  sequences : ∀ accountId, Gapless ((books.accountEntries accountId).map (·.sequence))
  accumulated : ∀ accountId n,
    IsSafe (((books.accountEntries accountId).map (·.amountMinor)).take n).sum

/-- The ledger delta of every account is safe. -/
def DeltasSafe (books : Books) : Prop :=
  ∀ account ∈ books.accounts, IsSafe (books.ledgerDeltaMinor account.accountId)

theorem safe_zero : IsSafe 0 := by
  unfold IsSafe maxSafeInteger
  omega

theorem safe_add {amount total : Int} (h : staysSafe amount total = true) :
    IsSafe (total + amount) := by
  rw [staysSafe, decide_eq_true_eq] at h
  unfold IsSafe
  omega

theorem kept_empty : Kept .empty := by
  refine ⟨List.nodup_nil, ?_, ?_, ?_, List.Pairwise.nil, ?_, ?_, ?_, ?_, ?_, ?_, ?_, ?_⟩
  all_goals simp [Books.empty, Books.accountEntries, safe_zero, Gapless.nil]

/-- In a list with distinct keys the row of a key is found. -/
theorem find?_of_nodup {accounts : List AccountRow} {account : AccountRow}
    (h : (accounts.map (·.accountId)).Nodup) (hmem : account ∈ accounts) :
    accounts.find? (·.accountId = account.accountId) = some account := by
  induction accounts with
  | nil => cases hmem
  | cons first rest ih =>
    rw [List.map_cons, List.nodup_cons] at h
    cases hmem with
    | head => simp
    | tail _ hmem =>
      have hne : ¬first.accountId = account.accountId := by
        intro heq
        exact h.1 (heq ▸ List.mem_map_of_mem hmem)
      rw [List.find?_cons_of_neg (by simpa using hne)]
      exact ih h.2 hmem

theorem isSome_account_append {row : AccountRow} {accountId : String}
    (h : (books.account accountId).isSome) :
    (Books.account { books with accounts := books.accounts ++ [row] } accountId).isSome := by
  unfold Books.account at h ⊢
  rw [List.find?_append]
  cases hfind : books.accounts.find? (·.accountId = accountId) with
  | none =>
    rw [hfind] at h
    cases h
  | some account => rfl

/-- An account that does not exist has no entries and no results. -/
theorem ledgerDeltaMinor_of_absent (h : Kept books) {accountId : String}
    (habsent : (books.account accountId).isNone) :
    books.manualDeltaMinor accountId = 0 ∧ books.database.simulatedPnlMinor accountId = 0 := by
  have hnone : ∀ id, (books.account id).isSome → id ≠ accountId := by
    intro id hsome heq
    rw [heq] at hsome
    cases haccount : books.account accountId <;> simp_all
  refine ⟨?_, ?_⟩
  · unfold Books.manualDeltaMinor Database.manualDeltaMinor Books.database
    dsimp only
    rw [List.filter_eq_nil_iff.2]
    · rfl
    · intro row hrow
      obtain ⟨entry, hentry, rfl⟩ := List.mem_map.1 hrow
      simpa using hnone _ (h.entryAccounts entry hentry)
  · unfold Database.simulatedPnlMinor Database.settled Books.database
    dsimp only
    rw [List.flatMap_eq_nil_iff.2]
    · rfl
    · intro settlement _
      rw [List.filter_eq_nil_iff.2]
      · rfl
      · intro allocation hallocation
        have hne := hnone _ (h.allocationAccounts allocation hallocation)
        simp [hne]

/-! ## Account creation -/

theorem Kept.insertAccount (h : Kept books) (row : AccountRow) :
    Kept (books.insertAccount row) := by
  unfold Books.insertAccount
  split
  · next hrow =>
    obtain ⟨hnone, hopening⟩ := hrow
    have hids : ∀ account ∈ books.accounts, account.accountId ≠ row.accountId := by
      intro account hmem heq
      unfold Books.account at hnone
      rw [Option.isNone_iff_eq_none, List.find?_eq_none] at hnone
      exact hnone account hmem (by simpa using heq)
    refine { h with
      accountIds := ?_
      opening := ?_
      entryAccounts := fun entry hentry => isSome_account_append (h.entryAccounts entry hentry)
      allocationAccounts := fun allocation hallocation =>
        isSome_account_append (h.allocationAccounts allocation hallocation)
      balances := ?_ }
    · rw [List.map_append, List.nodup_append]
      refine ⟨h.accountIds, by simp, ?_⟩
      intro id hid id' hid'
      obtain ⟨account, hmem, rfl⟩ := List.mem_map.1 hid
      rw [List.map_singleton, List.mem_singleton] at hid'
      rw [hid']
      exact hids account hmem
    · intro account hmem
      obtain hold | hnew := List.mem_append.1 hmem
      · exact h.opening account hold
      · rw [List.mem_singleton] at hnew
        rw [hnew]
        exact hopening
    · intro account hmem
      obtain hold | hnew := List.mem_append.1 hmem
      · exact h.balances account hold
      · rw [List.mem_singleton] at hnew
        obtain ⟨hmanual, hsimulated⟩ := ledgerDeltaMinor_of_absent h hnone
        have hbalance : Books.balanceMinor { books with accounts := books.accounts ++ [row] } row =
            row.openingBalanceMinor := by
          show row.openingBalanceMinor + books.manualDeltaMinor row.accountId +
            books.database.simulatedPnlMinor row.accountId = _
          rw [hmanual, hsimulated]
          omega
        rw [hnew, hbalance]
        unfold IsSafe maxSafeInteger
        unfold maxSafeInteger at hopening
        omega
  · exact h

theorem DeltasSafe.insertAccount (h : DeltasSafe books) (hkept : Kept books) (row : AccountRow) :
    DeltasSafe (books.insertAccount row) := by
  unfold Books.insertAccount
  split
  · next hrow =>
    intro account hmem
    obtain hold | hnew := List.mem_append.1 hmem
    · exact h account hold
    · rw [List.mem_singleton] at hnew
      obtain ⟨hmanual, hsimulated⟩ := ledgerDeltaMinor_of_absent hkept hrow.1
      show IsSafe (books.manualDeltaMinor account.accountId +
        books.database.simulatedPnlMinor account.accountId)
      rw [hnew, hmanual, hsimulated]
      exact safe_zero
  · exact h

/-! ## Manual adjustments -/

/-- What an insert that adds an entry has checked. -/
theorem insertLedgerEntry_cases {row : SequencedEntryRow}
    (h : books.insertLedgerEntry row = .ok next) :
    next = books ∨
      ∃ account, books.account row.accountId = some account ∧
        next = { books with entries := books.entries ++ [row] } ∧
        books.selectsEntry row account = true ∧ books.manualStaysSafe row account = true ∧
        entryChecks row = true := by
  unfold Books.insertLedgerEntry at h
  split at h
  · exact .inl (Except.ok.inj h).symm
  · next account haccount =>
    split at h
    · exact .inl (Except.ok.inj h).symm
    · next hselects =>
      split at h
      · cases h
      · split at h
        · cases h
        · next hmanual =>
          split at h
          · exact .inl (Except.ok.inj h).symm
          · next hchecks =>
            exact .inr ⟨account, haccount, (Except.ok.inj h).symm, by simpa using hselects,
              by simpa using hmanual, by simpa using hchecks⟩

theorem accountEntries_append (books : Books) (row : SequencedEntryRow) (accountId : String) :
    Books.accountEntries { books with entries := books.entries ++ [row] } accountId =
      books.accountEntries accountId ++ if row.accountId = accountId then [row] else [] := by
  unfold Books.accountEntries
  dsimp only
  rw [List.filter_append]
  by_cases h : row.accountId = accountId <;> simp [h]

theorem sum_accountEntries (books : Books) (accountId : String) :
    ((books.accountEntries accountId).map (·.amountMinor)).sum =
    books.manualDeltaMinor accountId := by
  unfold Books.accountEntries Books.manualDeltaMinor Database.manualDeltaMinor Books.database
  dsimp only
  rw [List.filter_map, List.map_map]
  rfl

theorem Kept.lastSequence (h : Kept books) (accountId : String) :
    books.lastSequence accountId = ((books.accountEntries accountId).map (·.sequence)).length :=
  (h.sequences accountId).foldr_max

theorem balanceMinor_append (books : Books) (row : SequencedEntryRow) (account : AccountRow) :
    Books.balanceMinor { books with entries := books.entries ++ [row] } account =
      books.balanceMinor account +
        if row.accountId = account.accountId then row.amountMinor else 0 := by
  have hmanual := manualDeltaMinor_append books row account.accountId
  show account.openingBalanceMinor +
      Books.manualDeltaMinor { books with entries := books.entries ++ [row] } account.accountId +
      books.database.simulatedPnlMinor account.accountId =
    account.openingBalanceMinor + books.manualDeltaMinor account.accountId +
      books.database.simulatedPnlMinor account.accountId + _
  omega

theorem Kept.appendEntry (h : Kept books) {row : SequencedEntryRow} {account : AccountRow}
    (haccount : books.account row.accountId = some account)
    (hselects : books.selectsEntry row account = true)
    (hmanual : books.manualStaysSafe row account = true) (hchecks : entryChecks row = true) :
    Kept { books with entries := books.entries ++ [row] } := by
  obtain ⟨hsequence, hbalance, -⟩ := of_decide_eq_true hselects
  obtain ⟨-, hdelta⟩ := of_decide_eq_true hmanual
  obtain ⟨-, -, hamount, -⟩ := of_decide_eq_true hchecks
  refine { h with
    entryAccounts := ?_
    balances := ?_
    amounts := ?_
    sequences := ?_
    accumulated := ?_ }
  · intro entry hentry
    obtain hold | hnew := List.mem_append.1 hentry
    · exact h.entryAccounts entry hold
    · rw [List.mem_singleton] at hnew
      rw [hnew]
      exact Option.isSome_iff_exists.2 ⟨account, haccount⟩
  · intro other hother
    rw [balanceMinor_append]
    by_cases hid : row.accountId = other.accountId
    · have hfound : books.account other.accountId = some other := find?_of_nodup h.accountIds hother
      rw [← hid, haccount, Option.some.injEq] at hfound
      rw [if_pos hid, ← hfound]
      exact safe_add hbalance
    · rw [if_neg hid, add_zero]
      exact h.balances other hother
  · intro entry hentry
    obtain hold | hnew := List.mem_append.1 hentry
    · exact h.amounts entry hold
    · rw [List.mem_singleton] at hnew
      rw [hnew]
      exact isSafeInteger_iff.1 hamount
  · intro accountId
    rw [accountEntries_append]
    by_cases hid : row.accountId = accountId
    · rw [if_pos hid, List.map_append, List.map_singleton, hsequence, h.lastSequence, hid]
      exact (h.sequences accountId).append
    · rw [if_neg hid, List.append_nil]
      exact h.sequences accountId
  · intro accountId n
    rw [accountEntries_append]
    by_cases hid : row.accountId = accountId
    · rw [if_pos hid, List.map_append, List.map_singleton]
      by_cases hn : n ≤ ((books.accountEntries accountId).map (·.amountMinor)).length
      · rw [List.take_append_of_le_length hn]
        exact h.accumulated accountId n
      · rw [List.take_of_length_le (by rw [List.length_append, List.length_singleton]; omega),
          List.sum_append, List.sum_singleton, sum_accountEntries, ← hid]
        exact safe_add hdelta
    · rw [if_neg hid, List.append_nil]
      exact h.accumulated accountId n

theorem DeltasSafe.appendEntry (h : DeltasSafe books) {row : SequencedEntryRow}
    {account : AccountRow} (hselects : books.selectsEntry row account = true) :
    DeltasSafe { books with entries := books.entries ++ [row] } := by
  obtain ⟨-, -, hdelta⟩ := of_decide_eq_true hselects
  intro other hother
  have hmanual := manualDeltaMinor_append books row other.accountId
  show IsSafe (Books.manualDeltaMinor { books with entries := books.entries ++ [row] }
    other.accountId + books.database.simulatedPnlMinor other.accountId)
  rw [hmanual]
  by_cases hid : row.accountId = other.accountId
  · rw [hid] at hdelta
    have hsafe := safe_add hdelta
    unfold Books.ledgerDeltaMinor at hsafe
    rw [if_pos hid, add_right_comm]
    exact hsafe
  · rw [if_neg hid, add_zero]
    exact h other hother

/-! ## Trades -/

theorem Kept.insertIntent (h : Kept books) {row : IntentRow}
    (hok : books.insertIntent row = .ok next) :
    Kept next ∧ next.settlements = books.settlements ∧
      (∀ settlement ∈ next.settlements, settlement.intentId ≠ row.intentId) ∧
      (DeltasSafe books → DeltasSafe next) := by
  unfold Books.insertIntent at hok
  split at hok
  · cases hok
  · next hcheck =>
    rw [← Except.ok.inj hok]
    refine ⟨{ h with settlementIntents := ?_, riskBps := ?_ }, rfl, ?_, fun hdeltas => hdeltas⟩
    · intro settlement hsettlement
      obtain ⟨intent, hintent, heq⟩ := h.settlementIntents settlement hsettlement
      exact ⟨intent, List.mem_append_left _ hintent, heq⟩
    · intro intent hintent
      obtain hold | hnew := List.mem_append.1 hintent
      · exact h.riskBps intent hold
      · rw [List.mem_singleton] at hnew
        rw [hnew]
        omega
    · intro settlement hsettlement heq
      obtain ⟨intent, hintent, hid⟩ := h.settlementIntents settlement hsettlement
      apply hcheck
      left
      rw [List.any_eq_true]
      exact ⟨intent, hintent, by simpa using hid.trans heq⟩

/-- What an insert of an allocation has checked. -/
theorem insertAllocation_cases {isToday : String → Bool} {intent : IntentRow}
    {allocationId accountId createdAt : String}
    (h : books.insertAllocation isToday intent allocationId accountId createdAt = .ok next) :
    ∃ account, books.account accountId = some account ∧ intent ∈ books.intents ∧
      0 < books.balanceMinor account ∧ 0 < books.riskAmountMinor account intent.riskBps ∧
      IsSafe (books.balanceMinor account) ∧
      (∀ other ∈ books.allocations,
        ¬(other.intentId = intent.intentId ∧ other.accountId = accountId)) ∧
      next = { books with
        allocations := books.allocations ++ [⟨allocationId, intent.intentId, accountId,
          books.riskAmountMinor account intent.riskBps, books.balanceMinor account,
          createdAt⟩] } := by
  unfold Books.insertAllocation at h
  split at h
  · cases h
  · next account haccount =>
    dsimp only at h
    split at h
    · cases h
    · next hgate =>
      split at h
      · cases h
      · next hcheck =>
        rw [not_or, not_or, not_or, not_not, not_le, not_le] at hgate
        rw [not_or, not_or] at hcheck
        refine ⟨account, haccount, hgate.1, hgate.2.1, hgate.2.2.1, ?_, ?_, (Except.ok.inj h).symm⟩
        · exact isSafeInteger_iff.1 (by simpa using hcheck.2.1)
        · intro other hother hboth
          apply hcheck.2.2
          rw [List.any_eq_true]
          exact ⟨other, hother, by simp [hboth.1, hboth.2]⟩

section Allocate

variable {isToday : String → Bool} {intent : IntentRow} {allocationId accountId createdAt : String}

theorem simulatedPnlMinor_appendAllocation (books : Books) (row : AllocationRow)
    (hunsettled : books.database.Unsettled row)
    (accountId : String) :
    Database.simulatedPnlMinor
        (Books.database { books with allocations := books.allocations ++ [row] }) accountId =
      books.database.simulatedPnlMinor accountId := by
  have hsettled := settled_insertAllocation hunsettled accountId
  unfold Database.simulatedPnlMinor
  rw [← hsettled]
  rfl

theorem Kept.insertAllocation (h : Kept books)
    (hunsettled : ∀ settlement ∈ books.settlements, settlement.intentId ≠ intent.intentId)
    (hok : books.insertAllocation isToday intent allocationId accountId createdAt = .ok next) :
    Kept next ∧ next.settlements = books.settlements ∧ (DeltasSafe books → DeltasSafe next) := by
  obtain ⟨account, haccount, hintent, hbalance, hrisk, hsafe, hunique, rfl⟩ :=
    insertAllocation_cases hok
  obtain ⟨hlow, hhigh⟩ := h.riskBps intent hintent
  have hsimulated := simulatedPnlMinor_appendAllocation books ⟨allocationId, intent.intentId,
    accountId, books.riskAmountMinor account intent.riskBps, books.balanceMinor account, createdAt⟩
    hunsettled
  refine ⟨{ h with
    allocationAccounts := ?_
    oneEach := ?_
    risks := ?_
    balances := ?_ }, rfl, ?_⟩
  · intro allocation hallocation
    obtain hold | hnew := List.mem_append.1 hallocation
    · exact h.allocationAccounts allocation hold
    · rw [List.mem_singleton] at hnew
      rw [hnew]
      exact Option.isSome_iff_exists.2 ⟨account, haccount⟩
  · refine List.pairwise_append.2 ⟨h.oneEach, List.pairwise_singleton _ _, ?_⟩
    intro other hother row hrow
    rw [List.mem_singleton] at hrow
    rw [hrow]
    exact hunique other hother
  · intro allocation hallocation
    obtain hold | hnew := List.mem_append.1 hallocation
    · exact h.risks allocation hold
    · rw [List.mem_singleton] at hnew
      rw [hnew]
      have hbound := natAbs_riskAmountMinor_le hsafe hlow hhigh
      refine ⟨hrisk, ?_⟩
      dsimp only [Books.riskAmountMinor]
      omega
  · intro other hother
    show IsSafe (other.openingBalanceMinor + books.manualDeltaMinor other.accountId + _)
    rw [hsimulated]
    exact h.balances other hother
  · intro hdeltas other hother
    show IsSafe (books.manualDeltaMinor other.accountId + _)
    rw [hsimulated]
    exact hdeltas other hother

end Allocate

/-! ## Settlements -/

/-- The check of the ledger insert, asked of a settlement: the ledger delta of every account that
the intent has an allocation in stays safe. -/
def SettlementKeepsDelta (books : Books) (row : SettlementRow) : Prop :=
  ∀ allocation ∈ books.allocations, allocation.intentId = row.intentId →
    staysSafe (pnlMinor allocation row) (books.ledgerDeltaMinor allocation.accountId) = true

theorem insertSettlement_cases {row : SettlementRow} (h : books.insertSettlement row = .ok next) :
    next = { books with settlements := books.settlements ++ [row] } ∧
      -1000 ≤ row.outcomeRMillis ∧ row.outcomeRMillis ≤ 10000 ∧
      (∃ intent ∈ books.intents, intent.intentId = row.intentId) ∧
      ∀ allocation ∈ books.allocations, allocation.intentId = row.intentId →
        ∀ account, books.account allocation.accountId = some account →
          staysSafe (pnlMinor allocation row) (books.balanceMinor account) = true := by
  unfold Books.insertSettlement at h
  split at h
  · cases h
  · next hsafe =>
    split at h
    · cases h
    · next hcheck =>
      rw [not_or, not_or, not_or, not_lt, not_lt] at hcheck
      have hsafe' : books.settlementStaysSafe row = true := by simpa using hsafe
      obtain ⟨-, hall⟩ := of_decide_eq_true hsafe'
      rw [List.all_eq_true] at hall
      refine ⟨(Except.ok.inj h).symm, hcheck.1, hcheck.2.1, by simpa using hcheck.2.2.1, ?_⟩
      intro allocation hallocation hintent account haccount
      have hone := hall allocation hallocation
      rw [decide_eq_true_eq] at hone
      obtain hne | hone := hone
      · exact absurd hintent hne
      · rw [haccount] at hone
        exact hone

theorem Kept.insertSettlement (h : Kept books) {row : SettlementRow}
    (hok : books.insertSettlement row = .ok next) :
    Kept next ∧ (SettlementKeepsDelta books row → DeltasSafe books → DeltasSafe next) := by
  obtain ⟨rfl, hlow, hhigh, hintent, hsafe⟩ := insertSettlement_cases hok
  refine ⟨{ h with settlementIntents := ?_, outcomes := ?_, balances := ?_ }, ?_⟩
  · intro settlement hsettlement
    obtain hold | hnew := List.mem_append.1 hsettlement
    · exact h.settlementIntents settlement hold
    · rw [List.mem_singleton] at hnew
      rw [hnew]
      exact hintent
  · intro settlement hsettlement
    obtain hold | hnew := List.mem_append.1 hsettlement
    · exact h.outcomes settlement hold
    · rw [List.mem_singleton] at hnew
      rw [hnew]
      exact ⟨hlow, hhigh⟩
  · intro account haccount
    have hbalance : Books.balanceMinor { books with settlements := books.settlements ++ [row] }
        account = books.balanceMinor account + settlementPnl books row account.accountId := by
      have hsimulated := simulatedPnlMinor_append books row account.accountId
      show account.openingBalanceMinor + books.manualDeltaMinor account.accountId + _ =
        account.openingBalanceMinor + books.manualDeltaMinor account.accountId +
          books.database.simulatedPnlMinor account.accountId + _
      rw [hsimulated]
      omega
    rw [hbalance]
    obtain hzero | ⟨allocation, hallocation, hid, hmine, hpnl⟩ :=
      settlementPnl_cases h.oneEach row account.accountId
    · rw [hzero, add_zero]
      exact h.balances account haccount
    · rw [hpnl]
      refine safe_add (hsafe allocation hallocation hid account ?_)
      rw [hmine]
      exact find?_of_nodup h.accountIds haccount
  · intro hkeeps hdeltas account haccount
    have hdelta : Books.ledgerDeltaMinor { books with settlements := books.settlements ++ [row] }
        account.accountId =
        books.ledgerDeltaMinor account.accountId + settlementPnl books row account.accountId := by
      have hsimulated := simulatedPnlMinor_append books row account.accountId
      show books.manualDeltaMinor account.accountId + _ = books.manualDeltaMinor account.accountId +
        books.database.simulatedPnlMinor account.accountId + _
      rw [hsimulated]
      omega
    rw [hdelta]
    obtain hzero | ⟨allocation, hallocation, hid, hmine, hpnl⟩ :=
      settlementPnl_cases h.oneEach row account.accountId
    · rw [hzero, add_zero]
      exact hdeltas account haccount
    · rw [hpnl, ← hmine]
      exact safe_add (hkeeps allocation hallocation hid)

/-! ## Runs -/

section Batch

variable {isToday : String → Bool} {intent : IntentRow} {createdAt : String}

/-- The allocations of a batch, one after the other; no settlement of the intent comes between. -/
theorem Kept.insertAllocations (allocations : List (String × String)) {books next : Books}
    (h : Kept books)
    (hunsettled : ∀ settlement ∈ books.settlements, settlement.intentId ≠ intent.intentId)
    (hok : (allocations.map fun allocation =>
      Statement.insertAllocation intent allocation.1 allocation.2 createdAt).foldlM
        (Books.exec isToday) books = .ok next) :
    Kept next ∧ (DeltasSafe books → DeltasSafe next) := by
  induction allocations generalizing books with
  | nil =>
    cases hok
    exact ⟨h, fun hdeltas => hdeltas⟩
  | cons allocation rest ih =>
    rw [List.map_cons, List.foldlM_cons] at hok
    obtain ⟨middle, hfirst, hrest⟩ := Checks.bind_ok_iff.1 hok
    obtain ⟨hkept, hsettlements, hdeltas⟩ := h.insertAllocation hunsettled hfirst
    have hunsettled' : ∀ settlement ∈ middle.settlements,
        settlement.intentId ≠ intent.intentId := by
      rw [hsettlements]
      exact hunsettled
    obtain ⟨hkept', hdeltas'⟩ := ih hkept hunsettled' hrest
    exact ⟨hkept', fun h => hdeltas' (hdeltas h)⟩

end Batch

/-- A settlement that the tables accept keeps the ledger deltas. -/
def CommandKeepsDelta (books : Books) (command : Command) : Prop :=
  ∀ row, command.operation = .settle row →
    (∃ next, books.insertSettlement row = .ok next) → SettlementKeepsDelta books row

theorem Kept.statements (h : Kept books) {command : Command}
    (hok : command.operation.statements.foldlM (Books.exec command.isToday) books = .ok next) :
    Kept next ∧ (CommandKeepsDelta books command → DeltasSafe books → DeltasSafe next) := by
  obtain ⟨operation, isToday⟩ := command
  cases operation with
  | createAccount row =>
    cases hok
    exact ⟨h.insertAccount row, fun _ hdeltas => hdeltas.insertAccount h row⟩
  | adjust row =>
    have hok' : books.insertLedgerEntry row = .ok next := by
      simpa [Operation.statements, Books.exec] using hok
    obtain rfl | ⟨account, haccount, rfl, hselects, hmanual, hchecks⟩ :=
      insertLedgerEntry_cases hok'
    · exact ⟨h, fun _ hdeltas => hdeltas⟩
    · exact ⟨h.appendEntry haccount hselects hmanual hchecks,
        fun _ hdeltas => hdeltas.appendEntry hselects⟩
  | openTrade intent allocations createdAt =>
    rw [Operation.statements, List.foldlM_cons] at hok
    obtain ⟨middle, hintent, hrest⟩ := Checks.bind_ok_iff.1 hok
    obtain ⟨hkept, -, hunsettled, hdeltas⟩ := h.insertIntent hintent
    obtain ⟨hkept', hdeltas'⟩ := hkept.insertAllocations allocations hunsettled hrest
    exact ⟨hkept', fun _ h => hdeltas' (hdeltas h)⟩
  | settle row =>
    have hok' : books.insertSettlement row = .ok next := by
      simpa [Operation.statements, Books.exec] using hok
    obtain ⟨hkept, hdeltas⟩ := h.insertSettlement hok'
    exact ⟨hkept, fun hkeeps => hdeltas (hkeeps row rfl ⟨next, hok'⟩)⟩
  | setKillSwitch enabled =>
    cases hok
    exact ⟨{ h with }, fun _ hdeltas => hdeltas⟩

theorem Kept.apply (h : Kept books) (command : Command) :
    Kept (books.apply command) ∧
      (CommandKeepsDelta books command → DeltasSafe books → DeltasSafe (books.apply command)) := by
  unfold Books.apply
  split
  · next next hok => exact h.statements hok
  · exact ⟨h, fun _ hdeltas => hdeltas⟩

instance (row : SettlementRow) : Decidable (SettlementKeepsDelta books row) :=
  inferInstanceAs (Decidable (∀ allocation ∈ books.allocations, _ → _))

instance (row : SettlementRow) : Decidable (∃ next, books.insertSettlement row = .ok next) :=
  match books.insertSettlement row with
  | .ok next => isTrue ⟨next, rfl⟩
  | .error _ => isFalse fun h => nomatch h

instance (command : Command) : Decidable (CommandKeepsDelta books command) :=
  match hop : command.operation with
  | .settle row =>
    decidable_of_iff
      ((∃ next, books.insertSettlement row = .ok next) → SettlementKeepsDelta books row)
      ⟨fun h _ hrow => Operation.settle.inj (hop.symm.trans hrow) ▸ h, fun h => h row hop⟩
  | .createAccount _ | .adjust _ | .openTrade _ _ _ | .setKillSwitch _ =>
    isTrue fun _ hrow => nomatch hop.symm.trans hrow

/-- Every settlement of a run that the tables accept keeps the ledger deltas of its accounts. -/
def KeepsDeltas : Books → List Command → Prop
  | _, [] => True
  | books, command :: rest =>
    CommandKeepsDelta books command ∧ KeepsDeltas (books.apply command) rest

instance decidableKeepsDeltas :
    (books : Books) → (commands : List Command) → Decidable (KeepsDeltas books commands)
  | _, [] => isTrue trivial
  | books, command :: rest =>
    have := decidableKeepsDeltas (books.apply command) rest
    inferInstanceAs (Decidable (_ ∧ _))

theorem Kept.run (commands : List Command) {books : Books} (h : Kept books) :
    Kept (books.run commands) := by
  induction commands generalizing books with
  | nil => exact h
  | cons command rest ih => exact ih (h.apply command).1

theorem DeltasSafe.run (commands : List Command) {books : Books} (h : DeltasSafe books)
    (hkept : Kept books) (hkeeps : KeepsDeltas books commands) :
    DeltasSafe (books.run commands) := by
  induction commands generalizing books with
  | nil => exact h
  | cons command rest ih =>
    obtain ⟨hnow, hrest⟩ := hkeeps
    obtain ⟨hkept', hdeltas⟩ := hkept.apply command
    exact ih (hdeltas hnow h) hkept' hrest

/-- A run that keeps the deltas keeps them up to each of its states. -/
theorem KeepsDeltas.take {commands : List Command} {books : Books} (h : KeepsDeltas books commands)
    (n : Nat) : KeepsDeltas books (commands.take n) := by
  induction commands generalizing books n with
  | nil =>
    rw [List.take_nil]
    exact h
  | cons command rest ih =>
    cases n with
    | zero => exact trivial
    | succ n => exact ⟨h.1, ih h.2 n⟩

/-! ## The safe range -/

/-- A 64-bit signed integer. -/
def FitsInt64 (n : Int) : Prop := -2 ^ 63 ≤ n ∧ n < 2 ^ 63

structure InSafeRange (books : Books) : Prop where
  balances : ∀ account ∈ books.accounts, IsSafe (books.balanceMinor account)
  deltas : ∀ account ∈ books.accounts, IsSafe (books.ledgerDeltaMinor account.accountId)
  /-- The amount of every entry, and the entries of an account summed up to each of them. -/
  entries : (∀ entry ∈ books.entries, IsSafe entry.amountMinor) ∧
    ∀ accountId n, IsSafe (((books.accountEntries accountId).map (·.amountMinor)).take n).sum
  sequences : ∀ accountId, Gapless ((books.accountEntries accountId).map (·.sequence))
  outcomeProducts : ∀ allocation ∈ books.allocations, ∀ settlement ∈ books.settlements,
    FitsInt64 (allocation.riskAmountMinor * settlement.outcomeRMillis)
  /-- The product is a `REAL`, and its quotient is cast to an integer. -/
  riskProducts : ∀ account ∈ books.accounts, ∀ intent ∈ books.intents,
    riskProduct (books.balanceMinor account) intent.riskBps < 2 ^ 63 ∧
      FitsInt64 (books.riskAmountMinor account intent.riskBps)

theorem fitsInt64_mul {a b : Int} {m n : Nat} (ha : a.natAbs ≤ m) (hb : b.natAbs ≤ n)
    (h : m * n < 2 ^ 63) : FitsInt64 (a * b) := by
  have habs : (a * b).natAbs ≤ m * n := by
    rw [Int.natAbs_mul]
    exact Nat.mul_le_mul ha hb
  unfold FitsInt64
  omega

theorem Kept.inSafeRange (h : Kept books) (hdeltas : DeltasSafe books) : InSafeRange books where
  balances := h.balances
  deltas := hdeltas
  entries := ⟨h.amounts, h.accumulated⟩
  sequences := h.sequences
  outcomeProducts := by
    intro allocation hallocation settlement hsettlement
    have hrisk := h.risks allocation hallocation
    have houtcome := h.outcomes settlement hsettlement
    apply @fitsInt64_mul _ _ 461168601842739 10000
    · omega
    · omega
    · decide
  riskProducts := by
    intro account haccount intent hintent
    have hbps := h.riskBps intent hintent
    have hbalance := h.balances account haccount
    have hproduct := riskProduct_le hbalance hbps.1 hbps.2
    have hbound := natAbs_riskAmountMinor_le hbalance hbps.1 hbps.2
    refine ⟨by omega, ?_⟩
    unfold FitsInt64 Books.riskAmountMinor
    omega

/-- In every run from the empty tables whose accepted settlements keep the ledger deltas, every
state reached is in the safe range. -/
theorem books_stay_in_safe_range (commands : List Command) (h : KeepsDeltas .empty commands)
    (n : Nat) : InSafeRange (Books.empty.run (commands.take n)) := by
  have hdeltas : DeltasSafe .empty := fun account hmem => nomatch hmem
  exact (kept_empty.run _).inSafeRange (hdeltas.run _ kept_empty (h.take n))

/-- An account is opened with a balance, a trade is opened in it at two per cent, a manual amount
is booked, and the trade is settled at a full loss. -/
def lossAfterAdjustment (openingBalanceMinor amountMinor : Int) : List Command :=
  [.createAccount ⟨"paper-1", "Paper 1", openingBalanceMinor⟩,
    .setKillSwitch false,
    .openTrade ⟨"intent-1", 200⟩ [("allocation-1", "paper-1")] "2026-01-05T08:00:00.000Z",
    .adjust ⟨"paper-1", 1, amountMinor⟩,
    .settle ⟨"settlement-1", "intent-1", -1000, "2026-01-05T09:00:00.000Z"⟩].map
    fun operation => ⟨operation, fun _ => true⟩

theorem small_books_stay_in_safe_range :
    InSafeRange (Books.empty.run (lossAfterAdjustment 1000000 (-5000))) ∧
      (Books.empty.run (lossAfterAdjustment 1000000 (-5000))).ledgerDeltaMinor "paper-1" =
        -25000 :=
  ⟨books_stay_in_safe_range (lossAfterAdjustment 1000000 (-5000)) (by decide) 5,
    by decide⟩

/-- The whole of the largest opening balance is booked out before the loss: the balance after the
settlement is a small negative amount, the ledger delta is below every safe integer. -/
theorem books_leave_safe_range :
    ¬InSafeRange (Books.empty.run (lossAfterAdjustment maxSafeInteger (-maxSafeInteger))) := by
  intro h
  have hdelta : ¬-maxSafeInteger ≤
      (Books.empty.run (lossAfterAdjustment maxSafeInteger (-maxSafeInteger))).ledgerDeltaMinor
        "paper-1" := by
    decide
  have hmem : (⟨"paper-1", "Paper 1", maxSafeInteger⟩ : AccountRow) ∈
      (Books.empty.run (lossAfterAdjustment maxSafeInteger (-maxSafeInteger))).accounts := by
    decide
  exact hdelta (h.deltas _ hmem).1

end TradeOps.Paper
