import TradeOps.Lib.Runs
import TradeOps.Proposals.Deliveries

/-!
# Fencing of candidate deliveries

Dispatchers expire, claim and finalize deliveries in any order, with clocks of their own. `RowKept`
is what every statement leaves behind in a row, and what keeps the next one from aborting: a live
row was created before it expires, and neither its next attempt nor its lease lies before its
creation. Claims and finalizations then differ from a plain rewriting of rows by the one row that
the fresh token names.
-/

namespace TradeOps.Proposals

open Tables

variable {deliveries next : List DeliveryRow} {row row' : DeliveryRow}

/-! ## Rows -/

def DeliveryStatus.isLive (status : DeliveryStatus) : Bool := status ∈ [.pending, .retry, .claimed]

structure RowKept (row : DeliveryRow) : Prop where
  checks : row.checks = true
  live : row.status.isLive = true → row.createdAtEpoch < row.expiresAtEpoch
  nextAttempt : row.createdAtEpoch ≤ row.nextAttemptAtEpoch
  lease : ∀ lease, row.leaseExpiresAtEpoch = some lease → row.createdAtEpoch ≤ lease

/-- The row after a statement that may end its lease. -/
structure Frees (row row' : DeliveryRow) : Prop where
  logicalCandidateId : row'.logicalCandidateId = row.logicalCandidateId
  attemptCount : row'.attemptCount = row.attemptCount
  createdAtEpoch : row'.createdAtEpoch = row.createdAtEpoch
  expiresAtEpoch : row'.expiresAtEpoch = row.expiresAtEpoch
  token : row'.claimToken = none ∨ row' = row
  terminal : row.status.isLive = false → row' = row

/-- The statement does not acknowledge the row. -/
structure Releases (row row' : DeliveryRow) : Prop extends Frees row row' where
  acknowledged : row'.status = .acknowledged → row' = row

theorem Frees.refl (row : DeliveryRow) : Frees row row :=
  ⟨rfl, rfl, rfl, rfl, .inr rfl, fun _ => rfl⟩

theorem Releases.refl (row : DeliveryRow) : Releases row row :=
  ⟨Frees.refl row, fun _ => rfl⟩

theorem Frees.trans {a b c : DeliveryRow} (h : Frees a b) (h' : Frees b c) : Frees a c where
  logicalCandidateId := h'.logicalCandidateId.trans h.logicalCandidateId
  attemptCount := h'.attemptCount.trans h.attemptCount
  createdAtEpoch := h'.createdAtEpoch.trans h.createdAtEpoch
  expiresAtEpoch := h'.expiresAtEpoch.trans h.expiresAtEpoch
  token := by
    obtain hnone | rfl := h'.token
    · exact .inl hnone
    · exact h.token
  terminal := by
    intro hterminal
    have hb := h.terminal hterminal
    rw [← hb] at hterminal
    exact (h'.terminal hterminal).trans hb

theorem Releases.trans {a b c : DeliveryRow} (h : Releases a b) (h' : Releases b c) :
    Releases a c where
  toFrees := h.toFrees.trans h'.toFrees
  acknowledged := by
    intro hc
    have hb := h'.acknowledged hc
    rw [hb] at hc
    exact hb.trans (h.acknowledged hc)

/-- A row whose lease a statement ends. -/
def DeliveryRow.ended (row : DeliveryRow) (status : DeliveryStatus) (nowEpoch nextAttempt : Nat)
    (acknowledgedAt receiverStatus : Option Nat) : DeliveryRow :=
  { row.release status nowEpoch with
    nextAttemptAtEpoch := nextAttempt
    acknowledgedAtEpoch := acknowledgedAt
    receiverStatus }

section Ended

variable {status : DeliveryStatus} {nowEpoch nextAttempt : Nat}
  {acknowledgedAt receiverStatus : Option Nat}

theorem frees_ended (hlive : row.status.isLive = true) :
    Frees row (row.ended status nowEpoch nextAttempt acknowledgedAt receiverStatus) :=
  ⟨rfl, rfl, rfl, rfl, .inl rfl, fun h => by rw [h] at hlive; cases hlive⟩

/-- A statement that ends the lease of a live row passes when its reading and the next attempt do
not lie before the creation of the row. -/
theorem RowKept.ended (h : RowKept row) (status : DeliveryStatus) (nowEpoch nextAttempt : Nat)
    (acknowledgedAt receiverStatus : Option Nat) (hlive : row.status.isLive = true)
    (hstatus : row.status = .claimed ∧ status ∈ [.acknowledged, .retry, .failedTerminal] ∨
      status = .expired)
    (hnow : row.createdAtEpoch ≤ nowEpoch) (hnext : row.createdAtEpoch ≤ nextAttempt)
    (hacknowledged : acknowledgedAt.isSome = decide (status = .acknowledged))
    (hreceiver : receiverStatus.all (fun status => 100 ≤ status ∧ status ≤ 599) = true) :
    updateGuard row (row.ended status nowEpoch nextAttempt acknowledgedAt receiverStatus) = true ∧
      RowKept (row.ended status nowEpoch nextAttempt acknowledgedAt receiverStatus) := by
  have hattempts : row.attemptCount ≤ 5 := (of_decide_eq_true h.checks).1
  refine ⟨?_, ?_, fun _ => h.live hlive, hnext, fun lease hlease => nomatch hlease⟩
  · unfold DeliveryStatus.isLive at hlive
    obtain ⟨hclaimed, hstatus⟩ | hstatus := hstatus
    · apply decide_eq_true
      refine ⟨rfl, rfl, rfl, .inr ⟨hclaimed, ?_⟩⟩
      show status ∈ _
      revert hstatus
      cases status <;> decide
    · apply decide_eq_true
      refine ⟨rfl, rfl, rfl, ?_⟩
      show _ ∧ status ∈ _ ∨ _ ∧ status ∈ _
      rw [hstatus]
      revert hlive
      cases row.status <;> decide
  · apply decide_eq_true
    refine ⟨hattempts, rfl, hreceiver, hnow, ?_, ?_⟩
    · show if status = .claimed then _ else _
      rw [if_neg]
      · exact ⟨rfl, rfl, rfl⟩
      · obtain ⟨-, hstatus⟩ | hstatus := hstatus
        · revert hstatus
          cases status <;> decide
        · rw [hstatus]
          decide
    · show (if status = .acknowledged then acknowledgedAt.isSome else acknowledgedAt.isNone) = true
      split
      · next hack => rw [hacknowledged, decide_eq_true hack]
      · next hack =>
        rw [← Option.not_isSome, hacknowledged, decide_eq_false hack]
        rfl

end Ended

/-! ## Tables -/

structure TableKept (deliveries : List DeliveryRow) : Prop where
  ids : Keyed.KeysNodup DeliveryRow.logicalCandidateId deliveries
  rows : ∀ row ∈ deliveries, RowKept row
  tokens : TokensDistinct deliveries

theorem update_passes {selects : DeliveryRow → Bool} {assign : DeliveryRow → DeliveryRow}
    (hrows : ∀ row ∈ deliveries, selects row = true →
      updateGuard row (assign row) = true ∧ RowKept (assign row))
    (htokens : TokensDistinct (updateWhere selects assign deliveries)) :
    update selects assign deliveries = .ok (updateWhere selects assign deliveries) := by
  have hmap : deliveries.mapM (updateRow selects assign) =
      .ok (updateWhere selects assign deliveries) := by
    apply Checks.mapM_eq_ok
    intro row hrow
    unfold updateRow
    by_cases hselects : selects row = true
    · obtain ⟨hguard, hkept⟩ := hrows row hrow hselects
      simp [hselects, hguard, hkept.checks]
    · simp [hselects]
  unfold update
  rw [hmap, Checks.ok_bind_eq, if_pos htokens]

/-- A statement that selects no row changes nothing. -/
theorem update_none {selects : DeliveryRow → Bool} {assign : DeliveryRow → DeliveryRow}
    (htokens : TokensDistinct deliveries) (h : ∀ row ∈ deliveries, selects row = false) :
    update selects assign deliveries = .ok deliveries := by
  have hsame : updateWhere selects assign deliveries = deliveries := by
    unfold updateWhere
    rw [List.map_congr_left (g := id), List.map_id]
    intro row hrow
    rw [if_neg (by rw [h row hrow]; decide), id]
  have hpasses : update selects assign deliveries =
    .ok (updateWhere selects assign deliveries) := by
    apply update_passes
    · intro row hrow hselects
      rw [h row hrow] at hselects
      cases hselects
    · rw [hsame]
      exact htokens
  rw [hpasses, hsame]

/-- A statement that ends leases passes, and keeps the table. -/
theorem TableKept.rewritten (h : TableKept deliveries) {R : DeliveryRow → DeliveryRow → Prop}
    (hfrees : ∀ a b, R a b → Frees a b) (hrefl : ∀ a, R a a) {selects : DeliveryRow → Bool}
    {assign : DeliveryRow → DeliveryRow}
    (hrows : ∀ row ∈ deliveries, selects row = true →
      updateGuard row (assign row) = true ∧ RowKept (assign row) ∧ R row (assign row)) :
    ∃ next, update selects assign deliveries = .ok next ∧ TableKept next ∧
      Rewrites R deliveries next := by
  have hrewrites : Rewrites R deliveries (updateWhere selects assign deliveries) :=
    Rewrites.updateWhere hrefl fun row hrow hselects => (hrows row hrow hselects).2.2
  have htokens : TokensDistinct (updateWhere selects assign deliveries) := by
    obtain ⟨g, hmap, hg⟩ := hrewrites
    rw [hmap]
    unfold TokensDistinct
    rw [List.pairwise_map]
    refine h.tokens.imp_of_mem ?_
    intro a b ha hb hdistinct hsome
    obtain hnone | hsame := (hfrees _ _ (hg a ha)).token
    · rw [hnone] at hsome
      cases hsome
    · rw [hsame] at hsome ⊢
      obtain hnone' | hsame' := (hfrees _ _ (hg b hb)).token
      · rw [hnone']
        intro heq
        rw [heq] at hsome
        cases hsome
      · rw [hsame']
        exact hdistinct hsome
  refine ⟨_, update_passes (fun row hrow hselects => ?_) htokens, ⟨?_, ?_, htokens⟩, hrewrites⟩
  · exact ⟨(hrows row hrow hselects).1, (hrows row hrow hselects).2.1⟩
  · unfold Keyed.KeysNodup
    rw [hrewrites.map_eq fun a b hab => (hfrees a b hab).logicalCandidateId]
    exact h.ids
  · intro row' hrow'
    obtain ⟨row, hrow, rfl⟩ := exists_of_mem_updateWhere hrow'
    split
    · exact (hrows row hrow ‹_›).2.1
    · exact h.rows row hrow

/-- What the statements before a claim, and the expiry, leave behind. -/
def Passes (statement : List DeliveryRow → Except Abort (List DeliveryRow)) : Prop :=
  ∀ deliveries, TableKept deliveries →
    ∃ next, statement deliveries = .ok next ∧ TableKept next ∧ Rewrites Releases deliveries next

theorem releases_ended {status : DeliveryStatus} {nowEpoch nextAttempt : Nat}
    (hlive : row.status.isLive = true) (hstatus : status ≠ .acknowledged) :
    Releases row (row.ended status nowEpoch nextAttempt none none) :=
  ⟨frees_ended hlive, fun h => absurd h hstatus⟩

theorem expireStaleDeliveries_passes (nowEpoch : Nat) :
    Passes (expireStaleDeliveries nowEpoch) := by
  intro deliveries h
  refine h.rewritten (fun _ _ h => h.toFrees) Releases.refl ?_
  intro row hrow hselects
  obtain ⟨hstatus, hexpires⟩ := Bool.and_eq_true_iff.1 hselects
  have hlive : row.status.isLive = true := hstatus
  have hkept := h.rows row hrow
  have hcreated := hkept.live hlive
  have hexpires := of_decide_eq_true hexpires
  obtain ⟨hguard, hkept'⟩ := hkept.ended .expired nowEpoch row.nextAttemptAtEpoch none none hlive
    (.inr rfl) (by omega) hkept.nextAttempt rfl rfl
  exact ⟨hguard, hkept', releases_ended hlive (by decide)⟩

/-- A claimed row whose lease is over was created before the reading. -/
theorem RowKept.leaseOver (h : RowKept row) {nowEpoch : Nat}
    (hover : row.leaseOver nowEpoch = true) :
    row.status = .claimed ∧ row.createdAtEpoch ≤ nowEpoch := by
  unfold DeliveryRow.leaseOver at hover
  rw [Bool.and_eq_true, Bool.and_eq_true, decide_eq_true_eq] at hover
  obtain ⟨⟨hclaimed, hlease⟩, -⟩ := hover
  rw [Option.any_eq_true] at hlease
  obtain ⟨lease, hsome, hle⟩ := hlease
  exact ⟨hclaimed, (h.lease lease hsome).trans (of_decide_eq_true hle)⟩

theorem failFinalLeases_passes (nowEpoch : Nat) : Passes (failFinalLeases nowEpoch) := by
  intro deliveries h
  refine h.rewritten (fun _ _ h => h.toFrees) Releases.refl ?_
  intro row hrow hselects
  have hkept := h.rows row hrow
  obtain ⟨hclaimed, hcreated⟩ := hkept.leaseOver (Bool.and_eq_true_iff.1 hselects).1
  have hlive : row.status.isLive = true := by rw [hclaimed]; rfl
  obtain ⟨hguard, hkept'⟩ := hkept.ended .failedTerminal nowEpoch row.nextAttemptAtEpoch none none
    hlive (.inl ⟨hclaimed, by decide⟩) hcreated hkept.nextAttempt rfl rfl
  exact ⟨hguard, hkept', releases_ended hlive (by decide)⟩

theorem retryLeases_passes (nowEpoch : Nat) : Passes (retryLeases nowEpoch) := by
  intro deliveries h
  refine h.rewritten (fun _ _ h => h.toFrees) Releases.refl ?_
  intro row hrow hselects
  have hkept := h.rows row hrow
  obtain ⟨hclaimed, hcreated⟩ := hkept.leaseOver (Bool.and_eq_true_iff.1 hselects).1
  have hlive : row.status.isLive = true := by rw [hclaimed]; rfl
  obtain ⟨hguard, hkept'⟩ := hkept.ended .retry nowEpoch nowEpoch none none
    hlive (.inl ⟨hclaimed, by decide⟩) hcreated hcreated rfl rfl
  exact ⟨hguard, hkept', releases_ended hlive (by decide)⟩

/-! ## Claims -/

theorem le_ofNat_add {nowEpoch : Nat} (h : validNow nowEpoch = true) (seconds : Nat) :
    nowEpoch ≤ Double.ofNat (nowEpoch + seconds) := by
  have hnow := of_decide_eq_true h
  by_cases hlarge : 2 ^ 53 ≤ nowEpoch + seconds
  · have hle := Double.le_ofNat hlarge
    omega
  · rw [Double.ofNat_eq (by omega)]
    omega

/-- The row as the claim sets it. -/
def DeliveryRow.leased (row : DeliveryRow) (leaseOwner : String) (nowEpoch : Nat)
    (token : String) : DeliveryRow :=
  { row with
    status := .claimed
    attemptCount := row.attemptCount + 1
    leaseOwner := some leaseOwner
    leaseExpiresAtEpoch := some (Double.ofNat (nowEpoch + leaseSeconds))
    claimToken := some token
    acknowledgedAtEpoch := none
    receiverStatus := none
    updatedAtEpoch := nowEpoch }

theorem firstDue_mem (h : firstDue deliveries = some row) : row ∈ deliveries := by
  induction deliveries generalizing row with
  | nil => cases h
  | cons first rest ih =>
    unfold firstDue at h
    split at h
    · rw [← Option.some.inj h]
      exact List.mem_cons_self
    · next best hbest =>
      split at h
      · rw [← Option.some.inj h]
        exact List.mem_cons_of_mem first (ih hbest)
      · rw [← Option.some.inj h]
        exact List.mem_cons_self

theorem RowKept.leased (h : RowKept row) {nowEpoch : Nat} (hvalid : validNow nowEpoch = true)
    (hdue : row.isDue nowEpoch = true) (hattempts : row.attemptCount < maxAttempts)
    (leaseOwner : String) {token : String} (htoken : token.length = 64) :
    updateGuard row (row.leased leaseOwner nowEpoch token) = true ∧
      RowKept (row.leased leaseOwner nowEpoch token) := by
  unfold DeliveryRow.isDue at hdue
  rw [Bool.and_eq_true, Bool.and_eq_true, decide_eq_true_eq, decide_eq_true_eq,
    decide_eq_true_eq] at hdue
  obtain ⟨⟨hstatus, hnext⟩, hexpires⟩ := hdue
  have hcreated := h.nextAttempt
  have hlease := le_ofNat_add hvalid leaseSeconds
  refine ⟨?_, ?_, ?_, h.nextAttempt, ?_⟩
  · apply decide_eq_true
    exact ⟨rfl, rfl, rfl, .inl ⟨hstatus, List.mem_cons_self⟩⟩
  · apply decide_eq_true
    refine ⟨hattempts, decide_eq_true htoken, rfl, hcreated.trans hnext, ?_, rfl⟩
    exact ⟨rfl, rfl, rfl⟩
  · intro _
    show row.createdAtEpoch < row.expiresAtEpoch
    omega
  · intro lease hsome
    rw [← Option.some.inj hsome]
    show row.createdAtEpoch ≤ _
    omega

section Claim

variable {leaseOwner token : String} {nowEpoch : Nat}

/-- A row takes a token that no row has; the others stay as they are. -/
theorem TableKept.lease (h : TableKept deliveries) (hvalid : validNow nowEpoch = true)
    (hrow : row ∈ deliveries) (hdue : row.isDue nowEpoch = true)
    (hattempts : row.attemptCount < maxAttempts) (leaseOwner : String) (htoken : token.length = 64)
    (hfresh : ∀ other ∈ deliveries, other.claimToken ≠ some token) :
    update (· = row) (·.leased leaseOwner nowEpoch token) deliveries =
        .ok (updateWhere (· = row) (·.leased leaseOwner nowEpoch token) deliveries) ∧
      TableKept (updateWhere (· = row) (·.leased leaseOwner nowEpoch token) deliveries) := by
  have hrows : ∀ other ∈ deliveries, decide (other = row) = true →
      updateGuard other (other.leased leaseOwner nowEpoch token) = true ∧
        RowKept (other.leased leaseOwner nowEpoch token) := by
    intro other _ heq
    rw [of_decide_eq_true heq]
    exact (h.rows row hrow).leased hvalid hdue hattempts leaseOwner htoken
  have htokens : TokensDistinct
      (updateWhere (· = row) (·.leased leaseOwner nowEpoch token) deliveries) := by
    unfold TokensDistinct updateWhere
    rw [List.pairwise_map]
    have hids := List.pairwise_map.1 h.ids
    refine (h.tokens.and hids).imp_of_mem ?_
    rintro a b ha hb ⟨hdistinct, hid⟩ hsome
    by_cases hleft : a = row
    · have hright : b ≠ row := fun hb => hid (by rw [hleft, hb])
      rw [if_pos (by simpa using hleft), if_neg (by simpa using hright)]
      exact fun heq => hfresh b hb heq.symm
    · rw [if_neg (by simpa using hleft)] at hsome ⊢
      split
      · exact fun heq => hfresh a ha heq
      · exact hdistinct hsome
  refine ⟨update_passes hrows htokens, ?_, ?_, htokens⟩
  · exact keysNodup_updateWhere (fun _ => rfl) h.ids
  · intro row' hrow'
    obtain ⟨other, hother, rfl⟩ := exists_of_mem_updateWhere hrow'
    split
    · exact (hrows other hother ‹_›).2
    · exact h.rows other hother

theorem update_congr {selects selects' : DeliveryRow → Bool} {assign : DeliveryRow → DeliveryRow}
    (h : ∀ row ∈ deliveries, selects row = selects' row) :
    update selects assign deliveries = update selects' assign deliveries := by
  have hmap : deliveries.mapM (updateRow selects assign) =
      deliveries.mapM (updateRow selects' assign) := by
    induction deliveries with
    | nil => rfl
    | cons row rest ih =>
      have hrow : updateRow selects assign row = updateRow selects' assign row := by
        unfold updateRow
        rw [h row List.mem_cons_self]
      rw [List.mapM_cons, List.mapM_cons, hrow, ih fun other hother =>
        h other (List.mem_cons_of_mem row hother)]
  unfold update
  rw [hmap]

/-- The claim statement takes one due row, or none is there to take. -/
theorem claimFirstDue_passes (h : TableKept deliveries) (hvalid : validNow nowEpoch = true)
    (leaseOwner : String) (htoken : token.length = 64)
    (hfresh : ∀ other ∈ deliveries, other.claimToken ≠ some token) :
    claimFirstDue leaseOwner nowEpoch token deliveries = .ok deliveries ∨
      ∃ row ∈ deliveries, row.isDue nowEpoch = true ∧ row.attemptCount < maxAttempts ∧
        claimFirstDue leaseOwner nowEpoch token deliveries =
          .ok (updateWhere (· = row) (·.leased leaseOwner nowEpoch token) deliveries) ∧
        TableKept (updateWhere (· = row) (·.leased leaseOwner nowEpoch token) deliveries) := by
  unfold claimFirstDue
  dsimp only
  cases hdue : firstDue (deliveries.filter fun row =>
      row.isDue nowEpoch && row.attemptCount < maxAttempts) with
  | none =>
    left
    exact update_none h.tokens fun _ _ => rfl
  | some row =>
    right
    have hmem := List.mem_filter.1 (firstDue_mem hdue)
    obtain ⟨hrow, hboth⟩ := hmem
    obtain ⟨hisDue, hattempts⟩ := Bool.and_eq_true_iff.1 hboth
    obtain ⟨hupdate, hkept⟩ := h.lease hvalid hrow hisDue (of_decide_eq_true hattempts) leaseOwner
      htoken hfresh
    refine ⟨row, hrow, hisDue, of_decide_eq_true hattempts, ?_, hkept⟩
    rw [← hupdate]
    -- the identity names the row, which is due
    apply update_congr
    intro other hother
    by_cases heq : other = row
    · simp [heq, hisDue]
    · have hid : ¬row.logicalCandidateId = other.logicalCandidateId :=
        fun hid => heq (h.ids.eq_of_key hother hrow hid.symm)
      simp [heq, hid]

theorem Passes.bind {first second : List DeliveryRow → Except Abort (List DeliveryRow)}
    (h : Passes first) (h' : Passes second) :
    Passes fun deliveries => first deliveries >>= second := by
  intro deliveries hkept
  obtain ⟨middle, hfirst, hkept', hrewrites⟩ := h deliveries hkept
  obtain ⟨next, hsecond, hkept'', hrewrites'⟩ := h' middle hkept'
  refine ⟨next, ?_, hkept'', hrewrites.trans (fun _ _ _ => Releases.trans) hrewrites'⟩
  dsimp only
  rw [hfirst, Checks.ok_bind_eq, hsecond]

/-- The select after the claim statement finds the row that took the token. -/
theorem find?_leased (hrow : row ∈ deliveries)
    (hfresh : ∀ other ∈ deliveries, other.claimToken ≠ some token) :
    (updateWhere (· = row) (·.leased leaseOwner nowEpoch token) deliveries).find?
      (fun row => row.status = .claimed && row.claimToken = some token) =
        some (row.leased leaseOwner nowEpoch token) := by
  have hmem : row.leased leaseOwner nowEpoch token ∈
      updateWhere (· = row) (·.leased leaseOwner nowEpoch token) deliveries :=
    mem_updateWhere.2 (.inl ⟨row, hrow, by simp, rfl⟩)
  cases hfind : (updateWhere (· = row) (·.leased leaseOwner nowEpoch token) deliveries).find?
      (fun row => row.status = .claimed && row.claimToken = some token) with
  | none =>
    have hnot := List.find?_eq_none.1 hfind _ hmem
    simp [DeliveryRow.leased] at hnot
  | some found =>
    have hfound := List.find?_some hfind
    obtain ⟨other, hother, heq⟩ := exists_of_mem_updateWhere (List.mem_of_find?_eq_some hfind)
    by_cases hsame : other = row
    · rw [if_pos (by simpa using hsame), hsame] at heq
      rw [heq]
    · rw [if_neg (by simpa using hsame)] at heq
      rw [heq, Bool.and_eq_true, decide_eq_true_eq, decide_eq_true_eq] at hfound
      exact absurd hfound.2 (hfresh other hother)

/-- A claim never aborts: it ends the leases that are over, and then gives the fresh token to one
due row, or to none. -/
theorem claim_cases (h : TableKept deliveries) (env : DispatchEnv) (leaseOwner : String)
    (nowEpoch : Nat) (htoken : token.length = 64)
    (hfresh : ∀ row ∈ deliveries, row.claimToken ≠ some token) :
    ∃ next, TableKept next ∧ Rewrites Releases deliveries next ∧
      (claimObservationCandidateDelivery env leaseOwner nowEpoch token deliveries =
          .ok (next, none) ∨
        ∃ row ∈ next, row.isDue nowEpoch = true ∧ row.attemptCount < maxAttempts ∧
          TableKept (updateWhere (· = row) (·.leased leaseOwner nowEpoch token) next) ∧
          claimObservationCandidateDelivery env leaseOwner nowEpoch token deliveries =
            .ok (updateWhere (· = row) (·.leased leaseOwner nowEpoch token) next,
              (row.leased leaseOwner nowEpoch token).claim?)) := by
  by_cases hguard : (!dispatchEnabled env || !isLeaseOwner leaseOwner || !validNow nowEpoch) = true
  · refine ⟨deliveries, h, Rewrites.refl Releases.refl deliveries, .inl ?_⟩
    unfold claimObservationCandidateDelivery
    rw [if_pos hguard]
  · have hvalid : validNow nowEpoch = true := by
      rw [Bool.or_eq_true, not_or] at hguard
      simpa using hguard.2
    obtain ⟨next, hstatements, hkept, hrewrites⟩ :=
      ((expireStaleDeliveries_passes nowEpoch).bind (failFinalLeases_passes nowEpoch)).bind
        (retryLeases_passes nowEpoch) deliveries h
    have hfresh' : ∀ row ∈ next, row.claimToken ≠ some token := by
      intro row' hrow' htaken
      obtain ⟨row, hrow, hreleases⟩ := hrewrites.exists_of_mem hrow'
      obtain hnone | rfl := hreleases.token
      · rw [hnone] at htaken
        cases htaken
      · exact hfresh _ hrow htaken
    refine ⟨next, hkept, hrewrites, ?_⟩
    unfold claimObservationCandidateDelivery
    obtain ⟨first, hfirst, hrest⟩ := Checks.bind_ok_iff.1 hstatements
    obtain ⟨expired, hexpire, hfail⟩ := Checks.bind_ok_iff.1 hfirst
    rw [if_neg hguard, hexpire, Checks.ok_bind_eq, hfail, Checks.ok_bind_eq, hrest,
      Checks.ok_bind_eq]
    obtain hnothing | ⟨row, hrow, hdue, hattempts, hclaim, hkept'⟩ :=
      claimFirstDue_passes hkept hvalid leaseOwner htoken hfresh'
    · left
      have hnone : next.find? (fun row => row.status = .claimed && row.claimToken = some token) =
          none := by
        rw [List.find?_eq_none]
        intro row hrow htaken
        rw [Bool.and_eq_true, decide_eq_true_eq, decide_eq_true_eq] at htaken
        exact hfresh' row hrow htaken.2
      rw [hnothing, Checks.ok_bind_eq, hnone]
      rfl
    · right
      refine ⟨row, hrow, hdue, hattempts, hkept', ?_⟩
      rw [hclaim, Checks.ok_bind_eq, find?_leased hrow hfresh']
      rfl

end Claim

/-! ## Finalization -/

def DeliveryFinalization.receiverStatus? : DeliveryFinalization → Option Nat
  | .acknowledged receiverStatus => some receiverStatus
  | .transientFailure => none
  | .failedTerminal receiverStatus => some receiverStatus

/-- The receiver status of a finalization, when there is one, is a status of HTTP. -/
def DeliveryFinalization.inRange (finalization : DeliveryFinalization) : Bool :=
  finalization.receiverStatus?.all fun status => 100 ≤ status ∧ status ≤ 599

section Finalize

variable {claim : Claim} {finalization : DeliveryFinalization} {nowEpoch : Nat}

/-- The row before and after a finalization. -/
structure Finalizes (claim : Claim) (finalization : DeliveryFinalization) (nowEpoch : Nat)
    (row row' : DeliveryRow) : Prop extends Frees row row' where
  acknowledged : row'.status = .acknowledged → row' = row ∨
    (∃ receiverStatus, finalization = .acknowledged receiverStatus) ∧
      row.claimToken = some claim.claimToken ∧
      row.leaseExpiresAtEpoch = some claim.leaseExpiresAtEpoch ∧
      nowEpoch < claim.leaseExpiresAtEpoch ∧ nowEpoch < row.expiresAtEpoch

theorem holds_iff :
    claim.holds row = true ↔ row.logicalCandidateId = claim.logicalCandidateId ∧
      row.status = .claimed ∧ row.leaseOwner = some claim.leaseOwner ∧
      row.leaseExpiresAtEpoch = some claim.leaseExpiresAtEpoch ∧
      row.claimToken = some claim.claimToken := by
  unfold Claim.holds
  simp only [Bool.and_eq_true, decide_eq_true_eq, and_assoc]

theorem settle_of_update {assign : DeliveryRow → DeliveryRow} (outcome : ObservationOutboxOutcome)
    (h : update claim.holds assign deliveries = .ok next) :
    ∃ outcome', claim.settle assign outcome deliveries = .ok (next, outcome') := by
  refine ⟨if deliveries.countP claim.holds = 1 then outcome else .empty, ?_⟩
  unfold Claim.settle
  rw [h]
  rfl

/-- A finalization of the row that the claim holds passes. -/
theorem settle_passes (h : TableKept deliveries)
    (hcreated : ∀ row ∈ deliveries, row.logicalCandidateId = claim.logicalCandidateId →
      row.createdAtEpoch ≤ nowEpoch)
    {status : DeliveryStatus} {nextAttempt : DeliveryRow → Nat}
    {acknowledgedAt receiverStatus : Option Nat} {outcome : ObservationOutboxOutcome}
    (hstatus : status ∈ [.acknowledged, .retry, .expired, .failedTerminal])
    (hnext : ∀ row, nextAttempt row = row.nextAttemptAtEpoch ∨ nowEpoch ≤ nextAttempt row)
    (hacknowledged : acknowledgedAt.isSome = decide (status = .acknowledged))
    (hreceiver : receiverStatus.all (fun status => 100 ≤ status ∧ status ≤ 599) = true)
    (hlegal : status = .acknowledged → ∀ row ∈ deliveries, claim.holds row = true →
      (∃ receiverStatus, finalization = .acknowledged receiverStatus) ∧
        nowEpoch < claim.leaseExpiresAtEpoch ∧ nowEpoch < row.expiresAtEpoch) :
    ∃ next outcome', claim.settle
        (fun row => row.ended status nowEpoch (nextAttempt row) acknowledgedAt receiverStatus)
        outcome deliveries = .ok (next, outcome') ∧
      TableKept next ∧ Rewrites (Finalizes claim finalization nowEpoch) deliveries next := by
  have hrows : ∀ row ∈ deliveries, claim.holds row = true →
      updateGuard row
          (row.ended status nowEpoch (nextAttempt row) acknowledgedAt receiverStatus) = true ∧
        RowKept (row.ended status nowEpoch (nextAttempt row) acknowledgedAt receiverStatus) ∧
        Finalizes claim finalization nowEpoch row
          (row.ended status nowEpoch (nextAttempt row) acknowledgedAt receiverStatus) := by
    intro row hrow hholds
    obtain ⟨hid, hclaimed, -, hlease, htoken⟩ := holds_iff.1 hholds
    have hkept := h.rows row hrow
    have hnow := hcreated row hrow hid
    have hlive : row.status.isLive = true := by rw [hclaimed]; rfl
    have hnextAttempt : row.createdAtEpoch ≤ nextAttempt row := by
      obtain heq | hle := hnext row
      · rw [heq]
        exact hkept.nextAttempt
      · exact hnow.trans hle
    have hended : row.status = .claimed ∧ status ∈ [.acknowledged, .retry, .failedTerminal] ∨
        status = .expired := by
      rw [hclaimed]
      revert hstatus
      cases status <;> decide
    obtain ⟨hguard, hkept'⟩ := hkept.ended status nowEpoch (nextAttempt row) acknowledgedAt
      receiverStatus hlive hended hnow hnextAttempt hacknowledged hreceiver
    refine ⟨hguard, hkept', frees_ended hlive, ?_⟩
    intro hack
    obtain ⟨hfinalization, hbefore, hbefore'⟩ := hlegal hack row hrow hholds
    exact .inr ⟨hfinalization, htoken, hlease, hbefore, hbefore'⟩
  obtain ⟨next, hupdate, hkept, hrewrites⟩ := h.rewritten (fun _ _ h => h.toFrees)
    (fun row => ⟨Frees.refl row, fun _ => .inl rfl⟩) hrows
  obtain ⟨outcome', hsettle⟩ := settle_of_update outcome hupdate
  exact ⟨next, outcome', hsettle, hkept, hrewrites⟩

/-- A finalization with a claim that matches the row it holds passes, when its reading does not lie
before the creation of the row. -/
theorem finalize_passes (h : TableKept deliveries)
    (hcurrent : ∀ row ∈ deliveries, claim.holds row = true → row.claim? = some claim)
    (hcreated : ∀ row ∈ deliveries, row.logicalCandidateId = claim.logicalCandidateId →
      row.createdAtEpoch ≤ nowEpoch)
    (hrange : finalization.inRange = true) :
    ∃ next outcome, finalizeObservationCandidateDelivery claim finalization nowEpoch deliveries =
        .ok (next, outcome) ∧
      TableKept next ∧ Rewrites (Finalizes claim finalization nowEpoch) deliveries next := by
  have hrefl : ∀ row, Finalizes claim finalization nowEpoch row row :=
    fun row => ⟨Frees.refl row, fun _ => .inl rfl⟩
  have hkeep : ∀ row : DeliveryRow, row.nextAttemptAtEpoch = row.nextAttemptAtEpoch ∨
      nowEpoch ≤ row.nextAttemptAtEpoch := fun row => .inl rfl
  unfold finalizeObservationCandidateDelivery
  by_cases hvalid : validNow nowEpoch = true
  · rw [if_neg (by rw [hvalid]; decide)]
    by_cases hexpires : claim.expiresAtEpoch ≤ nowEpoch
    · rw [if_pos hexpires]
      exact settle_passes h hcreated (by decide) hkeep rfl rfl (fun h => nomatch h)
    · rw [if_neg hexpires]
      by_cases hlease : claim.leaseExpiresAtEpoch ≤ nowEpoch
      · rw [if_pos hlease]
        split
        · exact settle_passes h hcreated (by decide) (fun _ => .inr le_rfl) rfl rfl
            (fun h => nomatch h)
        · exact settle_passes h hcreated (by decide) (fun _ => .inr le_rfl) rfl rfl
            (fun h => nomatch h)
      · rw [if_neg hlease]
        cases finalization with
        | acknowledged receiverStatus =>
          refine settle_passes h hcreated (by decide) hkeep rfl hrange ?_
          intro _ row hrow hholds
          have hclaim := hcurrent row hrow hholds
          obtain ⟨-, -, howner, hleased, htoken⟩ := holds_iff.1 hholds
          unfold DeliveryRow.claim? at hclaim
          rw [howner, hleased, htoken] at hclaim
          have hsame : row.expiresAtEpoch = claim.expiresAtEpoch :=
            congrArg Claim.expiresAtEpoch (Option.some.inj hclaim)
          exact ⟨⟨receiverStatus, rfl⟩, by omega, by omega⟩
        | failedTerminal receiverStatus =>
          exact settle_passes h hcreated (by decide) hkeep rfl hrange (fun h => nomatch h)
        | transientFailure =>
          dsimp only
          split
          · exact settle_passes h hcreated (by decide) hkeep rfl rfl (fun h => nomatch h)
          · exact settle_passes h hcreated (by decide) (fun _ => .inr (le_ofNat_add hvalid _)) rfl
              rfl (fun h => nomatch h)
  · rw [if_pos (by simpa using hvalid)]
    exact ⟨deliveries, _, rfl, h, Rewrites.refl hrefl deliveries⟩

/-- A finalization whose token is not the current one of its row changes nothing. -/
theorem finalize_stale (h : TableKept deliveries)
    (hstale : ∀ row ∈ deliveries, row.logicalCandidateId = claim.logicalCandidateId →
      row.claimToken ≠ some claim.claimToken) :
    ∃ outcome, finalizeObservationCandidateDelivery claim finalization nowEpoch deliveries =
      .ok (deliveries, outcome) := by
  have hsettle : ∀ assign outcome, ∃ outcome',
      claim.settle assign outcome deliveries = .ok (deliveries, outcome') := by
    intro assign outcome
    have hnone : ∀ row ∈ deliveries, claim.holds row = false := by
      intro row hrow
      rw [Bool.eq_false_iff]
      intro hholds
      obtain ⟨hid, -, -, -, htoken⟩ := holds_iff.1 hholds
      exact hstale row hrow hid htoken
    exact settle_of_update outcome (update_none h.tokens hnone)
  unfold finalizeObservationCandidateDelivery
  cases finalization <;> dsimp only <;> split_ifs <;> first | exact ⟨_, rfl⟩ | exact hsettle _ _

end Finalize

/-! ## Dispatchers in any order -/

/-- The table, the claims that were handed out with the readings they were made at, and the tokens
that were drawn. -/
structure World where
  deliveries : List DeliveryRow
  issued : List (Claim × Nat)
  tokens : List String
  deriving DecidableEq, Repr

def World.empty : World := ⟨[], [], []⟩

inductive Step where
  | ingest (logicalCandidateId : String) (receivedAtEpoch expiresAtEpoch : Nat)
  | expire (nowEpoch : Nat)
  | claim (env : DispatchEnv) (leaseOwner : String) (nowEpoch : Nat) (token : String)
  | finalize (claim : Claim) (finalization : DeliveryFinalization) (nowEpoch : Nat)
  deriving DecidableEq, Repr

def World.exec (world : World) : Step → Except Abort World
  | .ingest logicalCandidateId receivedAtEpoch expiresAtEpoch =>
    if world.deliveries.any (·.logicalCandidateId = logicalCandidateId) then .ok world
    else .ok { world with
      deliveries := world.deliveries ++
        [.ofProposal logicalCandidateId receivedAtEpoch expiresAtEpoch] }
  | .expire nowEpoch => do
    let deliveries ← expireStaleDeliveries nowEpoch world.deliveries
    return { world with deliveries }
  | .claim env leaseOwner nowEpoch token => do
    let (deliveries, claim) ←
      claimObservationCandidateDelivery env leaseOwner nowEpoch token world.deliveries
    return ⟨deliveries, world.issued ++ claim.toList.map fun claim => (claim, nowEpoch),
      world.tokens ++ [token]⟩
  | .finalize claim finalization nowEpoch => do
    let (deliveries, _) ←
      finalizeObservationCandidateDelivery claim finalization nowEpoch world.deliveries
    return { world with deliveries }

/-- Claims draw fresh tokens; a finalization is of a claim that was handed out, with a status of
HTTP, and its reading does not lie before the creation of the row. -/
def World.Allows (world : World) : Step → Prop
  | .ingest _ _ _ | .expire _ => True
  | .claim _ _ _ token => token.length = 64 ∧ token ∉ world.tokens
  | .finalize claim finalization nowEpoch =>
    claim ∈ world.issued.map Prod.fst ∧ finalization.inRange = true ∧
      ∀ row ∈ world.deliveries, row.logicalCandidateId = claim.logicalCandidateId →
        row.createdAtEpoch ≤ nowEpoch

/-- The deliveries under any number of dispatchers. -/
def dispatchers : System World Step where
  init := (· = World.empty)
  step := fun step world next => world.Allows step ∧ world.exec step = .ok next

structure Kept (world : World) : Prop where
  table : TableKept world.deliveries
  drawn : ∀ row ∈ world.deliveries, ∀ token, row.claimToken = some token → token ∈ world.tokens
  issuedDrawn : ∀ issued ∈ world.issued, issued.1.claimToken ∈ world.tokens
  current : ∀ issued ∈ world.issued, ∀ row ∈ world.deliveries,
    row.claimToken = some issued.1.claimToken → row.claim? = some issued.1
  counts : ∀ row ∈ world.deliveries, row.attemptCount =
    world.issued.countP (·.1.logicalCandidateId = row.logicalCandidateId)
  rowOf : ∀ issued ∈ world.issued, ∃ row ∈ world.deliveries,
    row.logicalCandidateId = issued.1.logicalCandidateId ∧ row.createdAtEpoch ≤ issued.2

theorem Kept.empty : Kept .empty := by
  refine ⟨⟨List.nodup_nil, ?_, List.Pairwise.nil⟩, ?_, ?_, ?_, ?_, ?_⟩
  all_goals simp [World.empty]

variable {world next : World}

/-- Statements that end leases keep the world. -/
theorem Kept.rewritten (h : Kept world) {R : DeliveryRow → DeliveryRow → Prop}
    (hfrees : ∀ a b, R a b → Frees a b) {deliveries : List DeliveryRow}
    (hrewrites : Rewrites R world.deliveries deliveries) (htable : TableKept deliveries) :
    Kept { world with deliveries } where
  table := htable
  issuedDrawn := h.issuedDrawn
  drawn := by
    intro row' hrow' token htoken
    obtain ⟨row, hrow, hr⟩ := hrewrites.exists_of_mem hrow'
    obtain hnone | rfl := (hfrees _ _ hr).token
    · rw [hnone] at htoken
      cases htoken
    · exact h.drawn _ hrow token htoken
  current := by
    intro issued hissued row' hrow' htoken
    obtain ⟨row, hrow, hr⟩ := hrewrites.exists_of_mem hrow'
    obtain hnone | rfl := (hfrees _ _ hr).token
    · rw [hnone] at htoken
      cases htoken
    · exact h.current issued hissued _ hrow htoken
  counts := by
    intro row' hrow'
    obtain ⟨row, hrow, hr⟩ := hrewrites.exists_of_mem hrow'
    have hfree := hfrees _ _ hr
    rw [hfree.attemptCount, hfree.logicalCandidateId]
    exact h.counts row hrow
  rowOf := by
    intro issued hissued
    obtain ⟨row, hrow, hid, hcreated⟩ := h.rowOf issued hissued
    obtain ⟨row', hrow', hr⟩ := hrewrites.evolves row hrow
    have hfree := hfrees _ _ hr
    exact ⟨row', hrow', hfree.logicalCandidateId.trans hid, hfree.createdAtEpoch ▸ hcreated⟩

theorem rowKept_ofProposal (logicalCandidateId : String) (receivedAtEpoch expiresAtEpoch : Nat) :
    RowKept (.ofProposal logicalCandidateId receivedAtEpoch expiresAtEpoch) := by
  by_cases hstale : expiresAtEpoch ≤ receivedAtEpoch
  · refine ⟨?_, ?_, le_rfl, fun lease hlease => nomatch hlease⟩
    · simp [DeliveryRow.ofProposal, DeliveryRow.checks, hstale]
    · simp [DeliveryRow.ofProposal, DeliveryStatus.isLive, hstale]
  · refine ⟨?_, ?_, le_rfl, fun lease hlease => nomatch hlease⟩
    · simp [DeliveryRow.ofProposal, DeliveryRow.checks, hstale]
    · intro _
      exact Nat.lt_of_not_le hstale

theorem Kept.ingest (h : Kept world) {logicalCandidateId : String}
    (hnew : ∀ row ∈ world.deliveries, row.logicalCandidateId ≠ logicalCandidateId)
    (receivedAtEpoch expiresAtEpoch : Nat) :
    Kept { world with
      deliveries := world.deliveries ++
        [.ofProposal logicalCandidateId receivedAtEpoch expiresAtEpoch] } where
  table := by
    refine ⟨keysNodup_append h.table.ids hnew, ?_, ?_⟩
    · intro row hrow
      obtain hold | hrow := List.mem_append.1 hrow
      · exact h.table.rows row hold
      · rw [List.mem_singleton.1 hrow]
        exact rowKept_ofProposal _ _ _
    · refine List.pairwise_append.2 ⟨h.table.tokens, List.pairwise_singleton _ _, ?_⟩
      intro a _ b hb hsome heq
      rw [heq, List.mem_singleton.1 hb] at hsome
      cases hsome
  drawn := by
    intro row hrow token htoken
    obtain hold | hrow := List.mem_append.1 hrow
    · exact h.drawn row hold token htoken
    · rw [List.mem_singleton.1 hrow] at htoken
      cases htoken
  issuedDrawn := h.issuedDrawn
  current := by
    intro issued hissued row hrow htoken
    obtain hold | hrow := List.mem_append.1 hrow
    · exact h.current issued hissued row hold htoken
    · rw [List.mem_singleton.1 hrow] at htoken
      cases htoken
  counts := by
    intro row hrow
    obtain hold | hrow := List.mem_append.1 hrow
    · exact h.counts row hold
    · rw [List.mem_singleton.1 hrow]
      refine (List.countP_eq_zero.2 ?_).symm
      intro issued hissued hid
      obtain ⟨other, hother, heq, -⟩ := h.rowOf issued hissued
      exact hnew other hother (heq.trans (of_decide_eq_true hid))
  rowOf := by
    intro issued hissued
    obtain ⟨row, hrow, hrest⟩ := h.rowOf issued hissued
    exact ⟨row, List.mem_append_left _ hrow, hrest⟩

/-- A due row takes a token that was never drawn. -/
theorem Kept.lease (h : Kept world) (hrow : row ∈ world.deliveries) {leaseOwner token : String}
    {nowEpoch : Nat} (hdue : row.isDue nowEpoch = true) (hfresh : token ∉ world.tokens)
    (htable : TableKept
      (updateWhere (· = row) (·.leased leaseOwner nowEpoch token) world.deliveries)) {claim : Claim}
    (hclaim : (row.leased leaseOwner nowEpoch token).claim? = some claim) :
    Kept ⟨updateWhere (· = row) (·.leased leaseOwner nowEpoch token) world.deliveries,
      world.issued ++ [(claim, nowEpoch)], world.tokens ++ [token]⟩ := by
  have hid : claim.logicalCandidateId = row.logicalCandidateId :=
    (congrArg Claim.logicalCandidateId (Option.some.inj hclaim)).symm
  have htoken : claim.claimToken = token :=
    (congrArg Claim.claimToken (Option.some.inj hclaim)).symm
  have hcases : ∀ row' ∈ updateWhere (· = row) (·.leased leaseOwner nowEpoch token)
      world.deliveries, row' = row.leased leaseOwner nowEpoch token ∨
        (row' ∈ world.deliveries ∧ row' ≠ row) := by
    intro row' hrow'
    obtain ⟨other, -, hother, rfl⟩ | ⟨hother, hne⟩ := mem_updateWhere.1 hrow'
    · rw [of_decide_eq_true hother]
      exact .inl rfl
    · exact .inr ⟨hother, of_decide_eq_false hne⟩
  refine ⟨htable, ?_, ?_, ?_, ?_, ?_⟩
  · intro row' hrow' other hother
    obtain rfl | ⟨hold, -⟩ := hcases row' hrow'
    · rw [← Option.some.inj hother]
      exact List.mem_append_right _ List.mem_cons_self
    · exact List.mem_append_left _ (h.drawn row' hold other hother)
  · intro issued hissued
    obtain hold | hnew := List.mem_append.1 hissued
    · exact List.mem_append_left _ (h.issuedDrawn issued hold)
    · rw [List.mem_singleton.1 hnew, htoken]
      exact List.mem_append_right _ List.mem_cons_self
  · intro issued hissued row' hrow' hcurrent
    obtain hold | hnew := List.mem_append.1 hissued
    · obtain rfl | ⟨hrow', -⟩ := hcases row' hrow'
      · -- an older claim would have drawn the fresh token before
        rw [Option.some.inj hcurrent] at hfresh
        exact absurd (h.issuedDrawn issued hold) hfresh
      · exact h.current issued hold row' hrow' hcurrent
    · rw [List.mem_singleton.1 hnew] at hcurrent ⊢
      obtain rfl | ⟨hrow', -⟩ := hcases row' hrow'
      · exact hclaim
      · rw [htoken] at hcurrent
        exact absurd (h.drawn row' hrow' token hcurrent) hfresh
  · intro row' hrow'
    rw [List.countP_append, List.countP_singleton]
    obtain rfl | ⟨hold, hne⟩ := hcases row' hrow'
    · have hsame : claim.logicalCandidateId =
          (row.leased leaseOwner nowEpoch token).logicalCandidateId := hid
      rw [if_pos (decide_eq_true hsame)]
      show row.attemptCount + 1 = _
      rw [h.counts row hrow]
      rfl
    · have hne' : ¬claim.logicalCandidateId = row'.logicalCandidateId := by
        rw [hid]
        exact fun heq => hne (h.table.ids.eq_of_key hold hrow heq.symm)
      rw [if_neg (by simpa using hne')]
      exact h.counts row' hold
  · intro issued hissued
    have hmem : row.leased leaseOwner nowEpoch token ∈
        updateWhere (· = row) (·.leased leaseOwner nowEpoch token) world.deliveries :=
      mem_updateWhere.2 (.inl ⟨row, hrow, by simp, rfl⟩)
    obtain hold | hnew := List.mem_append.1 hissued
    · obtain ⟨other, hother, hsame, hcreated⟩ := h.rowOf issued hold
      by_cases heq : other = row
      · rw [heq] at hsame hcreated
        exact ⟨_, hmem, hsame, hcreated⟩
      · exact ⟨other, mem_updateWhere.2 (.inr ⟨hother, by simpa using heq⟩), hsame, hcreated⟩
    · rw [List.mem_singleton.1 hnew]
      refine ⟨_, hmem, hid.symm, ?_⟩
      have hnext := (h.table.rows row hrow).nextAttempt
      unfold DeliveryRow.isDue at hdue
      rw [Bool.and_eq_true, Bool.and_eq_true, decide_eq_true_eq, decide_eq_true_eq] at hdue
      exact hnext.trans hdue.1.2

/-- What a step does to rows that are not live, and to rows that it acknowledges. -/
structure Fences (world : World) (step : Step) (next : World) : Prop where
  terminal : ∀ row ∈ world.deliveries, row.status.isLive = false → row ∈ next.deliveries
  acknowledged : ∀ row' ∈ next.deliveries, row'.status = .acknowledged →
    row' ∈ world.deliveries ∨
      ∃ row ∈ world.deliveries, row.logicalCandidateId = row'.logicalCandidateId ∧
        ∃ claim receiverStatus nowEpoch lease,
          step = .finalize claim (.acknowledged receiverStatus) nowEpoch ∧
          row.claimToken = some claim.claimToken ∧ row.leaseExpiresAtEpoch = some lease ∧
          nowEpoch < lease ∧ nowEpoch < row.expiresAtEpoch

theorem Fences.rewritten {deliveries : List DeliveryRow} {step : Step}
    (hrewrites : Rewrites Releases world.deliveries deliveries)
    (hnext : next.deliveries = deliveries) : Fences world step next where
  terminal := by
    intro row hrow hterminal
    obtain ⟨row', hrow', hr⟩ := hrewrites.evolves row hrow
    rw [hnext, ← hr.terminal hterminal]
    exact hrow'
  acknowledged := by
    rw [hnext]
    intro row' hrow' hack
    obtain ⟨row, hrow, hr⟩ := hrewrites.exists_of_mem hrow'
    rw [hr.acknowledged hack]
    exact .inl hrow

/-- A step that is allowed is carried out, keeps the world, and leaves rows that are not live
alone. -/
theorem Kept.exec (h : Kept world) {step : Step} (hallows : world.Allows step) :
    ∃ next, world.exec step = .ok next ∧ Kept next ∧ Fences world step next := by
  cases step with
  | ingest logicalCandidateId receivedAtEpoch expiresAtEpoch =>
    unfold World.exec
    dsimp only
    by_cases hany : world.deliveries.any (·.logicalCandidateId = logicalCandidateId) = true
    · rw [if_pos hany]
      exact ⟨world, rfl, h, Fences.rewritten (Rewrites.refl Releases.refl _) rfl⟩
    · rw [if_neg hany]
      refine ⟨_, rfl, h.ingest ?_ receivedAtEpoch expiresAtEpoch, ?_, ?_⟩
      · intro row hrow hid
        apply hany
        rw [List.any_eq_true]
        exact ⟨row, hrow, decide_eq_true hid⟩
      · exact fun row hrow _ => List.mem_append_left _ hrow
      · intro row' hrow' hack
        obtain hold | hnew := List.mem_append.1 hrow'
        · exact .inl hold
        · rw [List.mem_singleton.1 hnew] at hack
          unfold DeliveryRow.ofProposal at hack
          dsimp only at hack
          split at hack <;> cases hack
  | expire nowEpoch =>
    obtain ⟨deliveries, hexpire, htable, hrewrites⟩ :=
      expireStaleDeliveries_passes nowEpoch world.deliveries h.table
    refine ⟨{ world with deliveries }, ?_, h.rewritten (fun _ _ h => h.toFrees) hrewrites htable,
      Fences.rewritten hrewrites rfl⟩
    unfold World.exec
    dsimp only
    rw [hexpire]
    rfl
  | claim env leaseOwner nowEpoch token =>
    obtain ⟨hlength, hfresh⟩ := hallows
    have hunused : ∀ row ∈ world.deliveries, row.claimToken ≠ some token :=
      fun row hrow htoken => hfresh (h.drawn row hrow token htoken)
    obtain ⟨middle, htable, hrewrites, hnone | ⟨row, hrow, hdue, -, htable', hclaim⟩⟩ :=
      claim_cases h.table env leaseOwner nowEpoch hlength hunused
    all_goals have hkept := h.rewritten (fun _ _ h => h.toFrees) hrewrites htable
    · refine ⟨⟨middle, world.issued ++ [], world.tokens ++ [token]⟩, ?_, ?_,
        Fences.rewritten hrewrites rfl⟩
      · unfold World.exec
        dsimp only
        rw [hnone]
        rfl
      · rw [List.append_nil]
        exact { hkept with
          drawn := fun row hrow other hother =>
            List.mem_append_left _ (hkept.drawn row hrow other hother)
          issuedDrawn := fun issued hissued =>
            List.mem_append_left _ (hkept.issuedDrawn issued hissued) }
    · refine ⟨_, ?_, hkept.lease hrow hdue hfresh htable' rfl, ?_, ?_⟩
      · unfold World.exec
        dsimp only
        rw [hclaim]
        rfl
      · intro other hother hterminal
        obtain ⟨other', hother', hr⟩ := hrewrites.evolves other hother
        rw [hr.terminal hterminal] at hother'
        refine mem_updateWhere.2 (.inr ⟨hother', decide_eq_false ?_⟩)
        rintro rfl
        revert hterminal hdue
        unfold DeliveryRow.isDue DeliveryStatus.isLive
        cases other.status <;> simp
      · intro row' hrow' hack
        obtain ⟨other, -, -, rfl⟩ | ⟨hother, -⟩ := mem_updateWhere.1 hrow'
        · cases hack
        · obtain ⟨other, hother, hr⟩ := hrewrites.exists_of_mem hother
          rw [hr.acknowledged hack]
          exact .inl hother
  | finalize claim finalization nowEpoch =>
    obtain ⟨hissued, hrange, hcreated⟩ := hallows
    obtain ⟨issued, hmem, rfl⟩ := List.mem_map.1 hissued
    obtain ⟨deliveries, outcome, hfinalize, htable, hrewrites⟩ := finalize_passes h.table
      (fun row hrow hholds => h.current issued hmem row hrow (holds_iff.1 hholds).2.2.2.2)
      hcreated hrange
    refine ⟨{ world with deliveries }, ?_, h.rewritten (fun _ _ h => h.toFrees) hrewrites htable,
      ?_, ?_⟩
    · unfold World.exec
      dsimp only
      rw [hfinalize]
      rfl
    · intro row hrow hterminal
      obtain ⟨row', hrow', hr⟩ := hrewrites.evolves row hrow
      rw [← hr.terminal hterminal]
      exact hrow'
    · intro row' hrow' hack
      obtain ⟨row, hrow, hr⟩ := hrewrites.exists_of_mem hrow'
      obtain rfl | ⟨⟨receiverStatus, rfl⟩, htoken, hlease, hbefore, hbefore'⟩ :=
        hr.acknowledged hack
      · exact .inl hrow
      · exact .inr ⟨row, hrow, hr.logicalCandidateId.symm, issued.1, receiverStatus, nowEpoch, _,
          rfl, htoken, hlease, hbefore, hbefore'⟩

/-! ## The fencing of deliveries -/

theorem Kept.of_reachable (h : dispatchers.Reachable world) : Kept world := by
  refine h.invariant ?_ ?_
  · rintro _ rfl
    exact Kept.empty
  · rintro step world next hkept ⟨hallows, hexec⟩
    obtain ⟨next', hexec', hkept', -⟩ := hkept.exec hallows
    rw [hexec] at hexec'
    rw [Except.ok.inj hexec']
    exact hkept'

/-- A finalization as the dispatcher makes it, with the later of its two readings, is allowed. -/
theorem dispatcher_allowed (h : dispatchers.Reachable world) {claim : Claim} {claimedAtEpoch : Nat}
    (hissued : (claim, claimedAtEpoch) ∈ world.issued) (clock response : Option Nat)
    (hresponse : ∀ status, response = some status → 100 ≤ status) :
    world.Allows (.finalize claim (finalizationOfResponse response)
      (freshCompletionEpoch claimedAtEpoch clock)) := by
  have hkept := Kept.of_reachable h
  refine ⟨List.mem_map_of_mem hissued, ?_, ?_⟩
  · cases response with
    | none => rfl
    | some status =>
      have hlow := hresponse status rfl
      unfold finalizationOfResponse DeliveryFinalization.inRange
      dsimp only
      split_ifs
      · exact decide_eq_true (by omega)
      · rfl
      · exact decide_eq_true (by omega)
  · intro row hrow hid
    obtain ⟨other, hother, hsame, hcreated⟩ := hkept.rowOf _ hissued
    rw [hkept.table.ids.eq_of_key hrow hother (hid.trans hsame.symm)]
    refine hcreated.trans ?_
    unfold freshCompletionEpoch
    split
    · split
      · exact le_max_left _ _
      · exact le_rfl
    · exact le_rfl

/-- In every state that ingestion and dispatchers reach, no step aborts, attempts count the claims,
a stale token changes nothing, terminal rows stay, and only the current token acknowledges, before
its lease and the candidate are over. -/
theorem deliveries_fenced (h : dispatchers.Reachable world) :
    (∀ step, world.Allows step → ∃ next, world.exec step = .ok next) ∧
    (∀ row ∈ world.deliveries, row.attemptCount ≤ 5 ∧ row.attemptCount =
      world.issued.countP (·.1.logicalCandidateId = row.logicalCandidateId)) ∧
    (∀ claim finalization nowEpoch,
      (∀ row ∈ world.deliveries, row.logicalCandidateId = claim.logicalCandidateId →
        row.claimToken ≠ some claim.claimToken) →
      world.exec (.finalize claim finalization nowEpoch) = .ok world) ∧
    ∀ step next, world.Allows step → world.exec step = .ok next → Fences world step next := by
  have hkept := Kept.of_reachable h
  refine ⟨?_, ?_, ?_, ?_⟩
  · intro step hallows
    obtain ⟨next, hexec, -, -⟩ := hkept.exec hallows
    exact ⟨next, hexec⟩
  · intro row hrow
    exact ⟨(of_decide_eq_true (hkept.table.rows row hrow).checks).1, hkept.counts row hrow⟩
  · intro claim finalization nowEpoch hstale
    obtain ⟨outcome, hfinalize⟩ :=
      @finalize_stale _ _ finalization nowEpoch hkept.table hstale
    unfold World.exec
    dsimp only
    rw [hfinalize]
    rfl
  · intro step next hallows hexec
    obtain ⟨next', hexec', -, hfences⟩ := hkept.exec hallows
    rw [hexec] at hexec'
    rw [Except.ok.inj hexec']
    exact hfences

def sampleEnv : DispatchEnv := ⟨some "true", some (String.ofList (List.replicate 64 'a'))⟩

def sampleToken : String := String.ofList (List.replicate 64 'b')

def sampleCandidate : String := String.ofList (List.replicate 64 'c')

def sampleClaim : Claim := ⟨sampleCandidate, 1, "dispatcher-1", 1030, sampleToken, 1300⟩

/-- A candidate came in at `1000`, expires at `1300` and was claimed at once. -/
def claimedWorld : World where
  deliveries := [(DeliveryRow.ofProposal sampleCandidate 1000 1300).leased "dispatcher-1" 1000
    sampleToken]
  issued := [(sampleClaim, 1000)]
  tokens := [sampleToken]

theorem claimedWorld_reachable : dispatchers.Reachable claimedWorld := by
  have hinit : dispatchers.Reachable World.empty := System.Reachable.init rfl
  have hingest : dispatchers.step (.ingest sampleCandidate 1000 1300) World.empty
      ⟨[.ofProposal sampleCandidate 1000 1300], [], []⟩ := ⟨trivial, rfl⟩
  have hclaim : dispatchers.step (.claim sampleEnv "dispatcher-1" 1000 sampleToken)
      ⟨[.ofProposal sampleCandidate 1000 1300], [], []⟩ claimedWorld := by
    refine ⟨⟨by decide, List.not_mem_nil⟩, ?_⟩
    decide
  exact (hinit.snoc hingest).snoc hclaim

theorem claimedWorld_fenced :
    (∀ row ∈ claimedWorld.deliveries, row.attemptCount = 1) ∧
      ∃ next, claimedWorld.exec (.finalize sampleClaim (.acknowledged 202) 1005) = .ok next := by
  obtain ⟨hpasses, hcounts, -, -⟩ := deliveries_fenced claimedWorld_reachable
  refine ⟨fun row hrow => ?_, hpasses _ ⟨List.mem_cons_self, rfl, ?_⟩⟩
  · rw [(hcounts row hrow).2, List.mem_singleton.1 hrow]
    decide
  · intro row hrow _
    rw [List.mem_singleton.1 hrow]
    decide

/-- A finalization of the current claim whose reading lies before the creation of the row aborts. -/
theorem early_finalization_aborts :
    dispatchers.Reachable claimedWorld ∧ sampleClaim ∈ claimedWorld.issued.map Prod.fst ∧
      claimedWorld.exec (.finalize sampleClaim (.acknowledged 202) 0) = .error .check :=
  ⟨claimedWorld_reachable, List.mem_cons_self, by decide⟩

end TradeOps.Proposals
