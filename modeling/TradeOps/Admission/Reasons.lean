import TradeOps.Admission.Leases

/-!
# Failure reasons of the outbox

A dispatch statement computes a delivery's status and its failure reason with two `CASE`
expressions. The one for the status looks first whether the delivery is still deliverable and not
yet expired; the one for the reason does not. So a delivery that ends as `QUARANTINED` or `EXPIRED`
gets a reason when, at the same moment, the clock ran backwards, its attempts were used up or the
dispatcher reported a failure. A row with a reason and another status than `FAILED_TERMINAL` is
final, so a run has such a row at its end exactly when one of its steps made one.
-/

namespace TradeOps.Admission

open Tables SortBy Keyed

/-- The reason is there exactly for a terminal failure. -/
def OutboxRow.Reasoned (o : OutboxRow) : Prop :=
  o.failureReason ≠ none ↔ o.status = .failedTerminal

/-- The two branches that the status tests first. -/
def stopped (db : Db) (now : Int) (o : OutboxRow) : Bool :=
  !deliverable db o || o.expiresAtEpoch ≤ now

/-- The delivery that a claim takes up. -/
def nextDue (db : Db) (now : Int) : Option OutboxRow :=
  minBy (fun o => toLex (o.nextAttemptAtEpoch, o.deliveryId)) (db.outbox.filter (due db now))

/-- Whatever stopped delivery a dispatch statement touches has nothing else to report. -/
def Action.Separate (db : Db) : Action → Prop
  | .claim now _ => dispatchTime now = true → ∀ o, nextDue db now = some o →
      stopped db now o = true → o.lastSeen ≤ now ∧ o.deliveryAttempts < 5
  | .settle token requested now => dispatchTime now = true → ∀ o ∈ db.outbox,
      held db now token o = true → stopped db now o = true →
        o.lastDispatchAtEpoch.any (now < ·) = false ∧
          (requested = .retry → o.deliveryAttempts < 5) ∧ requested ≠ .failedTerminal
  | _ => True

/-- Every action of a sequence is separate in the world it is taken in. -/
def Separated (codec : Codec) : World → List Action → Prop
  | _, [] => True
  | w, action :: rest => action.Separate w.db ∧
      ∀ w', w.act codec action = some w' → Separated codec w' rest

/-! ## Rows -/

section Rows

variable {db : Db} {now : Int} {token : String} {requested : Requested} {o o' : OutboxRow}
  {jsonValid : String → Bool}

theorem claimState_stopped (h : stopped db now o = true) :
    claimState db now o = .quarantined ∨ claimState db now o = .expired := by
  simp only [stopped, Bool.or_eq_true, Bool.not_eq_true', decide_eq_true_eq] at h
  unfold claimState
  by_cases hdeliverable : deliverable db o = true
  · right
    have hexpired : o.expiresAtEpoch ≤ now := by simpa [hdeliverable] using h
    simp [hdeliverable, hexpired]
  · left
    simp [hdeliverable]

theorem claimState_running (h : stopped db now o = false) :
    claimState db now o =
      if now < o.lastSeen ∨ o.deliveryAttempts ≥ 5 then .failedTerminal else .claimed := by
  simp only [stopped, Bool.or_eq_false_iff, Bool.not_eq_false', decide_eq_false_iff_not] at h
  unfold claimState
  simp only [h, Bool.not_true, Bool.false_eq_true, if_false]
  by_cases hclock : now < o.lastSeen
  · simp [hclock]
  · simp [hclock]

theorem settleState_stopped (h : stopped db now o = true) :
    settleState db now requested o = .quarantined ∨ settleState db now requested o = .expired := by
  simp only [stopped, Bool.or_eq_true, Bool.not_eq_true', decide_eq_true_eq] at h
  unfold settleState
  by_cases hdeliverable : deliverable db o = true
  · right
    have hexpired : o.expiresAtEpoch ≤ now := by simpa [hdeliverable] using h
    simp [hdeliverable, hexpired]
  · left
    simp [hdeliverable]

theorem settleState_running (h : stopped db now o = false) :
    settleState db now requested o =
      if o.lastDispatchAtEpoch.any (now < ·) = true ∨
          (requested = .retry ∧ o.deliveryAttempts ≥ 5) then .failedTerminal
      else requested.status := by
  simp only [stopped, Bool.or_eq_false_iff, Bool.not_eq_false', decide_eq_false_iff_not] at h
  unfold settleState
  simp only [h, Bool.not_true, Bool.false_eq_true, if_false]
  by_cases hclock : o.lastDispatchAtEpoch.any (now < ·) = true
  · simp [hclock]
  · simp [hclock]

theorem claimRow_reason :
    (claimRow db now token o).failureReason ≠ none ↔ now < o.lastSeen ∨ o.deliveryAttempts ≥ 5 := by
  simp only [claimRow]
  by_cases hclock : now < o.lastSeen
  · simp [hclock]
  · by_cases hattempts : o.deliveryAttempts ≥ 5 <;> simp [hclock, hattempts]

theorem settleRow_reason :
    (settleRow db now requested o).failureReason ≠ none ↔
      o.lastDispatchAtEpoch.any (now < ·) = true ∨
        (requested = .retry ∧ o.deliveryAttempts ≥ 5) ∨ requested = .failedTerminal ∨
          o.failureReason ≠ none := by
  simp only [settleRow]
  by_cases hclock : o.lastDispatchAtEpoch.any (now < ·) = true
  · simp [hclock]
  · by_cases hretry : requested = .retry ∧ o.deliveryAttempts ≥ 5
    · simp [hclock, hretry]
    · by_cases hfailed : requested = .failedTerminal <;> simp [hclock, hretry, hfailed]

/-- A claimed delivery carries its reason rightly unless it was stopped and had more to report. -/
theorem claimRow_reasoned_iff :
    (claimRow db now token o).Reasoned ↔
      (stopped db now o = true → o.lastSeen ≤ now ∧ o.deliveryAttempts < 5) := by
  have hstatus : (claimRow db now token o).status = claimState db now o := rfl
  unfold OutboxRow.Reasoned
  rw [claimRow_reason, hstatus]
  cases hstopped : stopped db now o with
  | true =>
    have hne : claimState db now o ≠ .failedTerminal := by
      rcases claimState_stopped hstopped with hs | hs <;> simp [hs]
    simp only [hne, iff_false, forall_const, not_or, not_lt, ge_iff_le, not_le]
  | false =>
    rw [claimState_running hstopped]
    by_cases hfail : now < o.lastSeen ∨ o.deliveryAttempts ≥ 5 <;> simp [hfail]

theorem settleRow_reasoned_iff (hnone : o.failureReason = none) :
    (settleRow db now requested o).Reasoned ↔
      (stopped db now o = true → o.lastDispatchAtEpoch.any (now < ·) = false ∧
        (requested = .retry → o.deliveryAttempts < 5) ∧ requested ≠ .failedTerminal) := by
  have hstatus : (settleRow db now requested o).status = settleState db now requested o := rfl
  unfold OutboxRow.Reasoned
  rw [settleRow_reason, hstatus]
  cases hstopped : stopped db now o with
  | true =>
    have hstate : settleState db now requested o = .quarantined ∨
        settleState db now requested o = .expired := settleState_stopped hstopped
    have hne : settleState db now requested o ≠ .failedTerminal := by
      rcases hstate with hs | hs <;> simp [hs]
    simp only [hne, hnone, iff_false, forall_const, not_or, not_and, ne_eq, not_true_eq_false,
      not_false_eq_true, and_true, Bool.not_eq_true, ge_iff_le, not_le]
  | false =>
    rw [settleState_running hstopped]
    cases requested <;> simp [hnone, Requested.status]
    grind

theorem claimRow_live (h : (claimRow db now token o).status.live = true) :
    (claimRow db now token o).failureReason = none := by
  have hstatus : (claimRow db now token o).status = claimState db now o := rfl
  rw [hstatus] at h
  by_contra hreason
  rw [← ne_eq, claimRow_reason] at hreason
  cases hstopped : stopped db now o with
  | true =>
    rcases claimState_stopped hstopped with hs | hs <;> simp [hs, OutboxStatus.live] at h
  | false => simp [claimState_running hstopped, hreason, OutboxStatus.live] at h

theorem settleRow_live (hnone : o.failureReason = none)
    (h : (settleRow db now requested o).status.live = true) :
    (settleRow db now requested o).failureReason = none := by
  have hstatus : (settleRow db now requested o).status = settleState db now requested o := rfl
  rw [hstatus] at h
  by_contra hreason
  rw [← ne_eq, settleRow_reason, hnone] at hreason
  cases hstopped : stopped db now o with
  | true =>
    have hstate : settleState db now requested o = .quarantined ∨
        settleState db now requested o = .expired := settleState_stopped hstopped
    rcases hstate with hs | hs <;> simp [hs, OutboxStatus.live] at h
  | false =>
    rw [settleState_running hstopped] at h
    cases requested <;> simp_all [Requested.status, OutboxStatus.live]

/-- Quarantining a live delivery leaves it without a reason. -/
theorem OutboxRow.Kept.reasoned (h : o.Kept o')
    (hlive : o.status.live = true → o.failureReason = none) (ho : o.Reasoned) : o'.Reasoned := by
  rcases h with rfl | ⟨hl, rfl⟩
  · exact ho
  · simp [Reasoned, quarantine, hlive hl]

end Rows

/-! ## Steps -/

section Steps

variable {codec : Codec} {w w' : World} {jsonValid : String → Bool} {c c' : Conn} {s : Statement}

theorem exec_checked (h : s.exec jsonValid c = .ok c')
    (hc : ∀ o ∈ c.db.outbox, o.check jsonValid = true) :
    ∀ o ∈ c'.db.outbox, o.check jsonValid = true := by
  intro o' ho'
  rcases exec_outbox h with ⟨-, heq⟩ | ⟨row, hrow, -, heq⟩ | ⟨p, -, -, heq⟩
  · rw [heq] at ho'
    exact hc o' ho'
  · rw [heq, List.mem_append, List.mem_singleton] at ho'
    rcases ho' with ho' | rfl
    · exact hc o' ho'
    · cases s with
      | insertDelivery row =>
        obtain rfl : row = o' := by simpa [Statement.delivery?] using hrow
        simp only [Statement.exec, written_ok_iff, Bool.and_eq_true] at h
        exact h.1.1.1.1.1.1.1
      | _ => cases hrow
  · rw [heq] at ho'
    obtain ⟨o, ho, rfl⟩ := exists_of_mem_updateWhere ho'
    have hcheck := hc o ho
    split
    · simp only [OutboxRow.check, Bool.and_eq_true] at hcheck ⊢
      exact ⟨⟨⟨⟨hcheck.1.1.1.1, rfl⟩, hcheck.1.1.2⟩, hcheck.1.2⟩, hcheck.2⟩
    · exact hcheck

/-- What the rows of the outbox satisfy in every reachable state. -/
structure World.Diagnosed (codec : Codec) (w : World) : Prop where
  checked : ∀ o ∈ w.db.outbox, o.check codec.jsonValid = true
  undiagnosed : ∀ o ∈ w.db.outbox, o.status.live = true → o.failureReason = none

theorem World.Diagnosed.initial (codec : Codec) : World.initial.Diagnosed codec where
  checked := fun _ ho => by cases ho
  undiagnosed := fun _ ho => by cases ho

theorem World.Diagnosed.store (hw : w.Diagnosed codec) (hkeys : w.db.Keys)
    (h : StoreStep codec w.db w'.db) : w'.Diagnosed codec := by
  obtain ⟨statements, c', hexec, hdb⟩ := h.exec
  refine ⟨?_, ?_⟩
  · rw [← hdb]
    exact execAll_keeps (I := fun db => ∀ o ∈ db.outbox, o.check codec.jsonValid = true)
      (fun _ _ _ _ hs hi => exec_checked hs hi) hexec hw.checked
  · intro o' ho' hlive
    have hkept : ∀ o : OutboxRow, o.Kept o' → (o.status.live = true → o.failureReason = none) →
        o'.failureReason = none := by
      intro o hkept hnone
      rcases hkept with rfl | ⟨-, rfl⟩
      · exact hnone hlive
      · simp [OutboxRow.quarantine, OutboxStatus.live] at hlive
    rcases h.origin hkeys ho' with ⟨o, ho, hold⟩ | ⟨-, hnew⟩
    · exact hkept o hold (hw.undiagnosed o ho)
    · exact hkept _ hnew fun _ => rfl

/-- A claim rewrites the delivery that is due next; nothing refuses the update. -/
theorem World.act_claim {now : Int} {token : String} (hinv : w.Inv codec) (hleased : w.Leased)
    (hw : w.Diagnosed codec) (h : w.act codec (.claim now token) = some w') :
    (w'.db = w.db ∧ (dispatchTime now = true → nextDue w.db now = none)) ∨
      ∃ o ∈ w.db.outbox, dispatchTime now = true ∧ nextDue w.db now = some o ∧
        o.status.live = true ∧ w'.db = { w.db with
          outbox := updateWhere (fun x => x.deliveryId = o.deliveryId) (claimRow w.db now token)
            w.db.outbox } := by
  simp only [World.act] at h
  split at h
  · cases h
  cases htime : dispatchTime now with
  | false =>
    simp only [claimSignalDelivery, htime, Bool.not_false, if_true, Option.some.injEq] at h
    rw [← h]
    exact .inl ⟨rfl, fun h => absurd h Bool.false_ne_true⟩
  | true =>
    cases hnext : nextDue w.db now with
    | none =>
      have hmin := hnext
      unfold nextDue at hmin
      simp only [claimSignalDelivery, htime, hmin, Bool.not_true, Bool.false_eq_true, if_false,
        Option.some.injEq] at h
      rw [← h]
      exact .inl ⟨rfl, fun _ => rfl⟩
    | some o =>
      have hmin := hnext
      unfold nextDue at hmin
      have ho := List.mem_filter.1 (minBy_mem _ hmin)
      have hlive : o.status.live = true := by
        have hdue := ho.2
        simp only [due, Bool.and_eq_true] at hdue
        exact hdue.1
      have hallowed : ∀ x ∈ w.db.outbox, decide (x.deliveryId = o.deliveryId) = true →
          x.allowed codec.jsonValid (claimRow w.db now token x) = true := by
        intro x hx hid
        obtain rfl : x = o :=
          hinv.admitted.keys.deliveries.eq_of_key hx ho.1 (by simpa using hid)
        exact claim_allowed htime hlive (hw.checked x hx) (hleased.rows x hx).bounded
      rw [claimSignalDelivery_due htime hmin hallowed] at h
      rw [← Option.some.inj h]
      exact .inr ⟨o, ho.1, rfl, rfl, hlive, rfl⟩

/-- A settlement rewrites the deliveries held under its token; nothing refuses the update. -/
theorem World.act_settle {token : String} {requested : Requested} {now : Int}
    (hw : w.Diagnosed codec) (h : w.act codec (.settle token requested now) = some w') :
    (w'.db = w.db ∧ dispatchTime now = false) ∨
      (dispatchTime now = true ∧ w'.db = { w.db with
        outbox := updateWhere (held w.db now token) (settleRow w.db now requested)
          w.db.outbox }) := by
  simp only [World.act] at h
  cases htime : dispatchTime now with
  | false =>
    simp only [settleSignalDelivery, htime, Bool.not_false, if_true, Option.some.injEq] at h
    rw [← h]
    exact .inl ⟨rfl, rfl⟩
  | true =>
    rw [settleSignalDelivery_held requested htime fun x hx _ => hw.checked x hx] at h
    rw [← Option.some.inj h]
    exact .inr ⟨rfl, rfl⟩

theorem World.Diagnosed.step {action : Action} (hinv : w.Inv codec) (hleased : w.Leased)
    (hw : w.Diagnosed codec) (h : w.act codec action = some w') : w'.Diagnosed codec := by
  have hkeys := hinv.admitted.keys
  have hsame : w'.db = w.db → w'.Diagnosed codec := by
    intro hdb
    exact ⟨by rw [hdb]; exact hw.checked, by rw [hdb]; exact hw.undiagnosed⟩
  cases action with
  | claim now token =>
    rcases act_claim hinv hleased hw h with ⟨hdb, -⟩ | ⟨o, ho, htime, -, hlive, hdb⟩
    · exact hsame hdb
    · refine ⟨fun x' hx' => ?_, fun x' hx' => ?_⟩
      · rw [hdb] at hx'
        rcases mem_updateWhere.1 hx' with ⟨x, hx, hid, rfl⟩ | ⟨hx, -⟩
        · obtain rfl : x = o := hkeys.deliveries.eq_of_key hx ho (by simpa using hid)
          have hallowed : x.allowed codec.jsonValid (claimRow w.db now token x) = true :=
            claim_allowed htime hlive (hw.checked x hx) (hleased.rows x hx).bounded
          simp only [OutboxRow.allowed, Bool.and_eq_true] at hallowed
          exact hallowed.2
        · exact hw.checked x' hx
      · rw [hdb] at hx'
        rcases mem_updateWhere.1 hx' with ⟨x, hx, -, rfl⟩ | ⟨hx, -⟩
        · exact claimRow_live
        · exact hw.undiagnosed x' hx
  | settle token requested now =>
    rcases act_settle hw h with ⟨hdb, -⟩ | ⟨htime, hdb⟩
    · exact hsame hdb
    · refine ⟨fun x' hx' => ?_, fun x' hx' => ?_⟩
      · rw [hdb] at hx'
        rcases mem_updateWhere.1 hx' with ⟨x, hx, hheld, rfl⟩ | ⟨hx, -⟩
        · have hallowed : x.allowed codec.jsonValid (settleRow w.db now requested x) = true :=
            settle_allowed htime (held_live hheld) (hw.checked x hx)
          simp only [OutboxRow.allowed, Bool.and_eq_true] at hallowed
          exact hallowed.2
        · exact hw.checked x' hx
      · rw [hdb] at hx'
        rcases mem_updateWhere.1 hx' with ⟨x, hx, hheld, rfl⟩ | ⟨hx, -⟩
        · exact settleRow_live (hw.undiagnosed x hx (held_live hheld))
        · exact hw.undiagnosed x' hx
  | _ =>
    rcases act_cases hinv.guarded h with ⟨hstore, -⟩ | ⟨_, _, haction, -⟩ | ⟨_, _, _, _, haction, -⟩
    · exact hw.store hkeys hstore
    · cases haction
    · cases haction

/-- A reason that stands beside another status is there to stay. -/
theorem World.reasoned_of_later (hw : w.Diagnosed codec) (hevolves : w.db.Evolves w'.db)
    (h : ∀ o ∈ w'.db.outbox, o.Reasoned) : ∀ o ∈ w.db.outbox, o.Reasoned := by
  intro o ho
  by_cases hlive : o.status.live = true
  · have hterminal : o.status ≠ .failedTerminal := by
      intro hs
      simp [hs, OutboxStatus.live] at hlive
    simp [OutboxRow.Reasoned, hw.undiagnosed o ho hlive, hterminal]
  · obtain ⟨o', ho', hrow⟩ := hevolves.outbox o ho
    rw [← hrow.final (by simpa using hlive)]
    exact h o' ho'

theorem World.reasoned_claim {now : Int} {token : String} (hinv : w.Inv codec)
    (hleased : w.Leased) (hw : w.Diagnosed codec)
    (h : w.act codec (.claim now token) = some w') (hold : ∀ o ∈ w.db.outbox, o.Reasoned) :
    (∀ o ∈ w'.db.outbox, o.Reasoned) ↔ (Action.claim now token).Separate w.db := by
  rcases act_claim hinv hleased hw h with ⟨hdb, hnone⟩ | ⟨o, ho, htime, hnext, -, hdb⟩
  · rw [hdb]
    refine iff_of_true hold fun htime o hnext => ?_
    rw [hnone htime] at hnext
    cases hnext
  · have hself : decide (o.deliveryId = o.deliveryId) = true := by simp
    constructor
    · intro hall _ o' hnext'
      obtain rfl : o = o' := Option.some.inj (hnext.symm.trans hnext')
      apply (@claimRow_reasoned_iff w.db now token o).1
      refine hall _ ?_
      rw [hdb]
      exact mem_updateWhere.2 (.inl ⟨o, ho, hself, rfl⟩)
    · intro hseparate x' hx'
      rw [hdb] at hx'
      rcases mem_updateWhere.1 hx' with ⟨x, hx, hid, rfl⟩ | ⟨hx, -⟩
      · obtain rfl : x = o := hinv.admitted.keys.deliveries.eq_of_key hx ho (by simpa using hid)
        exact claimRow_reasoned_iff.2 (hseparate htime x hnext)
      · exact hold x' hx

theorem World.reasoned_settle {token : String} {requested : Requested} {now : Int}
    (hw : w.Diagnosed codec) (h : w.act codec (.settle token requested now) = some w')
    (hold : ∀ o ∈ w.db.outbox, o.Reasoned) :
    (∀ o ∈ w'.db.outbox, o.Reasoned) ↔ (Action.settle token requested now).Separate w.db := by
  rcases act_settle hw h with ⟨hdb, hlate⟩ | ⟨htime, hdb⟩
  · rw [hdb]
    refine iff_of_true hold fun htime => ?_
    rw [hlate] at htime
    cases htime
  · have hreason : ∀ o ∈ w.db.outbox, held w.db now token o = true → o.failureReason = none :=
      fun o ho hheld => hw.undiagnosed o ho (held_live hheld)
    constructor
    · intro hall _ o ho hheld
      refine (settleRow_reasoned_iff (hreason o ho hheld)).1 (hall _ ?_)
      rw [hdb]
      exact mem_updateWhere.2 (.inl ⟨o, ho, hheld, rfl⟩)
    · intro hseparate x' hx'
      rw [hdb] at hx'
      rcases mem_updateWhere.1 hx' with ⟨x, hx, hheld, rfl⟩ | ⟨hx, -⟩
      · exact (settleRow_reasoned_iff (hreason x hx hheld)).2 (hseparate htime x hx hheld)
      · exact hold x' hx

/-- One action keeps reasons and statuses together exactly when it is separate. -/
theorem World.reasoned_step {action : Action} (hinv : w.Inv codec) (hleased : w.Leased)
    (hw : w.Diagnosed codec) (h : w.act codec action = some w') :
    (∀ o ∈ w'.db.outbox, o.Reasoned) ↔
      (∀ o ∈ w.db.outbox, o.Reasoned) ∧ action.Separate w.db := by
  have hkeys := hinv.admitted.keys
  have hearlier := reasoned_of_later hw (act_tableStep hinv.guarded hkeys h).evolves
  cases action with
  | claim now token =>
    constructor
    · intro hall
      exact ⟨hearlier hall, (reasoned_claim hinv hleased hw h (hearlier hall)).1 hall⟩
    · rintro ⟨hold, hseparate⟩
      exact (reasoned_claim hinv hleased hw h hold).2 hseparate
  | settle token requested now =>
    constructor
    · intro hall
      exact ⟨hearlier hall, (reasoned_settle hw h (hearlier hall)).1 hall⟩
    · rintro ⟨hold, hseparate⟩
      exact (reasoned_settle hw h hold).2 hseparate
  | _ =>
    refine ⟨fun hall => ⟨hearlier hall, trivial⟩, fun hboth o' ho' => ?_⟩
    rcases act_cases hinv.guarded h with ⟨hstore, -⟩ | ⟨_, _, haction, -⟩ | ⟨_, _, _, _, haction, -⟩
    · rcases hstore.origin hkeys ho' with ⟨o, ho, hkept⟩ | ⟨-, hnew⟩
      · exact hkept.reasoned (hw.undiagnosed o ho) (hboth.1 o ho)
      · exact hnew.reasoned (fun _ => rfl) (by simp [OutboxRow.Reasoned, Delivery.pending])
    · cases haction
    · cases haction

/-! ## Runs -/

theorem World.reasoned_run {actions : List Action} (hinv : w.Inv codec) (hleased : w.Leased)
    (hw : w.Diagnosed codec) (h : actions.foldlM (World.act codec) w = some w') :
    (∀ o ∈ w'.db.outbox, o.Reasoned) ↔
      (∀ o ∈ w.db.outbox, o.Reasoned) ∧ Separated codec w actions := by
  induction actions generalizing w with
  | nil =>
    cases h
    simp only [Separated, and_true]
  | cons action rest ih =>
    rw [List.foldlM_cons] at h
    obtain ⟨w₁, hact, hrest⟩ := Option.bind_eq_some_iff.1 h
    rw [ih (hinv.step hact) (hleased.step hinv hact) (hw.step hinv hleased hact) hrest,
      reasoned_step hinv hleased hw hact, Separated, and_assoc]
    have hnext : (∀ w', w.act codec action = some w' → Separated codec w' rest) ↔
        Separated codec w₁ rest := by
      refine ⟨fun hall => hall w₁ hact, fun hone w₂ hact₂ => ?_⟩
      rw [hact] at hact₂
      cases hact₂
      exact hone
    rw [hnext]

end Steps

theorem World.invariants_of_reachable {codec : Codec} {w : World}
    (h : (admission codec).Reachable w) : w.Inv codec ∧ w.Leased ∧ w.Diagnosed codec := by
  refine h.invariant (I := fun w => w.Inv codec ∧ w.Leased ∧ w.Diagnosed codec) ?_ ?_
  · rintro w₀ rfl
    exact ⟨World.Inv.initial codec, World.Leased.initial, World.Diagnosed.initial codec⟩
  · rintro action w₁ w₂ ⟨hinv, hleased, hw⟩ hstep
    exact ⟨hinv.step hstep, hleased.step hinv hstep, hw.step hinv hleased hstep⟩

/-- **Failure reasons.** After any sequence of actions from empty tables, every delivery has a
failure reason exactly when its status is `FAILED_TERMINAL`, if and only if no claim or settlement
of the sequence touched a stopped delivery that had something else to report: a claim a backward
clock or five attempts, a settlement a backward clock, a retry after five attempts or a reported
failure. -/
theorem failureReason_iff {codec : Codec} {actions : List Action} {w : World}
    (h : actions.foldlM (World.act codec) World.initial = some w) :
    (∀ o ∈ w.db.outbox, o.failureReason ≠ none ↔ o.status = .failedTerminal) ↔
      Separated codec World.initial actions := by
  have hrun := World.reasoned_run (World.Inv.initial codec) World.Leased.initial
    (World.Diagnosed.initial codec) h
  have hempty : ∀ o ∈ World.initial.db.outbox, o.Reasoned := fun o ho => by cases ho
  exact hrun.trans (and_iff_right hempty)

/-! The claimed signal's dispatcher reports a failure after the delivery expired. -/

/-- The delivery is claimed, and its dispatcher reports a failure at the second it expires. -/
def signalRun : List Action :=
  signalActions ++ ([.advance 0 demoRandomness] : List Action) ++
    ([.claim 620 "lease-1", .settle "lease-1" .failedTerminal 660] : List Action)

/-- The world after the run. -/
def expiredWorld : World :=
  { claimedWorld with
    db := { claimedWorld.db with
      outbox := [settleRow claimedWorld.db 660 .failedTerminal claimedDelivery] } }

theorem signalRun_reaches :
    signalRun.foldlM (World.act signalCodec) World.initial = some expiredWorld := by
  have hsettle : claimedWorld.act signalCodec (.settle "lease-1" .failedTerminal 660) =
      some expiredWorld :=
    (World.act_settle_single signalCodec "lease-1" .failedTerminal rfl (by decide) rfl
      claimedDelivery_check).2
  have hlast : [Action.claim 620 "lease-1", .settle "lease-1" .failedTerminal 660].foldlM
      (World.act signalCodec) admittedWorld = some expiredWorld := by
    simp only [List.foldlM_cons, List.foldlM_nil]
    exact Option.bind_eq_some_iff.2
      ⟨claimedWorld, admittedWorld_claim, Option.bind_eq_some_iff.2 ⟨expiredWorld, hsettle, rfl⟩⟩
  rw [signalRun, List.foldlM_append]
  exact Option.bind_eq_some_iff.2 ⟨admittedWorld, admittedWorld_reached, hlast⟩

theorem expiredWorld_reason :
    ∃ o ∈ expiredWorld.db.outbox, o.status = .expired ∧ o.failureReason = some .deliveryFailed :=
  ⟨_, List.mem_singleton_self _, rfl, rfl⟩

/-- The claimed delivery fails and expires in one settlement: it is `EXPIRED` with a reason. -/
theorem expired_delivery_failed :
    ∃ w, signalRun.foldlM (World.act signalCodec) World.initial = some w ∧
      (∃ o ∈ w.db.outbox, o.status = .expired ∧ o.failureReason = some .deliveryFailed) ∧
      ¬ ∀ o ∈ w.db.outbox, (o.failureReason ≠ none ↔ o.status = .failedTerminal) := by
  obtain ⟨o, ho, hstatus, hreason⟩ := expiredWorld_reason
  refine ⟨expiredWorld, signalRun_reaches, ⟨o, ho, hstatus, hreason⟩, fun hall => ?_⟩
  have hterminal := (hall o ho).1 (by simp [hreason])
  rw [hstatus] at hterminal
  cases hterminal

/-- The settlement of the run is not separate. -/
theorem signalRun_not_separated : ¬ Separated signalCodec World.initial signalRun := by
  obtain ⟨o, ho, hstatus, hreason⟩ := expiredWorld_reason
  intro hseparated
  have hterminal := ((failureReason_iff signalRun_reaches).2 hseparated o ho).1 (by simp [hreason])
  rw [hstatus] at hterminal
  cases hterminal

end TradeOps.Admission
