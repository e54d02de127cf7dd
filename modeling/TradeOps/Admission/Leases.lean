import TradeOps.Admission.Invariant

/-!
# Lease fencing of the outbox

A delivery is claimed under a token and settled under the same token. In every reachable state the
attempt count of a delivery is the number of its claims, a token stands on a delivery exactly while
it is claimed, and no two deliveries share one. So a settlement under any other token changes
nothing, however late it comes. Along every run a delivery that is no longer live is final, and one
whose attempt is disputed or whose stream is not active is neither claimed nor acknowledged any
more.
-/

namespace TradeOps.Admission

open Tables Keyed

/-! ## The invariant -/

/-- The claims of a delivery so far. -/
def claimsOf (leases : List Lease) (deliveryId : String) : Nat :=
  leases.countP fun l => l.deliveryId = deliveryId

structure OutboxRow.Leased (leases : List Lease) (o : OutboxRow) : Prop where
  attempts : o.deliveryAttempts = claimsOf leases o.deliveryId
  bounded : o.deliveryAttempts ≤ 5
  token_iff : o.claimToken ≠ none ↔ o.status = .claimed
  lease : ∀ token, o.claimToken = some token → ⟨o.deliveryId, token⟩ ∈ leases

structure World.Leased (w : World) : Prop where
  rows : ∀ o ∈ w.db.outbox, o.Leased w.leases
  known : ∀ l ∈ w.leases, ∃ o ∈ w.db.outbox, o.deliveryId = l.deliveryId
  issued : ∀ l ∈ w.leases, l.token ∈ w.tokens
  distinct : (w.leases.map (·.token)).Nodup

theorem claimsOf_append {leases new : List Lease} {deliveryId : String} :
    claimsOf (leases ++ new) deliveryId = claimsOf leases deliveryId + claimsOf new deliveryId :=
  List.countP_append

theorem claimsOf_eq_zero {leases : List Lease} {deliveryId : String} :
    claimsOf leases deliveryId = 0 ↔ ∀ l ∈ leases, l.deliveryId ≠ deliveryId := by
  simp [claimsOf, List.countP_eq_zero]

theorem World.Leased.initial : World.initial.Leased where
  rows := fun _ ho => by cases ho
  known := fun _ hl => by cases hl
  issued := fun _ hl => by cases hl
  distinct := List.nodup_nil

section Rows

variable {leases : List Lease} {o o' : OutboxRow} {db : Db} {now : Int} {token : String}
  {requested : Requested}

theorem OutboxRow.Leased.kept (h : o.Leased leases) (hkept : o.Kept o') : o'.Leased leases := by
  rcases hkept with rfl | ⟨-, rfl⟩
  · exact h
  · exact ⟨h.attempts, h.bounded, by simp [OutboxRow.quarantine], by simp [OutboxRow.quarantine]⟩

theorem Delivery.pending_leased {d : Delivery} (h : claimsOf leases d.deliveryId = 0) :
    d.pending.Leased leases :=
  ⟨by simp [Delivery.pending, h], by simp [Delivery.pending], by simp [Delivery.pending],
    by simp [Delivery.pending]⟩

theorem claimState_claimed (h : claimState db now o = .claimed) :
    deliverable db o = true ∧ o.deliveryAttempts < 5 := by
  unfold claimState at h
  split at h
  · cases h
  rename_i hdeliverable
  split at h
  · cases h
  split at h
  · cases h
  split at h
  · cases h
  · exact ⟨by simpa using hdeliverable, by omega⟩

theorem claimState_ne_acknowledged : claimState db now o ≠ .acknowledged := by
  unfold claimState
  repeat' split
  all_goals nofun

theorem settleState_deliverable
    (h : settleState db now requested o = .claimed ∨
      settleState db now requested o = .acknowledged) :
    deliverable db o = true := by
  unfold settleState at h
  split at h
  · simp at h
  · simpa using ‹¬ (!deliverable db o) = true›

/-- A claim counts itself and leaves its lease on the delivery. -/
theorem OutboxRow.Leased.claim (h : o.Leased leases) :
    (claimRow db now token o).Leased
      (leases ++ leaseOf token (some (claimRow db now token o))) := by
  by_cases hstate : claimState db now o = .claimed
  · have hlease : leaseOf token (some (claimRow db now token o)) = [⟨o.deliveryId, token⟩] := by
      simp [leaseOf, claimRow, hstate]
    rw [hlease]
    have hattempts := h.attempts
    have hbound := (claimState_claimed hstate).2
    refine ⟨?_, ?_, ?_, ?_⟩
    · simp only [claimRow, hstate, if_true, claimsOf_append]
      simp [claimsOf] at hattempts ⊢
      omega
    · simp only [claimRow, hstate, if_true]
      omega
    · simp [claimRow, hstate]
    · intro token' htoken'
      simp only [claimRow, hstate, if_true, Option.some.injEq] at htoken'
      rw [← htoken']
      exact List.mem_append_right _ List.mem_cons_self
  · have hlease : leaseOf token (some (claimRow db now token o)) = [] := by
      simp [leaseOf, claimRow, hstate]
    rw [hlease, List.append_nil]
    refine ⟨?_, ?_, ?_, ?_⟩
    · simp only [claimRow, hstate, if_false, Int.add_zero]
      exact h.attempts
    · simp only [claimRow, hstate, if_false, Int.add_zero]
      exact h.bounded
    · simp [claimRow, hstate]
    · simp [claimRow, hstate]

/-- A settlement keeps the token while the delivery stays claimed, and drops it otherwise. -/
theorem OutboxRow.Leased.settle (h : o.Leased leases) (hheld : held db now token o = true) :
    (settleRow db now requested o).Leased leases := by
  obtain ⟨-, htoken⟩ := held_claimed hheld
  refine ⟨h.attempts, h.bounded, ?_, ?_⟩
  · simp only [settleRow]
    split <;> simp [*]
  · intro token' htoken'
    simp only [settleRow] at htoken'
    split at htoken'
    · exact h.lease token' htoken'
    · cases htoken'

/-- A row that is not the claimed one keeps its claims. -/
theorem OutboxRow.Leased.other (h : o.Leased leases) (hid : o'.deliveryId ≠ o.deliveryId) :
    o.Leased (leases ++ leaseOf token (some o')) := by
  have hnone : claimsOf (leaseOf token (some o')) o.deliveryId = 0 := by
    rw [claimsOf_eq_zero]
    intro l hl
    simp only [leaseOf] at hl
    split at hl
    · rw [List.mem_singleton] at hl
      rw [hl]
      exact hid
    · cases hl
  refine ⟨?_, h.bounded, h.token_iff, fun token' ht => List.mem_append_left _ (h.lease token' ht)⟩
  rw [claimsOf_append, hnone, Nat.add_zero]
  exact h.attempts

end Rows

/-! ## Steps -/

section Steps

variable {codec : Codec} {w w' : World} {db db' : Db}

/-- After a step of the store a delivery is one from before, or pending under a new id. -/
theorem StoreStep.origin (h : StoreStep codec db db') (hkeys : db.Keys) {o' : OutboxRow}
    (ho' : o' ∈ db'.outbox) :
    (∃ o ∈ db.outbox, o.Kept o') ∨
      ((∀ o ∈ db.outbox, o.deliveryId ≠ o'.deliveryId) ∧ o'.toDelivery.pending.Kept o') := by
  obtain ⟨statements, c', hexec, hdb⟩ := h.exec
  by_cases hold : ∃ o ∈ db.outbox, o.deliveryId = o'.deliveryId
  · -- the row with this id has a successor, and ids are unique
    obtain ⟨o, ho, hid⟩ := hold
    obtain ⟨o₁, ho₁, hkept⟩ := execAll_outbox_kept hexec o ho
    rw [hdb] at ho₁
    have hkeys' : db'.Keys := hdb ▸ execAll_keys hexec hkeys
    have hid₁ : o₁.deliveryId = o'.deliveryId := by
      rw [hkept.evolves.delivery]
      exact hid
    rw [hkeys'.deliveries.eq_of_key ho₁ ho' hid₁] at hkept
    exact .inl ⟨o, ho, hkept⟩
  · push Not at hold
    refine .inr ⟨hold, ?_⟩
    cases h with
    | same => exact absurd rfl (hold o' ho')
    | closed hsequences hdeliveries hbatch =>
      obtain ⟨c, hexec, rfl⟩ := batch_ok_iff.1 hbatch
      obtain ⟨o, ho, hkept⟩ := execAll_outbox_origin hexec ho'
      rw [List.filterMap_eq_nil_iff.2 hdeliveries, List.append_nil] at ho
      exact absurd (by rw [hkept.evolves.delivery]) (hold o ho)
    | commit hactive hsequence hguarded hagrees hbatch =>
      rcases commit_outbox hguarded hagrees hbatch ho' with ⟨o, ho, hkept⟩ | ⟨-, -, hpending⟩
      · exact absurd (by rw [hkept.evolves.delivery]) (hold o ho)
      · exact hpending

theorem World.Leased.store (hw : w.Leased) (hkeys : w.db.Keys) (h : StoreStep codec w.db w'.db)
    (htokens : ∀ token ∈ w.tokens, token ∈ w'.tokens) (hleases : w'.leases = w.leases) :
    w'.Leased := by
  refine ⟨?_, ?_, ?_, by rw [hleases]; exact hw.distinct⟩
  · intro o' ho'
    rw [hleases]
    rcases h.origin hkeys ho' with ⟨o, ho, hkept⟩ | ⟨hnew, hpending⟩
    · exact (hw.rows o ho).kept hkept
    · refine (Delivery.pending_leased ?_).kept hpending
      rw [claimsOf_eq_zero]
      intro l hl heq
      obtain ⟨o, ho, hid⟩ := hw.known l hl
      exact hnew o ho (hid.trans heq)
  · intro l hl
    rw [hleases] at hl
    obtain ⟨o, ho, hid⟩ := hw.known l hl
    obtain ⟨o', ho', hevolves⟩ := (TableStep.store h).evolves.outbox o ho
    exact ⟨o', ho', by rw [hevolves.delivery]; exact hid⟩
  · intro l hl
    rw [hleases] at hl
    exact htokens _ (hw.issued l hl)

theorem mem_leaseOf {token : String} {answer : Option OutboxRow} {l : Lease}
    (h : l ∈ leaseOf token answer) : ∃ o, answer = some o ∧ l = ⟨o.deliveryId, token⟩ := by
  unfold leaseOf at h
  split at h
  · split at h
    · exact ⟨_, rfl, List.mem_singleton.1 h⟩
    · cases h
  · cases h

theorem nodup_leaseOf {token : String} {answer : Option OutboxRow} :
    ((leaseOf token answer).map (·.token)).Nodup := by
  unfold leaseOf
  split
  · split
    · exact List.nodup_singleton _
    · exact List.nodup_nil
  · exact List.nodup_nil

theorem World.Leased.claim (hw : w.Leased) (hkeys : w.db.Keys) {now : Int} {token : String}
    {answer : Option OutboxRow} (hfresh : token ∉ w.tokens)
    (htokens : w'.tokens = token :: w.tokens)
    (hclaim : claimSignalDelivery codec.jsonValid w.db now token = .ok (w'.db, answer))
    (hleases : w'.leases = w.leases ++ leaseOf token answer) : w'.Leased := by
  have hevolves := (claimSignalDelivery_tableStep hkeys hclaim).evolves
  rcases claimSignalDelivery_ok hclaim with ⟨hdb, rfl⟩ | ⟨o, ho, hdue, rfl, c, hr, hdb⟩
  · rw [leaseOf, List.append_nil] at hleases
    have hstep : StoreStep codec w.db w'.db := by
      rw [hdb]
      exact .same
    refine hw.store hkeys hstep ?_ hleases
    intro t ht
    rw [htokens]
    exact List.mem_cons_of_mem _ ht
  · obtain ⟨-, rfl⟩ := rewritten_ok_iff.1 hr
    refine ⟨?_, ?_, ?_, ?_⟩
    · intro x' hx'
      rw [← hdb] at hx'
      rw [hleases]
      obtain ⟨x, hx, rfl⟩ := exists_of_mem_updateWhere hx'
      by_cases hid : x.deliveryId = o.deliveryId
      · obtain rfl : x = o := hkeys.deliveries.eq_of_key hx ho hid
        rw [if_pos (by simp)]
        exact (hw.rows x hx).claim
      · rw [if_neg (by simpa using hid)]
        exact (hw.rows x hx).other (Ne.symm hid)
    · intro l hl
      have hold : ∃ x ∈ w.db.outbox, x.deliveryId = l.deliveryId := by
        rw [hleases] at hl
        rcases List.mem_append.1 hl with hl | hl
        · exact hw.known l hl
        · obtain ⟨o₁, ho₁, rfl⟩ := mem_leaseOf hl
          cases ho₁
          exact ⟨o, ho, rfl⟩
      obtain ⟨x, hx, hid⟩ := hold
      obtain ⟨x', hx', hrow⟩ := hevolves.outbox x hx
      exact ⟨x', hx', by rw [hrow.delivery]; exact hid⟩
    · intro l hl
      rw [hleases] at hl
      rw [htokens]
      rcases List.mem_append.1 hl with hl | hl
      · exact List.mem_cons_of_mem _ (hw.issued l hl)
      · obtain ⟨o₁, -, rfl⟩ := mem_leaseOf hl
        exact List.mem_cons_self
    · rw [hleases, List.map_append, List.nodup_append]
      refine ⟨hw.distinct, nodup_leaseOf, ?_⟩
      intro a ha b hb hab
      obtain ⟨l, hl, rfl⟩ := List.mem_map.1 ha
      obtain ⟨l', hl', rfl⟩ := List.mem_map.1 hb
      obtain ⟨o₁, -, rfl⟩ := mem_leaseOf hl'
      have htoken : l.token = token := hab
      exact hfresh (by rw [← htoken]; exact hw.issued l hl)

theorem World.Leased.settle (hw : w.Leased) {now : Int} {token : String} {requested : Requested}
    {answer : Option OutboxStatus}
    (hsettle : settleSignalDelivery codec.jsonValid w.db token requested now = .ok (w'.db, answer))
    (htokens : w'.tokens = w.tokens) (hleases : w'.leases = w.leases) : w'.Leased := by
  have hevolves := (settleSignalDelivery_tableStep hsettle).evolves
  obtain ⟨c, hr, hdb⟩ := settleSignalDelivery_ok hsettle
  obtain ⟨-, rfl⟩ := rewritten_ok_iff.1 hr
  refine ⟨?_, ?_, by rw [hleases, htokens]; exact hw.issued, by rw [hleases]; exact hw.distinct⟩
  · intro x' hx'
    rw [← hdb] at hx'
    rw [hleases]
    obtain ⟨x, hx, rfl⟩ := exists_of_mem_updateWhere hx'
    split
    · exact (hw.rows x hx).settle ‹_›
    · exact hw.rows x hx
  · intro l hl
    rw [hleases] at hl
    obtain ⟨x, hx, hid⟩ := hw.known l hl
    obtain ⟨x', hx', hrow⟩ := hevolves.outbox x hx
    exact ⟨x', hx', by rw [hrow.delivery]; exact hid⟩

/-! ## Blocked deliveries -/

/-- The attempt of a delivery is disputed, or its stream is not active. -/
def Blocked (db : Db) (o : OutboxRow) : Prop :=
  (∃ a ∈ db.attempts, a.key = o.attempt ∧ a.disputed = true) ∨
    ∃ s ∈ db.streams, s.key = o.stream ∧ s.state ≠ .active

theorem Blocked.evolves {o o' : OutboxRow} (hdb : db.Evolves db')
    (ho : o'.toDelivery = o.toDelivery) (h : Blocked db o) : Blocked db' o' := by
  rcases h with ⟨a, ha, hkey, hdisputed⟩ | ⟨s, hs, hkey, hstate⟩
  · obtain ⟨a', ha', hrow⟩ := hdb.attempts a ha
    refine .inl ⟨a', ha', ?_, hrow.disputed hdisputed⟩
    rw [hrow.key, hkey, ho]
  · obtain ⟨s', hs', hrow⟩ := hdb.streams s hs
    refine .inr ⟨s', hs', ?_, hrow.blocked hstate⟩
    rw [hrow.key, hkey, ho]

theorem Blocked.not_deliverable {o : OutboxRow} (hkeys : db.Keys) (h : Blocked db o) :
    deliverable db o = false := by
  rw [Bool.eq_false_iff]
  intro hd
  simp only [deliverable, List.any_eq_true, Bool.and_eq_true, decide_eq_true_eq,
    Bool.not_eq_true'] at hd
  obtain ⟨r, -, s, hs, a, ha, hd⟩ := hd
  obtain ⟨⟨⟨⟨⟨⟨⟨⟨⟨⟨⟨hsr, har⟩, hro⟩, hrn⟩, -⟩, -⟩, hsg⟩, hactive⟩, -⟩, hak⟩, hundisputed⟩, -⟩ := hd
  rcases h with ⟨a', ha', hkey, hdisputed⟩ | ⟨s', hs', hkey, hstate⟩
  · have haa : a = a' := by
      refine hkeys.attempts.eq_of_key ha ha' ?_
      rw [hkey, AttemptRow.key, Delivery.attempt, har, hrn, hak]
    rw [haa, hdisputed] at hundisputed
    cases hundisputed
  · have hss : s = s' := by
      refine hkeys.streams.eq_of_key hs hs' ?_
      rw [hkey, StreamRow.key, Delivery.stream, hsr, hro, hsg]
    rw [hss] at hactive
    exact hstate hactive

/-- A blocked delivery is not claimed any more, and one that is claimed or acknowledged is so since
before. -/
def BlockedHeld (db db' : Db) : Prop :=
  ∀ o ∈ db.outbox, ∀ o' ∈ db'.outbox, o'.deliveryId = o.deliveryId → Blocked db o →
    o'.deliveryAttempts = o.deliveryAttempts ∧
      (o'.status = .claimed ∨ o'.status = .acknowledged → o' = o)

theorem OutboxRow.Kept.blockedHeld {o o' : OutboxRow} (h : o.Kept o') :
    o'.deliveryAttempts = o.deliveryAttempts ∧
      (o'.status = .claimed ∨ o'.status = .acknowledged → o' = o) := by
  rcases h with rfl | ⟨-, rfl⟩
  · exact ⟨rfl, fun _ => rfl⟩
  · refine ⟨rfl, fun hstatus => ?_⟩
    simp [OutboxRow.quarantine] at hstatus

theorem claimRow_blocked {o : OutboxRow} (now : Int) (token : String)
    (hnot : deliverable db o = false) :
    (claimRow db now token o).deliveryAttempts = o.deliveryAttempts ∧
      (claimRow db now token o).status = .quarantined := by
  have hstate : claimState db now o = .quarantined := by simp [claimState, hnot]
  simp [claimRow, hstate]

theorem settleRow_blocked {o : OutboxRow} {now : Int} {requested : Requested}
    (hnot : deliverable db o = false) : (settleRow db now requested o).status = .quarantined := by
  simp [settleRow, settleState, hnot]

theorem World.act_blockedHeld {action : Action} (hw : w.Inv codec)
    (h : w.act codec action = some w') : BlockedHeld w.db w'.db := by
  have hkeys := hw.admitted.keys
  have hkeys' := (World.Inv.step hw h).admitted.keys
  intro o ho o' ho' hid hblocked
  have hnot := hblocked.not_deliverable hkeys
  have hsame : o' = o → o'.deliveryAttempts = o.deliveryAttempts ∧
      (o'.status = .claimed ∨ o'.status = .acknowledged → o' = o) := by
    rintro rfl
    exact ⟨rfl, fun _ => rfl⟩
  rcases act_cases hw.guarded h with ⟨hstore, -⟩ | ⟨now, token, -, -, -, ⟨hdb, -⟩ |
    ⟨answer, hclaim, -⟩⟩ | ⟨token, requested, now, answer, -, hsettle, -⟩
  · rcases hstore.origin hkeys ho' with ⟨o₁, ho₁, hkept⟩ | ⟨hnew, -⟩
    · have hid₁ : o₁.deliveryId = o.deliveryId := by
        rw [← hid, hkept.evolves.delivery]
      rw [← hkeys.deliveries.eq_of_key ho₁ ho hid₁]
      exact hkept.blockedHeld
    · exact absurd hid.symm (hnew o ho)
  · apply hsame
    rw [hdb] at ho'
    exact hkeys.deliveries.eq_of_key ho' ho hid
  · rcases claimSignalDelivery_ok hclaim with ⟨hdb, -⟩ | ⟨x, hx, hdue, -, c, hr, hdb⟩
    · apply hsame
      rw [hdb] at ho'
      exact hkeys.deliveries.eq_of_key ho' ho hid
    · obtain ⟨-, rfl⟩ := rewritten_ok_iff.1 hr
      rw [← hdb] at ho'
      obtain ⟨y, hy, rfl⟩ := exists_of_mem_updateWhere ho'
      have hyo : y = o := by
        refine hkeys.deliveries.eq_of_key hy ho ?_
        rw [← hid]
        split <;> rfl
      subst hyo
      by_cases hit : decide (y.deliveryId = x.deliveryId) = true
      · obtain ⟨hattempts, hquarantined⟩ := claimRow_blocked now token hnot
        rw [if_pos hit]
        refine ⟨hattempts, fun hstatus => ?_⟩
        simp [hquarantined] at hstatus
      · exact hsame (if_neg hit)
  · obtain ⟨c, hr, hdb⟩ := settleSignalDelivery_ok hsettle
    obtain ⟨-, rfl⟩ := rewritten_ok_iff.1 hr
    rw [← hdb] at ho'
    obtain ⟨y, hy, rfl⟩ := exists_of_mem_updateWhere ho'
    have hyo : y = o := by
      refine hkeys.deliveries.eq_of_key hy ho ?_
      rw [← hid]
      split <;> rfl
    subst hyo
    by_cases hit : held w.db now token y = true
    · rw [if_pos hit]
      refine ⟨rfl, fun hstatus => ?_⟩
      simp [settleRow_blocked hnot] at hstatus
    · exact hsame (if_neg hit)

end Steps

/-! ## Runs -/

section Runs

variable {codec : Codec} {w w' : World} {db db' db'' : Db}

theorem World.Leased.step {action : Action} (hinv : w.Inv codec) (hw : w.Leased)
    (h : w.act codec action = some w') : w'.Leased := by
  have hkeys := hinv.admitted.keys
  rcases act_cases hinv.guarded h with ⟨hstore, htokens, hleases⟩ |
    ⟨now, token, -, hfresh, htokens, ⟨hdb, hleases⟩ | ⟨answer, hclaim, hleases⟩⟩ |
    ⟨token, requested, now, answer, -, hsettle, htokens, hleases⟩
  · refine hw.store hkeys hstore (fun token ht => ?_) hleases
    rw [htokens]
    exact ht
  · have hstep : StoreStep codec w.db w'.db := by
      rw [hdb]
      exact .same
    refine hw.store hkeys hstep (fun t ht => ?_) hleases
    rw [htokens]
    exact List.mem_cons_of_mem _ ht
  · exact hw.claim hkeys hfresh htokens hclaim hleases
  · exact hw.settle hsettle htokens hleases

theorem World.leased_of_reachable (h : (admission codec).Reachable w) : w.Leased := by
  suffices hboth : w.Inv codec ∧ w.Leased from hboth.2
  refine h.invariant (I := fun w => w.Inv codec ∧ w.Leased) ?_ fun action _ _ hw hstep =>
    ⟨World.Inv.step hw.1 hstep, World.Leased.step hw.1 hw.2 hstep⟩
  intro w₀ h₀
  rw [h₀]
  exact ⟨World.Inv.initial codec, World.Leased.initial⟩

theorem BlockedHeld.trans (hevolves : db.Evolves db') (h : BlockedHeld db db')
    (h' : BlockedHeld db' db'') : BlockedHeld db db'' := by
  intro o ho o'' ho'' hid hblocked
  obtain ⟨o', ho', hrow⟩ := hevolves.outbox o ho
  have hid' : o'.deliveryId = o.deliveryId := by rw [hrow.delivery]
  obtain ⟨hattempts, hsame⟩ := h o ho o' ho' hid' hblocked
  obtain ⟨hattempts', hsame'⟩ :=
    h' o' ho' o'' ho'' (hid.trans hid'.symm) (hblocked.evolves hevolves hrow.delivery)
  refine ⟨hattempts'.trans hattempts, fun hstatus => ?_⟩
  have hlater := hsame' hstatus
  rw [hlater] at hstatus ⊢
  exact hsame hstatus

theorem World.run_blockedHeld (h : (admission codec).Reachable w)
    (hrun : (admission codec).Run w w') : w.db.Evolves w'.db ∧ BlockedHeld w.db w'.db := by
  have hinv := inv_of_reachable h
  suffices hall : w'.Inv codec ∧ w.db.Evolves w'.db ∧ BlockedHeld w.db w'.db from hall.2
  induction hrun with
  | refl =>
    refine ⟨hinv, Db.Evolves.refl _, fun o ho o' ho' hid _ => ?_⟩
    rw [hinv.admitted.keys.deliveries.eq_of_key ho' ho hid]
    exact ⟨rfl, fun _ => rfl⟩
  | tail _ hnext ih =>
    obtain ⟨action, hstep⟩ := hnext
    obtain ⟨hinv', hevolves, hheld⟩ := ih
    have htable := act_tableStep hinv'.guarded hinv'.admitted.keys hstep
    exact ⟨World.Inv.step hinv' hstep, Db.Evolves.trans _ _ _ hevolves htable.evolves,
      hheld.trans hevolves (act_blockedHeld hinv' hstep)⟩

/-- A settlement leaves alone every delivery that is not held under its token. -/
theorem World.settle_other {token : String} {requested : Requested} {now : Int} {w₁ : World}
    (h : w.act codec (.settle token requested now) = some w₁) :
    (∀ o ∈ w.db.outbox, o.claimToken ≠ some token → o ∈ w₁.db.outbox) ∧
      ((∀ o ∈ w.db.outbox, o.claimToken ≠ some token) → w₁.db = w.db) := by
  simp only [World.act] at h
  split at h
  · rename_i db₁ answer hsettle
    cases h
    obtain ⟨c, hr, rfl⟩ := settleSignalDelivery_ok hsettle
    obtain ⟨-, rfl⟩ := rewritten_ok_iff.1 hr
    have hfree : ∀ o : OutboxRow, o.claimToken ≠ some token → held w.db now token o = false := by
      intro o ho
      rw [Bool.eq_false_iff]
      exact fun hheld => ho (held_claimed hheld).2
    refine ⟨fun o ho hother => mem_updateWhere.2 (.inr ⟨ho, hfree o hother⟩), fun hall => ?_⟩
    have hsame : updateWhere (held w.db now token) (settleRow w.db now requested) w.db.outbox =
        w.db.outbox := by
      refine (List.map_congr_left fun o ho => ?_).trans (List.map_id _)
      rw [hfree o (hall o ho)]
      rfl
    simp only [hsame]
  · cases h
    exact ⟨fun o ho _ => ho, fun _ => rfl⟩

end Runs

/-- **Lease fencing.** In every reachable state, for every delivery: its attempt count is the number
of its successful claims and at most five; it carries a token exactly while it is claimed, and no
other delivery carries the same one; a settlement under another token changes nothing. And along
every run: a delivery that is acknowledged, expired, failed or quarantined stays as it is, and one
whose attempt is disputed or whose stream is not active is not claimed any more and, when it ends as
claimed or acknowledged, is the row it was, with its token. -/
theorem lease_fencing {codec : Codec} {w w' : World} (h : (admission codec).Reachable w)
    (hrun : (admission codec).Run w w') :
    (∀ o ∈ w.db.outbox, o.deliveryAttempts = claimsOf w.leases o.deliveryId ∧
      o.deliveryAttempts ≤ 5) ∧
    (∀ o ∈ w.db.outbox, (o.claimToken ≠ none ↔ o.status = .claimed) ∧
      ∀ o₂ ∈ w.db.outbox, ∀ token, o.claimToken = some token → o₂.claimToken = some token →
        o₂ = o) ∧
    (∀ token requested now w₁, w.act codec (.settle token requested now) = some w₁ →
      (∀ o ∈ w.db.outbox, o.claimToken ≠ some token → o ∈ w₁.db.outbox) ∧
      ((∀ o ∈ w.db.outbox, o.claimToken ≠ some token) → w₁.db = w.db)) ∧
    (∀ o ∈ w.db.outbox, o.status ∈ [OutboxStatus.acknowledged, .expired, .failedTerminal,
      .quarantined] → o ∈ w'.db.outbox) ∧
    (∀ o ∈ w.db.outbox, Blocked w.db o → ∀ o' ∈ w'.db.outbox, o'.deliveryId = o.deliveryId →
      claimsOf w'.leases o.deliveryId = claimsOf w.leases o.deliveryId ∧
        (o'.status = .claimed ∨ o'.status = .acknowledged → o' = o)) := by
  have hinv := World.inv_of_reachable h
  have hleased := World.leased_of_reachable h
  have hleased' := World.leased_of_reachable (h.run hrun)
  obtain ⟨hevolves, hheld⟩ := World.run_blockedHeld h hrun
  refine ⟨fun o ho => ⟨(hleased.rows o ho).attempts, (hleased.rows o ho).bounded⟩, ?_,
    fun token requested now w₁ hstep => World.settle_other hstep, ?_, ?_⟩
  · intro o ho
    refine ⟨(hleased.rows o ho).token_iff, fun o₂ ho₂ token ht ht₂ => ?_⟩
    -- both tokens come from leases, and a token has one lease
    have hl := (hleased.rows o ho).lease token ht
    have hl₂ := (hleased.rows o₂ ho₂).lease token ht₂
    have hsame := List.inj_on_of_nodup_map hleased.distinct hl₂ hl rfl
    rw [Lease.mk.injEq] at hsame
    exact hinv.admitted.keys.deliveries.eq_of_key ho₂ ho hsame.1
  · intro o ho hfinal
    have hdead : o.status.live = false := by
      simp only [List.mem_cons, List.not_mem_nil, or_false] at hfinal
      rcases hfinal with hs | hs | hs | hs <;> rw [hs] <;> rfl
    obtain ⟨o', ho', hrow⟩ := hevolves.outbox o ho
    rw [← hrow.final hdead]
    exact ho'
  · intro o ho hblocked o' ho' hid
    obtain ⟨hattempts, hsame⟩ := hheld o ho o' ho' hid hblocked
    refine ⟨?_, hsame⟩
    -- the attempts count the claims on both ends of the run
    have hbefore := (hleased.rows o ho).attempts
    have hafter := (hleased'.rows o' ho').attempts
    rw [hid] at hafter
    omega

/-- The delivery is claimed once, and a dispatcher with another token settles nothing. -/
theorem signalLease_fenced :
    (∃ o ∈ claimedWorld.db.outbox, o.status = .claimed ∧ o.claimToken = some "lease-1" ∧
      o.deliveryAttempts = 1 ∧ claimsOf claimedWorld.leases o.deliveryId = 1) ∧
    ∀ requested now w₁, claimedWorld.act signalCodec (.settle "lease-2" requested now) = some w₁ →
      w₁.db = claimedWorld.db := by
  obtain ⟨hattempts, -, hsettle, -⟩ :=
    lease_fencing (admittedWorld_reachable.run claimedWorld_run) (System.Run.refl _ _)
  have hclaimed := List.mem_singleton_self claimedDelivery
  refine ⟨⟨claimedDelivery, hclaimed, rfl, rfl, rfl, ?_⟩, fun requested now w₁ hstep => ?_⟩
  · have hcount := (hattempts claimedDelivery hclaimed).1
    have hone : claimedDelivery.deliveryAttempts = 1 := rfl
    omega
  · refine (hsettle _ requested now w₁ hstep).2 fun o ho => ?_
    obtain rfl : o = claimedDelivery := List.mem_singleton.1 ho
    have htoken : claimedDelivery.claimToken = some "lease-1" := rfl
    rw [htoken]
    simp

end TradeOps.Admission
