import TradeOps.Admission.World

/-!
# What a step does to the admission tables

Every action of the system changes the tables in one of four ways: it leaves them alone, commits a
batch that admits nothing, commits the batch of an admission, or rewrites deliveries. `TableStep`
says which, with what the code knows at that point, and `act_tableStep` reads it off the code once.
The batches are then described by what they insert and by the guards they have passed, and nothing
refuses the update of a claim or of a settlement.
-/

namespace TradeOps.Admission

open Tables SortBy Keyed
open SafeIntegers (maxSafeInteger)
open TradeOps.Entry (isSafeInteger)

/-! ## Drafts -/

theorem number_append {token : Nat → String} {n : Nat} {first second : List Draft} :
    number token n (first ++ second) =
      number token n first ++ number token (n + first.length) second := by
  induction first generalizing n with
  | nil => simp [number]
  | cons draft rest ih =>
    simp only [List.cons_append, number, ih, List.length_cons]
    rw [Nat.add_assoc, Nat.add_comm 1]

theorem mem_number {token : Nat → String} {n : Nat} {drafts : List Draft} {s : Statement}
    (h : s ∈ number token n drafts) : ∃ draft ∈ drafts, ∃ i, s = draft (token i) := by
  induction drafts generalizing n with
  | nil => cases h
  | cons draft rest ih =>
    rcases List.mem_cons.1 h with rfl | h
    · exact ⟨draft, List.mem_cons_self, n, rfl⟩
    · obtain ⟨draft', hmem, hi⟩ := ih h
      exact ⟨draft', List.mem_cons_of_mem _ hmem, hi⟩

/-- What holds of every draft under every token, and of the removal of guards, holds of the
statements of a batch. -/
theorem forall_mem_finish {token : Nat → String} {drafts : List Draft} {P : Statement → Prop}
    (hdrafts : ∀ draft ∈ drafts, ∀ i, P (draft i)) (hdelete : ∀ i, P (.deleteGuard i)) :
    ∀ s ∈ finish token drafts, P s := by
  intro s hs
  unfold finish at hs
  rcases List.mem_append.1 hs with hs | hs
  · obtain ⟨draft, hmem, i, rfl⟩ := mem_number hs
    exact hdrafts draft hmem _
  · obtain ⟨i, -, rfl⟩ := List.mem_map.1 hs
    exact hdelete i

/-! ## The ways of a step -/

/-- A statement under which the accepted sequences of all streams stay as they are. -/
def Statement.keepsSequences : Statement → Bool
  | .advanceStream .. => false
  | .insertReceipt row => row.outcome = .rejected
  | .insertStream row => row.nextSequence = 1
  | _ => true

/-- The evidence facts of a snapshot are among those that its batch guards. -/
def Snapshot.Guarded (s : Snapshot) : Prop :=
  ∀ evidenceId fact, s.evidenceFacts.lookup evidenceId = some fact →
    ∃ k ∈ s.factKeys, k.evidenceId = evidenceId

inductive StoreStep (codec : Codec) (db : Db) : Db → Prop where
  | same : StoreStep codec db db
  /-- A batch that admits nothing: a quarantine, or a provisioning. -/
  | closed {statements : List Statement} {db' : Db}
      (hsequences : ∀ s ∈ statements, s.keepsSequences = true)
      (hdeliveries : ∀ s ∈ statements, s.delivery? = none)
      (hbatch : batch codec.jsonValid statements db = .ok db') : StoreStep codec db db'
  | commit {t : Transport} {r : Registration} {s : Snapshot} {now : Int} {json : String}
      {entries : List AdmissionEntryDecision} {token : Nat → String} {db' : Db}
      (hactive : s.state = .active) (hsequence : t.sequence = s.nextSequence)
      (hguarded : s.Guarded)
      (hagrees : ∀ d ∈ entries, EvidenceAgrees s.toAdmissionSnapshot d.entry)
      (hbatch : batch codec.jsonValid
        (finish token (guardDrafts t r s json ++ commitDrafts codec t s now entries))
        db = .ok db') :
      StoreStep codec db db'

inductive TableStep (codec : Codec) (db : Db) : Db → Prop where
  | store {db' : Db} (h : StoreStep codec db db') : TableStep codec db db'
  /-- A claim or a settlement of live deliveries. -/
  | dispatch {p : OutboxRow → Bool} {f : OutboxRow → OutboxRow} {c : Conn}
      (hlive : ∀ o, p o = true → o ∈ db.outbox → o.status.live = true)
      (hdelivery : ∀ o, (f o).toDelivery = o.toDelivery)
      (hrewrite : rewriteOutbox codec.jsonValid ⟨db, 0⟩ p f = .ok c) : TableStep codec db c.db

/-! ## Snapshots in flight -/

/-- The reads that a call still has to make are for the keys that its batch will guard. -/
def Phase.Guarded : Phase → Prop
  | .streamRead s => s.evidenceFacts = []
  | .facts s pending => s.Guarded ∧
      ∀ evidenceId, .evidence evidenceId ∈ pending → ∃ k ∈ s.factKeys, k.evidenceId = evidenceId
  | _ => True

section Calls

variable {codec : Codec} {db : Db}

theorem readStream_guarded {t : Transport} {s : Snapshot} (h : readStream codec db t = some s) :
    (Phase.streamRead s).Guarded := by
  simp only [readStream, Option.bind_eq_bind, Option.bind_eq_some_iff] at h
  obtain ⟨_, -, _, -, _, -, h⟩ := h
  cases h
  rfl

theorem readReceipt_guarded {t : Transport} {s : Snapshot} (h : s.evidenceFacts = []) :
    (readReceipt codec db t s).Guarded := by
  unfold readReceipt
  split
  · exact ⟨fun _ _ hl => by simp [h] at hl, fun _ hp => by cases hp⟩
  · split
    · refine ⟨fun _ _ hl => by simp [h] at hl, fun evidenceId hp => ?_⟩
      obtain ⟨k, hk, hmem⟩ := List.mem_flatMap.1 hp
      simp only [List.mem_cons, reduceCtorEq, FactRead.evidence.injEq, List.not_mem_nil, or_false,
        false_or] at hmem
      exact ⟨k, hk, hmem.symm⟩
    · exact ⟨fun _ _ hl => by simp [h] at hl, fun _ hp => by cases hp⟩

theorem readFact_guarded {s : Snapshot} {read : FactRead} {pending : List FactRead}
    (h : (Phase.facts s (read :: pending)).Guarded) :
    (Phase.facts (readFact db s read) pending).Guarded := by
  obtain ⟨hguarded, hpending⟩ := h
  have hrest : ∀ evidenceId, .evidence evidenceId ∈ pending →
      ∃ k ∈ s.factKeys, k.evidenceId = evidenceId :=
    fun evidenceId hp => hpending evidenceId (List.mem_cons_of_mem _ hp)
  cases read with
  | attempt attemptKey =>
    simp only [readFact]
    split
    · exact ⟨hguarded, hrest⟩
    · exact ⟨hguarded, hrest⟩
  | evidence evidenceId =>
    simp only [readFact]
    split
    · refine ⟨?_, hrest⟩
      intro evidenceId' fact hl
      simp only [List.lookup_cons] at hl
      split at hl
      · rename_i heq
        rw [beq_iff_eq] at heq
        rw [heq]
        exact hpending evidenceId List.mem_cons_self
      · exact hguarded evidenceId' fact hl
    · exact ⟨hguarded, hrest⟩

/-- One step of a call leaves it with guarded reads. -/
theorem Call.advance_guarded {call : Call} {random : Randomness} (h : call.phase.Guarded) :
    (call.advance codec db random).2.phase.Guarded := by
  unfold Call.advance
  split
  · split
    · rename_i hread
      exact readStream_guarded hread
    · trivial
  · rename_i s hphase
    rw [hphase] at h
    exact readReceipt_guarded h
  · rename_i s read pending hphase
    rw [hphase] at h
    exact readFact_guarded h
  · unfold commitPlan
    split
    · trivial
    · trivial
    · split
      · trivial
      · split <;> trivial
      · trivial
  · exact h
  · exact h

/-! ## Reading a step off the code -/

theorem guardDrafts_neutral {t : Transport} {r : Registration} {s : Snapshot}
    {json token : String} {draft : Draft} (h : draft ∈ guardDrafts t r s json) :
    (draft token).keepsSequences = true ∧ (draft token).delivery? = none ∧
      (draft token).receipt? = none ∧ (draft token).writesStreams = false := by
  obtain ⟨condition, -, rfl⟩ := List.mem_map.1 h
  exact ⟨rfl, rfl, rfl, rfl⟩

theorem quarantineDrafts_closed {t : Transport} {s : Snapshot} {now : Int} {auditId token : String}
    {code : AdmissionCode} {disputed : List String} {draft : Draft}
    (h : draft ∈ quarantineDrafts codec t s now auditId code disputed) :
    (draft token).keepsSequences = true ∧ (draft token).delivery? = none := by
  unfold quarantineDrafts at h
  simp only [List.mem_append, List.mem_ite_nil_right, List.mem_cons, List.not_mem_nil, or_false,
    List.mem_map] at h
  rcases h with ((((((⟨-, rfl⟩ | rfl) | ⟨_, -, rfl⟩) | ⟨-, rfl⟩) | rfl) | ⟨_, -, rfl⟩) |
    ⟨-, rfl⟩) | rfl | rfl <;> exact ⟨rfl, rfl⟩

theorem installStatements_closed {previousRevision : Int} {next : Registration}
    {reason token auditId : String} {statements : List Statement}
    (h : installStatements codec previousRevision next reason token auditId = some statements) :
    ∀ s ∈ statements, s.keepsSequences = true ∧ s.delivery? = none := by
  simp only [installStatements, Option.bind_eq_bind, Option.bind_eq_some_iff] at h
  obtain ⟨json, -, r, -, h⟩ := h
  split at h
  · cases h
  · obtain ⟨namespace_, -, h⟩ := Option.bind_eq_some_iff.1 h
    cases h
    intro s hs
    split at hs <;>
    · simp only [List.mem_append, List.mem_cons, List.not_mem_nil, or_false, List.map_cons,
        List.map_nil] at hs
      rcases hs with (hs | hs) | hs
      · rcases hs with rfl | rfl | rfl | rfl | rfl <;> exact ⟨rfl, rfl⟩
      · rcases hs with rfl | rfl <;> exact ⟨rfl, rfl⟩
      · rcases hs with rfl | rfl | rfl <;> exact ⟨rfl, rfl⟩

/-- The batch that a call plans is that of a quarantine or that of an admission. -/
theorem planAdmission_write {t : Transport} {r : Registration} {s : Snapshot} {now : Int}
    {random : Randomness} {statements : List Statement} {result : AdmissionResult} {db' : Db}
    (hplan : planAdmission codec t r s now random = .write statements result) (hs : s.Guarded)
    (hbatch : batch codec.jsonValid statements db = .ok db') : StoreStep codec db db' := by
  unfold planAdmission at hplan
  split at hplan
  · cases hplan
  · cases hplan
  · split at hplan
    · cases hplan
    split at hplan
    · split at hplan
      · cases hplan
      split at hplan
      · cases hplan
        refine .closed ?_ ?_ hbatch
        · refine forall_mem_finish (fun draft hd i => ?_) fun i => rfl
          rcases List.mem_append.1 hd with hd | hd
          · exact (guardDrafts_neutral hd).1
          · exact (quarantineDrafts_closed hd).1
        · refine forall_mem_finish (fun draft hd i => ?_) fun i => rfl
          rcases List.mem_append.1 hd with hd | hd
          · exact (guardDrafts_neutral hd).2.1
          · exact (quarantineDrafts_closed hd).2
      · cases hplan
    · cases hplan
  · rename_i entries hdecision
    obtain ⟨-, -, hsequence, hagrees⟩ := evaluateAdmission_commit hdecision
    split at hplan
    · cases hplan
    split at hplan
    · split at hplan
      · cases hplan
      split at hplan
      · rename_i hactive
        cases hplan
        exact .commit hactive hsequence hs hagrees hbatch
      · cases hplan
    · cases hplan

theorem commitPlan_storeStep {call : Call} {plan : Plan}
    (hwrite : ∀ statements result, plan = .write statements result → ∀ db',
      batch codec.jsonValid statements db = .ok db' → StoreStep codec db db') :
    StoreStep codec db (commitPlan codec db call plan).1 := by
  cases plan with
  | answer result => exact .same
  | throw => exact .same
  | write statements result =>
    simp only [commitPlan]
    split
    · rename_i db' hbatch
      exact hwrite statements result rfl db' hbatch
    · split <;> exact .same
    · exact .same

theorem Call.advance_storeStep {call : Call} {random : Randomness} (h : call.phase.Guarded) :
    StoreStep codec db (call.advance codec db random).1 := by
  unfold Call.advance
  split
  · split <;> exact .same
  · exact .same
  · exact .same
  · rename_i s hphase
    rw [hphase] at h
    exact commitPlan_storeStep fun statements result hplan db' hbatch =>
      planAdmission_write hplan h.1 hbatch
  · exact .same
  · exact .same

theorem claimSignalDelivery_ok {now : Int} {token : String} {db' : Db}
    {answer : Option OutboxRow}
    (h : claimSignalDelivery codec.jsonValid db now token = .ok (db', answer)) :
    (db' = db ∧ answer = none) ∨
      ∃ o ∈ db.outbox, due db now o = true ∧ answer = some (claimRow db now token o) ∧
        ∃ c : Conn, rewriteOutbox codec.jsonValid ⟨db, 0⟩ (fun x => x.deliveryId = o.deliveryId)
          (claimRow db now token) = .ok c ∧ c.db = db' := by
  unfold claimSignalDelivery at h
  split at h
  · cases h
  split at h
  · cases h
    exact .inl ⟨rfl, rfl⟩
  · rename_i o hmin
    have ho := List.mem_filter.1 (SortBy.minBy_mem _ hmin)
    cases hr : rewriteOutbox codec.jsonValid ⟨db, 0⟩ (fun x => x.deliveryId = o.deliveryId)
        (claimRow db now token) with
    | error e =>
      rw [hr] at h
      cases h
    | ok c =>
      rw [hr] at h
      cases h
      exact .inr ⟨o, ho.1, ho.2, rfl, c, hr, rfl⟩

theorem due_live {now : Int} {o : OutboxRow} (h : due db now o = true) : o.status.live = true := by
  simp only [due, Bool.and_eq_true] at h
  exact h.1

theorem claimSignalDelivery_tableStep {now : Int} {token : String} {db' : Db}
    {answer : Option OutboxRow} (hkeys : db.Keys)
    (h : claimSignalDelivery codec.jsonValid db now token = .ok (db', answer)) :
    TableStep codec db db' := by
  rcases claimSignalDelivery_ok h with ⟨rfl, -⟩ | ⟨o, ho, hdue, -, c, hr, rfl⟩
  · exact .store .same
  · refine .dispatch ?_ ?_ hr
    · intro x hx hmem
      have hxo : x = o := hkeys.deliveries.eq_of_key hmem ho (by simpa using hx)
      rw [hxo]
      exact due_live hdue
    · intro x
      rfl

theorem settleSignalDelivery_ok {now : Int} {token : String} {requested : Requested}
    {db' : Db} {answer : Option OutboxStatus}
    (h : settleSignalDelivery codec.jsonValid db token requested now = .ok (db', answer)) :
    ∃ c : Conn, rewriteOutbox codec.jsonValid ⟨db, 0⟩ (held db now token)
      (settleRow db now requested) = .ok c ∧ c.db = db' := by
  unfold settleSignalDelivery at h
  split at h
  · cases h
  cases hr : rewriteOutbox codec.jsonValid ⟨db, 0⟩ (held db now token)
      (settleRow db now requested) with
  | error e =>
    rw [hr] at h
    cases h
  | ok c =>
    rw [hr] at h
    cases h
    exact ⟨c, rfl, rfl⟩

theorem held_claimed {now : Int} {token : String} {o : OutboxRow}
    (h : held db now token o = true) : o.status = .claimed ∧ o.claimToken = some token := by
  simp only [held, Bool.and_eq_true, decide_eq_true_eq] at h
  exact h.1

theorem settleSignalDelivery_tableStep {now : Int} {token : String} {requested : Requested}
    {db' : Db} {answer : Option OutboxStatus}
    (h : settleSignalDelivery codec.jsonValid db token requested now = .ok (db', answer)) :
    TableStep codec db db' := by
  obtain ⟨c, hr, rfl⟩ := settleSignalDelivery_ok h
  refine .dispatch ?_ ?_ hr
  · intro x hx _
    rw [(held_claimed hx).1]
    rfl
  · intro x
    rfl

end Calls

/-- Every call in flight will guard the evidence facts that it has read. -/
def World.Guarded (w : World) : Prop := ∀ call ∈ w.calls, call.phase.Guarded

theorem World.act_guarded {codec : Codec} {action : Action} {w w' : World} (hw : w.Guarded)
    (h : w.act codec action = some w') : w'.Guarded := by
  cases action with
  | admitSignal transport registration now =>
    cases h
    intro call hcall
    rcases List.mem_append.1 hcall with hcall | hcall
    · exact hw call hcall
    · rw [List.mem_singleton] at hcall
      rw [hcall]
      trivial
  | advance i random =>
    obtain ⟨call, hi, rfl⟩ := Option.map_eq_some_iff.1 h
    intro call' hcall'
    rcases List.mem_or_eq_of_mem_set hcall' with hmem | rfl
    · exact hw call' hmem
    · exact Call.advance_guarded (hw call (List.mem_of_getElem? hi))
  | fault i =>
    simp only [World.act] at h
    split at h
    · split at h
      · cases h
      · cases h
      · cases h
        intro call' hcall'
        rcases List.mem_or_eq_of_mem_set hcall' with hmem | rfl
        · exact hw call' hmem
        · trivial
    · cases h
  | install =>
    simp only [World.act] at h
    split at h
    · split at h <;> (cases h; exact hw)
    · cases h
      exact hw
  | claim now token =>
    simp only [World.act] at h
    split at h
    · cases h
    split at h <;> (cases h; exact hw)
  | settle =>
    simp only [World.act] at h
    split at h <;> (cases h; exact hw)

/-- An action is a step of the store, which hands out no lease, or a claim, or a settlement. -/
theorem World.act_cases {codec : Codec} {action : Action} {w w' : World} (hw : w.Guarded)
    (h : w.act codec action = some w') :
    (StoreStep codec w.db w'.db ∧ w'.tokens = w.tokens ∧ w'.leases = w.leases) ∨
      (∃ now token, action = .claim now token ∧ token ∉ w.tokens ∧ w'.tokens = token :: w.tokens ∧
        ((w'.db = w.db ∧ w'.leases = w.leases) ∨
          ∃ answer, claimSignalDelivery codec.jsonValid w.db now token = .ok (w'.db, answer) ∧
            w'.leases = w.leases ++ leaseOf token answer)) ∨
      ∃ token requested now answer, action = .settle token requested now ∧
        settleSignalDelivery codec.jsonValid w.db token requested now = .ok (w'.db, answer) ∧
          w'.tokens = w.tokens ∧ w'.leases = w.leases := by
  cases action with
  | admitSignal transport registration now =>
    cases h
    exact .inl ⟨.same, rfl, rfl⟩
  | advance i random =>
    obtain ⟨call, hi, rfl⟩ := Option.map_eq_some_iff.1 h
    exact .inl ⟨Call.advance_storeStep (hw call (List.mem_of_getElem? hi)), rfl, rfl⟩
  | fault i =>
    simp only [World.act] at h
    split at h
    · split at h
      · cases h
      · cases h
      · cases h
        exact .inl ⟨.same, rfl, rfl⟩
    · cases h
  | install =>
    simp only [World.act] at h
    split at h
    · rename_i statements hstatements
      have hclosed := installStatements_closed hstatements
      split at h
      · rename_i db' hbatch
        cases h
        exact .inl ⟨.closed (fun s hs => (hclosed s hs).1) (fun s hs => (hclosed s hs).2) hbatch,
          rfl, rfl⟩
      · cases h
        exact .inl ⟨.same, rfl, rfl⟩
    · cases h
      exact .inl ⟨.same, rfl, rfl⟩
  | claim now token =>
    simp only [World.act] at h
    split at h
    · cases h
    rename_i hfresh
    split at h
    · rename_i db' answer hclaim
      cases h
      exact .inr (.inl ⟨now, token, rfl, hfresh, rfl, .inr ⟨answer, hclaim, rfl⟩⟩)
    · cases h
      exact .inr (.inl ⟨now, token, rfl, hfresh, rfl, .inl ⟨rfl, rfl⟩⟩)
  | settle token requested now =>
    simp only [World.act] at h
    split at h
    · rename_i db' answer hsettle
      cases h
      exact .inr (.inr ⟨token, requested, now, answer, rfl, hsettle, rfl, rfl⟩)
    · cases h
      exact .inl ⟨.same, rfl, rfl⟩

theorem World.act_tableStep {codec : Codec} {action : Action} {w w' : World} (hw : w.Guarded)
    (hkeys : w.db.Keys) (h : w.act codec action = some w') : TableStep codec w.db w'.db := by
  rcases act_cases hw h with ⟨hstore, -⟩ | ⟨now, token, -, -, -, ⟨hdb, -⟩ | ⟨answer, hclaim, -⟩⟩ |
    ⟨token, requested, now, answer, -, hsettle, -⟩
  · exact .store hstore
  · rw [hdb]
    exact .store .same
  · exact claimSignalDelivery_tableStep hkeys hclaim
  · exact settleSignalDelivery_tableStep hsettle

/-! ## Updates of deliveries -/

section Updates

variable {db : Db} {now : Int} {token : String} {requested : Requested} {o o' : OutboxRow}
  {jsonValid : String → Bool}

theorem isStoredEpoch_iff {value : Int} :
    isStoredEpoch value = true ↔ 0 ≤ value ∧ value ≤ 9007199254740991 := by
  simp only [isStoredEpoch, decide_eq_true_eq]
  exact Iff.rfl

theorem dispatchTime_iff : dispatchTime now = true ↔ 0 ≤ now ∧ now ≤ 9007199254740961 := by
  unfold dispatchTime
  rw [decide_eq_true_eq]
  unfold isSafeInteger maxSafeInteger
  omega

/-- An update passes when it leaves the delivery alone and the dispatch columns in range. -/
theorem OutboxRow.allowed_of (hcheck : o.check jsonValid = true) (hlive : o.status.live = true)
    (hdelivery : o'.toDelivery = o.toDelivery)
    (hlease : o'.leaseUntilEpoch.all isStoredEpoch = true)
    (hattempts : isStoredEpoch o'.deliveryAttempts = true)
    (hnext : isStoredEpoch o'.nextAttemptAtEpoch = true)
    (hlast : o'.lastDispatchAtEpoch.all isStoredEpoch = true) :
    o.allowed jsonValid o' = true := by
  have hquarantined : o.status ≠ .quarantined := by
    intro hs
    simp [hs, OutboxStatus.live] at hlive
  simp only [check, Bool.and_eq_true] at hcheck
  simp only [allowed, immutable, check, hdelivery, hcheck, hlease, hattempts, hnext, hlast,
    hquarantined, ne_eq, not_true_eq_false, decide_false, Bool.or_false, Bool.not_false,
    Bool.false_and, Bool.and_self]

theorem OutboxRow.lastSeen_inRange (hcheck : o.check jsonValid = true) :
    0 ≤ o.lastSeen ∧ o.lastSeen ≤ 9007199254740991 := by
  simp only [check, Bool.and_eq_true] at hcheck
  unfold lastSeen
  cases hd : o.lastDispatchAtEpoch with
  | none => exact isStoredEpoch_iff.1 hcheck.1.1.1.1.1.2
  | some last =>
    rw [hd, Option.all_some] at hcheck
    exact isStoredEpoch_iff.1 hcheck.2

theorem claim_allowed (htime : dispatchTime now = true) (hlive : o.status.live = true)
    (hcheck : o.check jsonValid = true) (hbound : o.deliveryAttempts ≤ 5) :
    o.allowed jsonValid (claimRow db now token o) = true := by
  rw [dispatchTime_iff] at htime
  have hseen := OutboxRow.lastSeen_inRange hcheck
  have hcheck' := hcheck
  simp only [OutboxRow.check, Bool.and_eq_true] at hcheck'
  have hattempts := isStoredEpoch_iff.1 hcheck'.1.1.2
  refine OutboxRow.allowed_of hcheck hlive rfl ?_ ?_ hcheck'.1.2 ?_
  · by_cases hstate : claimState db now o = .claimed
    · simp only [claimRow, hstate, if_true, Option.all_some, isStoredEpoch_iff]
      omega
    · simp [claimRow, hstate]
  · simp only [claimRow, isStoredEpoch_iff]
    split <;> omega
  · simp only [claimRow, Option.all_some, isStoredEpoch_iff]
    omega

theorem held_live (h : held db now token o = true) : o.status.live = true := by
  rw [(held_claimed h).1]
  rfl

theorem settle_allowed (htime : dispatchTime now = true) (hlive : o.status.live = true)
    (hcheck : o.check jsonValid = true) :
    o.allowed jsonValid (settleRow db now requested o) = true := by
  rw [dispatchTime_iff] at htime
  have hcheck' := hcheck
  simp only [OutboxRow.check, Bool.and_eq_true] at hcheck'
  refine OutboxRow.allowed_of hcheck hlive rfl ?_ hcheck'.1.1.2 ?_ ?_
  · by_cases hstate : settleState db now requested o = .claimed
    · simpa only [settleRow, hstate, if_true] using hcheck'.1.1.1.2
    · simp [settleRow, hstate]
  · by_cases hstate : settleState db now requested o = .retry
    · -- a delivery that is tried again has failed at most four times
      have hfew : o.deliveryAttempts.toNat ≤ 4 := by
        unfold settleState at hstate
        split at hstate
        · cases hstate
        split at hstate
        · cases hstate
        split at hstate
        · cases hstate
        split at hstate
        · cases hstate
        rename_i hretry
        cases requested <;> simp [Requested.status] at hstate hretry
        omega
      have hdelays : ∀ n : Nat, n ≤ 4 → (0 : Int) ≤ 2 ^ n ∧ (2 : Int) ^ n ≤ 16 := by decide
      have hdelay := hdelays _ hfew
      simp only [settleRow, hstate, if_true, isStoredEpoch_iff]
      omega
    · simpa only [settleRow, hstate, if_false] using hcheck'.1.2
  · cases hd : o.lastDispatchAtEpoch with
    | none => simp [settleRow, hd]
    | some last =>
      have hlast := hcheck'.2
      rw [hd, Option.all_some, isStoredEpoch_iff] at hlast
      simp only [settleRow, hd, Option.map_some, Option.all_some, isStoredEpoch_iff]
      omega

/-- A claim whose update passes the checks goes through. -/
theorem claimSignalDelivery_due (htime : dispatchTime now = true)
    (hdue : minBy (fun o => toLex (o.nextAttemptAtEpoch, o.deliveryId))
      (db.outbox.filter (due db now)) = some o)
    (hallowed : ∀ x ∈ db.outbox, decide (x.deliveryId = o.deliveryId) = true →
      x.allowed jsonValid (claimRow db now token x) = true) :
    claimSignalDelivery jsonValid db now token =
      .ok ({ db with
        outbox := updateWhere (fun x => x.deliveryId = o.deliveryId) (claimRow db now token)
          db.outbox }, some (claimRow db now token o)) := by
  simp only [claimSignalDelivery, htime, hdue, rewriteOutbox_ok (c := ⟨db, 0⟩) hallowed,
    Bool.not_true, Bool.false_eq_true, if_false, Except.map]

/-- A settlement whose updates pass the checks goes through. -/
theorem settleSignalDelivery_held (requested : Requested) (htime : dispatchTime now = true)
    (hchecked : ∀ x ∈ db.outbox, held db now token x = true → x.check jsonValid = true) :
    settleSignalDelivery jsonValid db token requested now =
      .ok ({ db with
        outbox := updateWhere (held db now token) (settleRow db now requested) db.outbox },
          (db.outbox.find? (held db now token)).map (settleState db now requested)) := by
  have hallowed : ∀ x ∈ db.outbox, held db now token x = true →
      x.allowed jsonValid (settleRow db now requested x) = true :=
    fun x hx hheld => settle_allowed htime (held_live hheld) (hchecked x hx hheld)
  simp only [settleSignalDelivery, htime, rewriteOutbox_ok (c := ⟨db, 0⟩) hallowed,
    Bool.not_true, Bool.false_eq_true, if_false, Except.map]

end Updates

end TradeOps.Admission
