import TradeOps.Telemetry.Repository

/-!
# What a batch does to the tables

A batch that executes puts its session in the place of the one it went on from, and adds its receipt
and its events; every deal then points at its last event. The trigger of the event table compares a
deal with the pointer before the batch, so a deal that is revised twice in one batch meets the
unique key of its revision, and the batch has no effect.

Tables are consistent when each stream's receipts and events are numbered without a gap up to the
session's last ones and the events of each deal are chained by their digests. A batch that goes on
from the session it finds keeps that.
-/

namespace TradeOps.Telemetry

open Tables Keyed Checks

/-! ## Consistent tables -/

/-- The events of a deal, in their order. -/
def Db.revisions (db : Db) (scope dealId : String) : List EventRow :=
  db.events.filter fun e => e.scope = scope && e.dealId = some dealId

/-- Revisions go on from a number by ones, each with the digest of the one before. -/
def chained : (revision : Nat) → (prior : Option String) → List EventRow → Prop
  | _, _, [] => True
  | revision, prior, e :: rest =>
    e.revision = some (revision + 1) ∧ e.previousDigest = prior ∧
      chained (revision + 1) (some e.recordDigest) rest

structure Db.Consistent (db : Db) : Prop where
  accounts : KeysNodup SessionRow.accountId db.sessions
  scopes : KeysNodup SessionRow.scope db.sessions
  counted : ∀ s ∈ db.sessions, inRange 1 s.lastRequestSequence = true ∧
    inRange 0 s.lastEventSequence = true
  receipts : ∀ s ∈ db.sessions,
    (db.receipts.filter (·.scope = s.scope)).map (·.requestSequence) =
      List.range' 1 s.lastRequestSequence
  events : ∀ s ∈ db.sessions,
    (db.events.filter (·.scope = s.scope)).map (·.sequence) = List.range' 1 s.lastEventSequence
  receiptOwned : ∀ r ∈ db.receipts, ∃ s ∈ db.sessions, s.scope = r.scope
  eventOwned : ∀ e ∈ db.events, ∃ s ∈ db.sessions, s.scope = e.scope
  records : ∀ e ∈ db.events, e.dealId.isSome = true → e.kind = .deal ∧ e.revision.isSome = true
  chains : ∀ scope dealId, chained 0 none (db.revisions scope dealId)
  pointers : ∀ scope dealId,
    db.deal scope dealId = (db.revisions scope dealId).getLast?.bind EventRow.pointer

theorem Db.empty_consistent : Db.empty.Consistent where
  accounts := List.nodup_nil
  scopes := List.nodup_nil
  counted := fun _ h => absurd h List.not_mem_nil
  receipts := fun _ h => absurd h List.not_mem_nil
  events := fun _ h => absurd h List.not_mem_nil
  receiptOwned := fun _ h => absurd h List.not_mem_nil
  eventOwned := fun _ h => absurd h List.not_mem_nil
  records := fun _ h => absurd h List.not_mem_nil
  chains := fun _ _ => trivial
  pointers := fun _ _ => rfl

/-- The next revision of a chain. -/
theorem chained_append {revision : Nat} {prior : Option String} {revisions : List EventRow}
    {e : EventRow} (h : chained revision prior revisions)
    (hrevision : e.revision =
      some (((revisions.getLast?.bind (·.revision))).getD revision + 1))
    (hprior : e.previousDigest = (revisions.getLast?.map (·.recordDigest)).or prior) :
    chained revision prior (revisions ++ [e]) := by
  induction revisions generalizing revision prior with
  | nil => exact ⟨by simpa using hrevision, by simpa using hprior, trivial⟩
  | cons first rest ih =>
    obtain ⟨hfirst, hdigest, hrest⟩ := h
    refine ⟨hfirst, hdigest, ih hrest ?_ ?_⟩
    · cases rest with
      | nil => simpa [hfirst] using hrevision
      | cons second rest =>
        rw [List.getLast?_cons_cons] at hrevision
        rw [hrevision]
        cases hlast : (second :: rest).getLast? with
        | none => simp at hlast
        | some last =>
          obtain ⟨n, hn⟩ := last_revision hrest hlast
          simp [hn]
    · cases rest with
      | nil => simpa using hprior
      | cons second rest =>
        rw [List.getLast?_cons_cons] at hprior
        rw [hprior]
        cases hlast : (second :: rest).getLast? with
        | none => simp at hlast
        | some last => simp
where
  last_revision {revision : Nat} {prior : Option String} {revisions : List EventRow}
      {last : EventRow} (h : chained revision prior revisions)
      (hlast : revisions.getLast? = some last) : ∃ n, last.revision = some n := by
    induction revisions generalizing revision prior with
    | nil => cases hlast
    | cons first rest ih =>
      cases rest with
      | nil =>
        rw [List.getLast?_singleton, Option.some.injEq] at hlast
        exact ⟨_, hlast ▸ h.1⟩
      | cons second rest =>
        rw [List.getLast?_cons_cons] at hlast
        exact ih h.2.2 hlast

/-! ## The statements -/

section Statements

variable {jsonValid : String → Bool} {db db' : Db}

/-- The session statement, when it executes: a new account, or the session that the request was
admitted in. -/
theorem upsertSession_ok {row : SessionRow} {previous : Nat}
    (h : upsertSession jsonValid db row previous = .ok db') : row.check jsonValid = true ∧
    ((db.session row.accountId = none ∧ (∀ s ∈ db.sessions, s.scope ≠ row.scope) ∧
        db' = { db with sessions := db.sessions ++ [row] }) ∨
      ∃ old, db.session row.accountId = some old ∧ old.lastRequestSequence = previous ∧
        old.scope = row.scope ∧ old.registrationJson = row.registrationJson ∧
        db' = { db with
          sessions := updateWhere (fun s => s.accountId = row.accountId) (row.advance previous)
            db.sessions }) := by
  unfold upsertSession at h
  split at h
  · cases h
  · rename_i hrow
    refine ⟨not_not.1 hrow, ?_⟩
    split at h
    · rename_i hnone
      split at h
      · cases h
      · rename_i hscope
        refine .inl ⟨hnone, fun s hs heq => hscope ?_, (Except.ok.inj h).symm⟩
        exact List.any_eq_true.2 ⟨s, hs, by simpa using heq⟩
    · rename_i old hold
      split at h
      · rename_i hcheck
        refine .inr ⟨old, hold, ?_⟩
        by_cases hsame : old.lastRequestSequence = previous ∧ old.scope = row.scope ∧
            old.registrationJson = row.registrationJson
        · exact ⟨hsame.1, hsame.2.1, hsame.2.2, (Except.ok.inj h).symm⟩
        · -- the sequence becomes 0, which the constraint refuses
          simp [SessionRow.check, SessionRow.advance, if_neg hsame, inRange] at hcheck
      · cases h

theorem insertReceipt_ok {row : ReceiptRow} (h : insertReceipt db row = .ok db') :
    db.receipt row.scope row.requestSequence = none ∧
      db' = { db with receipts := db.receipts ++ [row] } := by
  unfold insertReceipt at h
  split at h
  · rename_i hcheck
    simp only [Bool.and_eq_true, Option.isNone_iff_eq_none] at hcheck
    exact ⟨hcheck.2, (Except.ok.inj h).symm⟩
  · cases h

/-- The revision trigger reads the pointers only. -/
theorem revises_congr {row : EventRow} (h : db'.deals = db.deals) :
    row.revises db' = row.revises db := by
  unfold EventRow.revises Db.deal
  rw [h]

theorem insertEvents_ok {rows : List EventRow}
    (h : rows.foldlM (insertEvent jsonValid) db = .ok db') :
    db' = { db with events := db.events ++ rows } ∧
      (∀ row ∈ rows, row.revises db = true ∧ row.check jsonValid = true) ∧
      rows.Pairwise fun a b => a.distinct b = true := by
  induction rows generalizing db with
  | nil =>
    rw [List.foldlM_nil, pure_ok_iff] at h
    exact ⟨by simp [h], fun _ h => absurd h List.not_mem_nil, .nil⟩
  | cons row rest ih =>
    rw [List.foldlM_cons, bind_ok_iff] at h
    obtain ⟨next, hnext, h⟩ := h
    unfold insertEvent at hnext
    split at hnext
    · rename_i hrow
      simp only [Bool.and_eq_true] at hrow
      obtain ⟨⟨⟨hrevises, hcheck⟩, -⟩, -⟩ := hrow
      obtain rfl := (Except.ok.inj hnext).symm
      obtain ⟨hdb, hrest, hpairs⟩ := ih h
      refine ⟨by simpa [List.append_assoc] using hdb, ?_, .cons ?_ hpairs⟩
      · intro r hr
        rcases List.mem_cons.1 hr with rfl | hr
        · exact ⟨hrevises, hcheck⟩
        · obtain ⟨hr₁, hr₂⟩ := hrest r hr
          exact ⟨(revises_congr rfl).symm.trans hr₁, hr₂⟩
      · -- a later row is tested against the rows that are already there
        intro r hr
        exact distinct_of_inserted h r hr row (List.mem_append_right _ List.mem_cons_self)
    · cases hnext
where
  distinct_of_inserted {rows : List EventRow} {db db' : Db}
      (h : rows.foldlM (insertEvent jsonValid) db = .ok db') :
      ∀ row ∈ rows, ∀ e ∈ db.events, e.distinct row = true := by
    induction rows generalizing db with
    | nil => exact fun _ h => absurd h List.not_mem_nil
    | cons first rest ih =>
      rw [List.foldlM_cons, bind_ok_iff] at h
      obtain ⟨next, hnext, h⟩ := h
      unfold insertEvent at hnext
      split at hnext
      · rename_i hrow
        simp only [Bool.and_eq_true, List.all_eq_true] at hrow
        obtain rfl := (Except.ok.inj hnext).symm
        intro row hmem e he
        rcases List.mem_cons.1 hmem with rfl | hmem
        · exact hrow.1.2 e he
        · exact ih h row hmem e (List.mem_append_left _ he)
      · cases hnext

theorem deal_some {scope dealId : String} {d : DealRow} (h : db.deal scope dealId = some d) :
    d.scope = scope ∧ d.dealId = dealId := by
  simpa using List.find?_some h

/-- A pointer that is written is read back; the others stay. -/
theorem upsertDeal_ok {row : DealRow} (h : upsertDeal db row = .ok db') :
    db'.sessions = db.sessions ∧ db'.receipts = db.receipts ∧ db'.events = db.events ∧
      ∀ scope dealId, db'.deal scope dealId =
        if row.scope = scope ∧ row.dealId = dealId then some row else db.deal scope dealId := by
  unfold upsertDeal at h
  split at h
  · split at h
    · rename_i hsome
      obtain rfl := (Except.ok.inj h).symm
      refine ⟨rfl, rfl, rfl, fun scope dealId => ?_⟩
      obtain ⟨current, hcurrent⟩ := Option.isSome_iff_exists.1 hsome
      change (updateWhere _ _ db.deals).find? (fun d => d.scope = scope && d.dealId = dealId) = _
      rw [find?_updateWhere (by intro d; rfl)]
      change (db.deal scope dealId).map _ = _
      by_cases hkey : row.scope = scope ∧ row.dealId = dealId
      · obtain ⟨rfl, rfl⟩ := hkey
        have hmatch := deal_some hcurrent
        rw [hcurrent, if_pos ⟨rfl, rfl⟩, Option.map_some, if_pos (by simp [hmatch]), hmatch.1,
          hmatch.2]
      · rw [if_neg hkey]
        cases hfound : db.deal scope dealId with
        | none => rfl
        | some d =>
          have hmatch := deal_some hfound
          rw [Option.map_some, if_neg]
          simp only [Bool.and_eq_true, decide_eq_true_eq, not_and]
          intro hscope hdeal
          exact hkey ⟨hscope.symm.trans hmatch.1, hdeal.symm.trans hmatch.2⟩
    · rename_i hnone
      obtain rfl := (Except.ok.inj h).symm
      refine ⟨rfl, rfl, rfl, fun scope dealId => ?_⟩
      rw [Option.not_isSome_iff_eq_none] at hnone
      change (db.deals ++ [row]).find? (fun d => d.scope = scope && d.dealId = dealId) = _
      rw [List.find?_append]
      change (db.deal scope dealId).or _ = _
      by_cases hkey : row.scope = scope ∧ row.dealId = dealId
      · obtain ⟨rfl, rfl⟩ := hkey
        rw [hnone, if_pos ⟨rfl, rfl⟩]
        simp
      · rw [if_neg hkey, List.find?_singleton, if_neg (by simpa using hkey), Option.or_none]
  · cases h

/-- After several pointers were written, the last one of each deal is read back. -/
theorem upsertDeals_ok {rows : List DealRow} (h : rows.foldlM upsertDeal db = .ok db') :
    db'.sessions = db.sessions ∧ db'.receipts = db.receipts ∧ db'.events = db.events ∧
      ∀ scope dealId, db'.deal scope dealId =
        (rows.filter fun d => d.scope = scope && d.dealId = dealId).getLast?.or
          (db.deal scope dealId) := by
  induction rows generalizing db with
  | nil =>
    rw [List.foldlM_nil, pure_ok_iff] at h
    rw [h]
    exact ⟨rfl, rfl, rfl, fun _ _ => rfl⟩
  | cons row rest ih =>
    rw [List.foldlM_cons, bind_ok_iff] at h
    obtain ⟨next, hnext, h⟩ := h
    obtain ⟨hsessions, hreceipts, hevents, hdeal⟩ := upsertDeal_ok hnext
    obtain ⟨hsessions', hreceipts', hevents', hdeal'⟩ := ih h
    refine ⟨hsessions'.trans hsessions, hreceipts'.trans hreceipts, hevents'.trans hevents, ?_⟩
    intro scope dealId
    rw [hdeal', hdeal, List.filter_cons]
    by_cases hkey : row.scope = scope ∧ row.dealId = dealId
    · rw [if_pos hkey, if_pos (by simp [hkey])]
      generalize (rest.filter fun d => d.scope = scope && d.dealId = dealId) = later
      cases later with
      | nil => rfl
      | cons d later =>
        rw [List.getLast?_cons_cons]
        cases hlast : (d :: later).getLast? with
        | none => simp at hlast
        | some last => rfl
    · rw [if_neg hkey, if_neg (by simpa using hkey)]

/-- What a batch that executes has done. -/
structure Batch.Effect (jsonValid : String → Bool) (db db' : Db) (batch : Batch) : Prop where
  checked : batch.session.check jsonValid = true
  sessions :
    (db.session batch.session.accountId = none ∧
        (∀ s ∈ db.sessions, s.scope ≠ batch.session.scope) ∧
        db'.sessions = db.sessions ++ [batch.session]) ∨
      ∃ old, db.session batch.session.accountId = some old ∧
        old.lastRequestSequence = batch.previous ∧ old.scope = batch.session.scope ∧
        old.registrationJson = batch.session.registrationJson ∧
        db'.sessions = updateWhere (fun s => s.accountId = batch.session.accountId)
          (batch.session.advance batch.previous) db.sessions
  receipts : db'.receipts = db.receipts ++ [batch.receipt]
  unclaimed : db.receipt batch.receipt.scope batch.receipt.requestSequence = none
  events : db'.events = db.events ++ batch.events
  revises : ∀ e ∈ batch.events, e.revises db = true ∧ e.check jsonValid = true
  distinct : batch.events.Pairwise fun a b => a.distinct b = true
  deals : ∀ scope dealId, db'.deal scope dealId =
    ((batch.events.filterMap EventRow.pointer).filter fun d =>
      d.scope = scope && d.dealId = dealId).getLast?.or (db.deal scope dealId)

theorem Batch.exec_ok {batch : Batch} (h : batch.exec jsonValid db = .ok db') :
    batch.Effect jsonValid db db' := by
  rw [Batch.exec, bind_ok_iff] at h
  obtain ⟨db₁, hsession, h⟩ := h
  rw [bind_ok_iff] at h
  obtain ⟨db₂, hreceipt, h⟩ := h
  rw [bind_ok_iff] at h
  obtain ⟨db₃, hevents, h⟩ := h
  obtain ⟨hunclaimed, rfl⟩ := insertReceipt_ok hreceipt
  obtain ⟨rfl, hrevises, hdistinct⟩ := insertEvents_ok hevents
  obtain ⟨hsessions', hreceipts', hevents', hdeals⟩ := upsertDeals_ok h
  obtain ⟨hcheck, hsession⟩ := upsertSession_ok hsession
  rcases hsession with ⟨hnone, hscope, rfl⟩ | ⟨old, hold, hprev, hscope, hreg, rfl⟩
  · exact ⟨hcheck, .inl ⟨hnone, hscope, hsessions'⟩, hreceipts', hunclaimed, hevents',
      fun e he => hrevises e he, hdistinct, hdeals⟩
  · exact ⟨hcheck, .inr ⟨old, hold, hprev, hscope, hreg, hsessions'⟩, hreceipts',
      hunclaimed, hevents', fun e he => hrevises e he, hdistinct, hdeals⟩

end Statements

/-! ## A batch keeps the tables consistent -/

/-- A batch that goes on from `base` events. -/
structure Batch.Continues (batch : Batch) (base : Nat) : Prop where
  receiptScope : batch.receipt.scope = batch.session.scope
  receiptSequence : batch.receipt.requestSequence = batch.session.lastRequestSequence
  request : batch.session.lastRequestSequence = batch.previous + 1
  eventScope : ∀ e ∈ batch.events, e.scope = batch.session.scope
  sequences : batch.events.map (·.sequence) = List.range' (base + 1) batch.events.length
  event : batch.session.lastEventSequence = base + batch.events.length
  records : ∀ e ∈ batch.events, e.dealId.isSome = true →
    e.kind = .deal ∧ e.revision.isSome = true

/-- The session that the batch goes on from: none before the first request, else the account's, as
long as nothing was accepted since. -/
structure Batch.Follows (db : Db) (batch : Batch) (base : Nat) : Prop where
  first : batch.previous = 0 → base = 0
  later : batch.previous ≠ 0 → ∃ s ∈ db.sessions, s.accountId = batch.session.accountId ∧
    batch.previous ≤ s.lastRequestSequence ∧
    (s.lastRequestSequence = batch.previous → s.lastEventSequence = base)

section Consistency

variable {jsonValid : String → Bool} {db db' : Db} {batch : Batch} {base : Nat}

theorem session_some {accountId : String} {s : SessionRow}
    (h : db.session accountId = some s) : s ∈ db.sessions ∧ s.accountId = accountId :=
  ⟨List.mem_of_find?_eq_some h, by simpa using List.find?_some h⟩

theorem session_eq_some (h : KeysNodup SessionRow.accountId db.sessions) {s : SessionRow}
    (hs : s ∈ db.sessions) : db.session s.accountId = some s :=
  h.lookup_iff.2 ⟨hs, rfl⟩

/-- A pointer is made of a revision of the deal. -/
theorem pointer_of_continues (h : batch.Continues base) {e : EventRow} (he : e ∈ batch.events)
    {dealId : String} (hdeal : e.dealId = some dealId) :
    ∃ revision, e.revision = some revision ∧ e.kind = .deal ∧
      e.pointer = some ⟨e.scope, dealId, e.sequence, revision, e.recordDigest⟩ := by
  obtain ⟨hkind, hrevision⟩ := h.records e he (by rw [hdeal]; rfl)
  obtain ⟨revision, hrevision⟩ := Option.isSome_iff_exists.1 hrevision
  exact ⟨revision, hrevision, hkind, by simp [EventRow.pointer, hkind, hdeal, hrevision]⟩

/-- The pointers of a deal are made of its events. -/
theorem filter_pointers (h : batch.Continues base) (scope dealId : String) :
    ((batch.events.filterMap EventRow.pointer).filter fun d =>
        d.scope = scope && d.dealId = dealId) =
      (batch.events.filter fun e => e.scope = scope && e.dealId = some dealId).filterMap
        EventRow.pointer := by
  rw [List.filter_filterMap, List.filterMap_filter]
  refine List.filterMap_congr fun e he => ?_
  cases hdeal : e.dealId with
  | none => simp [EventRow.pointer, hdeal]
  | some id =>
    obtain ⟨revision, -, -, hpointer⟩ := pointer_of_continues h he hdeal
    rw [hpointer]
    simp [Option.filter, Bool.and_eq_true]

/-- A batch revises a deal once at most. -/
theorem revisions_of_effect (h : batch.Effect jsonValid db db') (hc : batch.Continues base)
    (scope dealId : String) :
    (batch.events.filter fun e => e.scope = scope && e.dealId = some dealId) = [] ∨
      ∃ e ∈ batch.events, e.scope = scope ∧ e.dealId = some dealId ∧
        (batch.events.filter fun e => e.scope = scope && e.dealId = some dealId) = [e] := by
  cases hcase : batch.events.filter fun e => e.scope = scope && e.dealId = some dealId with
  | nil => exact .inl rfl
  | cons a rest =>
    have hmem : ∀ e ∈ a :: rest, e ∈ batch.events ∧ e.scope = scope ∧ e.dealId = some dealId := by
      intro e he
      rw [← hcase, List.mem_filter] at he
      exact ⟨he.1, by simpa using he.2⟩
    obtain ⟨ha, hscope, hdeal⟩ := hmem a List.mem_cons_self
    cases rest with
    | nil => exact .inr ⟨a, ha, hscope, hdeal, rfl⟩
    | cons b rest =>
      -- both go on from the pointer before the batch, so they have one revision
      obtain ⟨hb, hscope', hdeal'⟩ := hmem b (List.mem_cons_of_mem _ List.mem_cons_self)
      have hpairs := h.distinct.sublist (List.filter_sublist
        (p := fun e => e.scope = scope && e.dealId = some dealId))
      rw [hcase, List.pairwise_cons] at hpairs
      have hdistinct := hpairs.1 b List.mem_cons_self
      obtain ⟨revision, hrevision, hkind, -⟩ := pointer_of_continues hc ha hdeal
      obtain ⟨-, -, hkind', -⟩ := pointer_of_continues hc hb hdeal'
      have hrev := (h.revises a ha).1
      have hrev' := (h.revises b hb).1
      simp only [EventRow.revises, hkind, hdeal, hscope, Bool.and_eq_true, decide_eq_true_eq]
        at hrev
      simp only [EventRow.revises, hkind', hdeal', hscope', Bool.and_eq_true, decide_eq_true_eq]
        at hrev'
      simp [EventRow.distinct, hscope, hscope', hdeal, hdeal', hrev.1, hrev'.1] at hdistinct

/-- What the pointer of a deal says is what its last event says. -/
theorem deal_eq_last (h : db.Consistent) (scope dealId : String) :
    (db.deal scope dealId).map (·.revision) =
        (db.revisions scope dealId).getLast?.bind (·.revision) ∧
      (db.deal scope dealId).map (·.recordDigest) =
        (db.revisions scope dealId).getLast?.map (·.recordDigest) := by
  rw [h.pointers]
  cases hlast : (db.revisions scope dealId).getLast? with
  | none => exact ⟨rfl, rfl⟩
  | some last =>
    have hmem := List.mem_of_getLast? hlast
    rw [Db.revisions, List.mem_filter] at hmem
    have hdeal : last.dealId = some dealId := by
      have := hmem.2
      simp only [Bool.and_eq_true, decide_eq_true_eq] at this
      exact this.2
    obtain ⟨hkind, hrevision⟩ := h.records last hmem.1 (by rw [hdeal]; rfl)
    obtain ⟨revision, hrevision⟩ := Option.isSome_iff_exists.1 hrevision
    simp [EventRow.pointer, hkind, hdeal, hrevision]

theorem chains_of_effect (h : db.Consistent) (he : batch.Effect jsonValid db db')
    (hc : batch.Continues base) (scope dealId : String) :
    chained 0 none (db'.revisions scope dealId) ∧
      db'.deal scope dealId = (db'.revisions scope dealId).getLast?.bind EventRow.pointer := by
  have hrevisions : db'.revisions scope dealId = db.revisions scope dealId ++
      batch.events.filter fun e => e.scope = scope && e.dealId = some dealId := by
    rw [Db.revisions, he.events, List.filter_append]
    rfl
  rw [he.deals, filter_pointers hc, hrevisions]
  rcases revisions_of_effect he hc scope dealId with hnil | ⟨e, hmem, hscope, hdeal, hone⟩
  · rw [hnil, List.append_nil]
    exact ⟨h.chains scope dealId, h.pointers scope dealId⟩
  · obtain ⟨revision, hrevision, hkind, hpointer⟩ := pointer_of_continues hc hmem hdeal
    obtain ⟨hlastRevision, hlastDigest⟩ := deal_eq_last h scope dealId
    have hrev := (he.revises e hmem).1
    simp only [EventRow.revises, hkind, hdeal, hscope, Bool.and_eq_true, decide_eq_true_eq] at hrev
    rw [hone]
    constructor
    · apply chained_append (h.chains scope dealId)
      · rw [hrev.1, hlastRevision]
      · rw [hrev.2, hlastDigest, Option.or_none]
    · rw [List.getLast?_append, List.getLast?_singleton, Option.some_or, Option.bind_some,
        List.filterMap_cons, hpointer, List.filterMap_nil, List.getLast?_singleton, Option.some_or]

/-- A batch on an account without a session is its first. -/
theorem first_of_new (hf : batch.Follows db base)
    (hnone : db.session batch.session.accountId = none) : batch.previous = 0 ∧ base = 0 := by
  by_cases hprevious : batch.previous = 0
  · exact ⟨hprevious, hf.first hprevious⟩
  · obtain ⟨s, hs, haccount, -⟩ := hf.later hprevious
    have := List.find?_eq_none.1 hnone s hs
    simp [haccount] at this

/-- The session that a batch went on from had `base` events. -/
theorem base_of_old (h : db.Consistent) (hf : batch.Follows db base) {old : SessionRow}
    (hold : db.session batch.session.accountId = some old)
    (hprevious : old.lastRequestSequence = batch.previous) : old.lastEventSequence = base := by
  obtain ⟨hmem, haccount⟩ := session_some hold
  have hpositive : batch.previous ≠ 0 := by
    have hcounted := (h.counted old hmem).1
    simp only [inRange, decide_eq_true_eq] at hcounted
    omega
  obtain ⟨s, hs, hsaccount, -, hevent⟩ := hf.later hpositive
  obtain rfl : s = old := h.accounts.eq_of_key hs hmem (hsaccount.trans haccount.symm)
  exact hevent hprevious

/-- How a session and the rows of its stream look after the batch: as before, or as the batch has
it. -/
theorem sessions_of_effect (h : db.Consistent) (he : batch.Effect jsonValid db db')
    (hc : batch.Continues base) (hf : batch.Follows db base) {s : SessionRow}
    (hs : s ∈ db'.sessions) :
    (s ∈ db.sessions ∧ s.scope ≠ batch.session.scope) ∨
      (s.scope = batch.session.scope ∧
        s.lastRequestSequence = batch.previous + 1 ∧
        s.lastEventSequence = base + batch.events.length ∧
        (db.receipts.filter (·.scope = s.scope)).map (·.requestSequence) =
          List.range' 1 batch.previous ∧
        (db.events.filter (·.scope = s.scope)).map (·.sequence) = List.range' 1 base) := by
  rcases he.sessions with
    ⟨hnone, hfresh, hsessions⟩ | ⟨old, hold, hprevious, hscope, hregistration, hsessions⟩
  · rw [hsessions, List.mem_append, List.mem_singleton] at hs
    rcases hs with hs | rfl
    · exact .inl ⟨hs, hfresh s hs⟩
    · obtain ⟨hzero, hbase⟩ := first_of_new hf hnone
      -- a stream without a session has no rows
      have hreceipts : db.receipts.filter (·.scope = batch.session.scope) = [] := by
        rw [List.filter_eq_nil_iff]
        intro r hr heq
        obtain ⟨s, hs, hsr⟩ := h.receiptOwned r hr
        exact hfresh s hs (hsr.trans (by simpa using heq))
      have hevents : db.events.filter (·.scope = batch.session.scope) = [] := by
        rw [List.filter_eq_nil_iff]
        intro e hev heq
        obtain ⟨s, hs, hse⟩ := h.eventOwned e hev
        exact hfresh s hs (hse.trans (by simpa using heq))
      refine .inr ⟨rfl, hc.request, hc.event, ?_, ?_⟩
      · rw [hreceipts, hzero]
        rfl
      · rw [hevents, hbase]
        rfl
  · obtain ⟨hmem, haccount⟩ := session_some hold
    rw [hsessions] at hs
    rcases mem_updateWhere.1 hs with ⟨row, hrow, hp, rfl⟩ | ⟨hs, hp⟩
    · obtain rfl : row = old :=
        h.accounts.eq_of_key hrow hmem ((by simpa using hp : row.accountId = _).trans haccount.symm)
      refine .inr ⟨hscope, ?_, hc.event, ?_, ?_⟩
      · rw [SessionRow.advance, if_pos ⟨hprevious, hscope, hregistration⟩]
        exact hc.request
      · rw [← hprevious]
        exact h.receipts row hrow
      · rw [← base_of_old h hf hold hprevious]
        exact h.events row hrow
    · refine .inl ⟨hs, fun heq => ?_⟩
      obtain rfl : s = old := h.scopes.eq_of_key hs hmem (heq.trans hscope.symm)
      simp [haccount] at hp

theorem keys_of_effect (h : db.Consistent) (he : batch.Effect jsonValid db db') :
    KeysNodup SessionRow.accountId db'.sessions ∧ KeysNodup SessionRow.scope db'.sessions := by
  rcases he.sessions with ⟨hnone, hfresh, hsessions⟩ | ⟨old, hold, -, -, -, hsessions⟩
  · rw [hsessions]
    refine ⟨keysNodup_append h.accounts fun s hs heq => ?_, keysNodup_append h.scopes hfresh⟩
    have := List.find?_eq_none.1 hnone s hs
    simp [heq] at this
  · rw [hsessions]
    exact ⟨keysNodup_updateWhere (fun _ => rfl) h.accounts,
      keysNodup_updateWhere (fun _ => rfl) h.scopes⟩

/-- A scope that had a session has one after the batch, and the batch's scope has one. -/
theorem scopes_of_effect (he : batch.Effect jsonValid db db') {scope : String}
    (h : (∃ s ∈ db.sessions, s.scope = scope) ∨ scope = batch.session.scope) :
    ∃ s ∈ db'.sessions, s.scope = scope := by
  rcases he.sessions with ⟨-, -, hsessions⟩ | ⟨old, hold, -, hscope, -, hsessions⟩
  · rw [hsessions]
    rcases h with ⟨s, hs, heq⟩ | rfl
    · exact ⟨s, List.mem_append_left _ hs, heq⟩
    · exact ⟨_, List.mem_append_right _ List.mem_cons_self, rfl⟩
  · have hkeep : ∀ s ∈ db.sessions, ∃ s' ∈ db'.sessions, s'.scope = s.scope := by
      rw [hsessions]
      exact Evolves.updateWhere (R := fun s s' : SessionRow => s'.scope = s.scope) (fun _ => rfl)
        fun _ _ _ => rfl
    rcases h with ⟨s, hs, rfl⟩ | rfl
    · exact hkeep s hs
    · rw [← hscope]
      exact hkeep old (session_some hold).1

/-- **Consistency.** A batch that goes on from the session it finds keeps the tables consistent. -/
theorem Batch.Effect.consistent (h : db.Consistent) (he : batch.Effect jsonValid db db')
    (hc : batch.Continues base) (hf : batch.Follows db base) : db'.Consistent := by
  obtain ⟨haccounts, hscopes⟩ := keys_of_effect h he
  refine
    { accounts := haccounts
      scopes := hscopes
      counted := ?counted
      receipts := ?receipts
      events := ?events
      receiptOwned := ?receiptOwned
      eventOwned := ?eventOwned
      records := ?records
      chains := fun scope dealId => (chains_of_effect h he hc scope dealId).1
      pointers := fun scope dealId => (chains_of_effect h he hc scope dealId).2 }
  case counted =>
    intro s hs
    rcases sessions_of_effect h he hc hf hs with ⟨hmem, -⟩ | ⟨-, hrequest, hevent, -, -⟩
    · exact h.counted s hmem
    · have hcheck := he.checked
      simp only [SessionRow.check, Bool.and_eq_true] at hcheck
      rw [hrequest, hevent, ← hc.request, ← hc.event]
      exact ⟨hcheck.1.1.1.1.1.2, hcheck.1.1.1.1.2⟩
  case receipts =>
    intro s hs
    rw [he.receipts, List.filter_append, List.map_append]
    rcases sessions_of_effect h he hc hf hs with ⟨hmem, hne⟩ | ⟨hscope, hrequest, -, hrows, -⟩
    · have hother : ([batch.receipt].filter fun r => r.scope = s.scope) = [] := by
        simp [hc.receiptScope, Ne.symm hne]
      rw [hother, List.map_nil, List.append_nil]
      exact h.receipts s hmem
    · have hown : ([batch.receipt].filter fun r => r.scope = s.scope) = [batch.receipt] := by
        simp [hc.receiptScope, hscope]
      rw [hrows, hown, hrequest, List.map_singleton, hc.receiptSequence, hc.request,
        List.range'_1_concat, Nat.add_comm 1]
  case events =>
    intro s hs
    rw [he.events, List.filter_append, List.map_append]
    rcases sessions_of_effect h he hc hf hs with ⟨hmem, hne⟩ | ⟨hscope, -, hevent, -, hrows⟩
    · have hother : (batch.events.filter fun e => e.scope = s.scope) = [] := by
        rw [List.filter_eq_nil_iff]
        intro e hmem heq
        exact hne ((by simpa using heq : e.scope = s.scope).symm.trans (hc.eventScope e hmem))
      rw [hother, List.map_nil, List.append_nil]
      exact h.events s hmem
    · have hown : (batch.events.filter fun e => e.scope = s.scope) = batch.events := by
        rw [List.filter_eq_self]
        intro e hmem
        simp [hc.eventScope e hmem, hscope]
      rw [hrows, hown, hevent, hc.sequences, Nat.add_comm base 1, List.range'_append_1]
  case receiptOwned =>
    intro r hr
    rw [he.receipts, List.mem_append, List.mem_singleton] at hr
    rcases hr with hr | rfl
    · exact scopes_of_effect he (.inl (h.receiptOwned r hr))
    · exact scopes_of_effect he (.inr hc.receiptScope)
  case eventOwned =>
    intro e hev
    rw [he.events, List.mem_append] at hev
    rcases hev with hev | hev
    · exact scopes_of_effect he (.inl (h.eventOwned e hev))
    · exact scopes_of_effect he (.inr (hc.eventScope e hev))
  case records =>
    intro e hev
    rw [he.events, List.mem_append] at hev
    rcases hev with hev | hev
    · exact h.records e hev
    · exact hc.records e hev

/-- A session goes on, or stays as it is when no request was added. -/
def SessionRow.advances (s s' : SessionRow) : Prop :=
  s'.accountId = s.accountId ∧ s'.scope = s.scope ∧ s'.identityJson = s.identityJson ∧
    s'.registrationJson = s.registrationJson ∧ s.lastRequestSequence ≤ s'.lastRequestSequence ∧
    s.lastEventSequence ≤ s'.lastEventSequence ∧
    (s'.lastRequestSequence = s.lastRequestSequence → s'.lastEventSequence = s.lastEventSequence)

theorem SessionRow.advances_refl (s : SessionRow) : s.advances s :=
  ⟨rfl, rfl, rfl, rfl, le_rfl, le_rfl, fun _ => rfl⟩

theorem Batch.Effect.evolves (h : db.Consistent) (he : batch.Effect jsonValid db db')
    (hc : batch.Continues base) (hf : batch.Follows db base) :
    Evolves SessionRow.advances db.sessions db'.sessions := by
  rcases he.sessions with
    ⟨-, -, hsessions⟩ | ⟨old, hold, hprevious, hscope, hregistration, hsessions⟩
  · rw [hsessions]
    exact Evolves.append SessionRow.advances_refl _ _
  · obtain ⟨hmem, haccount⟩ := session_some hold
    rw [hsessions]
    refine Evolves.updateWhere SessionRow.advances_refl fun s hs hp => ?_
    obtain rfl : s = old :=
      h.accounts.eq_of_key hs hmem ((by simpa using hp : s.accountId = _).trans haccount.symm)
    have hbase := base_of_old h hf hold hprevious
    have hrequest := hc.request
    have hevent := hc.event
    unfold SessionRow.advances SessionRow.advance
    rw [if_pos ⟨hprevious, hscope, hregistration⟩]
    refine ⟨rfl, rfl, rfl, rfl, ?_, ?_, ?_⟩
    · change _ ≤ batch.session.lastRequestSequence
      omega
    · change _ ≤ batch.session.lastEventSequence
      omega
    · intro heq
      change batch.session.lastRequestSequence = _ at heq
      omega

end Consistency

end TradeOps.Telemetry
