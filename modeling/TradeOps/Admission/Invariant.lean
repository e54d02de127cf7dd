import TradeOps.Admission.Effects
import TradeOps.Entry.EarliestTrigger

/-!
# The run invariant of signal admission

In every reachable state the accepted receipts of a stream carry the sequences below its next one,
each once, and every delivery belongs to the reservation of its attempt. Along every run a dispute
stands, a stream that is quarantined or retired gains neither an accepted receipt nor a delivery,
and a call whose batch fails has changed nothing.

The sequences are the delicate part: in the middle of an admission batch the receipt is there and
the stream has not moved yet. So the batch of an admission is taken apart as a whole, and every
other statement keeps the invariant on its own.
-/

namespace TradeOps.Admission

open Tables Keyed
open TradeOps.Entry (closePairOne)
open scoped JsString

/-! ## Accepted sequences -/

/-- The sequences of the receipts of a stream that were not rejected, in the order of admission. -/
def acceptedSequences (db : Db) (stream : String × Int) : List Int :=
  (db.receipts.filter fun x => x.stream = stream && x.outcome ≠ .rejected).map (·.sequence)

/-- The sequences from `1` to the one before `next`. -/
def sequencesBelow (next : Int) : List Int :=
  (List.range (next - 1).toNat).map fun i : Nat => (i : Int) + 1

structure Db.Sequenced (db : Db) : Prop where
  keys : db.Keys
  receiptStreams : ∀ x ∈ db.receipts, ∃ s ∈ db.streams, s.key = x.stream
  next_pos : ∀ s ∈ db.streams, 1 ≤ s.nextSequence
  sequences : ∀ s ∈ db.streams, acceptedSequences db s.key = sequencesBelow s.nextSequence

theorem sequencesBelow_succ {next : Int} (h : 1 ≤ next) :
    sequencesBelow (next + 1) = sequencesBelow next ++ [next] := by
  have hlen : (next + 1 - 1).toNat = (next - 1).toNat + 1 := by omega
  have hlast : ((next - 1).toNat : Int) + 1 = next := by omega
  rw [sequencesBelow, hlen, List.range_succ, List.map_append, List.map_singleton, hlast,
    sequencesBelow]

theorem mem_sequencesBelow {next n : Int} : n ∈ sequencesBelow next ↔ 1 ≤ n ∧ n < next := by
  unfold sequencesBelow
  rw [List.mem_map]
  constructor
  · rintro ⟨i, hi, rfl⟩
    rw [List.mem_range] at hi
    omega
  · rintro ⟨hpos, hlt⟩
    exact ⟨(n - 1).toNat, List.mem_range.2 (by omega), by omega⟩

theorem nodup_sequencesBelow (next : Int) : (sequencesBelow next).Nodup := by
  refine List.Nodup.map ?_ List.nodup_range
  intro i j hij
  have hcast : (i : Int) + 1 = (j : Int) + 1 := hij
  omega

theorem acceptedSequences_append {db db' : Db} {row : ReceiptRow} {stream : String × Int}
    (h : db'.receipts = db.receipts ++ [row]) :
    acceptedSequences db' stream = acceptedSequences db stream ++
      if row.stream = stream ∧ row.outcome ≠ .rejected then [row.sequence] else [] := by
  unfold acceptedSequences
  rw [h, List.filter_append, List.map_append]
  congr 1
  by_cases hrow : row.stream = stream ∧ row.outcome ≠ .rejected
  · simp [hrow]
  · rw [if_neg hrow]
    simpa using hrow

theorem acceptedSequences_congr {db db' : Db} (h : db'.receipts = db.receipts)
    (stream : String × Int) : acceptedSequences db' stream = acceptedSequences db stream := by
  unfold acceptedSequences
  rw [h]

theorem acceptedSequences_nil {db : Db} (hdb : db.Sequenced) {stream : String × Int}
    (h : ∀ s ∈ db.streams, s.key ≠ stream) : acceptedSequences db stream = [] := by
  unfold acceptedSequences
  rw [List.map_eq_nil_iff, List.filter_eq_nil_iff]
  intro x hx
  obtain ⟨s, hs, hkey⟩ := hdb.receiptStreams x hx
  have hne : x.stream ≠ stream := fun heq => h s hs (hkey.trans heq)
  simp [hne]

theorem Db.Sequenced.empty : Db.empty.Sequenced where
  keys := Db.Keys.empty
  receiptStreams := fun _ hx => by cases hx
  next_pos := fun _ hs => by cases hs
  sequences := fun _ hs => by cases hs

section Statements

variable {jsonValid : String → Bool} {c c' : Conn} {s : Statement}

/-- Receipts that a statement leaves alone or rejects do not show in the accepted sequences. -/
theorem exec_acceptedSequences (hs : s.keepsSequences = true) (h : s.exec jsonValid c = .ok c')
    (stream : String × Int) : acceptedSequences c'.db stream = acceptedSequences c.db stream := by
  have hreceipts := exec_receipts h
  cases hr : s.receipt? with
  | none =>
    rw [hr, Option.toList_none, List.append_nil] at hreceipts
    exact acceptedSequences_congr hreceipts stream
  | some row =>
    rw [hr, Option.toList_some] at hreceipts
    have hrejected : row.outcome = .rejected := by
      cases s with
      | insertReceipt row' =>
        cases hr
        simpa [Statement.keepsSequences] using hs
      | _ => cases hr
    rw [acceptedSequences_append hreceipts, if_neg (fun hrow => hrow.2 hrejected), List.append_nil]

theorem exec_receiptStreams (h : s.exec jsonValid c = .ok c')
    (hc : ∀ x ∈ c.db.receipts, ∃ y ∈ c.db.streams, y.key = x.stream) :
    ∀ x ∈ c'.db.receipts, ∃ y ∈ c'.db.streams, y.key = x.stream := by
  intro x hx
  have hold : ∃ y ∈ c.db.streams, y.key = x.stream := by
    rw [exec_receipts h] at hx
    rcases List.mem_append.1 hx with hx | hx
    · exact hc x hx
    · cases s with
      | insertReceipt row =>
        have hrow : x = row := by simpa [Statement.receipt?] using hx
        rw [hrow]
        exact exec_insertReceipt_stream h
      | _ => cases hx
  obtain ⟨y, hy, hkey⟩ := hold
  obtain ⟨y', hy', hevolves⟩ := (exec_evolves h).streams y hy
  exact ⟨y', hy', hevolves.key.trans hkey⟩

theorem exec_sequenced (hs : s.keepsSequences = true) (h : s.exec jsonValid c = .ok c')
    (hc : c.db.Sequenced) : c'.db.Sequenced := by
  have haccepted := exec_acceptedSequences hs h
  rcases exec_streams h with heq | ⟨row, rfl, hnone, heq⟩ | ⟨p, f, hf, -, hnext, heq⟩
  · refine ⟨exec_keys h hc.keys, exec_receiptStreams h hc.receiptStreams, ?_, ?_⟩
    · rw [heq]
      exact hc.next_pos
    · rw [heq]
      intro y hy
      rw [haccepted]
      exact hc.sequences y hy
  · -- a new stream: no receipt can refer to it yet
    have hone : row.nextSequence = 1 := by simpa [Statement.keepsSequences] using hs
    refine ⟨exec_keys h hc.keys, exec_receiptStreams h hc.receiptStreams, ?_, ?_⟩
    · intro y hy
      rw [heq] at hy
      rcases List.mem_append.1 hy with hy | hy
      · exact hc.next_pos y hy
      · rw [List.mem_singleton] at hy
        rw [hy, hone]
    · intro y hy
      rw [heq] at hy
      rw [haccepted]
      rcases List.mem_append.1 hy with hy | hy
      · exact hc.sequences y hy
      · rw [List.mem_singleton] at hy
        have hnil : acceptedSequences c.db row.key = [] :=
          acceptedSequences_nil hc (Db.stream_none.1 hnone)
        rw [hy, hone, hnil]
        rfl
  · have hkeeps : ∀ x, (f x).nextSequence = x.nextSequence := by
      rcases hnext with hnext | ⟨_, _, _, _, rfl⟩
      · exact hnext
      · simp [Statement.keepsSequences] at hs
    refine ⟨exec_keys h hc.keys, exec_receiptStreams h hc.receiptStreams, ?_, ?_⟩
    · intro y hy
      rw [heq] at hy
      obtain ⟨x, hx, rfl⟩ := exists_of_mem_updateWhere hy
      split
      · rw [hkeeps]
        exact hc.next_pos x hx
      · exact hc.next_pos x hx
    · intro y hy
      rw [heq] at hy
      obtain ⟨x, hx, rfl⟩ := exists_of_mem_updateWhere hy
      rw [haccepted]
      split
      · rw [hkeeps, (hf x).1]
        exact hc.sequences x hx
      · exact hc.sequences x hx

end Statements

/-! ## The batch of an admission -/

section Commit

variable {codec : Codec} {t : Transport} {r : Registration} {s : Snapshot} {now : Int}
  {json : String} {entries : List AdmissionEntryDecision} {token : Nat → String} {db db' : Db}

/-- The receipt of an admission. -/
def committedReceipt (codec : Codec) (t : Transport) (now : Int)
    (entries : List AdmissionEntryDecision) : ReceiptRow :=
  ⟨t.registrationId, t.generation, t.sequence, receiptIdentity codec t, t.bodySha256,
    commitOutcome entries, none, now⟩

/-- The stream that an admission advances. -/
def advanced (t : Transport) (s : Snapshot) (x : StreamRow) : Bool :=
  x.registrationId = t.registrationId && x.generation = t.generation && x.revision = s.casRevision

def advance (now : Int) (x : StreamRow) : StreamRow :=
  { x with
    nextSequence := x.nextSequence + 1, revision := x.revision + 1, lastAcceptedAt := some now }

theorem commitOutcome_ne_rejected : commitOutcome entries ≠ .rejected := by
  unfold commitOutcome
  split
  · nofun
  · split <;> nofun

theorem entryDrafts_neutral {d : AdmissionEntryDecision} {draft : Draft} {i : String}
    (h : draft ∈ entryDrafts codec t s now d) :
    (draft i).receipt? = none ∧ (draft i).writesStreams = false := by
  unfold entryDrafts at h
  simp only [List.mem_append, List.mem_ite_nil_right, List.mem_cons, List.not_mem_nil,
    or_false] at h
  rcases h with ((⟨-, rfl⟩ | ⟨-, rfl⟩) | rfl | rfl) | h
  · exact ⟨rfl, rfl⟩
  · exact ⟨rfl, rfl⟩
  · exact ⟨rfl, rfl⟩
  · exact ⟨rfl, rfl⟩
  · split at h
    · simp only [List.mem_cons, List.not_mem_nil, or_false] at h
      rcases h with rfl | rfl | rfl <;> exact ⟨rfl, rfl⟩
    · cases h

/-- The parts of an admission batch: the guards, the receipt, the entries, the advance of the
stream, and the removal of the guards. -/
theorem commit_parts
    (h : batch codec.jsonValid
      (finish token (guardDrafts t r s json ++ commitDrafts codec t s now entries)) db = .ok db') :
    ∃ (n m : Nat) (rest : List Statement) (c₁ c₂ c₃ c₄ c₅ : Conn),
      execAll codec.jsonValid (number token 0 (guardDrafts t r s json)) ⟨db, 0⟩ = .ok c₁ ∧
      (Statement.insertReceipt (committedReceipt codec t now entries)).exec codec.jsonValid c₁ =
        .ok c₂ ∧
      execAll codec.jsonValid (number token n (entries.flatMap (entryDrafts codec t s now))) c₂ =
        .ok c₃ ∧
      (Statement.advanceStream now t.registrationId t.generation s.casRevision).exec
        codec.jsonValid c₃ = .ok c₄ ∧
      execAll codec.jsonValid
        (Statement.guard (token m) .changedOne :: rest) c₄ = .ok c₅ ∧
      (∀ x ∈ rest, ∃ i, x = .deleteGuard i) ∧ c₅.db = db' := by
  obtain ⟨c₅, hexec, hdb⟩ := batch_ok_iff.1 h
  unfold finish at hexec
  rw [number_append] at hexec
  simp only [commitDrafts, number_append, List.append_assoc] at hexec
  obtain ⟨c₁, h₁, hexec⟩ := execAll_append_ok.1 hexec
  obtain ⟨c₂, h₂, hexec⟩ := execAll_append_ok.1 hexec
  obtain ⟨c₃, h₃, hexec⟩ := execAll_append_ok.1 hexec
  obtain ⟨c₄, h₄, hexec⟩ := execAll_cons_ok.1 hexec
  obtain ⟨_, h₂, hnil⟩ := execAll_cons_ok.1 h₂
  cases hnil
  refine ⟨_, _, _, c₁, c₂, c₃, c₄, c₅, h₁, h₂, h₃, h₄, hexec, ?_, hdb⟩
  intro x hx
  obtain ⟨i, -, rfl⟩ := List.mem_map.1 hx
  exact ⟨i, rfl⟩

theorem streamGuard_holds {c₁ : Conn}
    (h : execAll codec.jsonValid (number token 0 (guardDrafts t r s json)) ⟨db, 0⟩ = .ok c₁) :
    ∃ x ∈ db.streams, x.key = (t.registrationId, t.generation) ∧ x.revision = s.casRevision ∧
      x.nextSequence = s.nextSequence ∧ x.state = s.state := by
  obtain ⟨c, hguard, -⟩ := execAll_cons_ok.1 h
  have hholds := (exec_guard_ok_iff.1 hguard).1
  simp only [streamGuard, Guard.holds, List.any_eq_true, Bool.and_eq_true, decide_eq_true_eq]
    at hholds
  obtain ⟨x, hx, y, -, hxy⟩ := hholds
  obtain ⟨⟨⟨⟨⟨⟨⟨⟨⟨⟨⟨-, hid⟩, hgeneration⟩, hrevision⟩, -⟩, hnext⟩, hstate⟩, -⟩, -⟩, -⟩, -⟩, -⟩ :=
    hxy
  exact ⟨x, hx, by rw [StreamRow.key, hid, hgeneration], hrevision, hnext, hstate⟩

/-- What an admission does to receipts and streams. -/
theorem commit_effect (hkeys : db.Keys)
    (h : batch codec.jsonValid
      (finish token (guardDrafts t r s json ++ commitDrafts codec t s now entries)) db = .ok db') :
    (∃ x ∈ db.streams, x.key = (t.registrationId, t.generation) ∧ x.state = s.state ∧
      x.nextSequence = s.nextSequence ∧ ∀ y ∈ db.streams, advanced t s y = true ↔ y = x) ∧
    db'.streams = updateWhere (advanced t s) (advance now) db.streams ∧
    db'.receipts = db.receipts ++ [committedReceipt codec t now entries] := by
  obtain ⟨n, m, rest, c₁, c₂, c₃, c₄, c₅, h₁, h₂, h₃, h₄, h₅, hrest, rfl⟩ := commit_parts h
  have hguards : ∀ x ∈ number token 0 (guardDrafts t r s json),
      x.receipt? = none ∧ x.writesStreams = false := by
    intro x hx
    obtain ⟨draft, hdraft, i, rfl⟩ := mem_number hx
    exact (guardDrafts_neutral hdraft).2.2
  have hentries : ∀ x ∈ number token n (entries.flatMap (entryDrafts codec t s now)),
      x.receipt? = none ∧ x.writesStreams = false := by
    intro x hx
    obtain ⟨draft, hdraft, i, rfl⟩ := mem_number hx
    obtain ⟨d, -, hdraft⟩ := List.mem_flatMap.1 hdraft
    exact entryDrafts_neutral hdraft
  have hend : ∀ x ∈ Statement.guard (token m) .changedOne :: rest,
      x.receipt? = none ∧ x.writesStreams = false := by
    intro x hx
    rcases List.mem_cons.1 hx with rfl | hx
    · exact ⟨rfl, rfl⟩
    · obtain ⟨i, rfl⟩ := hrest x hx
      exact ⟨rfl, rfl⟩
  have hnone : ∀ {statements : List Statement},
      (∀ x ∈ statements, x.receipt? = none ∧ x.writesStreams = false) →
        statements.filterMap (·.receipt?) = [] :=
    fun hs => List.filterMap_eq_nil_iff.2 fun x hx => (hs x hx).1
  refine ⟨?_, ?_, ?_⟩
  · obtain ⟨x, hx, hkey, hrevision, hnext, hstate⟩ := streamGuard_holds h₁
    refine ⟨x, hx, hkey, hstate, hnext, fun y hy => ⟨fun hadv => ?_, ?_⟩⟩
    · simp only [advanced, Bool.and_eq_true, decide_eq_true_eq] at hadv
      refine hkeys.streams.eq_of_key hy hx ?_
      rw [hkey, StreamRow.key, hadv.1.1, hadv.1.2]
    · rintro rfl
      rw [StreamRow.key, Prod.mk.injEq] at hkey
      simp [advanced, hkey, hrevision]
  · have hadvance : c₄.db.streams = updateWhere (advanced t s) (advance now) c₃.db.streams := by
      simp only [Statement.exec, rewriteStreams, rewritten_ok_iff] at h₄
      rw [h₄.2]
      rfl
    rw [execAll_streams (fun x hx => (hend x hx).2) h₅, hadvance,
      execAll_streams (fun x hx => (hentries x hx).2) h₃, exec_streams_of_not_writes rfl h₂,
      execAll_streams (fun x hx => (hguards x hx).2) h₁]
  · rw [execAll_receipts h₅, exec_receipts h₄, execAll_receipts h₃, exec_receipts h₂,
      execAll_receipts h₁, hnone hend, hnone hentries, hnone hguards]
    simp [Statement.receipt?]

theorem commit_sequenced (hdb : db.Sequenced) (hsequence : t.sequence = s.nextSequence)
    (h : batch codec.jsonValid
      (finish token (guardDrafts t r s json ++ commitDrafts codec t s now entries)) db = .ok db') :
    db'.Sequenced := by
  obtain ⟨⟨x, hx, hkey, -, hnext, hunique⟩, hstreams, hreceipts⟩ := commit_effect hdb.keys h
  obtain ⟨c', hexec, rfl⟩ := batch_ok_iff.1 h
  refine ⟨execAll_keys hexec hdb.keys, ?_, ?_, ?_⟩
  · intro z hz
    obtain ⟨y, hy, hyz⟩ : ∃ y ∈ db.streams, y.key = z.stream := by
      rw [hreceipts] at hz
      rcases List.mem_append.1 hz with hz | hz
      · exact hdb.receiptStreams z hz
      · rw [List.mem_singleton] at hz
        exact ⟨x, hx, by rw [hz]; exact hkey⟩
    obtain ⟨y', hy', hevolves⟩ := (execAll_evolves hexec).streams y hy
    exact ⟨y', hy', hevolves.key.trans hyz⟩
  · intro y' hy'
    rw [hstreams] at hy'
    obtain ⟨y, hy, rfl⟩ := exists_of_mem_updateWhere hy'
    have hpos := hdb.next_pos y hy
    split
    · show 1 ≤ y.nextSequence + 1
      omega
    · exact hpos
  · intro y' hy'
    rw [hstreams] at hy'
    obtain ⟨y, hy, rfl⟩ := exists_of_mem_updateWhere hy'
    rw [acceptedSequences_append hreceipts]
    split
    · -- the stream that the receipt belongs to
      rename_i hadv
      obtain rfl := (hunique y hy).1 hadv
      have hstream : (committedReceipt codec t now entries).stream = (advance now y).key :=
        hkey.symm
      show _ = sequencesBelow (y.nextSequence + 1)
      rw [if_pos ⟨hstream, commitOutcome_ne_rejected⟩, sequencesBelow_succ (hdb.next_pos y hy)]
      show acceptedSequences db y.key ++ [t.sequence] = _
      rw [hdb.sequences y hy, hsequence, hnext]
    · rename_i hadv
      have hother : (committedReceipt codec t now entries).stream ≠ y.key := by
        intro heq
        have hyx : y = x := hdb.keys.streams.eq_of_key hy hx (heq.symm.trans hkey.symm)
        exact hadv ((hunique y hy).2 hyx)
      rw [if_neg fun hand => hother hand.1, List.append_nil]
      exact hdb.sequences y hy

end Commit

/-! ## Reservations -/

/-- A delivery carries the evidence that its attempt is reserved for: the id, and the digest that
its document names, which is also the digest of the stored evidence. -/
def Reserved (codec : Codec) (db : Db) (d : Delivery) : Prop :=
  ∃ a ∈ db.attempts, a.key = d.attempt ∧ a.evidenceId = some d.evidenceId ∧
    ∃ t entry now expiresAt, d = newDelivery codec t d.namespace_ entry now expiresAt ∧
      a.evidenceHash = some entry.evidenceBodySha256 ∧
      ∃ e ∈ db.evidence, e.evidenceId = d.evidenceId ∧ e.namespace_ = d.namespace_ ∧
        e.attemptKey = d.attemptKey ∧ e.evidenceHash = entry.evidenceBodySha256

/-- The evidence facts of a snapshot are stored. -/
def FactsStored (s : Snapshot) (db : Db) : Prop :=
  ∀ evidenceId fact, s.evidenceFacts.lookup evidenceId = some fact →
    ∃ e ∈ db.evidence, e.evidenceId = evidenceId ∧ e.namespace_ = s.namespace_ ∧
      e.attemptKey = fact.attemptKey ∧ e.evidenceHash = fact.evidenceHash

section Reservations

variable {codec : Codec} {t : Transport} {r : Registration} {s : Snapshot} {now : Int}
  {json : String} {entries : List AdmissionEntryDecision} {token : Nat → String} {db db' : Db}
  {c c' : Conn} {d : AdmissionEntryDecision} {n : Nat}

theorem Reserved.evolves {delivery : Delivery} (hdb : db.Evolves db')
    (h : Reserved codec db delivery) : Reserved codec db' delivery := by
  obtain ⟨a, ha, hkey, hid, t, entry, now, expiresAt, hnew, hhash, e, he, hfact⟩ := h
  obtain ⟨a', ha', hevolves⟩ := hdb.attempts a ha
  obtain ⟨hid', hhash', -, -⟩ := hevolves.reservation (by rw [hid]; nofun)
  exact ⟨a', ha', hevolves.key.trans hkey, hid'.trans hid, t, entry, now, expiresAt, hnew,
    hhash'.trans hhash, e, hdb.evidence.subset he, hfact⟩

theorem FactsStored.evolves (hdb : db.Evolves db') (h : FactsStored s db) : FactsStored s db' := by
  intro evidenceId fact hl
  obtain ⟨e, he, hfact⟩ := h evidenceId fact hl
  exact ⟨e, hdb.evidence.subset he, hfact⟩

/-- Every guard of a list that passes was true of the tables. -/
theorem guards_hold {conditions : List Guard}
    (h : execAll codec.jsonValid (number token n (conditions.map guardThat)) c = .ok c')
    {condition : Guard} (hmem : condition ∈ conditions) :
    ∃ c₀ : Conn, condition.holds c₀ = true ∧ c₀.db = { c.db with guards := c₀.db.guards } := by
  induction conditions generalizing c n with
  | nil => cases hmem
  | cons first rest ih =>
    obtain ⟨c₁, hguard, hrest⟩ := execAll_cons_ok.1 h
    obtain ⟨hholds, -, rfl⟩ := exec_guard_ok_iff.1 hguard
    rcases List.mem_cons.1 hmem with rfl | hmem
    · exact ⟨c, hholds, rfl⟩
    · obtain ⟨c₀, hholds₀, hdb⟩ := ih hrest hmem
      exact ⟨c₀, hholds₀, by rw [hdb]⟩

theorem factsStored_of_guards (hguarded : s.Guarded)
    (h : execAll codec.jsonValid (number token 0 (guardDrafts t r s json)) ⟨db, 0⟩ = .ok c') :
    FactsStored s db := by
  intro evidenceId fact hl
  obtain ⟨k, hk, rfl⟩ := hguarded evidenceId fact hl
  have hmem : evidenceGuard s k.evidenceId ∈ [streamGuard t r s json, receiptGuard t s] ++
      s.factKeys.flatMap fun k => [attemptGuard s k.attemptKey, evidenceGuard s k.evidenceId] :=
    List.mem_append_right _ (List.mem_flatMap.2 ⟨k, hk, by simp⟩)
  obtain ⟨c₀, hholds, hdb⟩ := guards_hold h hmem
  simp only [evidenceGuard, hl, Guard.holds, List.any_eq_true, Bool.and_eq_true,
    decide_eq_true_eq] at hholds
  obtain ⟨e, he, ⟨⟨hns, hid⟩, hkey⟩, hhash⟩ := hholds
  rw [hdb] at he
  exact ⟨e, he, hid, hns, hkey, hhash⟩

/-- After its evidence has been inserted, or found, an entry's evidence is stored with the entry's
digest. -/
theorem evidence_stored (hagrees : EvidenceAgrees s.toAdmissionSnapshot d.entry)
    (hstored : FactsStored s c.db)
    (h : execAll codec.jsonValid (number token n
      (if (s.evidenceFacts.lookup d.entry.evidenceId).isNone then
        [always (.insertEvidence ⟨d.entry.evidenceId, s.namespace_, d.entry.attemptKey,
          d.entry.evidenceBodySha256, receiptIdentity codec t, Json.canonical d.entry.document⟩)]
        else [])) c = .ok c') :
    ∃ e ∈ c'.db.evidence, e.evidenceId = d.entry.evidenceId ∧ e.namespace_ = s.namespace_ ∧
      e.attemptKey = d.entry.attemptKey ∧ e.evidenceHash = d.entry.evidenceBodySha256 := by
  cases hl : s.evidenceFacts.lookup d.entry.evidenceId with
  | none =>
    rw [hl] at h
    obtain ⟨c₁, hexec, hnil⟩ := execAll_cons_ok.1 h
    cases hnil
    simp only [always, Statement.exec, written_ok_iff] at hexec
    obtain ⟨-, rfl⟩ := hexec
    exact ⟨_, List.mem_append_right _ List.mem_cons_self, rfl, rfl, rfl, rfl⟩
  | some fact =>
    rw [hl] at h
    cases h
    obtain ⟨e, he, hid, hns, hkey, hhash⟩ := hstored _ fact hl
    obtain ⟨hkey', hhash'⟩ := hagrees fact hl
    exact ⟨e, he, hid, hns, hkey.trans hkey', hhash.trans hhash'⟩

/-- A reservation that wrote one row wrote it for the entry. -/
theorem reserve_one {c₁ c₂ : Conn} {guardToken : String}
    (hreserve : (Statement.reserveAttempt d.entry.evidenceId d.entry.evidenceBodySha256
      d.entry.triggerAt d.selectionKey s.namespace_ d.entry.attemptKey).exec codec.jsonValid c =
        .ok c₁)
    (hguard : (Statement.guard guardToken .changedOne).exec codec.jsonValid c₁ = .ok c₂) :
    ∃ a ∈ c₁.db.attempts, a.key = (s.namespace_, d.entry.attemptKey) ∧
      a.evidenceId = some d.entry.evidenceId ∧
      a.evidenceHash = some d.entry.evidenceBodySha256 := by
  have hone := (exec_guard_ok_iff.1 hguard).1
  simp only [Statement.exec, rewriteAttempts, rewritten_ok_iff] at hreserve
  obtain ⟨-, rfl⟩ := hreserve
  simp only [Guard.holds, decide_eq_true_eq] at hone
  obtain ⟨a, ha, hp⟩ := List.countP_pos_iff.1 (Nat.lt_of_lt_of_eq Nat.one_pos hone.symm)
  refine ⟨_, mem_updateWhere.2 (.inl ⟨a, ha, hp, rfl⟩), ?_, rfl, rfl⟩
  simp only [Bool.and_eq_true, decide_eq_true_eq] at hp
  simp [AttemptRow.key, hp]

theorem entry_reserved (hagrees : EvidenceAgrees s.toAdmissionSnapshot d.entry)
    (hstored : FactsStored s c.db)
    (h : execAll codec.jsonValid (number token n (entryDrafts codec t s now d)) c = .ok c')
    {row : OutboxRow}
    (hrow : row ∈ (number token n (entryDrafts codec t s now d)).filterMap (·.delivery?)) :
    Reserved codec c'.db row.toDelivery ∧ row.stream = (t.registrationId, t.generation) ∧
      row = row.toDelivery.pending := by
  cases hnew : d.action with
  | new expiresAt =>
    simp only [entryDrafts, hnew, number_append, List.append_assoc] at h
    obtain ⟨cE, hE, h⟩ := execAll_append_ok.1 h
    obtain ⟨cA, hA, h⟩ := execAll_append_ok.1 h
    obtain ⟨cL, hL, h⟩ := execAll_append_ok.1 h
    obtain ⟨cR, hreserve, h⟩ := execAll_cons_ok.1 h
    obtain ⟨cG, hguard, h⟩ := execAll_cons_ok.1 h
    have hrow' : row = (newDelivery codec t s.namespace_ d.entry now expiresAt).pending := by
      obtain ⟨x, hx, hdelivery⟩ := List.mem_filterMap.1 hrow
      obtain ⟨draft, hdraft, i, rfl⟩ := mem_number hx
      simp only [entryDrafts, hnew, List.mem_append, List.mem_ite_nil_right, List.mem_cons,
        List.not_mem_nil, or_false] at hdraft
      rcases hdraft with ((⟨-, rfl⟩ | ⟨-, rfl⟩) | rfl | rfl) | rfl | rfl | rfl <;> cases hdelivery
      rfl
    subst hrow'
    obtain ⟨e, he, hfact⟩ := evidence_stored hagrees hstored hE
    obtain ⟨a, ha, hkey, hid, hhash⟩ := reserve_one hreserve hguard
    have hE' : cE.db.Evolves cR.db :=
      Db.Evolves.trans _ _ _ (execAll_evolves hA)
        (Db.Evolves.trans _ _ _ (execAll_evolves hL) (exec_evolves hreserve))
    have hend : cR.db.Evolves c'.db :=
      Db.Evolves.trans _ _ _ (exec_evolves hguard) (execAll_evolves h)
    refine ⟨Reserved.evolves hend ⟨a, ha, hkey, hid, t, d.entry, now, expiresAt, rfl, hhash, e,
      hE'.evidence.subset he, hfact⟩, rfl, rfl⟩
  | auditOnly | noCandidate =>
    obtain ⟨x, hx, hdelivery⟩ := List.mem_filterMap.1 hrow
    obtain ⟨draft, hdraft, i, rfl⟩ := mem_number hx
    simp only [entryDrafts, hnew, List.mem_append, List.mem_ite_nil_right, List.mem_cons,
      List.not_mem_nil, or_false] at hdraft
    rcases hdraft with (⟨-, rfl⟩ | ⟨-, rfl⟩) | rfl | rfl <;> cases hdelivery

/-- The deliveries of all entries of an admission are reserved when the entries are done. -/
theorem entries_reserved
    (hagrees : ∀ d ∈ entries, EvidenceAgrees s.toAdmissionSnapshot d.entry)
    (hstored : FactsStored s c.db)
    (h : execAll codec.jsonValid (number token n (entries.flatMap (entryDrafts codec t s now))) c =
      .ok c')
    {row : OutboxRow}
    (hrow : row ∈ (number token n (entries.flatMap (entryDrafts codec t s now))).filterMap
      (·.delivery?)) :
    Reserved codec c'.db row.toDelivery ∧ row.stream = (t.registrationId, t.generation) ∧
      row = row.toDelivery.pending := by
  induction entries generalizing c n with
  | nil => cases hrow
  | cons d rest ih =>
    rw [List.flatMap_cons, number_append] at h hrow
    obtain ⟨c₁, h₁, h₂⟩ := execAll_append_ok.1 h
    rw [List.filterMap_append] at hrow
    rcases List.mem_append.1 hrow with hrow | hrow
    · obtain ⟨hreserved, hstream⟩ :=
        entry_reserved (hagrees d List.mem_cons_self) hstored h₁ hrow
      exact ⟨hreserved.evolves (execAll_evolves h₂), hstream⟩
    · exact ih (fun d' hd' => hagrees d' (List.mem_cons_of_mem _ hd'))
        (hstored.evolves (execAll_evolves h₁)) h₂ hrow

/-- Every delivery of the outbox after an admission was there before, or is new, reserved and of the
admitted stream. -/
theorem commit_outbox (hguarded : s.Guarded)
    (hagrees : ∀ d ∈ entries, EvidenceAgrees s.toAdmissionSnapshot d.entry)
    (h : batch codec.jsonValid
      (finish token (guardDrafts t r s json ++ commitDrafts codec t s now entries)) db = .ok db')
    {o' : OutboxRow} (ho' : o' ∈ db'.outbox) :
    (∃ o ∈ db.outbox, o.Kept o') ∨
      (Reserved codec db' o'.toDelivery ∧ o'.stream = (t.registrationId, t.generation) ∧
        o'.toDelivery.pending.Kept o') := by
  obtain ⟨n, m, rest, c₁, c₂, c₃, c₄, c₅, h₁, h₂, h₃, h₄, h₅, hrest, rfl⟩ := commit_parts h
  have hend : (Statement.guard (token m) .changedOne :: rest).filterMap (·.delivery?) = [] := by
    refine List.filterMap_eq_nil_iff.2 fun x hx => ?_
    rcases List.mem_cons.1 hx with rfl | hx
    · rfl
    · obtain ⟨i, rfl⟩ := hrest x hx
      rfl
  have hguards : (number token 0 (guardDrafts t r s json)).filterMap (·.delivery?) = [] := by
    refine List.filterMap_eq_nil_iff.2 fun x hx => ?_
    obtain ⟨draft, hdraft, i, rfl⟩ := mem_number hx
    exact (guardDrafts_neutral hdraft).2.1
  have hstored : FactsStored s c₂.db :=
    ((factsStored_of_guards hguarded h₁).evolves (execAll_evolves h₁)).evolves (exec_evolves h₂)
  have hlast : c₃.db.Evolves c₅.db :=
    Db.Evolves.trans _ _ _ (exec_evolves h₄) (execAll_evolves h₅)
  -- walk back from the end of the batch to the statement that wrote the delivery
  obtain ⟨o₄, ho₄, hkept₄⟩ := execAll_outbox_origin h₅ ho'
  rw [hend, List.append_nil] at ho₄
  have hsame : c₄.db.outbox = c₃.db.outbox := by
    simp only [Statement.exec, rewriteStreams, rewritten_ok_iff] at h₄
    rw [h₄.2]
  rw [hsame] at ho₄
  obtain ⟨o₂, ho₂, hkept₂⟩ := execAll_outbox_origin h₃ ho₄
  have hkept : o₂.Kept o' := OutboxRow.Kept.trans _ _ _ hkept₂ hkept₄
  rcases List.mem_append.1 ho₂ with hmem | hmem
  · have hsame₂ : c₂.db.outbox = c₁.db.outbox := by
      simp only [Statement.exec, written_ok_iff] at h₂
      rw [h₂.2]
    rw [hsame₂] at hmem
    obtain ⟨o, ho, hkept₀⟩ := execAll_outbox_origin h₁ hmem
    rw [hguards, List.append_nil] at ho
    exact .inl ⟨o, ho, OutboxRow.Kept.trans _ _ _ hkept₀ hkept⟩
  · obtain ⟨hreserved, hstream, hpending⟩ := entries_reserved hagrees hstored h₃ hmem
    have hdelivery : o'.toDelivery = o₂.toDelivery := hkept.evolves.delivery
    rw [hdelivery, ← hpending]
    exact .inr ⟨hreserved.evolves hlast, hstream, hkept⟩

end Reservations

/-! ## Steps -/

/-- What holds of the tables in every reachable state. -/
structure Db.Admitted (codec : Codec) (db : Db) : Prop extends db.Sequenced where
  reserved : ∀ o ∈ db.outbox, Reserved codec db o.toDelivery

/-- A stream that is no longer active gains no accepted receipt and no delivery. -/
def BlockedStay (db db' : Db) : Prop :=
  ∀ x ∈ db.streams, x.state ≠ .active →
    (∀ y ∈ db'.receipts, y.stream = x.key → y.outcome ≠ .rejected → y ∈ db.receipts) ∧
    ∀ o' ∈ db'.outbox, o'.stream = x.key → ∃ o ∈ db.outbox, o.toDelivery = o'.toDelivery

theorem BlockedStay.refl (db : Db) : BlockedStay db db :=
  fun _ _ _ => ⟨fun _ hy _ _ => hy, fun o ho _ => ⟨o, ho, rfl⟩⟩

theorem BlockedStay.trans {db db' db'' : Db} (hevolves : db.Evolves db') (h : BlockedStay db db')
    (h' : BlockedStay db' db'') : BlockedStay db db'' := by
  intro x hx hblocked
  obtain ⟨x', hx', hx''⟩ := hevolves.streams x hx
  obtain ⟨hreceipts, houtbox⟩ := h x hx hblocked
  obtain ⟨hreceipts', houtbox'⟩ := h' x' hx' (hx''.blocked hblocked)
  rw [hx''.key] at hreceipts' houtbox'
  refine ⟨fun y hy hstream hout => hreceipts y (hreceipts' y hy hstream hout) hstream hout, ?_⟩
  intro o'' ho'' hstream
  obtain ⟨o', ho', heq'⟩ := houtbox' o'' ho'' hstream
  obtain ⟨o, ho, heq⟩ := houtbox o' ho' (by rw [heq']; exact hstream)
  exact ⟨o, ho, heq.trans heq'⟩

section Steps

variable {codec : Codec} {db db' : Db}

theorem Db.Admitted.empty (codec : Codec) : Db.empty.Admitted codec :=
  { Db.Sequenced.empty with reserved := fun _ ho => by cases ho }

/-- A rewrite of live deliveries touches no other table and no column that is written once. -/
theorem dispatch_evolves {p : OutboxRow → Bool} {f : OutboxRow → OutboxRow} {c : Conn}
    (hlive : ∀ o, p o = true → o ∈ db.outbox → o.status.live = true)
    (hdelivery : ∀ o, (f o).toDelivery = o.toDelivery)
    (hrewrite : rewriteOutbox codec.jsonValid ⟨db, 0⟩ p f = .ok c) : db.Evolves c.db := by
  obtain ⟨-, rfl⟩ := rewritten_ok_iff.1 hrewrite
  refine { Db.Evolves.refl db with outbox := .updateWhere OutboxRow.Evolves.refl ?_ }
  intro o ho hp
  exact ⟨hdelivery o, fun hdead => absurd (hlive o hp ho) (by simp [hdead])⟩

theorem dispatch_keys {p : OutboxRow → Bool} {f : OutboxRow → OutboxRow} {c : Conn}
    (hdelivery : ∀ o, (f o).toDelivery = o.toDelivery)
    (hrewrite : rewriteOutbox codec.jsonValid ⟨db, 0⟩ p f = .ok c) (hkeys : db.Keys) :
    c.db.Keys := by
  obtain ⟨-, rfl⟩ := rewritten_ok_iff.1 hrewrite
  refine { hkeys with deliveries := ?_, deliveryAttempts := ?_ }
  · exact keysNodup_updateWhere (fun o => by rw [hdelivery o]) hkeys.deliveries
  · exact keysNodup_updateWhere (fun o => by rw [hdelivery o]) hkeys.deliveryAttempts

/-- A step of the store runs a sequence of statements. -/
theorem StoreStep.exec (h : StoreStep codec db db') :
    ∃ statements c', execAll codec.jsonValid statements ⟨db, 0⟩ = .ok c' ∧ c'.db = db' := by
  cases h with
  | same => exact ⟨[], _, rfl, rfl⟩
  | closed _ _ hbatch =>
    obtain ⟨c', hexec, hdb⟩ := batch_ok_iff.1 hbatch
    exact ⟨_, c', hexec, hdb⟩
  | commit _ _ _ _ hbatch =>
    obtain ⟨c', hexec, hdb⟩ := batch_ok_iff.1 hbatch
    exact ⟨_, c', hexec, hdb⟩

theorem TableStep.evolves (h : TableStep codec db db') : db.Evolves db' := by
  cases h with
  | store h =>
    obtain ⟨_, c', hexec, rfl⟩ := h.exec
    exact execAll_evolves hexec
  | dispatch hlive hdelivery hrewrite => exact dispatch_evolves hlive hdelivery hrewrite

theorem StoreStep.admitted (h : StoreStep codec db db') (hdb : db.Admitted codec) :
    db'.Admitted codec := by
  have hevolves := (TableStep.store h).evolves
  -- a delivery that was there before keeps its reservation
  have hkeep : ∀ {o o' : OutboxRow}, o ∈ db.outbox → o.Kept o' →
      Reserved codec db' o'.toDelivery := by
    intro o o' ho hkept
    rw [hkept.evolves.delivery]
    exact (hdb.reserved o ho).evolves hevolves
  cases h with
  | same => exact hdb
  | closed hsequences hdeliveries hbatch =>
    obtain ⟨c', hexec, rfl⟩ := batch_ok_iff.1 hbatch
    have hsequenced : c'.db.Sequenced :=
      execAll_keeps (fun s hs _ _ he hi => exec_sequenced (hsequences s hs) he hi) hexec
        hdb.toSequenced
    refine { hsequenced with reserved := fun o' ho' => ?_ }
    obtain ⟨o, ho, hkept⟩ := execAll_outbox_origin hexec ho'
    rw [List.filterMap_eq_nil_iff.2 hdeliveries, List.append_nil] at ho
    exact hkeep ho hkept
  | commit hactive hsequence hguarded hagrees hbatch =>
    refine { commit_sequenced hdb.toSequenced hsequence hbatch with reserved := fun o' ho' => ?_ }
    rcases commit_outbox hguarded hagrees hbatch ho' with ⟨o, ho, hkept⟩ | ⟨hreserved, -, -⟩
    · exact hkeep ho hkept
    · exact hreserved

theorem TableStep.admitted (h : TableStep codec db db') (hdb : db.Admitted codec) :
    db'.Admitted codec := by
  have hevolves := h.evolves
  cases h with
  | store h => exact h.admitted hdb
  | dispatch hlive hdelivery hrewrite =>
    have hkeys := dispatch_keys hdelivery hrewrite hdb.keys
    obtain ⟨-, rfl⟩ := rewritten_ok_iff.1 hrewrite
    refine ⟨⟨hkeys, hdb.receiptStreams, hdb.next_pos, hdb.sequences⟩, fun o' ho' => ?_⟩
    obtain ⟨o, ho, rfl⟩ := exists_of_mem_updateWhere ho'
    have hreserved := (hdb.reserved o ho).evolves hevolves
    split
    · rw [hdelivery o]
      exact hreserved
    · exact hreserved

theorem StoreStep.blockedStay (h : StoreStep codec db db') (hdb : db.Admitted codec) :
    BlockedStay db db' := by
  cases h with
  | same => exact BlockedStay.refl db
  | closed hsequences hdeliveries hbatch =>
    obtain ⟨c', hexec, rfl⟩ := batch_ok_iff.1 hbatch
    intro x _ _
    constructor
    · intro y hy _ hout
      rw [execAll_receipts hexec] at hy
      rcases List.mem_append.1 hy with hy | hy
      · exact hy
      · obtain ⟨s, hs, hreceipt⟩ := List.mem_filterMap.1 hy
        have hclosed := hsequences s hs
        cases s with
        | insertReceipt row =>
          cases hreceipt
          exact absurd (by simpa [Statement.keepsSequences] using hclosed) hout
        | _ => cases hreceipt
    · intro o' ho' _
      obtain ⟨o, ho, hkept⟩ := execAll_outbox_origin hexec ho'
      rw [List.filterMap_eq_nil_iff.2 hdeliveries, List.append_nil] at ho
      exact ⟨o, ho, hkept.evolves.delivery.symm⟩
  | commit hactive hsequence hguarded hagrees hbatch =>
    obtain ⟨⟨z, hz, hkey, hstate, -, -⟩, -, hreceipts⟩ := commit_effect hdb.keys hbatch
    intro x hx hblocked
    -- the admitted stream is active, so it is another one
    have hother : z.key ≠ x.key := by
      intro heq
      have hzx : z = x := hdb.keys.streams.eq_of_key hz hx heq
      exact hblocked (by rw [← hzx, hstate, hactive])
    constructor
    · intro y hy hstream _
      rw [hreceipts] at hy
      rcases List.mem_append.1 hy with hy | hy
      · exact hy
      · rw [List.mem_singleton] at hy
        rw [hy] at hstream
        exact absurd (hkey.trans hstream) hother
    · intro o' ho' hstream
      rcases commit_outbox hguarded hagrees hbatch ho' with ⟨o, ho, hkept⟩ | ⟨-, hnew, -⟩
      · exact ⟨o, ho, hkept.evolves.delivery.symm⟩
      · exact absurd ((hkey.trans hnew.symm).trans hstream) hother

theorem TableStep.blockedStay (h : TableStep codec db db') (hdb : db.Admitted codec) :
    BlockedStay db db' := by
  cases h with
  | store h => exact h.blockedStay hdb
  | dispatch hlive hdelivery hrewrite =>
    obtain ⟨-, rfl⟩ := rewritten_ok_iff.1 hrewrite
    intro x _ _
    refine ⟨fun y hy _ _ => hy, fun o' ho' _ => ?_⟩
    obtain ⟨o, ho, rfl⟩ := exists_of_mem_updateWhere ho'
    refine ⟨o, ho, ?_⟩
    split
    · exact (hdelivery o).symm
    · rfl

end Steps

/-! ## Runs -/

/-- The invariant of the system. -/
structure World.Inv (codec : Codec) (w : World) : Prop where
  admitted : w.db.Admitted codec
  guarded : w.Guarded

section Runs

variable {codec : Codec} {w w' : World}

theorem World.Inv.initial (codec : Codec) : World.initial.Inv codec :=
  ⟨Db.Admitted.empty codec, fun _ hcall => by cases hcall⟩

theorem World.Inv.step {action : Action} (hw : w.Inv codec)
    (h : w.act codec action = some w') : w'.Inv codec :=
  ⟨(act_tableStep hw.guarded hw.admitted.keys h).admitted hw.admitted, act_guarded hw.guarded h⟩

theorem World.inv_of_reachable (h : (admission codec).Reachable w) : w.Inv codec := by
  refine h.invariant ?_ fun action _ _ hw hstep => World.Inv.step hw hstep
  intro w₀ h₀
  rw [h₀]
  exact World.Inv.initial codec

theorem World.run_evolves (h : (admission codec).Reachable w) (hrun : (admission codec).Run w w') :
    w.db.Evolves w'.db ∧ BlockedStay w.db w'.db := by
  refine System.Run.related (S := admission codec) (I := World.Inv codec)
    (R := fun w w' => w.db.Evolves w'.db ∧ BlockedStay w.db w'.db)
    (fun w => ⟨Db.Evolves.refl _, BlockedStay.refl _⟩) ?_
    (fun action _ _ hw hstep => World.Inv.step hw hstep) ?_ (inv_of_reachable h) hrun
  · intro a b c hab hbc
    exact ⟨Db.Evolves.trans _ _ _ hab.1 hbc.1, hab.2.trans hab.1 hbc.2⟩
  · intro action a b ha hstep
    have htable := act_tableStep ha.guarded ha.admitted.keys hstep
    exact ⟨htable.evolves, htable.blockedStay ha.admitted⟩

/-- A step of a call either leaves the tables alone or commits its batch and returns. -/
theorem Call.advance_commits {db : Db} (call : Call) (random : Randomness) :
    (call.advance codec db random).1 = db ∨
      ∃ result, (call.advance codec db random).2.phase = .returned result := by
  unfold Call.advance
  split
  · split <;> exact .inl rfl
  · exact .inl rfl
  · exact .inl rfl
  · unfold commitPlan
    split
    · exact .inl rfl
    · exact .inl rfl
    · split
      · exact .inr ⟨_, rfl⟩
      · split <;> exact .inl rfl
      · exact .inl rfl
  · exact .inl rfl
  · exact .inl rfl

theorem commitPlan_ok {db db' : Db} {call : Call} {statements : List Statement}
    {result : AdmissionResult} (h : batch codec.jsonValid statements db = .ok db') :
    commitPlan codec db call (.write statements result) =
      (db', { call with phase := .returned result }) := by
  simp only [commitPlan, h]

/-- A call that has returned stays so. -/
theorem World.act_returned {action : Action} {i : Nat} {call : Call} {result : AdmissionResult}
    (hi : w.calls[i]? = some call) (hcall : call.phase = .returned result)
    (h : w.act codec action = some w') : w'.calls[i]? = some call := by
  cases action with
  | admitSignal transport registration now =>
    cases h
    rw [List.getElem?_append_left (List.getElem?_eq_some_iff.1 hi).1]
    exact hi
  | advance j random =>
    obtain ⟨call', hj, rfl⟩ := Option.map_eq_some_iff.1 h
    by_cases hij : j = i
    · subst hij
      rw [hi] at hj
      cases hj
      have hsame : (call.advance codec w.db random).2 = call := by
        unfold Call.advance
        rw [hcall]
      rw [hsame, List.getElem?_set_self (List.getElem?_eq_some_iff.1 hi).1]
    · rw [List.getElem?_set_ne hij]
      exact hi
  | fault j =>
    simp only [World.act] at h
    split at h
    · rename_i call' hj
      split at h
      · cases h
      · cases h
      · rename_i hreturned _
        cases h
        by_cases hij : j = i
        · subst hij
          rw [hi] at hj
          cases hj
          exact absurd hcall (hreturned result)
        · rw [List.getElem?_set_ne hij]
          exact hi
    · cases h
  | install =>
    simp only [World.act] at h
    split at h
    · split at h <;> (cases h; exact hi)
    · cases h
      exact hi
  | claim =>
    simp only [World.act] at h
    split at h
    · cases h
    split at h <;> (cases h; exact hi)
  | settle =>
    simp only [World.act] at h
    split at h <;> (cases h; exact hi)

/-- A step of a call that ends as unavailable has left the tables alone. -/
theorem World.act_unavailable {action : Action} {w₁ w₂ : World} {i : Nat} {call : Call}
    (haction : action.call? = some i) (hstep : w.act codec action = some w₁)
    (hrun : (admission codec).Run w₁ w₂) (hi : w₂.calls[i]? = some call)
    (hcall : call.phase = .unavailable) : w₁.db = w.db := by
  cases action with
  | advance j random =>
    cases haction
    obtain ⟨call₀, hi₀, rfl⟩ := Option.map_eq_some_iff.1 hstep
    rcases Call.advance_commits call₀ random with hsame | ⟨result, hreturned⟩
    · exact hsame
    · exfalso
      have hcall₁ : (w.calls.set i (call₀.advance codec w.db random).2)[i]? =
          some (call₀.advance codec w.db random).2 :=
        List.getElem?_set_self (List.getElem?_eq_some_iff.1 hi₀).1
      have hstays : w₂.calls[i]? = some (call₀.advance codec w.db random).2 :=
        hrun.keeps (I := fun v => v.calls[i]? = some (call₀.advance codec w.db random).2)
          (fun action _ _ hv hact => act_returned hv hreturned hact) hcall₁
      rw [hstays] at hi
      cases hi
      rw [hreturned] at hcall
      cases hcall
  | fault j =>
    simp only [World.act] at hstep
    split at hstep
    · split at hstep
      · cases hstep
      · cases hstep
      · cases hstep
        rfl
    · cases hstep
  | _ => cases haction

/-- A failed batch, whether lost to another call or refused by a constraint, has no effect. -/
theorem World.act_batch_error {i : Nat} {random : Randomness} {w₁ : World} {call : Call}
    {s : Snapshot} {statements : List Statement} {result : AdmissionResult} {error : DbError}
    (hi : w.calls[i]? = some call) (hphase : call.phase = .facts s [])
    (hplan : planAdmission codec call.transport call.registration s call.now random =
      .write statements result)
    (hbatch : batch codec.jsonValid statements w.db = .error error)
    (hstep : w.act codec (.advance i random) = some w₁) : w₁.db = w.db := by
  obtain ⟨call₀, hi₀, rfl⟩ := Option.map_eq_some_iff.1 hstep
  rw [hi] at hi₀
  cases hi₀
  simp only [Call.advance, hphase, hplan, commitPlan, hbatch]
  split
  · cases ‹_›
  · split <;> rfl
  · rfl

end Runs

/-! ## The invariant -/

/-- **Signal admission.** In every state that an interleaving of admissions, provisioning and
dispatch reaches, and along every run from there:
* the accepted receipts of a stream carry the sequences from `1` to the one before its next, each
  once, and every receipt belongs to a stream;
* an attempt has at most one delivery, which carries the evidence id and the evidence digest that
  the attempt's reservation holds, and the reservation stays;
* an attempt that is disputed stays disputed;
* a stream that is quarantined or retired gains no accepted receipt and no delivery;
* a batch that fails changes no table, and a call that ends as unavailable has changed none. -/
theorem admission_run_invariant {codec : Codec} {w w' : World}
    (h : (admission codec).Reachable w) (hrun : (admission codec).Run w w') :
    ((∀ s ∈ w.db.streams, (acceptedSequences w.db s.key).Nodup ∧
        ∀ n, n ∈ acceptedSequences w.db s.key ↔ 1 ≤ n ∧ n < s.nextSequence) ∧
      (∀ x ∈ w.db.receipts, ∃ s ∈ w.db.streams, s.key = x.stream) ∧
      (w.db.streams.map StreamRow.key).Nodup) ∧
    ((w.db.outbox.map (·.attempt)).Nodup ∧ (w.db.attempts.map AttemptRow.key).Nodup ∧
      (∀ o ∈ w.db.outbox, Reserved codec w.db o.toDelivery) ∧
      ∀ a ∈ w.db.attempts, a.evidenceId ≠ none → ∃ a' ∈ w'.db.attempts, a'.key = a.key ∧
        a'.evidenceId = a.evidenceId ∧ a'.evidenceHash = a.evidenceHash) ∧
    (∀ a ∈ w.db.attempts, a.disputed = true →
      ∃ a' ∈ w'.db.attempts, a'.key = a.key ∧ a'.disputed = true) ∧
    (∀ s ∈ w.db.streams, s.state ≠ .active →
      (∀ x ∈ w'.db.receipts, x.stream = s.key → x.outcome ≠ .rejected → x ∈ w.db.receipts) ∧
      ∀ o' ∈ w'.db.outbox, o'.stream = s.key →
        ∃ o ∈ w.db.outbox, o.toDelivery = o'.toDelivery) ∧
    ((∀ i random w₁ call s statements result error, w'.calls[i]? = some call →
        call.phase = .facts s [] →
        planAdmission codec call.transport call.registration s call.now random =
          .write statements result →
        batch codec.jsonValid statements w'.db = .error error →
        w'.act codec (.advance i random) = some w₁ → w₁.db = w'.db) ∧
      ∀ action i w₁ w₂ call, action.call? = some i → w'.act codec action = some w₁ →
        (admission codec).Run w₁ w₂ → w₂.calls[i]? = some call → call.phase = .unavailable →
        w₁.db = w'.db) := by
  have hinv := World.inv_of_reachable h
  obtain ⟨hevolves, hblocked⟩ := World.run_evolves h hrun
  refine ⟨⟨?_, hinv.admitted.receiptStreams, hinv.admitted.keys.streams⟩,
    ⟨hinv.admitted.keys.deliveryAttempts, hinv.admitted.keys.attempts, hinv.admitted.reserved, ?_⟩,
    ?_, hblocked, ?_, ?_⟩
  · intro s hs
    rw [hinv.admitted.sequences s hs]
    exact ⟨nodup_sequencesBelow _, fun n => mem_sequencesBelow⟩
  · intro a ha hreserved
    obtain ⟨a', ha', hrow⟩ := hevolves.attempts a ha
    obtain ⟨hid, hhash, -, -⟩ := hrow.reservation hreserved
    exact ⟨a', ha', hrow.key, hid, hhash⟩
  · intro a ha hdisputed
    obtain ⟨a', ha', hrow⟩ := hevolves.attempts a ha
    exact ⟨a', ha', hrow.key, hrow.disputed hdisputed⟩
  · intro i random w₁ call s statements result error hi hphase hplan hbatch hstep
    exact World.act_batch_error hi hphase hplan hbatch hstep
  · intro action i w₁ w₂ call haction hstep hrun' hi hcall
    exact World.act_unavailable haction hstep hrun' hi hcall

/-! A registration is provisioned, and a call brings evidence with one selected signal, which is
admitted and then claimed. -/

def demoBinding : Json :=
  .obj [("schema_version", .str "TradeOpsSignalEvidenceBindingV1"),
    ("producer_namespace", .str "desk"), ("ticker_id", .str "FX:EURUSD"), ("feed", .str "FX"),
    ("symbol", .str "EURUSD"), ("tick_size", .str "0.00001"),
    ("detector_code_hash", .str "b11919bff44c060219682e13992110b7aefe55a3c82978ef140f78182e750c8c"),
    ("settings_hash", .str "e3b0c44298fc1c149afbf4c8996fb92427ae41e4649b934ca495991b7852b855")]

/-- The bytes of an ASCII text. -/
def asciiBytes (text : List Char) : List UInt8 :=
  text.map fun ch => ch.toNat.toUInt8

def demoRegistration : Registration where
  registrationId := "reg-1"
  generation := 1
  revision := 1
  scopeKey := (Json.obj [("producer_namespace", .str "desk"), ("strategy_id", .str "rd"),
    ("ticker_id", .str "FX:EURUSD")]).canonical
  producerInstanceId := "chart-1"
  credentialSha256 := "e3b0c44298fc1c149afbf4c8996fb92427ae41e4649b934ca495991b7852b855"
  bindingBytes := asciiBytes demoBinding.text
  activeFrom := 0
  activeUntil := 1000
  enabled := true
  freshness := ⟨60, 60, 5, 60⟩

def demoTransport : Transport where
  registrationId := "reg-1"
  generation := 1
  evidenceBytes := asciiBytes ['s', '1']
  sequence := 1
  bodySha256 := "e3b0c44298fc1c149afbf4c8996fb92427ae41e4649b934ca495991b7852b855"

def signalEntry : SignalEvidenceEntryV1 where
  attemptKey := "3ea9fc58b4bcdab89c5c0af6b7ab34a6f6a6940490d3769a2deb20594a43aa3b"
  formationBodySha256 := "e3b0c44298fc1c149afbf4c8996fb92427ae41e4649b934ca495991b7852b855"
  evidenceId := "8edbd2e2c3c5477234dc042a2533fadb48abc545e17e1dbbe5b9bc0e4860d7a1"
  evidenceBodySha256 := "b11919bff44c060219682e13992110b7aefe55a3c82978ef140f78182e750c8c"
  observedAtEpoch := 600
  selected := some ⟨closePairOne.candidate, closePairOne.evidence⟩
  document := .obj [
    ("attempt_key", .str "3ea9fc58b4bcdab89c5c0af6b7ab34a6f6a6940490d3769a2deb20594a43aa3b"),
    ("evidence_id", .str "8edbd2e2c3c5477234dc042a2533fadb48abc545e17e1dbbe5b9bc0e4860d7a1")]

/-- The validator, the parsers and the digest on the inputs of the run. -/
def signalCodec : Codec where
  validateSignalEvidenceV1 bytes _ :=
    if bytes = demoTransport.evidenceBytes then some [signalEntry] else none
  readRegistration _ := some demoRegistration
  parseBinding _ := some demoBinding
  producerNamespace _ := some "desk"
  sha256 _ := "b11919bff44c060219682e13992110b7aefe55a3c82978ef140f78182e750c8c"
  jsonValid _ := true

def demoRandomness : Randomness where
  token n := toString n
  auditId := "audit-1"

def signalActions : List Action :=
  [.install 0 demoRegistration "bootstrap" "guard" "audit-0",
    .admitSignal demoTransport demoRegistration 610,
    .advance 0 demoRandomness, .advance 0 demoRandomness, .advance 0 demoRandomness,
    .advance 0 demoRandomness]

/-- The text of the registration; it is compared with itself and never evaluated. -/
def demoText : String := (registrationJson signalCodec demoRegistration).getD ""

def signalSnapshot : Snapshot where
  state := .active
  revision := 1
  nextSequence := 1
  lastAcceptedAt := none
  existingReceipt := none
  attempts := []
  evidenceFacts := []
  casRevision := 1
  namespace_ := "desk"
  registration := demoRegistration
  factKeys := [⟨signalEntry.attemptKey, signalEntry.evidenceId⟩]

def signalCall : Call := ⟨demoTransport, demoRegistration, 610, 0, .facts signalSnapshot []⟩

/-- The world before the batch of the call. -/
def signalWorld : World where
  db := { Db.empty with
    registrations := [⟨"reg-1", "desk", demoRegistration.scopeKey, 1, 1, true, demoText⟩]
    streams := [⟨"reg-1", 1, 1, 1, 1, .active, none, none⟩]
    audit := [⟨"audit-0", "reg-1", 1, none, none, "bootstrap"⟩] }
  calls := [signalCall]
  tokens := []
  leases := []

theorem signalWorld_reached :
    signalActions.foldlM (World.act signalCodec) World.initial = some signalWorld := rfl

def signalDecision : AdmissionEntryDecision := ⟨signalEntry, .new 660, selectionKey signalEntry⟩

def signalBatch : List Statement :=
  finish demoRandomness.token (guardDrafts demoTransport demoRegistration signalSnapshot demoText ++
    commitDrafts signalCodec demoTransport signalSnapshot 610 [signalDecision])

def signalResult : AdmissionResult :=
  ⟨some (receiptIdentity signalCodec demoTransport), .accepted, none, false, .active⟩

theorem signalPlan : planAdmission signalCodec demoTransport demoRegistration signalSnapshot 610
    demoRandomness = .write signalBatch signalResult := by
  have hdecision : evaluateAdmission signalCodec demoTransport demoRegistration
      signalSnapshot.toAdmissionSnapshot 610 = .commit [signalDecision] := rfl
  have hjson : registrationJson signalCodec demoRegistration = some demoText := rfl
  have hstored : registrationJson signalCodec signalSnapshot.registration = some demoText := rfl
  simp only [planAdmission, hdecision, hjson, hstored, ne_eq, not_true_eq_false, if_false]
  rfl

def signalDelivery : OutboxRow :=
  (newDelivery signalCodec demoTransport "desk" signalEntry 610 660).pending

/-- The tables after the batch. -/
def signalDb : Db :=
  { signalWorld.db with
    streams := [⟨"reg-1", 1, 1, 2, 2, .active, some 610, none⟩]
    receipts := [⟨"reg-1", 1, 1, receiptIdentity signalCodec demoTransport,
      demoTransport.bodySha256, .accepted, none, 610⟩]
    evidence := [⟨signalEntry.evidenceId, "desk", signalEntry.attemptKey,
      signalEntry.evidenceBodySha256, receiptIdentity signalCodec demoTransport,
      Json.canonical signalEntry.document⟩]
    attempts := [⟨"desk", signalEntry.attemptKey, signalEntry.formationBodySha256,
      some signalEntry.evidenceId, some signalEntry.evidenceBodySha256, some 600,
      selectionKey signalEntry, false⟩]
    outbox := [signalDelivery]
    receiptEvidence := [⟨receiptIdentity signalCodec demoTransport, signalEntry.evidenceId, "desk",
      signalEntry.attemptKey⟩] }

theorem signalGuard :
    (streamGuard demoTransport demoRegistration signalSnapshot demoText).holds ⟨signalWorld.db, 0⟩ =
      true := by
  simp [streamGuard, Guard.holds, signalWorld, demoTransport, demoRegistration, signalSnapshot]

theorem signalDelivery_check : signalDelivery.check signalCodec.jsonValid = true := by
  have hdigest : Entry.sha256Text signalDelivery.deliveryBodySha256 = true :=
    Entry.sha256Text_ofList (by decide) (by decide)
  simp only [OutboxRow.check, Bool.and_eq_true]
  exact ⟨⟨⟨⟨⟨⟨⟨⟨rfl, hdigest⟩, rfl⟩, rfl⟩, rfl⟩, rfl⟩, rfl⟩, rfl⟩, rfl⟩

theorem signalBatch_admits :
    batch signalCodec.jsonValid signalBatch signalWorld.db = .ok signalDb := by
  have hbody : Entry.sha256Text demoTransport.bodySha256 = true :=
    Entry.sha256Text_ofList (by decide) (by decide)
  have hevidence : Entry.sha256Text signalEntry.evidenceBodySha256 = true :=
    Entry.sha256Text_ofList (by decide) (by decide)
  refine batch_ok_iff.2 ⟨⟨signalDb, 1⟩, ?_, rfl⟩
  refine execAll_cons_ok.2 ⟨_, exec_guard_ok_iff.2 ⟨signalGuard, List.not_mem_nil, rfl⟩, ?_⟩
  refine execAll_cons_ok.2 ⟨_, rfl, execAll_cons_ok.2 ⟨_, rfl, execAll_cons_ok.2 ⟨_, rfl, ?_⟩⟩⟩
  refine execAll_cons_ok.2 ⟨_, written_ok_iff.2 ⟨?_, rfl⟩, ?_⟩
  · simp only [ReceiptRow.check, Bool.and_eq_true]
    exact ⟨⟨⟨⟨⟨⟨rfl, rfl⟩, hbody⟩, rfl⟩, rfl⟩, rfl⟩, rfl⟩
  refine execAll_cons_ok.2 ⟨_, written_ok_iff.2 ⟨?_, rfl⟩, ?_⟩
  · simp only [EvidenceRow.check, Bool.and_eq_true]
    exact ⟨⟨⟨hevidence, rfl⟩, rfl⟩, rfl⟩
  refine execAll_cons_ok.2 ⟨_, written_ok_iff.2 ⟨?_, rfl⟩, ?_⟩
  · simp only [AttemptRow.check, Bool.and_eq_true]
    exact ⟨⟨⟨⟨hbody, rfl⟩, rfl⟩, rfl⟩, rfl⟩
  refine execAll_cons_ok.2 ⟨_, rfl, execAll_cons_ok.2 ⟨_, rfl, ?_⟩⟩
  refine execAll_cons_ok.2 ⟨_, rewriteAttempts_ok ?_, ?_⟩
  · intro a ha _
    obtain rfl : a = ⟨"desk", signalEntry.attemptKey, signalEntry.formationBodySha256, none, none,
      none, none, false⟩ := List.mem_singleton.1 ha
    simp only [AttemptRow.allowed, AttemptRow.check, Bool.and_eq_true, Bool.or_eq_true]
    exact ⟨⟨rfl, ⟨⟨hbody, rfl⟩, rfl⟩, .inr ⟨⟨⟨⟨rfl, rfl⟩, hevidence⟩, rfl⟩, rfl⟩⟩, rfl⟩
  refine execAll_cons_ok.2 ⟨_, rfl, ?_⟩
  refine execAll_cons_ok.2 ⟨_, written_ok_iff.2 ⟨?_, rfl⟩, ?_⟩
  · simp only [Bool.and_eq_true]
    exact ⟨⟨⟨⟨⟨⟨signalDelivery_check, rfl⟩, rfl⟩, rfl⟩, rfl⟩, rfl⟩, rfl⟩
  rfl

def admittedWorld : World :=
  { signalWorld with
    db := signalDb
    calls := [{ signalCall with phase := .returned signalResult }] }

theorem admittedWorld_reached :
    (signalActions ++ [Action.advance 0 demoRandomness]).foldlM (World.act signalCodec)
      World.initial = some admittedWorld := by
  have hadvance : signalCall.advance signalCodec signalWorld.db demoRandomness =
      (signalDb, { signalCall with phase := .returned signalResult }) := by
    show commitPlan signalCodec signalWorld.db signalCall (planAdmission signalCodec demoTransport
      demoRegistration signalSnapshot 610 demoRandomness) = _
    rw [signalPlan]
    exact commitPlan_ok signalBatch_admits
  have hcall : signalWorld.calls[0]? = some signalCall := rfl
  have hact : signalWorld.act signalCodec (.advance 0 demoRandomness) = some admittedWorld := by
    simp only [World.act, hcall, Option.map_some, hadvance]
    rfl
  rw [List.foldlM_append, signalWorld_reached]
  exact hact

/-- The delivery under its lease. -/
def claimedDelivery : OutboxRow :=
  claimRow signalDb 620 "lease-1" signalDelivery

def claimedWorld : World :=
  { admittedWorld with
    db := { signalDb with outbox := [claimedDelivery] }
    tokens := ["lease-1"]
    leases := [⟨signalDelivery.deliveryId, "lease-1"⟩] }

theorem claimedDelivery_allowed :
    signalDelivery.allowed signalCodec.jsonValid claimedDelivery = true :=
  claim_allowed (by decide) rfl signalDelivery_check (by decide)

theorem signalDelivery_claimed :
    claimSignalDelivery signalCodec.jsonValid signalDb 620 "lease-1" =
      .ok ({ signalDb with outbox := [claimedDelivery] }, some claimedDelivery) := by
  have hallowed : ∀ o ∈ signalDb.outbox, decide (o.deliveryId = signalDelivery.deliveryId) = true →
      o.allowed signalCodec.jsonValid (claimRow signalDb 620 "lease-1" o) = true := by
    intro o ho _
    obtain rfl : o = signalDelivery := List.mem_singleton.1 ho
    exact claimedDelivery_allowed
  rw [claimSignalDelivery_due (by decide) rfl hallowed]
  rfl

theorem admittedWorld_claim :
    admittedWorld.act signalCodec (.claim 620 "lease-1") = some claimedWorld := by
  have hfresh : "lease-1" ∉ admittedWorld.tokens := List.not_mem_nil
  have hdb : admittedWorld.db = signalDb := rfl
  simp only [World.act, if_neg hfresh, hdb, signalDelivery_claimed]
  rfl

/-- Settling the only delivery of the outbox under its token. -/
theorem World.act_settle_single (codec : Codec) {w : World} {now : Int} {o : OutboxRow}
    (token : String) (requested : Requested) (hrows : w.db.outbox = [o])
    (htime : dispatchTime now = true)
    (hheld : held w.db now token o = true) (hcheck : o.check codec.jsonValid = true) :
    settleSignalDelivery codec.jsonValid w.db token requested now =
        .ok ({ w.db with outbox := [settleRow w.db now requested o] },
          some (settleState w.db now requested o)) ∧
      w.act codec (.settle token requested now) =
        some { w with db := { w.db with outbox := [settleRow w.db now requested o] } } := by
  have hchecked : ∀ x ∈ w.db.outbox, held w.db now token x = true →
    x.check codec.jsonValid = true := by
    intro x hx _
    rw [hrows] at hx
    rw [List.mem_singleton.1 hx]
    exact hcheck
  have hsettle := settleSignalDelivery_held requested htime hchecked
  rw [hrows] at hsettle
  simp only [updateWhere, List.map_cons, List.map_nil, hheld, if_true, List.find?_cons_of_pos,
    Option.map_some] at hsettle
  refine ⟨hsettle, ?_⟩
  simp only [World.act, hsettle]

theorem claimedDelivery_check : claimedDelivery.check signalCodec.jsonValid = true :=
  (Bool.and_eq_true_iff.1 claimedDelivery_allowed).2

theorem admittedWorld_reachable : (admission signalCodec).Reachable admittedWorld :=
  ⟨_, rfl, run_of_acts admittedWorld_reached⟩

theorem claimedWorld_run : (admission signalCodec).Run admittedWorld claimedWorld :=
  (System.Run.refl (admission signalCodec) admittedWorld).snoc (l := .claim 620 "lease-1")
    admittedWorld_claim

/-- The admitted signal has the first sequence of its stream, its delivery belongs to the
reservation of the attempt, and the reservation stays when the delivery is claimed. -/
theorem signalRun_sequences :
    (∀ n, n ∈ acceptedSequences admittedWorld.db ("reg-1", 1) ↔ 1 ≤ n ∧ n < 2) ∧
      1 ∈ acceptedSequences admittedWorld.db ("reg-1", 1) ∧
      Reserved signalCodec admittedWorld.db signalDelivery.toDelivery ∧
      (admission signalCodec).Run admittedWorld claimedWorld ∧
      ∃ a ∈ claimedWorld.db.attempts, a.key = ("desk", signalEntry.attemptKey) ∧
        a.evidenceId = some signalEntry.evidenceId ∧
        a.evidenceHash = some signalEntry.evidenceBodySha256 := by
  obtain ⟨⟨hsequences, -, -⟩, ⟨-, -, hreserved, hstays⟩, -⟩ :=
    admission_run_invariant admittedWorld_reachable claimedWorld_run
  have hnumbers := (hsequences _ (List.mem_singleton_self _)).2
  refine ⟨hnumbers, (hnumbers 1).2 ?_, hreserved _ (List.mem_singleton_self _),
    claimedWorld_run, ?_⟩
  · exact ⟨le_refl _, Int.lt_succ 1⟩
  · exact hstays _ (List.mem_singleton_self _) (by rintro ⟨⟩)

end TradeOps.Admission
