import TradeOps.Admission.Statements

/-!
# How the admission tables evolve

No row of the admission tables is lost, and the columns that the triggers protect keep their
values: a receipt and an evidence row stay as they are, a disputed attempt stays disputed, a
reservation is never replaced, a stream that has left `ACTIVE` does not come back, and a delivery
that is no longer live is final. The relation `Db.Evolves` collects these facts; it is a preorder
that every statement, and so every batch, respects.
-/

namespace TradeOps.Admission

open Tables Keyed

/-! ## Rows -/

structure RegistrationRow.Evolves (old new : RegistrationRow) : Prop where
  registrationId : new.registrationId = old.registrationId
  namespace_ : new.namespace_ = old.namespace_
  scopeKey : new.scopeKey = old.scopeKey

structure StreamRow.Evolves (old new : StreamRow) : Prop where
  key : new.key = old.key
  registryRevision : new.registryRevision = old.registryRevision
  blocked : old.state ≠ .active → new.state ≠ .active

structure AttemptRow.Evolves (old new : AttemptRow) : Prop where
  key : new.key = old.key
  formationHash : new.formationHash = old.formationHash
  disputed : old.disputed = true → new.disputed = true
  reservation : old.evidenceId ≠ none → new.evidenceId = old.evidenceId ∧
    new.evidenceHash = old.evidenceHash ∧ new.triggerEpoch = old.triggerEpoch ∧
    new.selectionKey = old.selectionKey

structure OutboxRow.Evolves (old new : OutboxRow) : Prop where
  delivery : new.toDelivery = old.toDelivery
  final : old.status.live = false → new = old

theorem RegistrationRow.Evolves.refl (r : RegistrationRow) : r.Evolves r := ⟨rfl, rfl, rfl⟩

theorem RegistrationRow.Evolves.trans (a b c : RegistrationRow) (h : a.Evolves b)
    (h' : b.Evolves c) : a.Evolves c :=
  ⟨h'.registrationId.trans h.registrationId, h'.namespace_.trans h.namespace_,
    h'.scopeKey.trans h.scopeKey⟩

theorem StreamRow.Evolves.refl (s : StreamRow) : s.Evolves s := ⟨rfl, rfl, id⟩

theorem StreamRow.Evolves.trans (a b c : StreamRow) (h : a.Evolves b) (h' : b.Evolves c) :
    a.Evolves c :=
  ⟨h'.key.trans h.key, h'.registryRevision.trans h.registryRevision,
    fun ha => h'.blocked (h.blocked ha)⟩

theorem AttemptRow.Evolves.refl (a : AttemptRow) : a.Evolves a :=
  ⟨rfl, rfl, id, fun _ => ⟨rfl, rfl, rfl, rfl⟩⟩

theorem AttemptRow.Evolves.trans (a b c : AttemptRow) (h : a.Evolves b) (h' : b.Evolves c) :
    a.Evolves c := by
  refine ⟨h'.key.trans h.key, h'.formationHash.trans h.formationHash,
    fun ha => h'.disputed (h.disputed ha), fun ha => ?_⟩
  obtain ⟨hid, hhash, htrigger, hselection⟩ := h.reservation ha
  obtain ⟨hid', hhash', htrigger', hselection'⟩ := h'.reservation (by rw [hid]; exact ha)
  exact ⟨hid'.trans hid, hhash'.trans hhash, htrigger'.trans htrigger,
    hselection'.trans hselection⟩

theorem OutboxRow.Evolves.refl (o : OutboxRow) : o.Evolves o := ⟨rfl, fun _ => rfl⟩

theorem OutboxRow.Evolves.trans (a b c : OutboxRow) (h : a.Evolves b) (h' : b.Evolves c) :
    a.Evolves c := by
  refine ⟨h'.delivery.trans h.delivery, fun ha => ?_⟩
  have hb : b = a := h.final ha
  rw [h'.final (by rw [hb]; exact ha), hb]

/-! ## What the triggers allow -/

theorem StreamRow.evolves_of_sticky {old new : StreamRow} (hkey : new.key = old.key)
    (hrevision : new.registryRevision = old.registryRevision) (h : old.sticky new = true) :
    old.Evolves new := by
  refine ⟨hkey, hrevision, fun hold => ?_⟩
  cases ho : old.state <;> cases hn : new.state <;> simp [sticky, ho, hn] at hold h ⊢

theorem AttemptRow.evolves_of_immutable {old new : AttemptRow} (h : old.immutable new = true) :
    old.Evolves new := by
  simp only [immutable, Bool.not_eq_true', Bool.or_eq_false_iff, decide_eq_false_iff_not,
    not_not, Bool.and_eq_false_iff, Bool.not_eq_false'] at h
  obtain ⟨⟨⟨⟨⟨hns, hkey⟩, hformation⟩, hdisputed⟩, hreserved⟩, -⟩ := h
  refine ⟨by rw [key, key, hns, hkey], hformation, ?_, ?_⟩
  · intro ho
    rcases hdisputed with hd | hd
    · rw [ho] at hd; cases hd
    · exact hd
  · intro ho
    rcases hreserved with hr | ⟨⟨⟨hid, hhash⟩, htrigger⟩, hselection⟩
    · simp only [Option.isSome_eq_false_iff, Option.isNone_iff_eq_none] at hr
      exact absurd hr ho
    · exact ⟨hid, hhash, htrigger, hselection⟩

/-- A statement of a batch leaves a delivery alone or quarantines it while it is live. -/
def OutboxRow.Kept (old new : OutboxRow) : Prop :=
  new = old ∨ (old.status.live = true ∧ new = old.quarantine)

theorem OutboxRow.Kept.refl (o : OutboxRow) : o.Kept o := .inl rfl

theorem OutboxRow.Kept.trans (a b c : OutboxRow) (h : a.Kept b) (h' : b.Kept c) : a.Kept c := by
  rcases h with rfl | ⟨hlive, rfl⟩
  · exact h'
  · rcases h' with rfl | ⟨hlive', rfl⟩
    · exact .inr ⟨hlive, rfl⟩
    · exact absurd hlive' (by simp [OutboxRow.quarantine, OutboxStatus.live])

theorem OutboxRow.Kept.evolves {old new : OutboxRow} (h : old.Kept new) : old.Evolves new := by
  rcases h with rfl | ⟨hlive, rfl⟩
  · exact Evolves.refl _
  · exact ⟨rfl, fun hdead => absurd hlive (by simp [hdead])⟩

/-! ## Tables -/

structure Db.Evolves (db db' : Db) : Prop where
  registrations : Tables.Evolves RegistrationRow.Evolves db.registrations db'.registrations
  streams : Tables.Evolves StreamRow.Evolves db.streams db'.streams
  receipts : db.receipts <+: db'.receipts
  evidence : db.evidence <+: db'.evidence
  attempts : Tables.Evolves AttemptRow.Evolves db.attempts db'.attempts
  outbox : Tables.Evolves OutboxRow.Evolves db.outbox db'.outbox

theorem Db.Evolves.refl (db : Db) : db.Evolves db :=
  ⟨.refl RegistrationRow.Evolves.refl _, .refl StreamRow.Evolves.refl _, List.prefix_rfl,
    List.prefix_rfl, .refl AttemptRow.Evolves.refl _, .refl OutboxRow.Evolves.refl _⟩

theorem Db.Evolves.trans (a b c : Db) (h : a.Evolves b) (h' : b.Evolves c) : a.Evolves c :=
  ⟨h.registrations.trans RegistrationRow.Evolves.trans h'.registrations,
    h.streams.trans StreamRow.Evolves.trans h'.streams, h.receipts.trans h'.receipts,
    h.evidence.trans h'.evidence, h.attempts.trans AttemptRow.Evolves.trans h'.attempts,
    h.outbox.trans OutboxRow.Evolves.trans h'.outbox⟩

/-- The keys that the tables keep unique. -/
structure Db.Keys (db : Db) : Prop where
  registrations : KeysNodup (·.registrationId) db.registrations
  streams : KeysNodup StreamRow.key db.streams
  attempts : KeysNodup AttemptRow.key db.attempts
  deliveries : KeysNodup (·.deliveryId) db.outbox
  deliveryAttempts : KeysNodup (·.attempt) db.outbox

theorem Db.Keys.empty : Db.empty.Keys :=
  ⟨List.nodup_nil, List.nodup_nil, List.nodup_nil, List.nodup_nil, List.nodup_nil⟩

theorem Db.stream_none {db : Db} {registrationId : String} {generation : Int} :
    db.stream registrationId generation = none ↔
      ∀ s ∈ db.streams, s.key ≠ (registrationId, generation) := by
  simp [Db.stream, StreamRow.key]

theorem Db.stream_some {db : Db} {registrationId : String} {generation : Int} {s : StreamRow}
    (h : db.stream registrationId generation = some s) :
    s ∈ db.streams ∧ s.key = (registrationId, generation) := by
  refine ⟨List.mem_of_find?_eq_some h, ?_⟩
  simpa [StreamRow.key] using List.find?_some h

theorem Db.attempt_none {db : Db} {namespace_ attemptKey : String} :
    db.attempt namespace_ attemptKey = none ↔
      ∀ a ∈ db.attempts, a.key ≠ (namespace_, attemptKey) := by
  simp [Db.attempt, AttemptRow.key]

theorem Db.registration_none {db : Db} {registrationId : String} :
    db.registration registrationId = none ↔
      ∀ r ∈ db.registrations, r.registrationId ≠ registrationId := by
  simp [Db.registration]

section Statements

variable {jsonValid : String → Bool} {c c' : Conn} {s : Statement} {statements : List Statement}

theorem exec_outbox_kept (h : s.exec jsonValid c = .ok c') :
    Tables.Evolves OutboxRow.Kept c.db.outbox c'.db.outbox := by
  rcases exec_outbox h with ⟨-, heq⟩ | ⟨row, -, -, heq⟩ | ⟨p, -, hp, heq⟩
  · rw [heq]
    exact .refl OutboxRow.Kept.refl _
  · rw [heq]
    exact .append OutboxRow.Kept.refl _ _
  · rw [heq]
    exact .updateWhere OutboxRow.Kept.refl fun o _ ho => .inr ⟨hp o ho, rfl⟩

theorem exec_evolves (h : s.exec jsonValid c = .ok c') : c.db.Evolves c'.db where
  registrations := by
    rcases exec_registrations h with heq | ⟨row, -, heq⟩ | ⟨p, f, hf, heq⟩
    · rw [heq]
      exact .refl RegistrationRow.Evolves.refl _
    · rw [heq]
      exact .append RegistrationRow.Evolves.refl _ _
    · rw [heq]
      exact .updateWhere RegistrationRow.Evolves.refl fun r _ _ =>
        ⟨(hf r).1, (hf r).2.1, (hf r).2.2⟩
  streams := by
    rcases exec_streams h with heq | ⟨row, -, -, heq⟩ | ⟨p, f, hf, hsticky, -, heq⟩
    · rw [heq]
      exact .refl StreamRow.Evolves.refl _
    · rw [heq]
      exact .append StreamRow.Evolves.refl _ _
    · rw [heq]
      exact .updateWhere StreamRow.Evolves.refl fun x hx hp =>
        StreamRow.evolves_of_sticky (hf x).1 (hf x).2 (hsticky x hx hp)
  receipts := by
    rw [exec_receipts h]
    exact List.prefix_append _ _
  evidence := by
    rcases exec_evidence h with heq | ⟨row, -, heq⟩
    · rw [heq]
    · rw [heq]
      exact List.prefix_append _ _
  attempts := by
    rcases exec_attempts h with heq | ⟨_, _, _, -, heq⟩ | ⟨p, f, -, himm, heq⟩
    · rw [heq]
      exact .refl AttemptRow.Evolves.refl _
    · rw [heq]
      exact .append AttemptRow.Evolves.refl _ _
    · rw [heq]
      exact .updateWhere AttemptRow.Evolves.refl fun a ha hp =>
        AttemptRow.evolves_of_immutable (himm a ha hp)
  outbox := by
    intro o ho
    obtain ⟨o', ho', hkept⟩ := exec_outbox_kept h o ho
    exact ⟨o', ho', hkept.evolves⟩

theorem exec_keys (h : s.exec jsonValid c = .ok c') (hk : c.db.Keys) : c'.db.Keys where
  registrations := by
    rcases exec_registrations h with heq | ⟨row, hnone, heq⟩ | ⟨p, f, hf, heq⟩
    · rw [heq]
      exact hk.registrations
    · rw [heq]
      exact keysNodup_append hk.registrations (Db.registration_none.1 hnone)
    · rw [heq]
      exact keysNodup_updateWhere (fun r => (hf r).1) hk.registrations
  streams := by
    rcases exec_streams h with heq | ⟨row, -, hnone, heq⟩ | ⟨p, f, hf, -, -, heq⟩
    · rw [heq]
      exact hk.streams
    · rw [heq]
      exact keysNodup_append hk.streams (Db.stream_none.1 hnone)
    · rw [heq]
      exact keysNodup_updateWhere (fun x => (hf x).1) hk.streams
  attempts := by
    rcases exec_attempts h with heq | ⟨_, _, _, hnone, heq⟩ | ⟨p, f, hf, -, heq⟩
    · rw [heq]
      exact hk.attempts
    · rw [heq]
      exact keysNodup_append hk.attempts (Db.attempt_none.1 hnone)
    · rw [heq]
      exact keysNodup_updateWhere hf hk.attempts
  deliveries := by
    rcases exec_outbox h with ⟨-, heq⟩ | ⟨row, -, hnew, heq⟩ | ⟨p, -, -, heq⟩
    · rw [heq]
      exact hk.deliveries
    · rw [heq]
      exact keysNodup_append hk.deliveries fun o ho => (hnew o ho).1
    · rw [heq]
      exact keysNodup_updateWhere (fun _ => rfl) hk.deliveries
  deliveryAttempts := by
    rcases exec_outbox h with ⟨-, heq⟩ | ⟨row, -, hnew, heq⟩ | ⟨p, -, -, heq⟩
    · rw [heq]
      exact hk.deliveryAttempts
    · rw [heq]
      exact keysNodup_append hk.deliveryAttempts fun o ho => (hnew o ho).2
    · rw [heq]
      exact keysNodup_updateWhere (fun _ => rfl) hk.deliveryAttempts

/-! ## Sequences of statements -/

theorem execAll_nil : execAll jsonValid [] c = .ok c := rfl

theorem execAll_cons_ok :
    execAll jsonValid (s :: statements) c = .ok c' ↔
      ∃ c₁, s.exec jsonValid c = .ok c₁ ∧ execAll jsonValid statements c₁ = .ok c' := by
  unfold execAll
  rw [List.foldlM_cons]
  cases s.exec jsonValid c with
  | error e => exact ⟨nofun, nofun⟩
  | ok c₁ => exact ⟨fun h => ⟨c₁, rfl, h⟩, fun ⟨_, h₁, h⟩ => by cases h₁; exact h⟩

theorem execAll_append_ok {first second : List Statement} :
    execAll jsonValid (first ++ second) c = .ok c' ↔
      ∃ c₁, execAll jsonValid first c = .ok c₁ ∧ execAll jsonValid second c₁ = .ok c' := by
  induction first generalizing c with
  | nil => simp [execAll_nil]
  | cons s rest ih =>
    rw [List.cons_append, execAll_cons_ok]
    simp only [execAll_cons_ok, ih]
    constructor
    · rintro ⟨c₁, h₁, c₂, h₂, h⟩
      exact ⟨c₂, ⟨c₁, h₁, h₂⟩, h⟩
    · rintro ⟨c₂, ⟨c₁, h₁, h₂⟩, h⟩
      exact ⟨c₁, h₁, c₂, h₂, h⟩

/-- What every statement keeps, every sequence of statements keeps. -/
theorem execAll_keeps {I : Db → Prop}
    (hstep : ∀ s ∈ statements, ∀ c c', s.exec jsonValid c = .ok c' → I c.db → I c'.db)
    (h : execAll jsonValid statements c = .ok c') (hi : I c.db) : I c'.db := by
  induction statements generalizing c with
  | nil =>
    cases h
    exact hi
  | cons s rest ih =>
    obtain ⟨c₁, h₁, h₂⟩ := execAll_cons_ok.1 h
    exact ih (fun t ht => hstep t (List.mem_cons_of_mem _ ht)) h₂
      (hstep s List.mem_cons_self c c₁ h₁ hi)

theorem execAll_evolves (h : execAll jsonValid statements c = .ok c') : c.db.Evolves c'.db :=
  execAll_keeps (I := c.db.Evolves)
    (fun _ _ _ _ hs hi => Db.Evolves.trans _ _ _ hi (exec_evolves hs)) h (Db.Evolves.refl _)

theorem execAll_keys (h : execAll jsonValid statements c = .ok c') (hk : c.db.Keys) : c'.db.Keys :=
  execAll_keeps (fun _ _ _ _ hs hi => exec_keys hs hi) h hk

theorem execAll_outbox_kept (h : execAll jsonValid statements c = .ok c') :
    Tables.Evolves OutboxRow.Kept c.db.outbox c'.db.outbox :=
  execAll_keeps (I := fun db => Tables.Evolves OutboxRow.Kept c.db.outbox db.outbox)
    (fun _ _ _ _ hs hi => hi.trans OutboxRow.Kept.trans (exec_outbox_kept hs)) h
    (.refl OutboxRow.Kept.refl _)

theorem execAll_streams (hw : ∀ s ∈ statements, s.writesStreams = false)
    (h : execAll jsonValid statements c = .ok c') : c'.db.streams = c.db.streams :=
  execAll_keeps (I := fun db => db.streams = c.db.streams)
    (fun s hs _ _ he hi => (exec_streams_of_not_writes (hw s hs) he).trans hi) h rfl

theorem execAll_receipts (h : execAll jsonValid statements c = .ok c') :
    c'.db.receipts = c.db.receipts ++ statements.filterMap (·.receipt?) := by
  induction statements generalizing c with
  | nil =>
    cases h
    simp
  | cons s rest ih =>
    obtain ⟨c₁, h₁, h₂⟩ := execAll_cons_ok.1 h
    rw [ih h₂, exec_receipts h₁, List.append_assoc, List.filterMap_cons]
    cases s.receipt? <;> simp

/-- A delivery of the later outbox was there before or is one that the statements insert. -/
theorem execAll_outbox_origin (h : execAll jsonValid statements c = .ok c') {o' : OutboxRow}
    (ho' : o' ∈ c'.db.outbox) :
    ∃ o ∈ c.db.outbox ++ statements.filterMap (·.delivery?), o.Kept o' := by
  induction statements generalizing c with
  | nil =>
    cases h
    exact ⟨o', by simpa using ho', .refl o'⟩
  | cons s rest ih =>
    obtain ⟨c₁, h₁, h₂⟩ := execAll_cons_ok.1 h
    obtain ⟨o₁, ho₁, hkept⟩ := ih h₂
    rw [List.filterMap_cons]
    rcases List.mem_append.1 ho₁ with hmem | hmem
    · rcases exec_outbox h₁ with ⟨hd, heq⟩ | ⟨row, hd, -, heq⟩ | ⟨p, hd, hp, heq⟩
      · rw [heq] at hmem
        exact ⟨o₁, List.mem_append_left _ hmem, hkept⟩
      · rw [heq] at hmem
        refine ⟨o₁, ?_, hkept⟩
        rw [hd]
        simpa [or_assoc] using Or.inl (List.mem_append.1 hmem)
      · rw [heq] at hmem
        obtain ⟨o, ho, rfl⟩ := exists_of_mem_updateWhere hmem
        refine ⟨o, List.mem_append_left _ ho, OutboxRow.Kept.trans _ _ _ ?_ hkept⟩
        split
        · exact .inr ⟨hp o ‹_›, rfl⟩
        · exact .refl o
    · refine ⟨o₁, List.mem_append_right _ ?_, hkept⟩
      cases s.delivery? with
      | none => exact hmem
      | some row => exact List.mem_cons_of_mem _ hmem

theorem batch_ok_iff {db db' : Db} :
    batch jsonValid statements db = .ok db' ↔
      ∃ c', execAll jsonValid statements ⟨db, 0⟩ = .ok c' ∧ c'.db = db' := by
  unfold batch
  cases execAll jsonValid statements ⟨db, 0⟩ with
  | error e => exact ⟨nofun, nofun⟩
  | ok c' =>
    exact ⟨fun h => ⟨c', rfl, Except.ok.inj h⟩, fun ⟨_, h, hdb⟩ => by cases h; rw [← hdb]; rfl⟩

end Statements

end TradeOps.Admission
