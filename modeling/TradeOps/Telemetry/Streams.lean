import TradeOps.Telemetry.Batches
import TradeOps.Telemetry.Preparation

/-!
# Streams under any interleaving of calls

A call prepares its batch from what it loaded, and other calls may commit before it does. What it
loaded is a session of its account, and a session only moves forward, so when the batch executes the
session is still the one the call went on from. From that the tables are consistent in every
reachable world, and every accepted request finds its receipt.
-/

namespace TradeOps.Telemetry

open JsString JsValue Tables Keyed Checks

/-! ## What a batch is made of -/

section Prepared

variable {env : Env} {request : TelemetryRequestV2}

theorem eventRow_spec {registration : RegistrationV2} {scope : String} {event : JournalEventV2}
    {row : EventRow} (h : eventRow registration scope event = .ok row) :
    row.scope = scope ∧ row.sequence = event.sequence.val ∧
      (row.dealId.isSome = true → row.kind = .deal ∧ row.revision.isSome = true) := by
  rw [eventRow, bind_ok_iff] at h
  obtain ⟨eventJson, -, h⟩ := h
  split at h
  · rw [bind_ok_iff] at h
    obtain ⟨contribution, -, h⟩ := h
    rw [bind_ok_iff] at h
    obtain ⟨projectionJson, -, h⟩ := h
    rw [← Except.ok.inj h]
    exact ⟨rfl, rfl, fun _ => ⟨rfl, rfl⟩⟩
  · rw [← Except.ok.inj h]
    exact ⟨rfl, rfl, fun hsome => absurd hsome Bool.false_ne_true⟩

theorem eventRows_spec {registration : RegistrationV2} {scope : String}
    {events : List JournalEventV2} {rows : List EventRow}
    (h : eventRows registration scope events = .ok rows) :
    rows.map (·.sequence) = events.map (·.sequence.val) ∧ ∀ row ∈ rows, row.scope = scope ∧
      (row.dealId.isSome = true → row.kind = .deal ∧ row.revision.isSome = true) := by
  induction events generalizing rows with
  | nil =>
    rw [eventRows, Except.ok.injEq] at h
    rw [← h]
    exact ⟨rfl, fun _ h => absurd h List.not_mem_nil⟩
  | cons event rest ih =>
    simp only [eventRows, bind_ok_iff, pure_ok_iff] at h
    obtain ⟨row, hrow, others, hothers, rfl⟩ := h
    obtain ⟨hscope, hsequence, hrecord⟩ := eventRow_spec hrow
    obtain ⟨hsequences, hrows⟩ := ih hothers
    refine ⟨?_, ?_⟩
    · rw [List.map_cons, List.map_cons, hsequences, hsequence]
    · intro r hr
      rcases List.mem_cons.1 hr with rfl | hr
      · exact ⟨hscope, hrecord⟩
      · exact hrows r hr

/-- The batch of a request, with the response that it stores. -/
structure Batch.Prepared (env : Env) (request : TelemetryRequestV2) (batch : Batch) : Prop where
  accountId : batch.session.accountId = request.identity.accountId.val
  scope : batch.session.scope = scopeV2 env request
  identityJson : batch.session.identityJson = identityKey request.identity
  registrationJson : batch.session.registrationJson = registrationKey request.registration
  requestSequence : batch.session.lastRequestSequence = request.requestSequence.val
  receiptScope : batch.receipt.scope = scopeV2 env request
  receiptSequence : batch.receipt.requestSequence = request.requestSequence.val
  receiptDigest : batch.receipt.requestDigest = request.bodySha256.val
  receiptAck : batch.receipt.acknowledgedEvents = batch.session.lastEventSequence
  receiptCounted : inRange 1 batch.receipt.acceptedAt = true ∧
    inRange 0 batch.receipt.acknowledgedEvents = true
  response : checkStoredResponse env request batch.receipt = .ok ()
  stored : storedResponse batch.receipt.responseBytes = true

/-- A valid response is not empty and not too long. -/
theorem storedResponse_of_valid {bytes valid : String}
    (h : validateResponseV2 env.sha256Hex bytes.toUTF8 request = .ok valid) :
    storedResponse bytes = true := by
  rw [validateResponseV2, bind_ok_iff] at h
  obtain ⟨raw, hraw, -⟩ := h
  rw [canonicalInput, then_ok_iff, then_ok_iff, failIf_ok_iff, failIf_ok_iff] at hraw
  obtain ⟨hne, hle, -⟩ := hraw
  rw [String.toUTF8_eq_toByteArray, String.size_toByteArray] at hne hle
  have hlength := length_js_le bytes
  simp only [storedResponse, decide_eq_true_eq]
  refine ⟨fun hzero => hne ?_, by omega⟩
  cases hchars : bytes.toList with
  | nil =>
    rw [String.toList_eq_nil_iff] at hchars
    rw [hchars]
    rfl
  | cons ch rest =>
    rw [js, hchars, ofChars, List.flatMap_cons, List.length_append] at hzero
    have hunits : 0 < (codeUnits ch).length := by
      rw [codeUnits]
      split <;> simp
    omega

/-- A response that was made for a request is one that is stored for it. -/
theorem checkStoredResponse_made {acknowledged : Counter} {now : Instant} {bytes valid : String}
    (hmade : responseBytesV2 env.sha256Hex request acknowledged now = .ok bytes)
    (hvalid : validateResponseV2 env.sha256Hex bytes.toUTF8 request = .ok valid)
    {scope digest : String} {sequence : Nat} :
    checkStoredResponse env request
      ⟨scope, sequence, digest, bytes, now.val, acknowledged.val⟩ = .ok () := by
  obtain ⟨-, coverage, -, rfl⟩ := responseBytesV2_ok_iff.1 hmade
  generalize hbody : responseBody request acknowledged now coverage = body at hvalid ⊢
  have hack : body.acknowledgedEventSequence = acknowledged := by rw [← hbody]; rfl
  have hat : body.acceptedAtUtcSeconds = now := by rw [← hbody]; rfl
  have hparse : parse (body.text env.sha256Hex).toList =
      some (body.signed (body.digest env.sha256Hex)) := by
    rw [ResponseBodyV2.text, String.toList_ofList]
    exact parse_text (body.signed_plain _ 0).ordered
  have hfield : ∀ {i : Nat} {key : String} {n : Nat},
      responseKeys[i]? = some key →
      ([body.acceptedAtUtcSeconds.json, body.acknowledgedEventSequence.json, .null,
        body.coverage.json, body.identity.json, .str (js "DRY_RUN"), body.requestBodySha256.json,
        body.requestSequence.json, .str (js (body.digest env.sha256Hex)),
        .str (js "AgentSyncResponseV2")] : List JsValue)[i]? = some (.num n) →
      hasNumber (body.signed (body.digest env.sha256Hex)) key n = true := by
    intro i key n hkey hvalue
    have hvalue := field_object responseKeys_ordered rfl hkey hvalue
    rw [ResponseBodyV2.signed, object, hasNumber]
    simp only [hvalue, decide_eq_true_eq]
  have haccepted := hfield (i := 0) (n := now.val) rfl (by rw [hat]; rfl)
  have hacknowledged := hfield (i := 1) (n := acknowledged.val) rfl (by rw [hack]; rfl)
  rw [checkStoredResponse, hvalid, ok_bind_eq]
  simp only [hparse]
  rw [failIf_ok_iff]
  rintro (h | h)
  · exact h haccepted
  · exact h hacknowledged

theorem prepareCommit_spec {state : Option AcceptedStateV2} {ack : Counter} {now : Instant}
    {batch : Batch} (h : prepareCommit env state request ack now = .ok batch) :
    batch.Prepared env request ∧ batch.previous = lastRequestOf state ∧
      batch.session.lastEventSequence = ack.val ∧
      eventRows request.registration (scopeV2 env request) request.events.val =
        .ok batch.events := by
  rw [prepareCommit, then_ok_iff, bind_ok_iff] at h
  obtain ⟨-, response, hresponse, h⟩ := h
  rw [bind_ok_iff] at h
  obtain ⟨valid, hvalid, h⟩ := h
  rw [statementsV2, then_ok_iff] at h
  obtain ⟨-, h⟩ := h
  simp only [bind_ok_iff, pure_ok_iff, canonicalStringify_identity,
    canonicalStringify_registration, Except.ok.injEq] at h
  obtain ⟨coverage, -, latest, -, rows, hrows, drafts, -, identityJson, rfl, registrationJson, rfl,
    accountJson, -, exposureJson, -, rfl⟩ := h
  refine ⟨⟨rfl, rfl, rfl, rfl, rfl, rfl, rfl, rfl, rfl, ?_,
    checkStoredResponse_made hresponse hvalid, storedResponse_of_valid hvalid⟩, rfl, rfl, hrows⟩
  simp only [inRange, decide_eq_true_eq]
  exact ⟨now.property, ack.property⟩

/-- A prepared batch goes on from what the call loaded. -/
theorem continues_of_prepareCommit {state : Option AcceptedStateV2} {ack : Counter} {now : Instant}
    {batch : Batch} (h : prepareCommit env state request ack now = .ok batch)
    (hsequence : request.requestSequence.val = lastRequestOf state + 1)
    (hproposed :
      proposeEvents (lastEventOf state) (request.events.val.map (·.sequence)) = some ack) :
    batch.Continues (lastEventOf state).val := by
  obtain ⟨hprepared, hprevious, hevent, hrows⟩ := prepareCommit_spec h
  obtain ⟨hsequences, hrow⟩ := eventRows_spec hrows
  obtain ⟨hproposed, hack⟩ := proposeEvents_some hproposed
  have hlength : batch.events.length = request.events.val.length := by
    have := congrArg List.length hsequences
    simpa using this
  rw [List.map_map, List.length_map] at hproposed
  rw [List.length_map] at hack
  exact {
    receiptScope := by rw [hprepared.receiptScope, hprepared.scope]
    receiptSequence := by rw [hprepared.receiptSequence, hprepared.requestSequence]
    request := by rw [hprepared.requestSequence, hprevious, hsequence]
    eventScope := fun e he => by rw [(hrow e he).1, hprepared.scope]
    sequences := by rw [hsequences, hlength]; exact hproposed
    event := by rw [hevent, hlength, hack]
    records := fun e he => (hrow e he).2 }

end Prepared

/-! ## What a call loads -/

section Loading

variable {env : Env} {db : Db} {request : TelemetryRequestV2}

theorem storedCounter_ok_iff {minimum n : Nat} {c : CounterFrom minimum} :
    storedCounter minimum n = .ok c ↔ c.val = n := by
  change (if h : minimum ≤ n ∧ n ≤ maxSafeInteger then Except.ok (CounterFrom.mk n h)
    else .error Code.counterInvalid) = .ok c ↔ c.val = n
  constructor
  · intro h
    split at h
    · rw [← Except.ok.inj h]
    · cases h
  · rintro rfl
    rw [dif_pos c.property]

theorem storedCounter_of_inRange {minimum n : Nat} (h : inRange minimum n = true) :
    ∃ c : CounterFrom minimum, c.val = n ∧ storedCounter minimum n = .ok c := by
  simp only [inRange, decide_eq_true_eq] at h
  exact ⟨⟨n, h⟩, rfl, storedCounter_ok_iff.2 rfl⟩

/-- The session that a request is admitted in. -/
structure SessionRow.Serves (env : Env) (request : TelemetryRequestV2) (s : SessionRow) : Prop where
  accountId : s.accountId = request.identity.accountId.val
  scope : s.scope = scopeV2 env request
  identityJson : s.identityJson = identityKey request.identity
  registrationJson : s.registrationJson = registrationKey request.registration

theorem loadSession_ok {s : SessionRow} {state : AcceptedStateV2}
    (h : loadSession env request s = .ok state) :
    s.scope = scopeV2 env request ∧ s.identityJson = identityKey request.identity ∧
      s.registrationJson = registrationKey request.registration ∧
      state.identity = request.identity ∧ state.lastRequestSequence.val = s.lastRequestSequence ∧
      state.lastEventSequence.val = s.lastEventSequence := by
  rw [loadSession, bind_ok_iff] at h
  obtain ⟨identity, -, h⟩ := h
  rw [bind_ok_iff] at h
  obtain ⟨registration, -, h⟩ := h
  rw [then_ok_iff, failIf_ok_iff, then_ok_iff, failIf_ok_iff] at h
  obtain ⟨hown, hrequest, h⟩ := h
  push Not at hown hrequest
  rw [bind_ok_iff] at h
  obtain ⟨lastRequest, hlastRequest, h⟩ := h
  rw [bind_ok_iff] at h
  obtain ⟨lastEvent, hlastEvent, h⟩ := h
  rw [← Except.ok.inj h]
  exact ⟨hrequest.1, hown.2.1.trans hrequest.2.1, hown.2.2.trans hrequest.2.2,
    identityKey_injective hrequest.2.1, storedCounter_ok_iff.1 hlastRequest,
    storedCounter_ok_iff.1 hlastEvent⟩

theorem onRow_ok_iff {α β : Type} {row : Option α} {read : α → Except Code β} {b : Option β} :
    onRow row read = .ok b ↔
      (row = none ∧ b = none) ∨ ∃ a c, row = some a ∧ read a = .ok c ∧ b = some c := by
  cases row with
  | none => simp [onRow, eq_comm]
  | some a =>
    unfold onRow
    cases hread : read a with
    | error code => simp [hread, Except.map]
    | ok c => simp [hread, Except.map, eq_comm]

/-- What a call knows of the session after it has loaded. -/
theorem loadV2_session {loaded : Loaded} (h : loadV2 env db request = .ok loaded) :
    (loaded.state = none ∧ db.session request.identity.accountId.val = none) ∨
      ∃ s state, db.session request.identity.accountId.val = some s ∧ s.Serves env request ∧
        loaded.state = some state ∧ state.lastRequestSequence.val = s.lastRequestSequence ∧
        state.lastEventSequence.val = s.lastEventSequence := by
  rw [loadV2, mapError_ok_iff, bind_ok_iff] at h
  obtain ⟨state, hstate, h⟩ := h
  rw [bind_ok_iff] at h
  obtain ⟨receipt, -, h⟩ := h
  rw [← Except.ok.inj h]
  rcases onRow_ok_iff.1 hstate with ⟨hnone, hstate⟩ | ⟨s, state', hsome, hload, hstate⟩
  · exact .inl ⟨hstate, hnone⟩
  · obtain ⟨hscope, hidentity, hregistration, -, hrequest, hevent⟩ := loadSession_ok hload
    have haccount := (session_some hsome).2
    exact .inr ⟨s, state', hsome, ⟨haccount, hscope, hidentity, hregistration⟩, hstate, hrequest,
      hevent⟩

theorem receipt_some {scope : String} {sequence : Nat} {row : ReceiptRow}
    (h : db.receipt scope sequence = some row) :
    row ∈ db.receipts ∧ row.scope = scope ∧ row.requestSequence = sequence :=
  ⟨List.mem_of_find?_eq_some h, by simpa using List.find?_some h⟩

/-- What a call knows of the receipt after it has loaded. -/
theorem loadV2_receipt {loaded : Loaded} (h : loadV2 env db request = .ok loaded) :
    (loaded.receipt = none ∧
        db.receipt (scopeV2 env request) request.requestSequence.val = none) ∨
      ∃ row meta_, db.receipt (scopeV2 env request) request.requestSequence.val = some row ∧
        loaded.receipt = some meta_ ∧ meta_.responseBytes = row.responseBytes ∧
        readDigestV2 (.str (js row.requestDigest)) = .ok meta_.requestBodySha256 := by
  rw [loadV2, mapError_ok_iff, bind_ok_iff] at h
  obtain ⟨state, -, h⟩ := h
  rw [bind_ok_iff] at h
  obtain ⟨receipt, hreceipt, h⟩ := h
  rw [← Except.ok.inj h]
  rcases onRow_ok_iff.1 hreceipt with ⟨hnone, hreceipt⟩ | ⟨row, meta_, hsome, hload, hreceipt⟩
  · exact .inl ⟨hreceipt, hnone⟩
  · refine .inr ⟨row, meta_, hsome, hreceipt, ?_⟩
    cases state with
    | none => cases hload
    | some state =>
      rw [loadReceipt, bind_ok_iff] at hload
      obtain ⟨digest, hdigest, hload⟩ := hload
      rw [bind_ok_iff] at hload
      obtain ⟨acceptedAt, -, hload⟩ := hload
      rw [bind_ok_iff] at hload
      obtain ⟨ack, -, hload⟩ := hload
      rw [then_ok_iff] at hload
      obtain ⟨-, hload⟩ := hload
      have hmeta : meta_ =
        ⟨state.identity, request.requestSequence, digest, row.responseBytes⟩ := by
        split at hload
        · rw [then_ok_iff] at hload
          exact (Except.ok.inj hload.2).symm
        · exact (Except.ok.inj hload).symm
      rw [hmeta]
      exact ⟨rfl, hdigest⟩

theorem decideAdmissionV2_replay {state : Option AcceptedStateV2} {receipt : Option ReceiptMetaV2}
    {isFresh : Bool} {bytes : String}
    (h : decideAdmissionV2 state receipt request isFresh = .replay bytes) :
    ∃ meta_, receipt = some meta_ ∧ meta_.responseBytes = bytes ∧
      meta_.requestBodySha256 = request.bodySha256 := by
  unfold decideAdmissionV2 at h
  simp only at h
  split at h
  · cases h
  · cases receipt with
    | some receipt =>
      simp only at h
      split at h
      · cases h
      split at h
      · cases h
      split at h
      · cases h
      split at h
      · cases h
      split at h
      · cases h
      · rename_i hdigest
        exact ⟨receipt, rfl, AdmissionV2.replay.inj h, not_not.1 hdigest⟩
    | none =>
      simp only at h
      split at h
      · cases h
      split at h
      · cases h
      split at h
      · cases h
      split at h <;> cases h

/-! ## Accepted requests -/

/-- The tables hold a request's receipt, with these bytes. -/
def Db.Holds (env : Env) (db : Db) (request : TelemetryRequestV2) (bytes : String) : Prop :=
  ∃ s ∈ db.sessions, s.Serves env request ∧ request.requestSequence.val ≤ s.lastRequestSequence ∧
    ∃ row ∈ db.receipts, row.scope = scopeV2 env request ∧
      row.requestSequence = request.requestSequence.val ∧
      row.requestDigest = request.bodySha256.val ∧ row.responseBytes = bytes ∧
      row.acknowledgedEvents ≤ s.lastEventSequence ∧ inRange 1 row.acceptedAt = true ∧
      inRange 0 row.acknowledgedEvents = true ∧ checkStoredResponse env request row = .ok () ∧
      storedResponse bytes = true

/-- A receipt is found under its key. -/
theorem receipt_eq_some (h : db.Consistent) {row : ReceiptRow} (hrow : row ∈ db.receipts) :
    db.receipt row.scope row.requestSequence = some row := by
  cases hfind : db.receipt row.scope row.requestSequence with
  | none =>
    have := List.find?_eq_none.1 hfind row hrow
    simp at this
  | some other =>
    obtain ⟨hmem, hscope, hsequence⟩ := receipt_some hfind
    obtain ⟨s, hs, hsrow⟩ := h.receiptOwned row hrow
    have hnodup : ((db.receipts.filter (·.scope = s.scope)).map (·.requestSequence)).Nodup := by
      rw [h.receipts s hs]
      exact List.nodup_range'
    have hother : other ∈ db.receipts.filter (·.scope = s.scope) := by
      rw [List.mem_filter]
      exact ⟨hmem, by simp [hscope, hsrow]⟩
    have hown : row ∈ db.receipts.filter (·.scope = s.scope) := by
      rw [List.mem_filter]
      exact ⟨hrow, by simp [hsrow]⟩
    rw [List.inj_on_of_nodup_map hnodup hother hown hsequence]

theorem readStored_identity (identity : IdentityV2) :
    readStored readIdentityV2 (identityKey identity) = .ok identity := by
  rw [readStored, identityKey, String.toList_ofList, parse_text (identity.plain 0).ordered]
  exact readIdentityV2_json identity

theorem readStored_registration (registration : RegistrationV2) :
    readStored readRegistrationV2 (registrationKey registration) = .ok registration := by
  rw [readStored, registrationKey, String.toList_ofList,
    parse_text (registration.plain 0).ordered]
  exact readRegistrationV2_json registration

/-- The session of a request is loaded. -/
theorem loadSession_serves (h : db.Consistent) {s : SessionRow} (hs : s ∈ db.sessions)
    (hserves : s.Serves env request) :
    ∃ state, loadSession env request s = .ok state ∧ state.identity = request.identity ∧
      state.lastRequestSequence.val = s.lastRequestSequence ∧
      state.lastEventSequence.val = s.lastEventSequence := by
  obtain ⟨hrequest, hevent⟩ := h.counted s hs
  obtain ⟨lastRequest, hlastRequest, hreadRequest⟩ := storedCounter_of_inRange hrequest
  obtain ⟨lastEvent, hlastEvent, hreadEvent⟩ := storedCounter_of_inRange hevent
  refine ⟨⟨request.identity, lastRequest, lastEvent⟩, ?_, rfl, hlastRequest, hlastEvent⟩
  rw [loadSession, hserves.identityJson, hserves.registrationJson, readStored_identity, ok_bind_eq,
    readStored_registration, ok_bind_eq, hserves.scope, failIf, if_neg, ok_bind_eq, failIf, if_neg,
    ok_bind_eq, hreadRequest, ok_bind_eq, hreadEvent, ok_bind_eq]
  · rfl
  · rintro (h | h | h) <;> exact h rfl
  · rintro (h | h | h) <;> exact h rfl

/-- What the tables hold is replayed. -/
theorem load_of_holds (h : db.Consistent) {bytes : String} (hholds : db.Holds env request bytes) :
    ∃ loaded, loadV2 env db request = .ok loaded ∧
      ∀ isFresh, decideAdmissionV2 loaded.state loaded.receipt request isFresh =
        .replay bytes := by
  obtain ⟨s, hs, hserves, hsequence, row, hrow, hscope, hrowSequence, hdigest, hbytes, hack, hat,
    hackRange, hresponse, hstored⟩ := hholds
  have hsession : db.session request.identity.accountId.val = some s := by
    rw [← hserves.accountId]
    exact session_eq_some h.accounts hs
  have hreceipt : db.receipt (scopeV2 env request) request.requestSequence.val = some row := by
    rw [← hscope, ← hrowSequence]
    exact receipt_eq_some h hrow
  obtain ⟨state, hstate, hidentity, hrequest, hevent⟩ := loadSession_serves h hs hserves
  obtain ⟨ack, hackVal, hreadAck⟩ := storedCounter_of_inRange hackRange
  obtain ⟨acceptedAt, -, hreadAt⟩ := storedCounter_of_inRange hat
  have hreadDigest : readDigestV2 (.str (js row.requestDigest)) = .ok request.bodySha256 := by
    rw [hdigest]
    exact readDigestV2_json request.bodySha256
  have hload : loadReceipt env request (some state) row =
      .ok ⟨state.identity, request.requestSequence, request.bodySha256, row.responseBytes⟩ := by
    rw [loadReceipt, hreadDigest, ok_bind_eq, hreadAt, ok_bind_eq, hreadAck, ok_bind_eq, failIf,
      if_neg (by omega), ok_bind_eq, if_pos rfl, hresponse, ok_bind_eq]
    rfl
  refine ⟨⟨some state, some ⟨state.identity, request.requestSequence, request.bodySha256,
    row.responseBytes⟩⟩, ?_, fun isFresh => ?_⟩
  · rw [loadV2, hsession, hreceipt]
    simp only [onRow, hstate, Except.map, ok_bind_eq, hload]
    rfl
  · rw [hbytes]
    have hle : ¬ (request.requestSequence.val > state.lastRequestSequence.val) := by omega
    simp [decideAdmissionV2, hidentity, hstored, hle]

end Loading

/-! ## The invariant -/

section Invariant

variable {env : Env} {db db' : Db} {accepted accepted' : List (TelemetryRequestV2 × String)}

/-- What a receipt says about a call's request. -/
def Db.Answers (env : Env) (db : Db) (request : TelemetryRequestV2) (bytes : String) : Prop :=
  ∃ row ∈ db.receipts, row.scope = scopeV2 env request ∧
    row.requestSequence = request.requestSequence.val ∧
    row.requestDigest = request.bodySha256.val ∧ row.responseBytes = bytes

structure Call.Ok (env : Env) (db : Db) (accepted : List (TelemetryRequestV2 × String))
    (call : Call) : Prop where
  begun : call.phase = .begin → call.committed = false
  ready : ∀ batch, call.phase = .ready batch → call.committed = false ∧
    batch.Prepared env call.request ∧
    (batch.previous ≠ 0 → ∃ s ∈ db.sessions, s.Serves env call.request) ∧
    ∃ base, batch.Continues base ∧ batch.Follows db base
  returned : ∀ bytes, call.phase = .returned bytes → db.Answers env call.request bytes
  committed : call.committed = true → (∃ bytes, (call.request, bytes) ∈ accepted) ∧
    ∀ code, call.phase = .failed code → code = .storageUnavailable

/-- What a receipt records. -/
def ReceiptRow.entry (row : ReceiptRow) : String × Nat × String × String :=
  (row.scope, row.requestSequence, row.requestDigest, row.responseBytes)

/-- What the receipt of an accepted request records. -/
def acceptedEntry (env : Env) (p : TelemetryRequestV2 × String) : String × Nat × String × String :=
  (scopeV2 env p.1, p.1.requestSequence.val, p.1.bodySha256.val, p.2)

structure World.Ok (env : Env) (w : World) : Prop where
  tables : w.db.Consistent
  accepted : ∀ p ∈ w.accepted, w.db.Holds env p.1 p.2
  receipts : w.db.receipts.map ReceiptRow.entry = w.accepted.map (acceptedEntry env)
  unique : (w.accepted.map fun p => (scopeV2 env p.1, p.1.requestSequence.val)).Nodup
  calls : ∀ call ∈ w.calls, call.Ok env w.db w.accepted

theorem World.initial_ok (env : Env) : World.initial.Ok env where
  tables := Db.empty_consistent
  accepted := fun _ h => absurd h List.not_mem_nil
  receipts := rfl
  unique := List.nodup_nil
  calls := fun _ h => absurd h List.not_mem_nil

/-- Sessions that have moved on still serve what they served. -/
theorem SessionRow.Serves.advances {s s' : SessionRow} {request : TelemetryRequestV2}
    (h : s.Serves env request) (hs : s.advances s') : s'.Serves env request :=
  ⟨hs.1.trans h.accountId, hs.2.1.trans h.scope, hs.2.2.1.trans h.identityJson,
    hs.2.2.2.1.trans h.registrationJson⟩

theorem Db.Holds.mono {request : TelemetryRequestV2} {bytes : String}
    (hs : Evolves SessionRow.advances db.sessions db'.sessions)
    (hr : ∀ row ∈ db.receipts, row ∈ db'.receipts) (h : db.Holds env request bytes) :
    db'.Holds env request bytes := by
  obtain ⟨s, hmem, hserves, hsequence, row, hrow, hscope, hrowSequence, hdigest, hbytes, hack,
    hrest⟩ := h
  obtain ⟨s', hmem', hadvances⟩ := hs s hmem
  obtain ⟨-, -, -, -, hrequest, hevent, -⟩ := id hadvances
  exact ⟨s', hmem', hserves.advances hadvances, hsequence.trans hrequest, row, hr row hrow, hscope,
    hrowSequence, hdigest, hbytes, hack.trans hevent, hrest⟩

/-- A session that has moved on is not the one that the batch goes on from. -/
theorem Batch.Follows.mono {batch : Batch} {base : Nat}
    (hs : Evolves SessionRow.advances db.sessions db'.sessions) (h : batch.Follows db base) :
    batch.Follows db' base := by
  refine ⟨h.first, fun hprevious => ?_⟩
  obtain ⟨s, hmem, haccount, hle, hevent⟩ := h.later hprevious
  obtain ⟨s', hmem', hadvances⟩ := hs s hmem
  obtain ⟨haccount', -, -, -, hrequest, -, hsame⟩ := hadvances
  refine ⟨s', hmem', haccount'.trans haccount, hle.trans hrequest, fun heq => ?_⟩
  have hstill : s'.lastRequestSequence = s.lastRequestSequence := by omega
  rw [hsame hstill]
  exact hevent (by omega)

theorem Call.Ok.mono {call : Call} (hs : Evolves SessionRow.advances db.sessions db'.sessions)
    (hr : ∀ row ∈ db.receipts, row ∈ db'.receipts) (ha : ∀ p ∈ accepted, p ∈ accepted')
    (h : call.Ok env db accepted) : call.Ok env db' accepted' := by
  refine ⟨h.begun, fun batch hphase => ?_, fun bytes hphase => ?_, fun hcommitted => ?_⟩
  · obtain ⟨hcommitted, hprepared, hserves, base, hcontinues, hfollows⟩ := h.ready batch hphase
    refine ⟨hcommitted, hprepared, fun hprevious => ?_, base, hcontinues, hfollows.mono hs⟩
    obtain ⟨s, hmem, hs'⟩ := hserves hprevious
    obtain ⟨s', hmem', hadvances⟩ := hs s hmem
    exact ⟨s', hmem', hs'.advances hadvances⟩
  · obtain ⟨row, hrow, hrest⟩ := h.returned bytes hphase
    exact ⟨row, hr row hrow, hrest⟩
  · obtain ⟨⟨bytes, hmem⟩, hcode⟩ := h.committed hcommitted
    exact ⟨⟨bytes, ha _ hmem⟩, hcode⟩

/-- Changing one call keeps the invariant when the call keeps its part of it. -/
theorem World.Ok.put {w : World} (h : w.Ok env) {i : Nat} {call : Call}
    (hcall : call.Ok env w.db w.accepted) : (w.put i call).Ok env := by
  refine ⟨h.tables, h.accepted, h.receipts, h.unique, fun c hc => ?_⟩
  rcases List.mem_or_eq_of_mem_set hc with hc | rfl
  · exact h.calls c hc
  · exact hcall

/-- A call that has ended, or crashed, without an answer. -/
theorem Call.Ok.ended {call : Call} (h : call.Ok env db accepted) {phase : Phase}
    (hphase : phase = .crashed ∨ phase = .failed .storageUnavailable) :
    ({ call with phase := phase } : Call).Ok env db accepted := by
  refine ⟨?_, ?_, ?_, fun hcommitted => ⟨(h.committed hcommitted).1, ?_⟩⟩ <;>
    rcases hphase with rfl | rfl <;> simp

/-- An answer is what a receipt for the request says. -/
theorem answers_of_replay {call : Call} {loaded : Loaded} {isFresh : Bool} {bytes : String}
    (hload : loadV2 env db call.request = .ok loaded)
    (hdecide : decideAdmissionV2 loaded.state loaded.receipt call.request isFresh = .replay bytes)
    (hdigests : ∀ row ∈ db.receipts, ∃ digest : Digest, row.requestDigest = digest.val) :
    db.Answers env call.request bytes := by
  obtain ⟨meta_, hmeta, hbytes, hdigest⟩ := decideAdmissionV2_replay hdecide
  rcases loadV2_receipt hload with ⟨hnone, -⟩ | ⟨row, meta', hrow, hmeta', hbytes', hread⟩
  · rw [hnone] at hmeta
    cases hmeta
  · obtain rfl : meta' = meta_ := Option.some.inj (hmeta'.symm.trans hmeta)
    obtain ⟨hmem, hscope, hsequence⟩ := receipt_some hrow
    obtain ⟨digest, hrowDigest⟩ := hdigests row hmem
    have hread' := readDigestV2_json digest
    rw [Matching.json, ← hrowDigest, hread, Except.ok.injEq, hdigest] at hread'
    exact ⟨row, hmem, hscope, hsequence, by rw [hrowDigest, hread'], hbytes'.symm.trans hbytes⟩

theorem World.Ok.digests {w : World} (h : w.Ok env) {row : ReceiptRow}
    (hrow : row ∈ w.db.receipts) : ∃ digest : Digest, row.requestDigest = digest.val := by
  have hmem : row.entry ∈ w.accepted.map (acceptedEntry env) := by
    rw [← h.receipts]
    exact List.mem_map_of_mem hrow
  obtain ⟨p, -, hp⟩ := List.mem_map.1 hmem
  have hdigest : p.1.bodySha256.val = row.requestDigest := congrArg (fun e => e.2.2.1) hp
  exact ⟨p.1.bodySha256, hdigest.symm⟩

/-- What a batch goes on from, in the tables that the call has loaded. -/
theorem follows_of_load {call : Call} {loaded : Loaded} (h : db.Consistent)
    (hload : loadV2 env db call.request = .ok loaded) {batch : Batch}
    (haccount : batch.session.accountId = call.request.identity.accountId.val)
    (hprevious : batch.previous = lastRequestOf loaded.state) :
    batch.Follows db (lastEventOf loaded.state).val ∧
      (batch.previous ≠ 0 → ∃ s ∈ db.sessions, s.Serves env call.request) := by
  rcases loadV2_session hload with ⟨hstate, -⟩ | ⟨s, state, hs, hserves, hstate, hrequest, hevent⟩
  · rw [hstate] at hprevious ⊢
    exact ⟨⟨fun _ => rfl, fun hne => absurd hprevious hne⟩, fun hne => absurd hprevious hne⟩
  · obtain ⟨hmem, -⟩ := session_some hs
    rw [hstate] at hprevious ⊢
    change batch.previous = state.lastRequestSequence.val at hprevious
    have hcounted := (h.counted s hmem).1
    simp only [inRange, decide_eq_true_eq] at hcounted
    refine ⟨⟨fun hzero => by omega, fun _ => ⟨s, hmem, ?_, by omega, fun _ => hevent.symm⟩⟩,
      fun _ => ⟨s, hmem, hserves⟩⟩
    rw [hserves.accountId, haccount]

theorem Call.Ok.load {w : World} (h : w.Ok env) {call : Call}
    (hcall : call.Ok env w.db w.accepted) (hbegin : call.phase = .begin) :
    ({ call with phase := call.load env w.db } : Call).Ok env w.db w.accepted := by
  have hcommitted := hcall.begun hbegin
  refine ⟨fun _ => hcommitted, fun batch hphase => ⟨hcommitted, ?_⟩, fun bytes hphase => ?_,
    fun htrue => absurd htrue (by simp [hcommitted])⟩
  · change call.load env w.db = .ready batch at hphase
    unfold Call.load at hphase
    split at hphase
    · cases hphase
    split at hphase
    · cases hphase
    rename_i loaded hload
    split at hphase
    · cases hphase
    · cases hphase
    rename_i ack hnew
    split at hphase
    · cases hphase
    rename_i batch' hprepare
    obtain rfl := Phase.ready.inj hphase
    obtain ⟨-, -, hsequence, -, hproposed⟩ := decideAdmissionV2_new hnew
    obtain ⟨hprepared, hprevious, -, -⟩ := prepareCommit_spec hprepare
    obtain ⟨hfollows, hserves⟩ := follows_of_load h.tables hload hprepared.accountId hprevious
    exact ⟨hprepared, hserves, _, continues_of_prepareCommit hprepare hsequence hproposed, hfollows⟩
  · change call.load env w.db = .returned bytes at hphase
    unfold Call.load at hphase
    split at hphase
    · cases hphase
    split at hphase
    · cases hphase
    rename_i loaded hload
    split at hphase
    · cases hphase
    · rename_i bytes' hreplay
      obtain rfl := Phase.returned.inj hphase
      exact answers_of_replay hload hreplay fun row hrow => h.digests hrow
    · split at hphase <;> cases hphase

theorem Call.Ok.reload {w : World} (h : w.Ok env) {call : Call}
    (hcall : call.Ok env w.db w.accepted) :
    ({ call with phase := call.reload env w.db } : Call).Ok env w.db w.accepted := by
  have hphases : ∀ phase, call.reload env w.db = phase →
      (∃ code, phase = .failed code) ∨ ∃ bytes, phase = .returned bytes ∧
        w.db.Answers env call.request bytes := by
    rintro phase rfl
    unfold Call.reload
    split
    · exact .inl ⟨_, rfl⟩
    rename_i loaded hload
    split
    · rename_i bytes hreplay
      exact .inr ⟨bytes, rfl, answers_of_replay hload hreplay fun row hrow => h.digests hrow⟩
    · exact .inl ⟨_, rfl⟩
    · exact .inl ⟨_, rfl⟩
  refine ⟨fun hphase => ?_, fun batch hphase => ?_, fun bytes hphase => ?_, fun hcommitted => ?_⟩
  · rcases hphases _ hphase with ⟨code, h⟩ | ⟨bytes, h, -⟩ <;> cases h
  · rcases hphases _ hphase with ⟨code, h⟩ | ⟨bytes, h, -⟩ <;> cases h
  · rcases hphases _ hphase with ⟨code, h⟩ | ⟨bytes', h, hanswers⟩
    · cases h
    · obtain rfl := Phase.returned.inj h
      exact hanswers
  · -- the receipt of a committed call is there, and is replayed
    obtain ⟨⟨bytes, hmem⟩, -⟩ := hcall.committed hcommitted
    obtain ⟨loaded, hload, hreplay⟩ := load_of_holds h.tables (h.accepted _ hmem)
    refine ⟨⟨bytes, hmem⟩, fun code hphase => ?_⟩
    change call.reload env w.db = .failed code at hphase
    rw [Call.reload, hload] at hphase
    simp only [hreplay] at hphase
    cases hphase

/-- A batch that took effect is held. -/
theorem holds_of_effect {jsonValid : String → Bool} {request : TelemetryRequestV2} {batch : Batch}
    (h : db.Consistent) (he : batch.Effect jsonValid db db')
    (hprepared : batch.Prepared env request)
    (hserves : batch.previous ≠ 0 → ∃ s ∈ db.sessions, s.Serves env request) :
    db'.Holds env request batch.receipt.responseBytes := by
  have hsession : ∃ s ∈ db'.sessions, s.Serves env request ∧
      s.lastRequestSequence = request.requestSequence.val ∧
      s.lastEventSequence = batch.session.lastEventSequence := by
    rcases he.sessions with
      ⟨-, -, hsessions⟩ | ⟨old, hold, hprevious, hscope, hregistration, hsessions⟩
    · rw [hsessions]
      exact ⟨batch.session, List.mem_append_right _ List.mem_cons_self,
        ⟨hprepared.accountId, hprepared.scope, hprepared.identityJson, hprepared.registrationJson⟩,
        hprepared.requestSequence, rfl⟩
    · obtain ⟨hmem, haccount⟩ := session_some hold
      have hpositive : batch.previous ≠ 0 := by
        have hcounted := (h.counted old hmem).1
        simp only [inRange, decide_eq_true_eq] at hcounted
        omega
      obtain ⟨s, hs, hserves⟩ := hserves hpositive
      obtain rfl : s = old := h.accounts.eq_of_key hs hmem
        (hserves.accountId.trans (haccount.trans hprepared.accountId).symm)
      rw [hsessions]
      refine ⟨batch.session.advance batch.previous s,
        mem_updateWhere.2 (.inl ⟨s, hmem, by simp [haccount], rfl⟩),
        ⟨hserves.accountId, hserves.scope, hserves.identityJson, hserves.registrationJson⟩, ?_, rfl⟩
      rw [SessionRow.advance, if_pos ⟨hprevious, hscope, hregistration⟩]
      exact hprepared.requestSequence
  obtain ⟨s, hs, hserves, hrequest, hevent⟩ := hsession
  refine ⟨s, hs, hserves, hrequest.ge, batch.receipt, ?_, hprepared.receiptScope,
    hprepared.receiptSequence, hprepared.receiptDigest, rfl, ?_, hprepared.receiptCounted.1,
    hprepared.receiptCounted.2, hprepared.response, hprepared.stored⟩
  · rw [he.receipts]
    exact List.mem_append_right _ List.mem_cons_self
  · rw [hevent, hprepared.receiptAck]

theorem World.Ok.commit {w : World} (h : w.Ok env) {i : Nat} {call : Call} {batch : Batch}
    (hi : w.calls[i]? = some call) (hphase : call.phase = .ready batch) :
    (w.commit env i call batch).Ok env := by
  have hcall := h.calls call (List.mem_of_getElem? hi)
  obtain ⟨hcommitted, hprepared, hserves, base, hcontinues, hfollows⟩ := hcall.ready batch hphase
  unfold World.commit
  split
  · exact h.put ⟨nofun, nofun, nofun, fun htrue => absurd htrue (by simp [hcommitted])⟩
  · rename_i db' hexec
    have he := Batch.exec_ok hexec
    have hevolves := he.evolves h.tables hcontinues hfollows
    have hkept : ∀ row ∈ w.db.receipts, row ∈ db'.receipts := by
      intro row hrow
      rw [he.receipts]
      exact List.mem_append_left _ hrow
    refine ⟨he.consistent h.tables hcontinues hfollows, ?_, ?_, ?_, ?_⟩
    · intro p hp
      rcases List.mem_append.1 hp with hp | hp
      · exact (h.accepted p hp).mono hevolves hkept
      · rw [List.mem_singleton.1 hp]
        exact holds_of_effect h.tables he hprepared hserves
    · change db'.receipts.map _ = (w.accepted ++ _).map _
      rw [he.receipts, List.map_append, List.map_append, h.receipts]
      simp [ReceiptRow.entry, acceptedEntry, hprepared.receiptScope, hprepared.receiptSequence,
        hprepared.receiptDigest]
    · -- the receipt's key was not taken
      change ((w.accepted ++ _).map _).Nodup
      rw [List.map_append, List.map_singleton, ← List.concat_eq_append, List.nodup_concat]
      refine ⟨fun hmem => ?_, h.unique⟩
      obtain ⟨p, hp, hkey⟩ := List.mem_map.1 hmem
      have hentry : acceptedEntry env p ∈ w.db.receipts.map ReceiptRow.entry := by
        rw [h.receipts]
        exact List.mem_map_of_mem hp
      obtain ⟨row, hrow, hrowEntry⟩ := List.mem_map.1 hentry
      have hscope : row.scope = batch.receipt.scope := by
        rw [hprepared.receiptScope]
        exact (congrArg (fun e => e.1) hrowEntry).trans (congrArg Prod.fst hkey)
      have hsequence : row.requestSequence = batch.receipt.requestSequence := by
        rw [hprepared.receiptSequence]
        exact (congrArg (fun e => e.2.1) hrowEntry).trans (congrArg Prod.snd hkey)
      have := List.find?_eq_none.1 he.unclaimed row hrow
      simp [hscope, hsequence] at this
    · intro c hc
      rcases List.mem_or_eq_of_mem_set hc with hc | rfl
      · exact (h.calls c hc).mono hevolves hkept fun p hp => List.mem_append_left _ hp
      · exact ⟨nofun, nofun, nofun,
          fun _ => ⟨⟨_, List.mem_append_right _ List.mem_cons_self⟩, nofun⟩⟩

/-- Every action, taken apart. -/
theorem World.act_cases {w w' : World} {action : Action} (h : w.act env action = some w') :
    (∃ request now, w' = { w with calls := w.calls ++ [⟨request, now, .begin, false⟩] }) ∨
      ∃ i call, w.calls[i]? = some call ∧
        ((call.phase = .begin ∧ w' = w.put i { call with phase := call.load env w.db }) ∨
          (∃ batch, call.phase = .ready batch ∧ w' = w.commit env i call batch) ∨
          (∃ batch, call.phase = .ready batch ∧ w' = w.put i { call with phase := .confirm }) ∨
          (call.phase = .confirm ∧ w' = w.put i { call with phase := call.reload env w.db }) ∨
          w' = w.put i { call with phase := .failed .storageUnavailable } ∨
          w' = w.put i { call with phase := .crashed }) := by
  cases action with
  | accept request now => exact .inl ⟨request, now, (Option.some.inj h).symm⟩
  | load i =>
    simp only [World.act, Option.bind_eq_bind, Option.bind_eq_some_iff] at h
    obtain ⟨call, hi, h⟩ := h
    split at h
    · exact .inr ⟨i, call, hi, .inl ⟨‹_›, (Option.some.inj h).symm⟩⟩
    · cases h
  | commit i reached =>
    simp only [World.act, Option.bind_eq_bind, Option.bind_eq_some_iff] at h
    obtain ⟨call, hi, h⟩ := h
    split at h
    · rename_i batch hphase
      split at h
      · exact .inr ⟨i, call, hi, .inr (.inl ⟨batch, hphase, (Option.some.inj h).symm⟩)⟩
      · exact .inr ⟨i, call, hi, .inr (.inr (.inl ⟨batch, hphase, (Option.some.inj h).symm⟩))⟩
    · cases h
  | reload i =>
    simp only [World.act, Option.bind_eq_bind, Option.bind_eq_some_iff] at h
    obtain ⟨call, hi, h⟩ := h
    split at h
    · exact .inr ⟨i, call, hi, .inr (.inr (.inr (.inl ⟨‹_›, (Option.some.inj h).symm⟩)))⟩
    · cases h
  | fault i =>
    simp only [World.act, Option.bind_eq_bind, Option.bind_eq_some_iff] at h
    obtain ⟨call, hi, h⟩ := h
    refine .inr ⟨i, call, hi, .inr (.inr (.inr (.inr (.inl ?_))))⟩
    split at h
    · exact (Option.some.inj h).symm
    · exact (Option.some.inj h).symm
    · cases h
  | crash i =>
    simp only [World.act, Option.bind_eq_bind, Option.bind_eq_some_iff] at h
    obtain ⟨call, hi, h⟩ := h
    refine .inr ⟨i, call, hi, .inr (.inr (.inr (.inr (.inr ?_))))⟩
    split at h
    · exact (Option.some.inj h).symm
    · exact (Option.some.inj h).symm
    · exact (Option.some.inj h).symm
    · cases h

theorem World.Ok.step {w w' : World} {action : Action} (h : w.Ok env)
    (hstep : w.act env action = some w') : w'.Ok env := by
  rcases World.act_cases hstep with ⟨request, now, rfl⟩ | ⟨i, call, hi, hcase⟩
  · refine ⟨h.tables, h.accepted, h.receipts, h.unique, fun c hc => ?_⟩
    rcases List.mem_append.1 hc with hc | hc
    · exact h.calls c hc
    · rw [List.mem_singleton.1 hc]
      exact ⟨fun _ => rfl, nofun, nofun, nofun⟩
  · have hcall := h.calls call (List.mem_of_getElem? hi)
    rcases hcase with ⟨hbegin, rfl⟩ | ⟨batch, hready, rfl⟩ | ⟨batch, hready, rfl⟩ |
      ⟨-, rfl⟩ | rfl | rfl
    · exact h.put (hcall.load h hbegin)
    · exact h.commit hi hready
    · have hcommitted := (hcall.ready batch hready).1
      exact h.put ⟨nofun, nofun, nofun, fun htrue => absurd htrue (by simp [hcommitted])⟩
    · exact h.put (hcall.reload h)
    · exact h.put (hcall.ended (.inr rfl))
    · exact h.put (hcall.ended (.inl rfl))

theorem World.ok_of_reachable {w : World} (h : (telemetry env).Reachable w) : w.Ok env := by
  refine h.invariant ?_ ?_
  · rintro s rfl
    exact World.initial_ok env
  · exact fun action s s' hs hstep => hs.step hstep

end Invariant

/-! ## Exactly once -/

section ExactlyOnce

variable {env : Env} {w w' : World}

theorem readNow_of_counter {now : Int} (h : 1 ≤ now ∧ now ≤ maxSafeInteger) :
    ∃ instant, readNow now = .ok instant := by
  obtain ⟨n, rfl⟩ : ∃ n : Nat, now = n := ⟨now.toNat, by omega⟩
  exact ⟨⟨n, by omega⟩, dif_pos (by omega)⟩

/-- An accepted request is answered with the stored bytes, whenever it comes again. -/
theorem World.Ok.replays (h : w.Ok env) {p : TelemetryRequestV2 × String} (hp : p ∈ w.accepted)
    {now : Int} (hnow : 1 ≤ now ∧ now ≤ maxSafeInteger) :
    Call.load env w.db ⟨p.1, now, .begin, false⟩ = .returned p.2 := by
  obtain ⟨instant, hinstant⟩ := readNow_of_counter hnow
  obtain ⟨loaded, hload, hreplay⟩ := load_of_holds h.tables (h.accepted p hp)
  simp only [Call.load, hinstant, hload, hreplay]

/-- Another body under an accepted sequence is refused. -/
theorem World.Ok.refuses (h : w.Ok env) {p : TelemetryRequestV2 × String} (hp : p ∈ w.accepted)
    {request : TelemetryRequestV2} (hidentity : request.identity = p.1.identity)
    (hsequence : request.requestSequence = p.1.requestSequence)
    (hbody : request.bodySha256 ≠ p.1.bodySha256) (now : Int) :
    ∃ code, Call.load env w.db ⟨request, now, .begin, false⟩ = .failed code := by
  obtain ⟨s, hs, -, -, row, hrow, hscope, hrowSequence, hdigest, -⟩ := h.accepted p hp
  have hsame : scopeV2 env request = scopeV2 env p.1 := by rw [scopeV2, scopeV2, hidentity]
  have hreceipt : w.db.receipt (scopeV2 env request) request.requestSequence.val = some row := by
    rw [hsame, hsequence, ← hscope, ← hrowSequence]
    exact receipt_eq_some h.tables hrow
  unfold Call.load
  split
  · exact ⟨_, rfl⟩
  split
  · exact ⟨_, rfl⟩
  rename_i loaded hload
  rcases loadV2_receipt hload with ⟨-, hnone⟩ | ⟨row', meta_, hrow', hmeta, -, hread⟩
  · rw [hnone] at hreceipt
    cases hreceipt
  · obtain rfl : row' = row := Option.some.inj (hrow'.symm.trans hreceipt)
    rw [hdigest] at hread
    have hread' := readDigestV2_json p.1.bodySha256
    rw [Matching.json, hread, Except.ok.injEq] at hread'
    split
    · exact ⟨_, rfl⟩
    · rename_i bytes hreplay
      obtain ⟨meta', hmeta', -, hbody'⟩ := decideAdmissionV2_replay hreplay
      obtain rfl : meta_ = meta' := Option.some.inj (hmeta.symm.trans hmeta')
      exact absurd (hbody'.symm.trans hread') hbody
    · rename_i ack hnew
      obtain ⟨hnone, -⟩ := decideAdmissionV2_new hnew
      rw [hmeta] at hnone
      cases hnone

/-- The tables change in one step only: the one in which a call's batch takes effect. -/
theorem changes_of_act {action : Action} (h : w.act env action = some w') (hdb : w'.db ≠ w.db) :
    ∃ (i : Nat) (call : Call) (bytes : String), w.calls[i]? = some call ∧
    (∃ batch, call.phase = .ready batch) ∧
      w'.calls[i]? = some { call with phase := .confirm, committed := true } ∧
      w'.accepted = w.accepted ++ [(call.request, bytes)] := by
  rcases World.act_cases h with ⟨request, now, rfl⟩ | ⟨i, call, hi, hcase⟩
  · exact absurd rfl hdb
  · rcases hcase with ⟨-, rfl⟩ | ⟨batch, hready, rfl⟩ | ⟨batch, -, rfl⟩ | ⟨-, rfl⟩ | rfl | rfl
    · exact absurd rfl hdb
    · cases hexec : batch.exec env.jsonValid w.db with
      | error code =>
        rw [World.commit, hexec] at hdb
        exact absurd rfl hdb
      | ok db' =>
        obtain ⟨hlength, -⟩ := List.getElem?_eq_some_iff.1 hi
        refine ⟨i, call, batch.receipt.responseBytes, hi, ⟨batch, hready⟩, ?_, ?_⟩
        · simp [World.commit, hexec, hlength]
        · simp [World.commit, hexec]
    all_goals exact absurd rfl hdb

/-- **Exactly-once storage.** In every reachable world each stream's receipts and events are
numbered up to its last ones, every deal's revisions are chained and its pointer is at the last of
them, an accepted request is replayed with its stored bytes, no other request is accepted under its
sequence, and the tables change in the step in which a call's batch takes effect and in no other; a
call whose batch took effect can end without an answer, but then only for want of storage. -/
theorem telemetry_exactly_once (env : Env) (w : World) (h : (telemetry env).Reachable w) :
    (∀ s ∈ w.db.sessions,
      (w.db.receipts.filter (·.scope = s.scope)).map (·.requestSequence) =
          List.range' 1 s.lastRequestSequence ∧
        (w.db.events.filter (·.scope = s.scope)).map (·.sequence) =
          List.range' 1 s.lastEventSequence) ∧
    ((∀ r ∈ w.db.receipts, ∃ s ∈ w.db.sessions, s.scope = r.scope) ∧
      ∀ e ∈ w.db.events, ∃ s ∈ w.db.sessions, s.scope = e.scope) ∧
    (∀ scope dealId, chained 0 none (w.db.revisions scope dealId) ∧
      w.db.deal scope dealId =
        (w.db.revisions scope dealId).getLast?.bind EventRow.pointer) ∧
    (∀ p ∈ w.accepted, ∀ now : Int, 1 ≤ now ∧ now ≤ maxSafeInteger →
      Call.load env w.db ⟨p.1, now, .begin, false⟩ = .returned p.2) ∧
    (∀ call ∈ w.calls, ∀ bytes, call.phase = .returned bytes →
      w.db.Answers env call.request bytes) ∧
    (∀ p ∈ w.accepted, ∀ q ∈ w.accepted, q.1.identity = p.1.identity →
      q.1.requestSequence = p.1.requestSequence → q = p) ∧
    (∀ p ∈ w.accepted, ∀ request now, request.identity = p.1.identity →
      request.requestSequence = p.1.requestSequence → request.bodySha256 ≠ p.1.bodySha256 →
      ∃ code, Call.load env w.db ⟨request, now, .begin, false⟩ = .failed code) ∧
    (∀ action w', (telemetry env).step action w w' → w'.db ≠ w.db →
      ∃ (i : Nat) (call : Call) (bytes : String), w.calls[i]? = some call ∧ call.committed = false ∧
        w'.calls[i]? = some { call with phase := .confirm, committed := true } ∧
        w'.accepted = w.accepted ++ [(call.request, bytes)]) ∧
    ∀ call ∈ w.calls, call.committed = true →
      (∃ bytes, (call.request, bytes) ∈ w.accepted) ∧
        ∀ code, call.phase = .failed code → code = .storageUnavailable := by
  have hw := World.ok_of_reachable h
  refine ⟨fun s hs => ⟨hw.tables.receipts s hs, hw.tables.events s hs⟩,
    ⟨hw.tables.receiptOwned, hw.tables.eventOwned⟩,
    fun scope dealId => ⟨hw.tables.chains scope dealId, hw.tables.pointers scope dealId⟩,
    fun p hp now hnow => hw.replays hp hnow,
    fun call hcall => (hw.calls call hcall).returned, ?_,
    fun p hp request now hidentity hsequence hbody => hw.refuses hp hidentity hsequence hbody now,
    ?_, fun call hcall => (hw.calls call hcall).committed⟩
  · intro p hp q hq hidentity hsequence
    refine List.inj_on_of_nodup_map hw.unique hq hp ?_
    simp only [scopeV2, hidentity, hsequence]
  · intro action w' hstep hdb
    obtain ⟨i, call, bytes, hi, ⟨batch, hready⟩, hcall, haccepted⟩ := changes_of_act hstep hdb
    have hcommitted := ((hw.calls call (List.mem_of_getElem? hi)).ready batch hready).1
    exact ⟨i, call, bytes, hi, hcommitted, hcall, haccepted⟩

theorem load_eq_ready {db : Db} {call : Call} {now : Instant} {loaded : Loaded} {ack : Counter}
    {batch : Batch} (hnow : readNow call.now = .ok now)
    (hload : loadV2 env db call.request = .ok loaded)
    (hnew : decideAdmissionV2 loaded.state loaded.receipt call.request
      (fresh call.request call.now) = .new ack)
    (hprepare : prepareCommit env loaded.state call.request ack now = .ok batch) :
    call.load env db = .ready batch := by
  simp only [Call.load, hnow, hload, hnew, hprepare]

/-- The first batch of a stream that records one new deal executes on empty tables. -/
theorem exec_first {request : TelemetryRequestV2} {ack : Counter} {now : Instant} {batch : Batch}
    {event : JournalEventV2} {deal : DealV2} (hjson : ∀ text, env.jsonValid text = true)
    (h : prepareCommit env none request ack now = .ok batch)
    (hevents : request.events.val = [event])
    (hrecord : event.record = .deal deal) (hrevision : deal.revision.val = 1)
    (hprevious : deal.previousRecordSha256 = none) :
    ∃ db', batch.exec env.jsonValid Db.empty = .ok db' ∧
      db'.deal (scopeV2 env request) deal.dealId.val =
        some ⟨scopeV2 env request, deal.dealId.val, event.sequence.val, 1,
          event.recordSha256.val⟩ := by
  rw [prepareCommit, then_ok_iff, bind_ok_iff] at h
  obtain ⟨-, response, -, h⟩ := h
  rw [bind_ok_iff] at h
  obtain ⟨valid, -, h⟩ := h
  rw [statementsV2, then_ok_iff] at h
  obtain ⟨-, h⟩ := h
  simp only [bind_ok_iff, pure_ok_iff, hevents, eventRows, eventRow, hrecord, hrevision, hprevious,
    Except.ok.injEq] at h
  obtain ⟨coverage, -, latest, -, rows, ⟨row, ⟨eventJson, -, net, -, projectionJson, -, rfl⟩, _,
    rfl, rfl⟩, drafts, -, identityJson, -, registrationJson, -, accountJson, -, exposureJson, -,
    rfl⟩ := h
  have hrequest := request.requestSequence.property
  have hack := ack.property
  have hnow := now.property
  have hsequence := event.sequence.property
  have hone : 1 ≤ maxSafeInteger := by decide
  have haccount : accountJson.all env.jsonValid = true := by
    cases accountJson <;> simp [hjson]
  have hexposure : exposureJson.all env.jsonValid = true := by
    cases exposureJson <;> simp [hjson]
  refine ⟨_, by
    simp [Batch.exec, upsertSession, SessionRow.check, hjson, inRange, hrequest, hack, hnow,
      haccount, hexposure, Db.session, Db.empty, insertReceipt, ReceiptRow.claimed,
      ReceiptRow.check, Db.receipt, insertEvent, EventRow.revises, EventRow.check, Db.deal,
      hsequence, hone, EventRow.pointer, upsertDeal, DealRow.pointsAtEvent, ok_bind_eq]
    rfl, ?_⟩
  simp [Db.deal]

end ExactlyOnce

namespace Sample

/-- The sample deal as a deposit of the whole balance, without commission. -/
def deposit : DealV2 :=
  { deal with
    profit := request.account.balance
    commission := deal.swap }

def depositEvent : JournalEventV2 :=
  { event with
    recordSha256 := digest "f8023d665fb86a133cfa8ec42f5534d20669c9fb57ba3faadb1d577bee87f153"
    record := .deal deposit }

def upload : TelemetryRequestV2 :=
  { request with
    events := ⟨[depositEvent], by decide⟩
    bodySha256 := digest "9d0aa92f81de836462972fd986b612d1907434d7d3fd998a66b4e4441693c8d8" }

theorem upload_wire : WireFacts upload where
  scale := by decide
  acknowledged := by decide
  sequences := by decide
  scan := fun _ h => by cases h
  amounts := by
    intro event hevent deal hrecord
    rw [List.mem_singleton.1 hevent] at hrecord
    cases hrecord
    decide

theorem upload_prepared :
    ∃ batch, prepareCommit env none upload (counter 1) (instant 1800000010) = .ok batch := by
  rw [prepareCommit_ok_iff env_digest upload_wire rfl]
  refine ⟨rfl, ?_⟩
  intro event hevent deal hrecord
  rw [List.mem_singleton.1 hevent] at hrecord
  cases hrecord
  intro values hvalues
  have hamounts : knownAmounts deposit.amounts =
      some [⟨"10000.00", 2⟩, ⟨"0.00", 2⟩, ⟨"0.00", 2⟩, ⟨"0.00", 2⟩] := by
    decide +kernel
  rw [← Option.some.inj (hamounts.symm.trans hvalues)]
  decide +kernel

theorem upload_new : decideAdmissionV2 none none upload (fresh upload 1800000010) =
    .new (counter 1) := by
  decide +kernel

/-- A call whose batch takes effect and whose answer is then lost. -/
theorem lostAnswer : ∃ w, (telemetry env).Reachable w ∧
    (∃ call, w.calls = [call] ∧ call.phase = .failed .storageUnavailable) ∧
    w.db.deal (scopeV2 env upload) "1" =
      some ⟨scopeV2 env upload, "1", 1, 1, depositEvent.recordSha256.val⟩ ∧
    ∃ bytes, w.accepted = [(upload, bytes)] := by
  obtain ⟨batch, hbatch⟩ := upload_prepared
  have hjson : ∀ text, env.jsonValid text = true := by
    intro text
    simp only [env]
  obtain ⟨db', hexec, hdeal⟩ := exec_first hjson hbatch rfl rfl rfl rfl
  have hempty : loadV2 env Db.empty upload = .ok ⟨none, none⟩ := rfl
  have hload : (Call.mk upload 1800000010 .begin false).load env Db.empty = .ready batch :=
    load_eq_ready rfl hempty upload_new hbatch
  clear hbatch
  generalize upload = request at hload hdeal ⊢
  have h₁ : (telemetry env).Reachable
      { World.initial with calls := [⟨request, 1800000010, .begin, false⟩] } :=
    (System.Reachable.init rfl).snoc (l := .accept request 1800000010) rfl
  have h₂ : (telemetry env).Reachable
      { World.initial with calls := [⟨request, 1800000010, .ready batch, false⟩] } := by
    refine h₁.snoc (l := .load 0) ?_
    rw [← hload]
    rfl
  have h₃ : (telemetry env).Reachable
      ⟨db', [⟨request, 1800000010, .confirm, true⟩], [(request, batch.receipt.responseBytes)]⟩ := by
    refine h₂.snoc (l := .commit 0 true) ?_
    have hcommit : World.commit env
        { World.initial with calls := [⟨request, 1800000010, .ready batch, false⟩] } 0
        ⟨request, 1800000010, .ready batch, false⟩ batch =
        ⟨db', [⟨request, 1800000010, .confirm, true⟩],
          [(request, batch.receipt.responseBytes)]⟩ := by
      rw [World.commit, show World.initial.db = Db.empty from rfl, hexec]
      rfl
    exact congrArg some hcommit
  have h₄ : (telemetry env).Reachable
      ⟨db', [⟨request, 1800000010, .failed .storageUnavailable, true⟩],
        [(request, batch.receipt.responseBytes)]⟩ :=
    h₃.snoc (l := .fault 0) rfl
  exact ⟨_, h₄, ⟨_, rfl, rfl⟩, hdeal, _, rfl⟩

end Sample

/-- A failed call can have changed the tables: its batch took effect before the answer was lost. -/
theorem failedCall_changed_tables : ∃ w, (telemetry Sample.env).Reachable w ∧
    (∃ call, w.calls = [call] ∧ call.phase = .failed .storageUnavailable) ∧ w.db ≠ Db.empty := by
  obtain ⟨w, hw, hcall, hdeal, -⟩ := Sample.lostAnswer
  refine ⟨w, hw, hcall, ?_⟩
  intro hempty
  rw [hempty] at hdeal
  cases hdeal

theorem telemetry_exactly_once_lostAnswer : ∃ w, (telemetry Sample.env).Reachable w ∧
    ∃ bytes, (Sample.upload, bytes) ∈ w.accepted ∧
      (∃ row ∈ w.db.events, row.dealId = some "1" ∧ row.revision = some 1) ∧
      Call.load Sample.env w.db ⟨Sample.upload, 1800009999, .begin, false⟩ =
        .returned bytes := by
  obtain ⟨w, hw, -, hdeal, bytes, haccepted⟩ := Sample.lostAnswer
  have hmem : (Sample.upload, bytes) ∈ w.accepted := by
    rw [haccepted]
    exact List.mem_cons_self
  obtain ⟨-, -, hchains, hreplay, -⟩ := telemetry_exactly_once Sample.env w hw
  refine ⟨w, hw, bytes, hmem, ?_, hreplay _ hmem 1800009999 (by decide)⟩
  -- the pointer of the deal is made of its last revision
  rw [(hchains _ _).2] at hdeal
  obtain ⟨row, hlast, hpointer⟩ := Option.bind_eq_some_iff.1 hdeal
  have hrow := List.mem_filter.1 (List.mem_of_getLast? hlast)
  have hkey := hrow.2
  rw [Bool.and_eq_true, decide_eq_true_eq, decide_eq_true_eq] at hkey
  refine ⟨row, hrow.1, hkey.2, ?_⟩
  unfold EventRow.pointer at hpointer
  split at hpointer
  · rename_i hrevision
    rw [hrevision]
    exact congrArg (some ∘ DealRow.revision) (Option.some.inj hpointer)
  · cases hpointer

end TradeOps.Telemetry
