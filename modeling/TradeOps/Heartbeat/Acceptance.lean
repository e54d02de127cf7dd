import TradeOps.Heartbeat.Coordinator

/-!
# Runs of the account coordinator

`coordinate_cases` says everything that one call can do. From it, for every list of calls on any
storage: the accepted sequences follow each other, they share one identity, a call that accepts
nothing leaves the storage alone, and the acknowledged event sequence never goes down. What the
last acceptance answered is what a resend of it is answered.
-/

namespace TradeOps.Heartbeat

open Checks JsString JsValue

variable {sha256Hex : String → String} {storage : Storage} {request : AgentSyncRequest}
  {nowEpoch : Int}

/-! ## A stored response reads back -/

theorem response_ordered (body : ResponseBody) : (body.response sha256Hex).ordered = true := by
  have hnames : namesOrdered ((body.fields
      [(js "response_body_sha256", .str (js (body.digest sha256Hex)))]).map Prod.fst) = true := by
    show namesOrdered [js "acknowledged_event_sequence", js "command", js "evidence_requests",
      js "freeze_reasons", js "mode", js "response_body_sha256", js "schema_version",
      js "server_sequence", js "server_time_epoch"] = true
    decide +kernel
  rw [ResponseBody.response, ordered, hnames]
  rfl

/-- The bytes that an acceptance stores spell a response with the stored digest. -/
theorem storedResponse_bytes (body : ResponseBody) :
    storedResponse (body.bytes sha256Hex) (body.digest sha256Hex) =
      some (.ofValue (body.response sha256Hex)) := by
  have hparse : parseDocument (body.bytes sha256Hex).toList =
      some (.ofValue (body.response sha256Hex)) := by
    rw [ResponseBody.bytes, String.toList_ofList]
    exact parseDocument_text (response_ordered body)
  have hproperty : Document.property (Document.ofFields
      (body.fields [(js "response_body_sha256", .str (js (body.digest sha256Hex)))]))
      (js "response_body_sha256") = some (.str (js (body.digest sha256Hex))) := by
    rfl
  rw [storedResponse, hparse, ResponseBody.response, Document.ofValue]
  simp only [hproperty, if_true]

/-! ## One call -/

/-- The sequence that was accepted last; none has sequence zero. -/
def lastSequence (storage : Storage) : Int :=
  (loadCoordinatorSyncState storage).lastAcceptedRequestSequence.getD 0

/-- The event sequence that is acknowledged. -/
def acknowledgedSequence (storage : Storage) : Int :=
  (loadCoordinatorSyncState storage).lastAcknowledgedEventSequence.getD 0

/-- A call that accepts its request, with the body it answers. -/
structure Accepts (storage : Storage) (request : AgentSyncRequest) (nowEpoch : Int)
    (body : ResponseBody) : Prop where
  next : request.requestSequence = lastSequence storage + 1
  fresh : request.freshness = .fresh
  identity : (loadCoordinatorSyncState storage).lastAcceptedRequestSequence.isSome →
    (loadCoordinatorSyncState storage).sameIdentity request.identity = true
  body : createDryRunResponse request ((loadCoordinatorSyncState storage).nextAcknowledged request)
    request.requestSequence nowEpoch = .ok body

/-- The storage after an acceptance. -/
def Storage.accept (storage : Storage) (sha256Hex : String → String) (request : AgentSyncRequest)
    (body : ResponseBody) : Storage :=
  { storage with
    syncState := some (acceptedState sha256Hex request
      ((loadCoordinatorSyncState storage).nextAcknowledged request) body) }

@[simp] theorem load_accept (body : ResponseBody) :
    loadCoordinatorSyncState (storage.accept sha256Hex request body) =
      acceptedState sha256Hex request
        ((loadCoordinatorSyncState storage).nextAcknowledged request) body := rfl

/-- A refusal is never an acceptance. -/
theorem refusal_ne_accepted {state : SyncState} {bytes : String} :
    state.refusal request ≠ some (.ok false bytes) := by
  intro h
  unfold SyncState.refusal SyncState.replay at h
  repeat' split at h
  all_goals simp at h

/-- No refusal: the request is fresh, of the stored identity, and the next one. -/
theorem refusal_eq_none (h : (loadCoordinatorSyncState storage).refusal request = none) :
    request.requestSequence = lastSequence storage + 1 ∧ request.freshness = .fresh ∧
      ((loadCoordinatorSyncState storage).lastAcceptedRequestSequence.isSome →
        (loadCoordinatorSyncState storage).sameIdentity request.identity = true) := by
  have hfresh : ¬request.freshness = .stale → request.freshness = .fresh := by
    cases request.freshness <;> simp
  unfold SyncState.refusal at h
  unfold lastSequence
  cases hlast : (loadCoordinatorSyncState storage).lastAcceptedRequestSequence with
  | none =>
    rw [hlast] at h
    dsimp only at h
    split at h <;> [cases h; skip]
    next hstale =>
      split at h <;> [cases h; skip]
      next hseq => exact ⟨by simpa using hseq, hfresh hstale, by simp⟩
  | some last =>
    rw [hlast] at h
    dsimp only at h
    split at h <;> [cases h; skip]
    next hidentity =>
      split at h <;> [cases h; skip]
      split at h <;> [cases h; skip]
      next hstale =>
        split at h <;> [cases h; skip]
        next hseq => exact ⟨by simpa using hseq, hfresh hstale, fun _ => by simpa using hidentity⟩

/-- Everything a call can do: it accepts its request, or it leaves the storage alone. -/
theorem coordinate_cases (sha256Hex : String → String) (storage : Storage)
    (request : AgentSyncRequest) (nowEpoch : Int) :
    (∃ body, Accepts storage request nowEpoch body ∧
      coordinateAgentSync sha256Hex storage request nowEpoch =
        (.ok false (body.bytes sha256Hex), storage.accept sha256Hex request body)) ∨
    (∃ outcome, (∀ bytes, outcome ≠ .ok false bytes) ∧
      coordinateAgentSync sha256Hex storage request nowEpoch = (outcome, storage)) := by
  unfold coordinateAgentSync
  dsimp only
  cases hrefusal : (loadCoordinatorSyncState storage).refusal request with
  | some outcome =>
    refine .inr ⟨outcome, ?_, rfl⟩
    rintro bytes rfl
    exact refusal_ne_accepted hrefusal
  | none =>
    obtain ⟨hnext, hfresh, hidentity⟩ := refusal_eq_none hrefusal
    cases hbody : createDryRunResponse request
        ((loadCoordinatorSyncState storage).nextAcknowledged request) request.requestSequence
        nowEpoch with
    | error _ => exact .inr ⟨.thrown, by simp, rfl⟩
    | ok body => exact .inl ⟨body, ⟨hnext, hfresh, hidentity, hbody⟩, rfl⟩

/-! ## Runs -/

/-- A request as it reaches the coordinator, with the clock that the coordinator reads. -/
structure Call where
  request : AgentSyncRequest
  nowEpoch : Int
  deriving DecidableEq, Repr

/-- The storage after a list of calls. -/
def after (sha256Hex : String → String) (storage : Storage) (calls : List Call) : Storage :=
  calls.foldl (fun s call => (coordinateAgentSync sha256Hex s call.request call.nowEpoch).2) storage

/-- The requests that a list of calls accepts, with the bytes each is answered. -/
def accepted (sha256Hex : String → String) : Storage → List Call → List (AgentSyncRequest × String)
  | _, [] => []
  | storage, call :: calls =>
    match coordinateAgentSync sha256Hex storage call.request call.nowEpoch with
    | (.ok false bytes, next) => (call.request, bytes) :: accepted sha256Hex next calls
    | (_, next) => accepted sha256Hex next calls

variable {calls more : List Call} {call : Call}

@[simp] theorem after_append :
    after sha256Hex storage (calls ++ more) =
      after sha256Hex (after sha256Hex storage calls) more := by
  simp [after]

theorem accepted_cons_of_accepts {body : ResponseBody}
    (h : coordinateAgentSync sha256Hex storage call.request call.nowEpoch =
      (.ok false (body.bytes sha256Hex), storage.accept sha256Hex call.request body)) :
    accepted sha256Hex storage (call :: calls) =
        (call.request, body.bytes sha256Hex) ::
          accepted sha256Hex (storage.accept sha256Hex call.request body) calls ∧
      after sha256Hex storage (call :: calls) =
        after sha256Hex (storage.accept sha256Hex call.request body) calls := by
  rw [accepted, after, List.foldl_cons, h]
  exact ⟨rfl, rfl⟩

theorem accepted_cons_of_other {outcome : Outcome} (hne : ∀ bytes, outcome ≠ .ok false bytes)
    (h : coordinateAgentSync sha256Hex storage call.request call.nowEpoch = (outcome, storage)) :
    accepted sha256Hex storage (call :: calls) = accepted sha256Hex storage calls ∧
      after sha256Hex storage (call :: calls) = after sha256Hex storage calls := by
  rw [accepted, after, List.foldl_cons, h]
  refine ⟨?_, rfl⟩
  split
  · next heq =>
    simp only [Prod.mk.injEq] at heq
    exact absurd heq.1 (hne _)
  · next heq =>
    simp only [Prod.mk.injEq] at heq
    rw [heq.2]

/-- What holds of no calls, and goes through an acceptance and through any other call, holds of
every run. -/
theorem run_induction (sha256Hex : String → String) {motive : Storage → List Call → Prop}
    (nil : ∀ storage, motive storage [])
    (accept : ∀ storage call calls body, Accepts storage call.request call.nowEpoch body →
      coordinateAgentSync sha256Hex storage call.request call.nowEpoch =
        (.ok false (body.bytes sha256Hex), storage.accept sha256Hex call.request body) →
      motive (storage.accept sha256Hex call.request body) calls → motive storage (call :: calls))
    (other : ∀ storage call calls outcome, (∀ bytes, outcome ≠ .ok false bytes) →
      coordinateAgentSync sha256Hex storage call.request call.nowEpoch = (outcome, storage) →
      motive storage calls → motive storage (call :: calls))
    (storage : Storage) (calls : List Call) : motive storage calls := by
  induction calls generalizing storage with
  | nil => exact nil storage
  | cons call calls ih =>
    obtain ⟨body, hacc, h⟩ | ⟨outcome, hne, h⟩ :=
      coordinate_cases sha256Hex storage call.request call.nowEpoch
    · exact accept storage call calls body hacc h (ih _)
    · exact other storage call calls outcome hne h (ih _)

/-- The accepted sequences follow the stored one without a gap. -/
theorem accepted_sequences (sha256Hex : String → String) (storage : Storage) (calls : List Call) :
    (accepted sha256Hex storage calls).map (·.1.requestSequence) =
      (List.range (accepted sha256Hex storage calls).length).map
        fun i : Nat => lastSequence storage + 1 + i := by
  induction storage, calls using run_induction sha256Hex with
  | nil storage =>
    rfl
  | accept storage call calls body hacc h ih =>
    have hlast : lastSequence (storage.accept sha256Hex call.request body) =
        lastSequence storage + 1 := hacc.next
    rw [(accepted_cons_of_accepts h).1, List.map_cons, ih, List.length_cons, List.range_succ_eq_map,
      List.map_cons, List.map_map, hlast, hacc.next]
    congr 1
    · simp
    · apply List.map_congr_left
      intro i _
      simp only [Function.comp_apply, Nat.succ_eq_add_one]
      push_cast
      omega
  | other storage call calls outcome hne h ih =>
    rw [(accepted_cons_of_other hne h).1, ih]

theorem sameIdentity_acceptedState {acknowledged : Int} {body : ResponseBody}
    {identity : AgentIdentity}
    (h : (acceptedState sha256Hex request acknowledged body).sameIdentity identity = true) :
    identity = request.identity := by
  simp only [SyncState.sameIdentity, acceptedState, Option.some.injEq, decide_eq_true_eq] at h
  obtain ⟨h₁, h₂, h₃, h₄⟩ := h
  cases hi : identity
  cases hr : request.identity
  simp_all

/-- Whatever is accepted has the stored identity, once there is one. -/
theorem accepted_sameIdentity (sha256Hex : String → String) (storage : Storage)
    (calls : List Call) :
    (loadCoordinatorSyncState storage).lastAcceptedRequestSequence.isSome →
      ∀ a ∈ accepted sha256Hex storage calls,
        (loadCoordinatorSyncState storage).sameIdentity a.1.identity = true := by
  induction storage, calls using run_induction sha256Hex with
  | nil storage =>
    intro _ a ha
    cases ha
  | accept storage call calls body hacc h ih =>
    intro hsome a ha
    rw [(accepted_cons_of_accepts h).1] at ha
    cases ha with
    | head => exact hacc.identity hsome
    | tail _ ha =>
      have hid := sameIdentity_acceptedState (ih rfl a ha)
      rw [hid]
      exact hacc.identity hsome
  | other storage call calls outcome hne h ih =>
    rw [(accepted_cons_of_other hne h).1]
    exact ih

/-- The first acceptance fixes the identity. -/
theorem accepted_identity (sha256Hex : String → String) (storage : Storage) (calls : List Call) :
    ∀ a ∈ accepted sha256Hex storage calls, ∀ b ∈ accepted sha256Hex storage calls,
      a.1.identity = b.1.identity := by
  suffices h : ∃ identity, ∀ a ∈ accepted sha256Hex storage calls, a.1.identity = identity by
    obtain ⟨identity, h⟩ := h
    intro a ha b hb
    rw [h a ha, h b hb]
  induction storage, calls using run_induction sha256Hex with
  | nil storage =>
    exact ⟨⟨"", "", "", 0⟩, fun a ha => by cases ha⟩
  | accept storage call calls body _ h _ =>
    refine ⟨call.request.identity, ?_⟩
    intro a ha
    rw [(accepted_cons_of_accepts h).1] at ha
    cases ha with
    | head => rfl
    | tail _ ha => exact sameIdentity_acceptedState (accepted_sameIdentity _ _ _ rfl a ha)
  | other storage call calls outcome hne h ih =>
    rw [(accepted_cons_of_other hne h).1]
    exact ih

/-- A run without an acceptance changes nothing. -/
theorem after_of_accepted_nil (sha256Hex : String → String) (storage : Storage)
    (calls : List Call) :
    accepted sha256Hex storage calls = [] → after sha256Hex storage calls = storage := by
  induction storage, calls using run_induction sha256Hex with
  | nil storage =>
    intro _
    rfl
  | accept storage call calls body _ h _ =>
    intro hnil
    rw [(accepted_cons_of_accepts h).1] at hnil
    cases hnil
  | other storage call calls outcome hne h ih =>
    rw [(accepted_cons_of_other hne h).1, (accepted_cons_of_other hne h).2]
    exact ih

/-- The state after a run is what its last acceptance stored. -/
theorem load_after (sha256Hex : String → String) (storage : Storage) (calls : List Call)
    (a : AgentSyncRequest × String) :
    (accepted sha256Hex storage calls).getLast? = some a →
      ∃ acknowledged body, a.2 = body.bytes sha256Hex ∧
        loadCoordinatorSyncState (after sha256Hex storage calls) =
          acceptedState sha256Hex a.1 acknowledged body := by
  induction storage, calls using run_induction sha256Hex with
  | nil storage =>
    intro hlast
    cases hlast
  | accept storage call calls body _ h ih =>
    intro hlast
    rw [(accepted_cons_of_accepts h).1] at hlast
    rw [(accepted_cons_of_accepts h).2]
    cases htail : accepted sha256Hex (storage.accept sha256Hex call.request body) calls with
    | nil =>
      rw [htail, List.getLast?_singleton, Option.some.injEq] at hlast
      rw [← hlast, after_of_accepted_nil _ _ _ htail]
      exact ⟨_, body, rfl, rfl⟩
    | cons b rest =>
      rw [htail, List.getLast?_cons_cons, ← htail] at hlast
      exact ih hlast
  | other storage call calls outcome hne h ih =>
    rw [(accepted_cons_of_other hne h).1, (accepted_cons_of_other hne h).2]
    exact ih

/-- The acknowledged event sequence never goes down. -/
theorem acknowledgedSequence_le_after (sha256Hex : String → String) (storage : Storage)
    (calls : List Call) :
    acknowledgedSequence storage ≤ acknowledgedSequence (after sha256Hex storage calls) := by
  induction storage, calls using run_induction sha256Hex with
  | nil storage =>
    exact le_rfl
  | accept storage call calls body _ h ih =>
    rw [(accepted_cons_of_accepts h).2]
    refine le_trans ?_ ih
    show _ ≤ max (acknowledgedSequence storage) _
    exact le_max_left _ _
  | other storage call calls outcome hne h ih =>
    rw [(accepted_cons_of_other hne h).2]
    exact ih

/-! ## Resends -/

/-- The request repeats the last one that the state has accepted. -/
structure SyncState.Recorded (state : SyncState) (request : AgentSyncRequest) : Prop where
  sequence : state.lastAcceptedRequestSequence = some request.requestSequence
  digest : state.lastAcceptedRequestDigest = some request.bodySha256
  identity : state.sameIdentity request.identity = true

/-- The stored bytes, when they read as a response with the stored digest. -/
def SyncState.readableResponse (state : SyncState) : Option String :=
  match state.lastCanonicalResponseBytes, state.lastCanonicalResponseDigest with
  | some bytes, some digest => if (storedResponse bytes digest).isSome then some bytes else none
  | _, _ => none

/-- A resend is answered from what is stored, whatever its timestamp, and changes nothing. -/
theorem coordinate_recorded (h : (loadCoordinatorSyncState storage).Recorded request) :
    coordinateAgentSync sha256Hex storage request nowEpoch =
      (match (loadCoordinatorSyncState storage).readableResponse with
        | some bytes => .ok true bytes
        | none => .rejected .sequenceInvalid, storage) := by
  have hreplay : (loadCoordinatorSyncState storage).refusal request =
      some ((loadCoordinatorSyncState storage).replay request) := by
    rw [SyncState.refusal, h.sequence]
    simp [h.identity]
  unfold coordinateAgentSync
  dsimp only
  rw [hreplay]
  dsimp only
  rw [SyncState.replay, if_neg (by simp [h.digest])]
  unfold SyncState.readableResponse
  cases (loadCoordinatorSyncState storage).lastCanonicalResponseBytes with
  | none => rfl
  | some bytes =>
    cases (loadCoordinatorSyncState storage).lastCanonicalResponseDigest with
    | none => rfl
    | some digest =>
      dsimp only
      split <;> rfl

/-- The same identity, sequence and digest. -/
structure Resends (resend original : AgentSyncRequest) : Prop where
  identity : resend.identity = original.identity
  sequence : resend.requestSequence = original.requestSequence
  digest : resend.bodySha256 = original.bodySha256

theorem recorded_acceptedState {resend original : AgentSyncRequest} {acknowledged : Int}
    {body : ResponseBody} (h : Resends resend original) :
    (acceptedState sha256Hex original acknowledged body).Recorded resend where
  sequence := congrArg some h.sequence.symm
  digest := congrArg some h.digest.symm
  identity := by rw [h.identity]; simp [SyncState.sameIdentity, acceptedState]

@[simp] theorem readableResponse_acceptedState {acknowledged : Int} {body : ResponseBody} :
    (acceptedState sha256Hex request acknowledged body).readableResponse =
      some (body.bytes sha256Hex) := by
  simp [SyncState.readableResponse, acceptedState, storedResponse_bytes]

/-- A resend of the last acceptance of a run is answered its bytes. -/
theorem resend_after {a : AgentSyncRequest × String} {resend : AgentSyncRequest}
    (hlast : (accepted sha256Hex storage calls).getLast? = some a) (h : Resends resend a.1) :
    coordinateAgentSync sha256Hex (after sha256Hex storage calls) resend nowEpoch =
      (.ok true a.2, after sha256Hex storage calls) := by
  obtain ⟨acknowledged, body, hbytes, hload⟩ := load_after _ _ _ _ hlast
  have hrecorded : (loadCoordinatorSyncState (after sha256Hex storage calls)).Recorded resend := by
    rw [hload]
    exact recorded_acceptedState h
  rw [coordinate_recorded hrecorded, hload, readableResponse_acceptedState, hbytes]

/-- A call that is not answered by an acceptance leaves the storage alone. -/
theorem coordinate_unchanged
    (h : ∀ bytes, (coordinateAgentSync sha256Hex storage request nowEpoch).1 ≠ .ok false bytes) :
    (coordinateAgentSync sha256Hex storage request nowEpoch).2 = storage := by
  obtain ⟨body, -, hcall⟩ | ⟨outcome, -, hcall⟩ :=
    coordinate_cases sha256Hex storage request nowEpoch
  · rw [hcall] at h
    exact absurd rfl (h (body.bytes sha256Hex))
  · rw [hcall]

/-- Every run from an empty store or from what an earlier version kept under its own keys. The
accepted sequences go on from the stored one, with one identity; a resend of the last accepted
request is answered the bytes that its acceptance was answered, or, before any acceptance, the
bytes that the earlier version stored if they are readable; nothing else but an acceptance
changes the storage, and the acknowledged event sequence never goes down. -/
theorem coordinator_run (sha256Hex : String → String) (legacy : SyncState) (calls : List Call) :
    let storage : Storage := ⟨none, legacy⟩
    let requests := accepted sha256Hex storage calls
    let final := after sha256Hex storage calls
    (requests.map (·.1.requestSequence) =
      (List.range requests.length).map
        fun i : Nat => legacy.lastAcceptedRequestSequence.getD 0 + 1 + i) ∧
    (∀ a ∈ requests, ∀ b ∈ requests, a.1.identity = b.1.identity) ∧
    (legacy.lastAcceptedRequestSequence.isSome →
      ∀ a ∈ requests, legacy.sameIdentity a.1.identity = true) ∧
    (∀ a, requests.getLast? = some a → ∀ resend nowEpoch, Resends resend a.1 →
      coordinateAgentSync sha256Hex final resend nowEpoch = (.ok true a.2, final)) ∧
    (requests = [] → ∀ bytes, legacy.readableResponse = some bytes →
      ∀ resend nowEpoch, legacy.Recorded resend →
        coordinateAgentSync sha256Hex final resend nowEpoch = (.ok true bytes, final)) ∧
    (∀ before call rest, calls = before ++ call :: rest →
      (∀ bytes, (coordinateAgentSync sha256Hex (after sha256Hex storage before) call.request
        call.nowEpoch).1 ≠ .ok false bytes) →
      after sha256Hex storage (before ++ [call]) = after sha256Hex storage before) ∧
    (∀ before rest, calls = before ++ rest →
      acknowledgedSequence (after sha256Hex storage before) ≤ acknowledgedSequence final) := by
  intro storage requests final
  refine ⟨accepted_sequences sha256Hex storage calls, accepted_identity sha256Hex storage calls,
    accepted_sameIdentity sha256Hex storage calls, ?_, ?_, ?_, ?_⟩
  · intro a hlast resend nowEpoch h
    exact resend_after hlast h
  · intro hnil bytes hbytes resend nowEpoch h
    have hfinal : final = storage := after_of_accepted_nil _ _ _ hnil
    have hrecorded : (loadCoordinatorSyncState storage).Recorded resend := h
    have hreadable : (loadCoordinatorSyncState storage).readableResponse = some bytes := hbytes
    rw [hfinal, coordinate_recorded hrecorded, hreadable]
  · intro before call rest _ h
    rw [after_append]
    exact coordinate_unchanged h
  · intro before rest hcalls
    show _ ≤ acknowledgedSequence (after sha256Hex storage calls)
    rw [hcalls, after_append]
    exact acknowledgedSequence_le_after _ _ _

namespace Sample

def identity : AgentIdentity := ⟨"installation", "profile", "fingerprint", 1⟩

def summary : HeartbeatSummary := ⟨100, "CONNECTED", "ALLOWED", "ALLOWED", "ALLOWED"⟩

def heartbeat : AgentSyncRequest :=
  { accountId := "account", identity, requestSequence := 1, sentAtEpoch := 100, freshness := .fresh
    bodySha256 := "digest", summary, terminalBuild := 4000, sourceSymbol := "XAUUSD"
    eventSequences := [] }

/-- An earlier version accepted a request and its response is not among its keys. -/
def legacy : SyncState :=
  { installationId := some "installation"
    accountProfileSha256 := some "profile"
    accountFingerprintSha256 := some "fingerprint"
    safetyEpoch := some 1
    lastAcceptedRequestSequence := some 1
    lastAcceptedRequestDigest := some "digest"
    lastCanonicalResponseBytes := none
    lastCanonicalResponseDigest := none
    lastAcknowledgedEventSequence := some 0
    heartbeatSummary := some summary }

end Sample

/-- Without a readable response in the earlier version's keys, a resend of the last accepted
request is refused. -/
theorem resend_of_unreadable_response :
    Sample.legacy.Recorded Sample.heartbeat ∧
      ∀ sha256Hex nowEpoch, coordinateAgentSync sha256Hex ⟨none, Sample.legacy⟩ Sample.heartbeat
        nowEpoch = (.rejected .sequenceInvalid, ⟨none, Sample.legacy⟩) := by
  have h : Sample.legacy.Recorded Sample.heartbeat := ⟨rfl, rfl, by decide⟩
  refine ⟨h, ?_⟩
  intro sha256Hex nowEpoch
  exact coordinate_recorded h

end TradeOps.Heartbeat
