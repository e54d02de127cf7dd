import TradeOps.Agent.Follows

/-!
# Validators

The payload validators that the agent's state is given. `TradeOpsTelemetryWireStateV2.mqh` checks a
request that waits and its acknowledgement against the state; the formats of requests and responses
are left to a codec. `CSyntheticPayloadValidator` is the one of the state's own self-test. What they
accept they accept again in a later state: both are stable.
-/

namespace TradeOps.Agent

open Prog TelemetryState

/-! ## Requests and acknowledgements on the wire -/

/-- An event of a request; its record as bytes. -/
structure WireEvent where
  sequence : Nat
  eventId : Text
  recordSha : Text
  record : Bytes

/-- What the validators read of a decoded request. -/
structure WireRequest where
  requestSequence : Nat
  lastAcknowledgedEventSequence : Nat
  producedEvents : Nat
  events : List WireEvent
  registration : Bytes
  currencyScale : Nat

structure WireExpected where
  requestBodySha : Text
  finalEvent : Nat

structure WireAck where
  requestSequence : Nat
  requestBodySha : Text
  acknowledgedEventSequence : Nat
  acceptedAtUtcSeconds : Nat

/-- The formats: `Tov2WireDecodeRequest`, `Tov2WireVerifyResponse`, and the readers of records. -/
structure WireCodec where
  decodeRequest : Bytes → Option (WireRequest × WireExpected)
  verifyResponse : (pending response : Bytes) → Option WireAck
  -- The identity and the registration of a request are those of a local identity.
  bound : WireRequest → (identity : Text) → Bool
  decodesProtection : (record : Bytes) → Bool
  -- The id and the revision of a deal.
  decodeDeal : (record : Bytes) → (scale : Nat) → Option (Text × Nat)

variable (sha : Sha256) (codec : WireCodec)

def wireFrameMatches (payload : Bytes) (reference : LocalRef) (kind : Text) : Bool :=
  localRefValid reference ∧ choiceText reference.kind = kind ∧
    (recordEncode sha kind reference.generation payload).bind (localHash sha) = some reference.sha

def wireRegistrationMatches (request : WireRequest) (identity : Text) (registration : LocalRef) :
    Bool :=
  codec.bound request identity ∧
    wireFrameMatches sha request.registration registration registrationKind

def wireEventMatches (event : WireEvent) (reference : LocalRef) (scale : Nat) : Bool :=
  event.sequence = reference.sequence ∧ event.eventId = reference.eventId ∧
    event.recordSha = reference.recordSha ∧
    localHash sha event.record = some reference.recordSha ∧
    wireFrameMatches sha event.record reference eventKind ∧
    if reference.dealId = dash then reference.revision = 0 ∧ codec.decodesProtection event.record
    else codec.decodeDeal event.record scale = some (reference.dealId, reference.revision)

def wireDurablePrefix (request : WireRequest) : Bool :=
  request.events.length ≤ maxBatch ∧
    request.lastAcknowledgedEventSequence + request.events.length ≤ request.producedEvents ∧
    ¬ (request.events = [] ∧ request.producedEvents ≠ request.lastAcknowledgedEventSequence) ∧
    request.events.map (·.sequence) =
      List.range' (request.lastAcknowledgedEventSequence + 1) request.events.length

def pendingDecoded (request : WireRequest) (expected : WireExpected) (state : LocalState) : Bool :=
  wireDurablePrefix request ∧
    wireRegistrationMatches sha codec request state.identity state.registration ∧
    state.pending.kind = .pending ∧ request.requestSequence = state.pendingRequest ∧
    expected.requestBodySha = state.pendingBody ∧
    request.lastAcknowledgedEventSequence = state.pendingPrior ∧
    expected.finalEvent = state.pendingFinal ∧ request.events.length = state.pendingCount ∧
    request.events.length ≤ state.events.length ∧
    request.producedEvents = state.pendingProduced ∧ state.pendingProduced ≤ state.produced ∧
    state.pendingPrior = state.acceptedEvent ∧
    state.pendingRequest = state.acceptedRequest + 1 ∧
    state.pendingFinal = state.pendingPrior + state.pendingCount ∧
    request.events.map (·.sequence) =
      List.range' (state.pendingPrior + 1) request.events.length ∧
    (request.events.zip (state.events.take request.events.length)).all fun p =>
      wireEventMatches sha codec p.1 p.2 request.currencyScale

namespace WireState

def pending (payload : Bytes) (state : LocalState) (identity : Text) : Bool :=
  identity = state.identity ∧ localStateValid state ∧
    wireFrameMatches sha payload state.pending pendingKind ∧
    (codec.decodeRequest payload).any fun p => pendingDecoded sha codec p.1 p.2 state

def ackWithPending (response pending : Bytes) (state : LocalState) (identity : Text) : Bool :=
  identity = state.identity ∧ localStateValid state ∧ state.ack.kind = .ack ∧
    digest state.ackPendingSha ∧ wireFrameMatches sha response state.ack ackKind ∧
    ((codec.decodeRequest pending).any fun p => wireDurablePrefix p.1 ∧
      wireRegistrationMatches sha codec p.1 state.identity state.registration) ∧
    (codec.verifyResponse pending response).any fun ack =>
      ack.requestSequence = state.ackRequest ∧ ack.requestBodySha = state.ackBody ∧
        ack.acknowledgedEventSequence = state.ackEvent ∧
        ack.acceptedAtUtcSeconds = state.acceptedAt

end WireState

/-- `CTov2CapturePayloadValidator` with the wire validator, once it has seen the registration of the
store: what it then says of registrations, captures and events. -/
structure CaptureRules where
  registration : (payload : Bytes) → (identity : Text) → Bool
  capture : (payload : Bytes) → (schema identity : Text) → Bool
  -- What `CaptureAdvance` compares of two captures.
  advances : (previous candidate : Bytes) → Bool
  event : (payload : Bytes) → (eventId recordSha dealId : Text) → (revision : Nat) →
    (identity : Text) → Bool

def capturePayloadValidator (rules : CaptureRules) : PayloadValidator where
  registration := rules.registration
  capture := rules.capture
  captureAdvance previous previousSchema candidate schema identity :=
    rules.capture previous previousSchema identity ∧ rules.capture candidate schema identity ∧
      rules.advances previous candidate
  event := rules.event
  pending := WireState.pending sha codec
  ack _ _ _ := false
  requiresAckWitness := true
  ackWithPending := WireState.ackWithPending sha codec

theorem pendingDecoded_stable {request : WireRequest} {expected : WireExpected}
    {s s' : LocalState} (hsame : SamePending s s')
    (h : pendingDecoded sha codec request expected s = true) :
    pendingDecoded sha codec request expected s' = true := by
  simp only [pendingDecoded, decide_eq_true_eq] at h ⊢
  obtain ⟨hhead, hregistration, hkind, hrequest, hbody, hlast, hfinal, hcount, hlength, hproduced,
    hle, hprior, hnext, hsum, hsequence, hevents⟩ := h
  have hlong := hsame.events.length_le
  have htake : s'.events.take request.events.length = s.events.take request.events.length := by
    obtain ⟨more, hmore⟩ := hsame.events
    rw [← hmore, List.take_append_of_le_length hlength]
  have hgrown := hsame.produced
  rw [hsame.identity, hsame.registration, hsame.pending, hsame.pendingRequest, hsame.pendingBody,
    hsame.pendingPrior, hsame.pendingFinal, hsame.pendingCount, hsame.pendingProduced,
    hsame.acceptedEvent, hsame.acceptedRequest, htake]
  exact ⟨hhead, hregistration, hkind, hrequest, hbody, hlast, hfinal, hcount, by omega, hproduced,
    by omega, hprior, hnext, hsum, hsequence, hevents⟩

/-- The validator of the agent is stable, whatever the formats are. -/
theorem capturePayloadValidator_stable (rules : CaptureRules) :
    (capturePayloadValidator sha codec rules).Stable where
  advance h := by
    simp only [capturePayloadValidator, decide_eq_true_eq] at h ⊢
    exact h.2.1
  pending {payload s s' identity} hsame hvalid h := by
    simp only [capturePayloadValidator, WireState.pending, decide_eq_true_eq] at h ⊢
    obtain ⟨hidentity, -, hframe, hdecoded⟩ := h
    refine ⟨by rw [hsame.identity]; exact hidentity, hvalid,
      by rw [hsame.pending]; exact hframe, ?_⟩
    rw [Option.any_eq_true] at hdecoded ⊢
    obtain ⟨p, hrequest, hp⟩ := hdecoded
    exact ⟨p, hrequest, pendingDecoded_stable sha codec hsame hp⟩
  ack _ _ h := h
  ackWithPending {response pending s s' identity} hsame hvalid h := by
    simp only [capturePayloadValidator, WireState.ackWithPending, decide_eq_true_eq] at h ⊢
    rw [hsame.identity, hsame.registration, hsame.ack, hsame.ackPendingSha, hsame.ackRequest,
      hsame.ackBody, hsame.ackEvent, hsame.acceptedAt]
    exact ⟨h.1, hvalid, h.2.2⟩

/-! ## The validator of the self-test -/

namespace Synthetic

def textStarts (payload : Bytes) (start : Text) : Bool :=
  (localText payload).any fun text => start.isPrefixOf text

def registrationStart : Text := "registration.synthetic.".toList

def captureStart : Text := "capture.".toList

def migratedStart : Text := "capture.migrated.".toList

def firstSchema : Text := "synthetic.capture.1".toList

def secondSchema : Text := "synthetic.capture.2".toList

def identity : Text :=
  ['~'].intercalate ["account.demo".toList, "install.demo".toList, "tracking.demo".toList,
    "1".toList, List.replicate 64 'd', List.replicate 64 'e', List.replicate 64 'f']

def registration (payload : Bytes) (expected : Text) : Bool :=
  expected = identity ∧ textStarts payload registrationStart

def capture (payload : Bytes) (schema expected : Text) : Bool :=
  expected = identity ∧
    if schema = firstSchema then textStarts payload captureStart
    else schema = secondSchema ∧ textStarts payload migratedStart

def captureAdvance (previous : Bytes) (previousSchema : Text) (candidate : Bytes)
    (candidateSchema expected : Text) : Bool :=
  expected = identity ∧ capture previous previousSchema expected ∧
    capture candidate candidateSchema expected ∧
    (previousSchema = candidateSchema ∨
      (previousSchema = firstSchema ∧ candidateSchema = secondSchema ∧
        textStarts candidate migratedStart))

def eventFields (sha : Sha256) (payload : Bytes) (eventId recordSha dealId : Text) (revision : Nat)
    (expected : Text) : List Text → Bool
  | [tag, owner, event, deal, encoded, body] =>
    tag = "EVENT1".toList ∧ owner = expected ∧ event = eventId ∧ deal = dealId ∧
      counterFromText encoded 0 = some revision ∧ body ≠ [] ∧
      localHash sha payload = some recordSha ∧
      (if dealId = dash then revision = 0 else 1 ≤ revision) ∧
      ("event.".toList.isPrefixOf body ∨ "q.".toList.isPrefixOf body)
  | _ => false

def event (sha : Sha256) (payload : Bytes) (eventId recordSha dealId : Text) (revision : Nat)
    (expected : Text) : Bool :=
  expected = identity ∧ identifier eventId ∧ (localText payload).any fun text =>
    eventFields sha payload eventId recordSha dealId revision expected (text.splitOn '|')

def pendingFields (state : LocalState) (expected : Text) : List Text → Bool
  | [tag, owner, request, prior, finalEvent, count, produced, body] =>
    tag = "PENDING1".toList ∧ owner = expected ∧
      counterFromText request 0 = some state.pendingRequest ∧
      counterFromText prior 0 = some state.pendingPrior ∧
      counterFromText finalEvent 0 = some state.pendingFinal ∧
      counterFromText count 0 = some state.pendingCount ∧
      counterFromText produced 0 = some state.pendingProduced ∧ digest body ∧
      state.pending.kind = .pending ∧ state.pending.ordinal = 1 ∧
      state.pendingRequest = state.pending.sequence ∧
      state.pendingPrior = state.acceptedEvent ∧
      state.pendingFinal = state.acceptedEvent + state.pendingCount ∧
      state.pendingProduced ≤ state.produced ∧ body = state.pendingBody
  | _ => false

def pending (payload : Bytes) (state : LocalState) (expected : Text) : Bool :=
  expected = identity ∧ (localText payload).any fun text =>
    pendingFields state expected (text.splitOn '|')

def ackFields (state : LocalState) (expected : Text) : List Text → Bool
  | [tag, owner, request, eventSequence, acceptedAt, pendingSha, body] =>
    tag = "ACK1".toList ∧ owner = expected ∧
      counterFromText request 0 = some state.ackRequest ∧
      counterFromText eventSequence 0 = some state.ackEvent ∧
      counterFromText acceptedAt 1 = some state.acceptedAt ∧ digest pendingSha ∧ digest body ∧
      state.ack.kind = .ack ∧ state.ack.sequence = state.ackRequest ∧ state.ack.ordinal = 2 ∧
      state.ackRequest = state.acceptedRequest ∧ state.ackEvent = state.acceptedEvent ∧
      pendingSha = state.ackPendingSha ∧ body = state.ackBody
  | _ => false

def ack (payload : Bytes) (state : LocalState) (expected : Text) : Bool :=
  expected = identity ∧ (localText payload).any fun text =>
    ackFields state expected (text.splitOn '|')

/-- `CSyntheticPayloadValidator`. -/
def validator (sha : Sha256) : PayloadValidator where
  registration := registration
  capture := capture
  captureAdvance := captureAdvance
  event := event sha
  pending := pending
  ack := ack
  requiresAckWitness := false
  ackWithPending _ _ _ _ := false

theorem pendingFields_stable {s s' : LocalState} {expected : Text} {fields : List Text}
    (hsame : SamePending s s') (h : pendingFields s expected fields = true) :
    pendingFields s' expected fields = true := by
  unfold pendingFields at h ⊢
  split at h
  next =>
    simp only [decide_eq_true_eq] at h ⊢
    have hgrown := hsame.produced
    rw [hsame.pending, hsame.pendingRequest, hsame.pendingBody, hsame.pendingPrior,
      hsame.pendingFinal, hsame.pendingCount, hsame.pendingProduced, hsame.acceptedEvent]
    obtain ⟨h₁, h₂, h₃, h₄, h₅, h₆, h₇, h₈, h₉, h₁₀, h₁₁, h₁₂, h₁₃, h₁₄, h₁₅⟩ := h
    exact ⟨h₁, h₂, h₃, h₄, h₅, h₆, h₇, h₈, h₉, h₁₀, h₁₁, h₁₂, h₁₃, le_trans h₁₄ hgrown, h₁₅⟩
  next => contradiction

theorem ackFields_stable {s s' : LocalState} {expected : Text} {fields : List Text}
    (hsame : SameAck s s') : ackFields s' expected fields = ackFields s expected fields := by
  unfold ackFields
  split
  next =>
    rw [hsame.ack, hsame.ackRequest, hsame.ackEvent, hsame.acceptedAt, hsame.acceptedRequest,
      hsame.acceptedEvent, hsame.ackPendingSha, hsame.ackBody]
  next => rfl

theorem validator_stable (sha : Sha256) : (validator sha).Stable where
  advance h := by
    simp only [validator, captureAdvance, decide_eq_true_eq] at h ⊢
    exact h.2.2.1
  pending hsame _ h := by
    simp only [validator, pending, decide_eq_true_eq, Option.any_eq_true] at h ⊢
    obtain ⟨hidentity, text, htext, hfields⟩ := h
    exact ⟨hidentity, text, htext, pendingFields_stable hsame hfields⟩
  ack hsame _ h := by
    simp only [validator, ack, decide_eq_true_eq, Option.any_eq_true] at h ⊢
    obtain ⟨hidentity, text, htext, hfields⟩ := h
    exact ⟨hidentity, text, htext, by rw [ackFields_stable hsame]; exact hfields⟩
  ackWithPending _ _ h := h

end Synthetic

end TradeOps.Agent
