import TradeOps.Agent.Record

/-!
# References, states and commits

Embeds `TradeOpsTelemetryStorageCodec.mqh`. A state names every record that it needs by a reference
with the digest of the record's frame; a commit names the state of its generation and the commit of
the parent generation. Decoding reads the fields and then compares the bytes with the encoding of
what was read, so the only work left is the round trip: `localStateDecode_of_encode` and
`localCommitDecode_of_encode`.
-/

namespace TradeOps.Agent

open Patterns (Choice)

def maxEvents : Nat := 512

def maxBatch : Nat := 32

/-- The field of an absent text. -/
def dash : Text := ['-']

/-- The member of an enumeration with this name. -/
def choiceOfText (α : Type) [Choice α] (text : Text) : Option α :=
  (Choice.values (α := α)).find? fun a => (Choice.name a).toList = text

def choiceText {α : Type} [Choice α] (a : α) : Text := (Choice.name a).toList

theorem choiceOfText_choiceText {α : Type} [Choice α] (a : α) :
    choiceOfText α (choiceText a) = some a := by
  have hmem : a ∈ Choice.values (α := α) := Choice.complete a
  have hinj : ∀ b ∈ Choice.values (α := α), (Choice.name b).toList = choiceText a → b = a := by
    intro b hb hname
    exact List.inj_on_of_nodup_map Choice.distinct hb hmem (String.toList_inj.mp hname)
  rw [choiceOfText]
  cases hfind : (Choice.values (α := α)).find? fun b => (Choice.name b).toList = choiceText a with
  | none => exact absurd (decide_eq_true rfl) (List.find?_eq_none.mp hfind a hmem)
  | some b =>
    have hb := List.find?_some hfind
    rw [hinj b (List.mem_of_find?_eq_some hfind) (of_decide_eq_true hb)]

/-! ## Hashes -/

def localHash (sha : Sha256) (bytes : Bytes) : Option Text :=
  if 1 ≤ bytes.length ∧ bytes.length ≤ frameMax ∧ digest (sha.hex bytes) then some (sha.hex bytes)
  else none

/-! ## Identities -/

/-- The installation of an identity: seven fields, of which it is the second. -/
def localIdentity (text : Text) : Option Text :=
  match text.splitOn '~' with
  | [account, installation, tracking, epoch, profile, fingerprint, boundary] =>
    if identifier account ∧ identifier installation ∧ identifier tracking ∧
        (counterFromText epoch 0).isSome ∧ digest profile ∧ digest fingerprint ∧
        digest boundary then
      some installation
    else none
  | _ => none

def installationPreimage : Text := "TOV2-INSTALL|".toList

def localInstallationKey (sha : Sha256) (installation : Text) : Option Text :=
  if identifier installation then
    (localBytes (installationPreimage ++ installation)).bind (localHash sha)
  else none

/-! ## References -/

inductive RefKind where
  | absent | registration | event | pending | ack | capture | state | commit
  deriving DecidableEq, Repr

instance : Choice RefKind where
  name
    | .absent => "-"
    | .registration => "REGISTRATION"
    | .event => "EVENT"
    | .pending => "PENDING"
    | .ack => "ACK"
    | .capture => "CAPTURE"
    | .state => "STATE"
    | .commit => "COMMIT"
  values := [.absent, .registration, .event, .pending, .ack, .capture, .state, .commit]
  complete := by rintro ⟨⟩ <;> decide
  distinct := by decide +kernel
  ascii := by rintro ⟨⟩ <;> exact Patterns.ascii_of_all (by decide +kernel)

structure LocalRef where
  kind : RefKind
  generation : Nat
  ordinal : Nat
  sha : Text
  sequence : Nat
  eventId : Text
  recordSha : Text
  dealId : Text
  revision : Nat
  deriving DecidableEq, Repr

/-- `Tov2LocalClearRef`. -/
def LocalRef.empty : LocalRef where
  kind := .absent
  generation := 0
  ordinal := 0
  sha := dash
  sequence := 0
  eventId := dash
  recordSha := dash
  dealId := dash
  revision := 0

/-- Where a reference of its kind may point. -/
def LocalRef.placed (r : LocalRef) : Bool :=
  match r.kind with
  | .absent => false
  | .registration => r.generation = 1 ∧ r.ordinal = 0
  | .state | .commit => r.ordinal = 0
  | .event | .pending | .ack | .capture => 1 ≤ r.ordinal

/-- What a reference of its kind carries besides the digest. -/
def LocalRef.labelled (r : LocalRef) : Bool :=
  match r.kind with
  | .event =>
    1 ≤ r.sequence ∧ identifier r.eventId ∧ digest r.recordSha ∧
      if r.dealId = dash then r.revision = 0 else ticket r.dealId ∧ 1 ≤ r.revision
  | .pending | .ack =>
    1 ≤ r.sequence ∧ r.eventId = dash ∧ r.recordSha = dash ∧ r.dealId = dash ∧ r.revision = 0
  | _ =>
    r.sequence = 0 ∧ r.eventId = dash ∧ r.recordSha = dash ∧ r.dealId = dash ∧ r.revision = 0

def localRefValid (r : LocalRef) : Bool :=
  counter r.generation 1 ∧ counter r.ordinal ∧ digest r.sha ∧ counter r.sequence ∧
    counter r.revision ∧ r.placed ∧ r.labelled

def LocalRef.fields (r : LocalRef) : List Text :=
  [choiceText r.kind, localNumber r.generation, localNumber r.ordinal, r.sha,
    localNumber r.sequence, r.eventId, r.recordSha, r.dealId, localNumber r.revision]

def localRefText (r : LocalRef) : Text :=
  if localRefValid r then [','].intercalate r.fields else []

def localParseRef (text : Text) : Option LocalRef :=
  match text.splitOn ',' with
  | [kind, generation, ordinal, sha, sequence, eventId, recordSha, dealId, revision] => do
    let kind ← choiceOfText RefKind kind
    let generation ← counterFromText generation 1
    let ordinal ← counterFromText ordinal 0
    let sequence ← counterFromText sequence 0
    let revision ← counterFromText revision 0
    let r : LocalRef :=
      ⟨kind, generation, ordinal, sha, sequence, eventId, recordSha, dealId, revision⟩
    if localRefValid r ∧ localRefText r = text then some r else none
  | _ => none

def registrationPath : Text := "registration.rec".toList

def statesDir : Text := "states/".toList

def commitsDir : Text := "commits/".toList

def objectsDir : Text := "objects/".toList

def recordSuffix : Text := ".rec".toList

def statePath (generation : Nat) : Text := statesDir ++ (localNumber generation ++ recordSuffix)

def commitPath (generation : Nat) : Text := commitsDir ++ (localNumber generation ++ recordSuffix)

def objectPath (generation ordinal : Nat) : Text :=
  objectsDir ++ (localNumber generation ++ '-' :: (localNumber ordinal ++ recordSuffix))

def localRefPath (r : LocalRef) : Text :=
  if localRefValid r then
    match r.kind with
    | .registration => registrationPath
    | .state => statePath r.generation
    | .commit => commitPath r.generation
    | _ => objectPath r.generation r.ordinal
  else []

/-- The kind of the record that a reference names. -/
def localEnvelopeKind (kind : RefKind) : Text :=
  match kind with
  | .capture | .state | .commit => checkpointKind
  | kind => if recordKind (choiceText kind) then choiceText kind else []

/-- The payload of the frame that a reference names, if the frame is that one. -/
def localFrameMatches (sha : Sha256) (r : LocalRef) (frame : Bytes) : Option Bytes :=
  if localRefValid r ∧ localHash sha frame = some r.sha then
    match recordDecode sha frame with
    | some (kind, generation, payload) =>
      if kind = localEnvelopeKind r.kind ∧ generation = r.generation then some payload else none
    | none => none
  else none

/-! ## References are read back -/

/-- No comma. -/
def plainChar (ch : Char) : Bool := ch ≠ ','

theorem comma_not_mem_localNumber (value : Nat) : ',' ∉ localNumber value := fun h =>
  absurd (isDigit_of_mem_localNumber h) (by decide)

theorem comma_not_mem_of_digest {text : Text} (h : digest text = true) : ',' ∉ text := by
  simp only [digest, decide_eq_true_eq] at h
  intro hmem
  exact absurd (List.all_eq_true.mp h.2.1 _ hmem) (by decide)

theorem comma_not_mem_of_identifier {text : Text} (h : identifier text = true) : ',' ∉ text := by
  simp only [identifier, decide_eq_true_eq] at h
  intro hmem
  exact absurd (List.all_eq_true.mp h.2.2 _ hmem) (by decide)

theorem comma_not_mem_of_ticket {text : Text} (h : ticket text = true) : ',' ∉ text := by
  simp only [ticket, decide_eq_true_eq] at h
  intro hmem
  exact absurd (List.all_eq_true.mp h.2.2.2.1 _ hmem) (by decide)

theorem comma_not_mem_dash : ',' ∉ dash := by decide

theorem comma_not_mem_kind (kind : RefKind) : ',' ∉ choiceText kind := by
  have hall : ∀ kind ∈ Choice.values (α := RefKind), (choiceText kind).all plainChar = true := by
    decide +kernel
  intro hmem
  exact absurd (List.all_eq_true.mp (hall kind (Choice.complete kind)) _ hmem) (by decide)

theorem comma_not_mem_labels {r : LocalRef} (h : r.labelled = true) :
    ',' ∉ r.eventId ∧ ',' ∉ r.recordSha ∧ ',' ∉ r.dealId := by
  by_cases hevent : r.kind = .event
  · simp only [LocalRef.labelled, hevent, decide_eq_true_eq] at h
    obtain ⟨-, hid, hsha, hdeal⟩ := h
    refine ⟨comma_not_mem_of_identifier hid, comma_not_mem_of_digest hsha, ?_⟩
    by_cases hdash : r.dealId = dash
    · rw [hdash]
      exact comma_not_mem_dash
    · rw [if_neg hdash] at hdeal
      exact comma_not_mem_of_ticket hdeal.1
  · have hdashes : r.eventId = dash ∧ r.recordSha = dash ∧ r.dealId = dash := by
      unfold LocalRef.labelled at h
      split at h
      next hkind => exact absurd hkind hevent
      all_goals
        simp only [decide_eq_true_eq] at h
        exact ⟨h.2.1, h.2.2.1, h.2.2.2.1⟩
    rw [hdashes.1, hdashes.2.1, hdashes.2.2]
    exact ⟨comma_not_mem_dash, comma_not_mem_dash, comma_not_mem_dash⟩

theorem localParseRef_localRefText {r : LocalRef} (h : localRefValid r = true) :
    localParseRef (localRefText r) = some r := by
  have hvalid := h
  simp only [localRefValid, decide_eq_true_eq] at hvalid
  obtain ⟨hgeneration, hordinal, hsha, hsequence, hrevision, -, hlabelled⟩ := hvalid
  obtain ⟨hid, hrecord, hdeal⟩ := comma_not_mem_labels hlabelled
  have hcomma : ∀ field ∈ r.fields, ',' ∉ field := by
    intro field hfield
    simp only [LocalRef.fields, List.mem_cons, List.not_mem_nil, or_false] at hfield
    rcases hfield with rfl | rfl | rfl | rfl | rfl | rfl | rfl | rfl | rfl
    · exact comma_not_mem_kind r.kind
    · exact comma_not_mem_localNumber _
    · exact comma_not_mem_localNumber _
    · exact comma_not_mem_of_digest hsha
    · exact comma_not_mem_localNumber _
    · exact hid
    · exact hrecord
    · exact hdeal
    · exact comma_not_mem_localNumber _
  have htext : localRefText r = [','].intercalate r.fields := if_pos h
  have hsplit : (localRefText r).splitOn ',' = r.fields := by
    rw [htext]
    exact List.splitOn_intercalate ',' hcomma (List.cons_ne_nil _ _)
  rw [localParseRef, hsplit]
  simp only [LocalRef.fields, choiceOfText_choiceText, counterFromText_localNumber hgeneration,
    counterFromText_localNumber hordinal, counterFromText_localNumber hsequence,
    counterFromText_localNumber hrevision, Option.bind_eq_bind, Option.bind_some]
  rw [if_pos ⟨h, trivial⟩]

/-- The text of a reference is that of no other. -/
theorem localRefText_injective {r q : LocalRef} (hr : localRefValid r = true)
    (hq : localRefValid q = true) (h : localRefText r = localRefText q) : r = q := by
  have hparse : some r = some q := by
    rw [← localParseRef_localRefText hr, ← localParseRef_localRefText hq, h]
  exact Option.some.inj hparse

/-! ## States -/

inductive Completeness where
  | notStarted | catchingUp | reconciliationRequired | dataMissing | upToDate
  deriving DecidableEq, Repr

instance : Choice Completeness where
  name
    | .notStarted => "NOT_STARTED"
    | .catchingUp => "CATCHING_UP"
    | .reconciliationRequired => "RECONCILIATION_REQUIRED"
    | .dataMissing => "DATA_MISSING"
    | .upToDate => "UP_TO_DATE"
  values := [.notStarted, .catchingUp, .reconciliationRequired, .dataMissing, .upToDate]
  complete := by rintro ⟨⟩ <;> decide
  distinct := by decide +kernel
  ascii := by rintro ⟨⟩ <;> exact Patterns.ascii_of_all (by decide +kernel)

def localCompleteness (value : Completeness) : Bool := value ≠ .notStarted

/-- The errors that `Tov2LocalError` lets through. -/
inductive LocalError where
  | none | outboxCorrupt | diskFull | unsupportedSchema | ownershipLost | identityMismatch
  | ioError | allocationFailed | counterExhausted | reconciliationRequired | captureFailed
  | historyUnavailable | clockDiscontinuity | unsupportedRecord
  deriving DecidableEq, Repr

instance : Choice LocalError where
  name
    | .none => "NONE"
    | .outboxCorrupt => "OUTBOX_CORRUPT"
    | .diskFull => "DISK_FULL"
    | .unsupportedSchema => "UNSUPPORTED_SCHEMA"
    | .ownershipLost => "OWNERSHIP_LOST"
    | .identityMismatch => "IDENTITY_MISMATCH"
    | .ioError => "IO_ERROR"
    | .allocationFailed => "ALLOCATION_FAILED"
    | .counterExhausted => "COUNTER_EXHAUSTED"
    | .reconciliationRequired => "RECONCILIATION_REQUIRED"
    | .captureFailed => "CAPTURE_FAILED"
    | .historyUnavailable => "HISTORY_UNAVAILABLE"
    | .clockDiscontinuity => "CLOCK_DISCONTINUITY"
    | .unsupportedRecord => "UNSUPPORTED_RECORD"
  values := [.none, .outboxCorrupt, .diskFull, .unsupportedSchema, .ownershipLost,
    .identityMismatch, .ioError, .allocationFailed, .counterExhausted, .reconciliationRequired,
    .captureFailed, .historyUnavailable, .clockDiscontinuity, .unsupportedRecord]
  complete := by rintro ⟨⟩ <;> decide
  distinct := by decide +kernel
  ascii := by rintro ⟨⟩ <;> exact Patterns.ascii_of_all (by decide +kernel)

/-- The `event_count` of the source is the length of the events. -/
structure LocalState where
  generation : Nat
  parentGeneration : Nat
  parentCommit : Text
  identity : Text
  registration : LocalRef
  produced : Nat
  acceptedRequest : Nat
  acceptedEvent : Nat
  capture : LocalRef
  captureSchema : Text
  completeness : Completeness
  pending : LocalRef
  pendingRequest : Nat
  pendingBody : Text
  pendingPrior : Nat
  pendingFinal : Nat
  pendingCount : Nat
  pendingProduced : Nat
  ack : LocalRef
  ackRequest : Nat
  ackBody : Text
  ackPendingSha : Text
  acceptedAt : Nat
  ackEvent : Nat
  lastError : LocalError
  events : List LocalRef
  deriving DecidableEq, Repr

/-- `Tov2LocalClearState`. -/
def LocalState.empty : LocalState where
  generation := 0
  parentGeneration := 0
  parentCommit := dash
  identity := []
  registration := .empty
  produced := 0
  acceptedRequest := 0
  acceptedEvent := 0
  capture := .empty
  captureSchema := []
  completeness := .notStarted
  pending := .empty
  pendingRequest := 0
  pendingBody := dash
  pendingPrior := 0
  pendingFinal := 0
  pendingCount := 0
  pendingProduced := 0
  ack := .empty
  ackRequest := 0
  ackBody := dash
  ackPendingSha := dash
  acceptedAt := 0
  ackEvent := 0
  lastError := .none
  events := []

namespace LocalState

/-- The fields that stand for themselves, and the completeness with its error. -/
def headValid (s : LocalState) : Bool :=
  counter s.generation 1 ∧ counter s.parentGeneration ∧ (localIdentity s.identity).isSome ∧
    localRefValid s.registration ∧ s.registration.kind = .registration ∧
    localRefValid s.capture ∧ s.capture.kind = .capture ∧ s.capture.generation ≤ s.generation ∧
    identifier s.captureSchema ∧ localCompleteness s.completeness ∧
    ¬ (s.completeness = .upToDate ∧ s.lastError ≠ .none) ∧
    ¬ (s.completeness = .dataMissing ∧ s.lastError = .none) ∧
    ¬ (s.completeness = .reconciliationRequired ∧ s.lastError ≠ .reconciliationRequired)

/-- The first generation has no parent and nothing to send. -/
def parentValid (s : LocalState) : Bool :=
  if s.generation = 1 then
    s.parentGeneration = 0 ∧ s.parentCommit = dash ∧ s.produced = 0 ∧ s.acceptedRequest = 0 ∧
      s.acceptedEvent = 0 ∧ s.pending.kind = .absent ∧ s.ack.kind = .absent
  else
    1 ≤ s.parentGeneration ∧ s.parentGeneration < s.generation ∧ digest s.parentCommit

def countersValid (s : LocalState) : Bool :=
  counter s.produced ∧ counter s.acceptedRequest ∧ counter s.acceptedEvent ∧
    s.acceptedEvent ≤ s.produced ∧ s.events.length ≤ maxEvents ∧
    s.produced - s.acceptedEvent = s.events.length

/-- Two retained events are different in place, in id and in what they record of a deal. -/
def eventsDiffer (e f : LocalRef) : Bool :=
  localRefPath e ≠ localRefPath f ∧ e.eventId ≠ f.eventId ∧
    ¬ (e.dealId ≠ dash ∧ e.dealId = f.dealId ∧ e.revision = f.revision)

def eventsValid (s : LocalState) : Bool :=
  s.events.map (·.sequence) = List.range' (s.acceptedEvent + 1) s.events.length ∧
    s.events.all (fun e => localRefValid e ∧ e.kind = .event ∧ e.generation ≤ s.generation ∧
      localRefPath e ≠ localRefPath s.capture ∧ localRefPath e ≠ localRefPath s.pending ∧
      localRefPath e ≠ localRefPath s.ack) ∧
    s.events.Pairwise (fun e f => eventsDiffer e f)

/-- No deal stands twice in the events that a request carries. -/
def dealsDiffer (e f : LocalRef) : Bool := ¬ (e.dealId ≠ dash ∧ e.dealId = f.dealId)

def pendingValid (s : LocalState) : Bool :=
  if s.pending.kind = .absent then
    s.pending = .empty ∧ s.pendingRequest = 0 ∧ s.pendingBody = dash ∧ s.pendingPrior = 0 ∧
      s.pendingFinal = 0 ∧ s.pendingCount = 0 ∧ s.pendingProduced = 0
  else
    localRefValid s.pending ∧ s.pending.kind = .pending ∧ s.pending.generation ≤ s.generation ∧
      s.acceptedRequest ≠ maxCounter ∧ s.pendingRequest = s.acceptedRequest + 1 ∧
      s.pending.sequence = s.pendingRequest ∧ digest s.pendingBody ∧
      s.pendingPrior = s.acceptedEvent ∧ s.pendingCount ≤ maxBatch ∧
      s.pendingCount ≤ s.events.length ∧ s.pendingFinal = s.acceptedEvent + s.pendingCount ∧
      counter s.pendingProduced ∧ s.pendingFinal ≤ s.pendingProduced ∧
      s.pendingProduced ≤ s.produced ∧
      (s.events.take s.pendingCount).Pairwise (fun e f => dealsDiffer e f)

def ackValid (s : LocalState) : Bool :=
  if s.ack.kind = .absent then
    s.ack = .empty ∧ s.acceptedRequest = 0 ∧ s.acceptedEvent = 0 ∧ s.ackRequest = 0 ∧
      s.ackBody = dash ∧ s.ackPendingSha = dash ∧ s.acceptedAt = 0 ∧ s.ackEvent = 0
  else
    localRefValid s.ack ∧ s.ack.kind = .ack ∧ s.ack.generation ≤ s.generation ∧
      s.ackRequest = s.acceptedRequest ∧ s.ack.sequence = s.ackRequest ∧ digest s.ackBody ∧
      digest s.ackPendingSha ∧ counter s.acceptedAt 1 ∧ s.ackEvent = s.acceptedEvent

/-- Complete means that nothing waits; the other records lie apart from each other. -/
def apartValid (s : LocalState) : Bool :=
  ¬ (s.completeness = .upToDate ∧ (s.events ≠ [] ∨ s.pending.kind ≠ .absent)) ∧
    localRefPath s.capture ≠ localRefPath s.pending ∧ localRefPath s.capture ≠ localRefPath s.ack ∧
    ¬ (s.pending.kind ≠ .absent ∧ s.ack.kind ≠ .absent ∧
    localRefPath s.pending = localRefPath s.ack)

end LocalState

def localStateValid (s : LocalState) : Bool :=
  s.headValid ∧ s.parentValid ∧ s.countersValid ∧ s.eventsValid ∧ s.pendingValid ∧ s.ackValid ∧
    s.apartValid

def localOptionalRef (r : LocalRef) : Text := if r = .empty then dash else localRefText r

def parseOptionalRef (text : Text) : Option LocalRef :=
  if text = dash then some .empty else localParseRef text

def stateMagic : Text := "TOV2S1".toList

def LocalState.fields (s : LocalState) : List Text :=
  [stateMagic, localNumber s.generation, localNumber s.parentGeneration, s.parentCommit,
    s.identity, localRefText s.registration, localNumber s.produced,
    localNumber s.acceptedRequest, localNumber s.acceptedEvent, localRefText s.capture,
    s.captureSchema, choiceText s.completeness, localOptionalRef s.pending,
    localNumber s.pendingRequest, s.pendingBody, localNumber s.pendingPrior,
    localNumber s.pendingFinal, localNumber s.pendingCount, localNumber s.pendingProduced,
    localOptionalRef s.ack, localNumber s.ackRequest, s.ackBody, s.ackPendingSha,
    localNumber s.acceptedAt, localNumber s.ackEvent, localNumber s.events.length,
    choiceText s.lastError] ++ s.events.map localRefText

def localStateEncode (s : LocalState) : Option Bytes :=
  if localStateValid s then localLines s.fields else none

/-- The state of the fields, before it is compared with the text. -/
def readState : List Text → Option LocalState
  | magic :: generation :: parentGeneration :: parentCommit :: identity :: registration ::
      produced :: acceptedRequest :: acceptedEvent :: capture :: captureSchema :: completeness ::
      pending :: pendingRequest :: pendingBody :: pendingPrior :: pendingFinal :: pendingCount ::
      pendingProduced :: ack :: ackRequest :: ackBody :: ackPendingSha :: acceptedAt ::
      ackEvent :: eventCount :: lastError :: events => do
    if magic = stateMagic then
      let generation ← counterFromText generation 1
      let parentGeneration ← counterFromText parentGeneration 0
      let registration ← localParseRef registration
      let produced ← counterFromText produced 0
      let acceptedRequest ← counterFromText acceptedRequest 0
      let acceptedEvent ← counterFromText acceptedEvent 0
      let capture ← localParseRef capture
      let completeness ← choiceOfText Completeness completeness
      let pendingRequest ← counterFromText pendingRequest 0
      let pendingPrior ← counterFromText pendingPrior 0
      let pendingFinal ← counterFromText pendingFinal 0
      let pendingCount ← counterFromText pendingCount 0
      let pendingProduced ← counterFromText pendingProduced 0
      let ackRequest ← counterFromText ackRequest 0
      let acceptedAt ← counterFromText acceptedAt 0
      let ackEvent ← counterFromText ackEvent 0
      let eventCount ← counterFromText eventCount 0
      let lastError ← choiceOfText LocalError lastError
      let pending ← parseOptionalRef pending
      let ack ← parseOptionalRef ack
      if pendingCount ≤ maxBatch ∧ eventCount ≤ maxEvents ∧ events.length = eventCount then
        let events ← events.mapM localParseRef
        some { generation, parentGeneration, parentCommit, identity, registration, produced,
               acceptedRequest, acceptedEvent, capture, captureSchema, completeness, pending,
               pendingRequest, pendingBody, pendingPrior, pendingFinal, pendingCount,
               pendingProduced, ack, ackRequest, ackBody, ackPendingSha, acceptedAt, ackEvent,
               lastError, events }
      else none
    else none
  | _ => none

def localStateDecode (payload : Bytes) : Option LocalState := do
  let fields ← splitLines payload
  let s ← readState fields
  if localStateEncode s = some payload then some s else none

/-! ## States are read back -/

theorem localParseRef_dash : localParseRef dash = none := by decide

theorem parseOptionalRef_localOptionalRef {r : LocalRef} (h : r = .empty ∨ localRefValid r = true) :
    parseOptionalRef (localOptionalRef r) = some r := by
  by_cases hempty : r = .empty
  · rw [localOptionalRef, if_pos hempty, parseOptionalRef, if_pos rfl, hempty]
  · have hvalid : localRefValid r = true := h.resolve_left hempty
    have hparse := localParseRef_localRefText hvalid
    have hdash : localRefText r ≠ dash := by
      intro heq
      rw [heq, localParseRef_dash] at hparse
      contradiction
    rw [localOptionalRef, if_neg hempty, parseOptionalRef, if_neg hdash, hparse]

theorem mapM_localParseRef {events : List LocalRef} (h : ∀ e ∈ events, localRefValid e = true) :
    (events.map localRefText).mapM localParseRef = some events := by
  induction events with
  | nil => rfl
  | cons e rest ih =>
    rw [List.map_cons, List.mapM_cons, localParseRef_localRefText (h e List.mem_cons_self),
      ih fun f hf => h f (List.mem_cons_of_mem e hf)]
    rfl

theorem counter_of_le {value bound : Nat} (hbound : counter bound = true) (h : value ≤ bound) :
    counter value = true := by
  simp only [counter, decide_eq_true_eq] at hbound ⊢
  omega

/-- The parts of a valid state. -/
theorem localStateValid_iff {s : LocalState} :
    localStateValid s = true ↔ s.headValid = true ∧ s.parentValid = true ∧
      s.countersValid = true ∧ s.eventsValid = true ∧ s.pendingValid = true ∧
      s.ackValid = true ∧ s.apartValid = true := by
  rw [localStateValid, decide_eq_true_eq]

/-- What the fields of a valid state are read as: its numbers are counters. -/
structure LocalState.Readable (s : LocalState) : Prop where
  generation : counter s.generation 1 = true
  parentGeneration : counter s.parentGeneration = true
  registration : localRefValid s.registration = true
  produced : counter s.produced = true
  acceptedRequest : counter s.acceptedRequest = true
  acceptedEvent : counter s.acceptedEvent = true
  capture : localRefValid s.capture = true
  pending : s.pending = .empty ∨ localRefValid s.pending = true
  pendingRequest : counter s.pendingRequest = true
  pendingPrior : counter s.pendingPrior = true
  pendingFinal : counter s.pendingFinal = true
  pendingCount : s.pendingCount ≤ maxBatch
  pendingProduced : counter s.pendingProduced = true
  ack : s.ack = .empty ∨ localRefValid s.ack = true
  ackRequest : counter s.ackRequest = true
  acceptedAt : counter s.acceptedAt = true
  ackEvent : counter s.ackEvent = true
  count : s.events.length ≤ maxEvents
  events : ∀ e ∈ s.events, localRefValid e = true

theorem readable_of_valid {s : LocalState} (h : localStateValid s = true) : s.Readable := by
  obtain ⟨hhead, -, hcounters, hevents, hpending, hack, -⟩ := localStateValid_iff.mp h
  simp only [LocalState.headValid, decide_eq_true_eq] at hhead
  simp only [LocalState.countersValid, decide_eq_true_eq] at hcounters
  simp only [LocalState.eventsValid, decide_eq_true_eq, List.all_eq_true] at hevents
  have hzero : counter 0 = true := by decide
  have hwaiting : (s.pending = .empty ∨ localRefValid s.pending = true) ∧
      counter s.pendingRequest = true ∧ counter s.pendingPrior = true ∧
      counter s.pendingFinal = true ∧ s.pendingCount ≤ maxBatch ∧
      counter s.pendingProduced = true := by
    rw [LocalState.pendingValid] at hpending
    split at hpending
    next =>
      simp only [decide_eq_true_eq] at hpending
      obtain ⟨hempty, hrequest, -, hprior, hfinal, hcount, hproduced⟩ := hpending
      rw [hrequest, hprior, hfinal, hcount, hproduced]
      exact ⟨.inl hempty, hzero, hzero, hzero, Nat.zero_le _, hzero⟩
    next =>
      simp only [decide_eq_true_eq] at hpending
      obtain ⟨hvalid, -, -, hmax, hrequest, -, -, hprior, hbatch, hcount, hfinal, hproduced, -⟩ :=
        hpending
      have hnext : counter (s.acceptedRequest + 1) = true := by
        have hbound := hcounters.2.1
        simp only [counter, decide_eq_true_eq] at hbound ⊢
        omega
      have hlast : counter (s.acceptedEvent + s.pendingCount) = true :=
        counter_of_le hcounters.1 (by omega)
      rw [hrequest, hprior, hfinal]
      exact ⟨.inr hvalid, hnext, hcounters.2.2.1, hlast, hbatch, hproduced⟩
  have hanswered : (s.ack = .empty ∨ localRefValid s.ack = true) ∧ counter s.ackRequest = true ∧
      counter s.acceptedAt = true ∧ counter s.ackEvent = true := by
    rw [LocalState.ackValid] at hack
    split at hack
    next =>
      simp only [decide_eq_true_eq] at hack
      obtain ⟨hempty, -, -, hrequest, -, -, hat, hevent⟩ := hack
      rw [hrequest, hat, hevent]
      exact ⟨.inl hempty, hzero, hzero, hzero⟩
    next =>
      simp only [decide_eq_true_eq] at hack
      obtain ⟨hvalid, -, -, hrequest, -, -, -, hat, hevent⟩ := hack
      have hat' : counter s.acceptedAt = true := by
        simp only [counter, decide_eq_true_eq] at hat ⊢
        omega
      rw [hrequest, hevent]
      exact ⟨.inr hvalid, hcounters.2.1, hat', hcounters.2.2.1⟩
  exact {
    generation := hhead.1
    parentGeneration := hhead.2.1
    registration := hhead.2.2.2.1
    produced := hcounters.1
    acceptedRequest := hcounters.2.1
    acceptedEvent := hcounters.2.2.1
    capture := hhead.2.2.2.2.2.1
    pending := hwaiting.1
    pendingRequest := hwaiting.2.1
    pendingPrior := hwaiting.2.2.1
    pendingFinal := hwaiting.2.2.2.1
    pendingCount := hwaiting.2.2.2.2.1
    pendingProduced := hwaiting.2.2.2.2.2
    ack := hanswered.1
    ackRequest := hanswered.2.1
    acceptedAt := hanswered.2.2.1
    ackEvent := hanswered.2.2.2
    count := hcounters.2.2.2.2.1
    events := fun e he => (by simpa using hevents.2.1 e he : _ ∧ _).1 }

theorem readState_fields {s : LocalState} (h : s.Readable) : readState s.fields = some s := by
  have hmaxBatch : counter maxBatch = true := by decide
  have hbatch : counter s.pendingCount = true := counter_of_le hmaxBatch h.pendingCount
  have hmaxEvents : counter maxEvents = true := by decide
  have hcount : counter s.events.length = true := counter_of_le hmaxEvents h.count
  simp only [LocalState.fields, List.cons_append, List.nil_append, readState, if_true,
    counterFromText_localNumber h.generation, counterFromText_localNumber h.parentGeneration,
    localParseRef_localRefText h.registration, counterFromText_localNumber h.produced,
    counterFromText_localNumber h.acceptedRequest, counterFromText_localNumber h.acceptedEvent,
    localParseRef_localRefText h.capture, choiceOfText_choiceText,
    counterFromText_localNumber h.pendingRequest, counterFromText_localNumber h.pendingPrior,
    counterFromText_localNumber h.pendingFinal, counterFromText_localNumber hbatch,
    counterFromText_localNumber h.pendingProduced, counterFromText_localNumber h.ackRequest,
    counterFromText_localNumber h.acceptedAt, counterFromText_localNumber h.ackEvent,
    counterFromText_localNumber hcount, parseOptionalRef_localOptionalRef h.pending,
    parseOptionalRef_localOptionalRef h.ack, mapM_localParseRef h.events,
    Option.bind_eq_bind, Option.bind_some, List.length_map, h.pendingCount, h.count, and_self]

/-- A state that was encoded is decoded. -/
theorem localStateDecode_of_encode {s : LocalState} {payload : Bytes}
    (h : localStateEncode s = some payload) : localStateDecode payload = some s := by
  have hencode := h
  rw [localStateEncode] at h
  split at h
  next hvalid =>
    have hlines : splitLines payload = some s.fields :=
      splitLines_of_localLines (List.cons_ne_nil _ _) h
    rw [localStateDecode, hlines, Option.bind_eq_bind, Option.bind_some,
      readState_fields (readable_of_valid hvalid), Option.bind_eq_bind, Option.bind_some,
      if_pos hencode]
  next => contradiction

theorem localStateEncode_of_decode {s : LocalState} {payload : Bytes}
    (h : localStateDecode payload = some s) : localStateEncode s = some payload := by
  simp only [localStateDecode, Option.bind_eq_bind, Option.bind_eq_some_iff] at h
  obtain ⟨fields, -, s', -, h⟩ := h
  split at h
  next hencode =>
    rw [Option.some.injEq] at h
    rw [← h]
    exact hencode
  next => contradiction

theorem valid_of_encode {s : LocalState} {payload : Bytes}
    (h : localStateEncode s = some payload) : localStateValid s = true := by
  rw [localStateEncode] at h
  split at h
  next hvalid => exact hvalid
  next => contradiction

/-! ## Commits -/

inductive Transition where
  | init | append | prepare | ack | replace | checkpoint | diagnostic
  deriving DecidableEq, Repr

instance : Choice Transition where
  name
    | .init => "INIT"
    | .append => "APPEND"
    | .prepare => "PREPARE"
    | .ack => "ACK"
    | .replace => "REPLACE"
    | .checkpoint => "CHECKPOINT"
    | .diagnostic => "DIAGNOSTIC"
  values := [.init, .append, .prepare, .ack, .replace, .checkpoint, .diagnostic]
  complete := by rintro ⟨⟩ <;> decide
  distinct := by decide +kernel
  ascii := by rintro ⟨⟩ <;> exact Patterns.ascii_of_all (by decide +kernel)

structure LocalCommit where
  generation : Nat
  parentGeneration : Nat
  parentSha : Text
  registrationSha : Text
  stateSha : Text
  transition : Transition
  deriving DecidableEq, Repr

def localCommitValid (c : LocalCommit) : Bool :=
  counter c.generation 1 ∧ counter c.parentGeneration ∧ digest c.registrationSha ∧
    digest c.stateSha ∧
    if c.transition = .init then
      c.generation = 1 ∧ c.parentGeneration = 0 ∧ c.parentSha = dash
    else
      1 < c.generation ∧ 1 ≤ c.parentGeneration ∧ c.parentGeneration < c.generation ∧
        digest c.parentSha

def commitMagic : Text := "TOV2C1".toList

def LocalCommit.fields (c : LocalCommit) : List Text :=
  [commitMagic, localNumber c.generation, localNumber c.parentGeneration, c.parentSha,
    c.registrationSha, c.stateSha, choiceText c.transition]

def localCommitEncode (c : LocalCommit) : Option Bytes :=
  if localCommitValid c then localLines c.fields else none

def readCommit : List Text → Option LocalCommit
  | [magic, generation, parentGeneration, parentSha, registrationSha, stateSha, transition] =>
    if magic = commitMagic then do
      let generation ← counterFromText generation 1
      let parentGeneration ← counterFromText parentGeneration 0
      let transition ← choiceOfText Transition transition
      some { generation, parentGeneration, parentSha, registrationSha, stateSha, transition }
    else none
  | _ => none

def localCommitDecode (payload : Bytes) : Option LocalCommit := do
  let fields ← splitLines payload
  let c ← readCommit fields
  if localCommitEncode c = some payload then some c else none

theorem readCommit_fields {c : LocalCommit} (h : localCommitValid c = true) :
    readCommit c.fields = some c := by
  simp only [localCommitValid, decide_eq_true_eq] at h
  simp only [LocalCommit.fields, readCommit, if_true, counterFromText_localNumber h.1,
    counterFromText_localNumber h.2.1, choiceOfText_choiceText, Option.bind_eq_bind,
    Option.bind_some]

/-- A commit that was encoded is decoded. -/
theorem localCommitDecode_of_encode {c : LocalCommit} {payload : Bytes}
    (h : localCommitEncode c = some payload) : localCommitDecode payload = some c := by
  have hencode := h
  rw [localCommitEncode] at h
  split at h
  next hvalid =>
    have hlines : splitLines payload = some c.fields :=
      splitLines_of_localLines (List.cons_ne_nil _ _) h
    rw [localCommitDecode, hlines, Option.bind_eq_bind, Option.bind_some,
      readCommit_fields hvalid, Option.bind_eq_bind, Option.bind_some, if_pos hencode]
  next => contradiction

end TradeOps.Agent
