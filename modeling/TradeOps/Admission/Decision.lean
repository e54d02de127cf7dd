import TradeOps.Admission.Schema
import TradeOps.Entry.DomainV3
import TradeOps.Lib.JsonText

/-!
# The admission decision

Embeds `signal-admission-decision-v1.ts`: the pure preflight that turns a transport, the
registration it was authenticated against and a snapshot of the store into a decision. Numbers are
integers, with the safe-integer test where the source asks for it.

`Codec` holds what the store calls and does not decide: the evidence validator, the registration
reader, `JSON.parse` and SHA-256. Nothing is assumed about them, so the results hold
for every validator, and for every evidence that a validator accepts.
-/

namespace TradeOps.Admission

open SortBy
open SafeIntegers (maxSafeInteger)
open TradeOps.Entry (EntryCandidateV3 EntryCandidateEvidenceV3 isSafeInteger)
open scoped JsString

/-! ## Records -/

structure Freshness where
  maxEventAgeSeconds : Int
  maxObservationAgeSeconds : Int
  futureSkewSeconds : Int
  maxQueueAgeSeconds : Int
  deriving DecidableEq, Repr

structure Registration where
  registrationId : String
  generation : Int
  revision : Int
  scopeKey : String
  producerInstanceId : String
  credentialSha256 : String
  bindingBytes : List UInt8
  activeFrom : Int
  activeUntil : Int
  enabled : Bool
  freshness : Freshness
  deriving DecidableEq, Repr

/-- The fields of a transport that admission reads; its credential and its producer were checked
before. -/
structure Transport where
  registrationId : String
  generation : Int
  evidenceBytes : List UInt8
  sequence : Int
  bodySha256 : String
  deriving DecidableEq, Repr

structure SelectedV1 where
  candidate : EntryCandidateV3
  evidence : EntryCandidateEvidenceV3

/-- An entry of validated evidence: the fields that admission reads, and the whole entry as the JSON
value that the store writes. -/
structure SignalEvidenceEntryV1 where
  attemptKey : String
  formationBodySha256 : String
  evidenceId : String
  evidenceBodySha256 : String
  observedAtEpoch : Int
  selected : Option SelectedV1
  document : Json

structure Codec where
  validateSignalEvidenceV1 : List UInt8 → List UInt8 → Option (List SignalEvidenceEntryV1)
  readRegistration : String → Option Registration
  /-- `JSON.parse` of the decoded bytes of a reviewed binding; it may throw. -/
  parseBinding : List UInt8 → Option Json
  /-- `JSON.parse(scopeKey).producer_namespace`; it may throw. -/
  producerNamespace : String → Option String
  sha256 : String → String
  jsonValid : String → Bool

/-- `hash` of the store: the digest of the canonical text. -/
def Codec.hash (codec : Codec) (value : Json) : String :=
  codec.sha256 (Json.canonical value)

structure AdmissionReceipt where
  id : String
  bodySha256 : String
  outcome : ReceiptOutcome
  code : Option AdmissionCode
  deriving DecidableEq, Repr

structure AttemptFact where
  formationHash : String
  evidenceId : Option String
  evidenceHash : Option String
  triggerEpoch : Option Int
  selectionKey : Option String
  disputed : Bool
  deriving DecidableEq, Repr

structure EvidenceFact where
  attemptKey : String
  evidenceHash : String
  deriving DecidableEq, Repr

/-- The two maps hold, newest first, what was read under each key. -/
structure AdmissionSnapshot where
  state : StreamState
  revision : Int
  nextSequence : Int
  lastAcceptedAt : Option Int
  existingReceipt : Option AdmissionReceipt
  attempts : List (String × AttemptFact)
  evidenceFacts : List (String × EvidenceFact)
  deriving DecidableEq, Repr

/-- `action` and `expiresAt` of the source: an expiry is there exactly for `NEW`. -/
inductive EntryAction where
  | new (expiresAt : Int)
  | auditOnly
  | noCandidate
  deriving DecidableEq, Repr

structure AdmissionEntryDecision where
  entry : SignalEvidenceEntryV1
  action : EntryAction
  selectionKey : Option String

inductive AdmissionDecision where
  | duplicate (receipt : AdmissionReceipt) (streamState : StreamState)
  | blocked
  | quarantine (code : AdmissionCode) (disputedAttemptKeys : List String)
  | commit (entries : List AdmissionEntryDecision)

/-! ## Selection keys -/

/-- The evidence record with all its fields. -/
def evidenceFields (evidence : EntryCandidateEvidenceV3) : List (String × Json) :=
  (match evidence.toEvidencePayloadFields.toJson with
    | .obj fields => fields
    | _ => []) ++
  ([("evidence_id", .str evidence.evidenceId), ("payload_sha256", .str evidence.payloadSha256),
    ("observed_at_epoch", .num evidence.observedAtEpoch)] : List (String × Json))

/-- The fields that a later observation of the same trigger may refresh. -/
def refreshed : List String :=
  ["candidate_id", "evidence_id", "payload_sha256", "observed_at_epoch", "coverage_start_epoch",
    "coverage_end_epoch", "trigger_sequence", "source_claim_ids"]

def selectionKey (entry : SignalEvidenceEntryV1) : Option String :=
  entry.selected.map fun ⟨candidate, evidence⟩ =>
    Json.canonical (.obj [
      ("model", .str candidate.model.name),
      ("direction", .str candidate.direction.name),
      ("boc_tier", .ofOption (.str ·.name) candidate.bocTier),
      ("event_anchor_epoch", .num candidate.eventAnchorEpoch),
      ("reference_candle_open_epoch", .ofOption .num candidate.referenceCandleOpenEpoch),
      ("evidence", .obj ((evidenceFields evidence).filter (·.1 ∉ refreshed)))])

/-! ## The decision -/

def epoch (value : Int) : Bool := isSafeInteger value ∧ 0 ≤ value

def deadline (at_ duration : Int) : Option Int :=
  if !epoch at_ || !epoch duration || at_ > maxSafeInteger - duration then none
  else some (at_ + duration)

/-- The trigger of an entry's selected evidence. -/
def SignalEvidenceEntryV1.triggerAt (entry : SignalEvidenceEntryV1) : Option Int :=
  entry.selected.bind (·.evidence.observedTriggerEpoch)

/-- An entry contradicts what the store already holds about its evidence or its attempt. -/
def conflicting (entry : SignalEvidenceEntryV1) (selection : Option String) (seen : List String)
    (attempt : Option AttemptFact) (fact : Option EvidenceFact) : Bool :=
  entry.attemptKey ∈ seen ||
  (fact.any fun f => f.attemptKey ≠ entry.attemptKey ||
    f.evidenceHash ≠ entry.evidenceBodySha256) ||
  attempt.any fun a => a.disputed || a.formationHash ≠ entry.formationBodySha256 ||
    (a.evidenceId = some entry.evidenceId && a.evidenceHash ≠ some entry.evidenceBodySha256) ||
    match entry.triggerAt, a.triggerEpoch with
    | some triggerAt, some triggerEpoch =>
      triggerAt < triggerEpoch || (triggerAt = triggerEpoch && selection ≠ a.selectionKey)
    | _, _ => false

section Evaluate

variable (codec : Codec) (t : Transport) (r : Registration) (snapshot : AdmissionSnapshot)
  (now : Int)

/-- What an entry that has passed its freshness checks is admitted as. -/
def entryAction (entry : SignalEvidenceEntryV1) (expiresAt : Int) : EntryAction :=
  if entry.selected.isNone then .noCandidate
  else if ((snapshot.attempts.lookup entry.attemptKey).bind (·.evidenceId)).isSome then .auditOnly
  else .new expiresAt

/-- The loop over the entries of validated evidence, with the limits computed before it. -/
def evaluateEntries (futureLimit queueLimit : Int) :
    List SignalEvidenceEntryV1 → List AdmissionEntryDecision → List String → List String →
      AdmissionDecision
  | [], entries, _, conflicts =>
    if conflicts.isEmpty then .commit entries
    else .quarantine .attemptConflict (sortBy id conflicts)
  | entry :: rest, entries, seen, conflicts =>
    if !epoch entry.observedAtEpoch || (entry.selected.isSome && !entry.triggerAt.any epoch) then
      .quarantine .invalidEvidence []
    else
      match deadline entry.observedAtEpoch r.freshness.maxObservationAgeSeconds,
          (match entry.triggerAt with
            | none => some r.activeUntil
            | some triggerAt => deadline triggerAt r.freshness.maxEventAgeSeconds) with
      | some observationLimit, some eventLimit =>
        if entry.observedAtEpoch > futureLimit || entry.triggerAt.any (· > futureLimit) then
          .quarantine .future []
        else
          let expiresAt := min (min (min observationLimit eventLimit) queueLimit) r.activeUntil
          if now ≥ expiresAt then .quarantine .stale []
          else
            let selection := selectionKey entry
            let conflicts' :=
              if conflicting entry selection seen (snapshot.attempts.lookup entry.attemptKey)
                  (snapshot.evidenceFacts.lookup entry.evidenceId) then
                conflicts.insert entry.attemptKey
              else conflicts
            evaluateEntries futureLimit queueLimit rest
              (entries ++ [⟨entry, entryAction snapshot entry expiresAt, selection⟩])
              (entry.attemptKey :: seen) conflicts'
      | _, _ => .quarantine .invalidEvidence []

def evaluateAdmission : AdmissionDecision :=
  match snapshot.existingReceipt with
  | some prior =>
    if prior.bodySha256 = t.bodySha256 then .duplicate prior snapshot.state
    else .quarantine .bodyConflict []
  | none =>
    if snapshot.state ≠ .active ∨ snapshot.revision ≠ r.revision then .blocked
    else if ¬ isSafeInteger t.sequence ∨ t.sequence ≤ 0 ∨ t.sequence = maxSafeInteger ∨
        ¬ isSafeInteger snapshot.nextSequence ∨ snapshot.nextSequence ≤ 0 then
      .quarantine .invalidEvidence []
    else if t.sequence ≠ snapshot.nextSequence then
      .quarantine (if t.sequence > snapshot.nextSequence then .sequenceGap else .unknownOldSequence)
        []
    else if !epoch now || snapshot.lastAcceptedAt.any (!epoch ·) then
      .quarantine .invalidEvidence []
    else if snapshot.lastAcceptedAt.any (now < ·) then .quarantine .clockRegression []
    else if !([r.freshness.maxEventAgeSeconds, r.freshness.maxObservationAgeSeconds,
          r.freshness.maxQueueAgeSeconds].all fun n => epoch n && 0 < n) ||
        !epoch r.freshness.futureSkewSeconds || !epoch r.activeUntil then
      .quarantine .invalidEvidence []
    else
      match deadline now r.freshness.futureSkewSeconds,
          deadline now r.freshness.maxQueueAgeSeconds with
      | some futureLimit, some queueLimit =>
        match codec.validateSignalEvidenceV1 t.evidenceBytes r.bindingBytes with
        | none | some [] => .quarantine .invalidEvidence []
        | some (entry :: rest) =>
          evaluateEntries r snapshot now futureLimit queueLimit (entry :: rest) [] [] []
      | _, _ => .quarantine .invalidEvidence []

end Evaluate

/-! ## What a decision says about the snapshot -/

variable {codec : Codec} {t : Transport} {r : Registration} {snapshot : AdmissionSnapshot}
  {now : Int}

/-- A committed entry agrees with the evidence already stored under its id. -/
def EvidenceAgrees (snapshot : AdmissionSnapshot) (entry : SignalEvidenceEntryV1) : Prop :=
  ∀ fact, snapshot.evidenceFacts.lookup entry.evidenceId = some fact →
    fact.attemptKey = entry.attemptKey ∧ fact.evidenceHash = entry.evidenceBodySha256

theorem evidenceAgrees_of_not_conflicting {entry : SignalEvidenceEntryV1}
    {selection : Option String} {seen : List String} {attempt : Option AttemptFact}
    (h : conflicting entry selection seen attempt
      (snapshot.evidenceFacts.lookup entry.evidenceId) = false) :
    EvidenceAgrees snapshot entry := by
  intro fact hfact
  simp only [conflicting, hfact, Bool.or_eq_false_iff, Option.any_some, decide_eq_false_iff_not,
    not_not] at h
  exact h.1.2

theorem evaluateEntries_commit {futureLimit queueLimit : Int}
    {pending : List SignalEvidenceEntryV1} {entries decided : List AdmissionEntryDecision}
    {seen conflicts : List String}
    (h : evaluateEntries r snapshot now futureLimit queueLimit pending entries seen conflicts =
      .commit decided)
    (hagree : conflicts = [] → ∀ d ∈ entries, EvidenceAgrees snapshot d.entry) :
    conflicts = [] ∧ ∀ d ∈ decided, EvidenceAgrees snapshot d.entry := by
  induction pending generalizing entries seen conflicts with
  | nil =>
    simp only [evaluateEntries] at h
    split at h
    · rename_i hnone
      cases h
      rw [List.isEmpty_iff] at hnone
      exact ⟨hnone, hagree hnone⟩
    · cases h
  | cons entry rest ih =>
    simp only [evaluateEntries] at h
    split at h
    · cases h
    split at h
    · split at h
      · cases h
      split at h
      · cases h
      split at h
      · rename_i hconflict
        obtain ⟨hnil, -⟩ := ih h (fun hnil => absurd hnil (by
          intro habs
          have hmem : entry.attemptKey ∈ conflicts.insert entry.attemptKey :=
            List.mem_insert_self
          rw [habs] at hmem
          cases hmem))
        have hmem : entry.attemptKey ∈ conflicts.insert entry.attemptKey := List.mem_insert_self
        rw [hnil] at hmem
        cases hmem
      · rename_i hconflict
        refine ih h fun hnil d hd => ?_
        rcases List.mem_append.1 hd with hd | hd
        · exact hagree hnil d hd
        · rw [List.mem_singleton] at hd
          rw [hd]
          exact evidenceAgrees_of_not_conflicting (by simpa using hconflict)
    · cases h

/-- A commit follows the stream: it is active, at the registration's revision, and the transport
carries its next sequence. -/
theorem evaluateAdmission_commit {decided : List AdmissionEntryDecision}
    (h : evaluateAdmission codec t r snapshot now = .commit decided) :
    snapshot.existingReceipt = none ∧ snapshot.state = .active ∧
      t.sequence = snapshot.nextSequence ∧
      ∀ d ∈ decided, EvidenceAgrees snapshot d.entry := by
  unfold evaluateAdmission at h
  split at h
  · split at h <;> cases h
  · rename_i hnone
    split at h
    · cases h
    rename_i hactive
    split at h
    · cases h
    split at h
    · cases h
    rename_i hsequence
    split at h
    · cases h
    split at h
    · cases h
    split at h
    · cases h
    split at h
    · split at h
      · cases h
      · cases h
      · push Not at hactive hsequence
        exact ⟨hnone, hactive.1, hsequence, (evaluateEntries_commit h (by simp)).2⟩
    · cases h

end TradeOps.Admission
