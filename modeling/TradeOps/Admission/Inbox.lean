import TradeOps.Admission.Leases

/-!
# The signal evidence inbox

Embeds the request handler of `signal-evidence-inbox-v1.ts` in the execution edge and the table of
`0005_signal_evidence_inbox_v1.sql`. A request looks its delivery up, inserts it unless a row is in
the way, and then compares digests with the row that was; other requests run between any two of
these queries. The triggers of the table refuse every update and every delete, so the table is only
ever appended to.

`decodeSignalDeliveryV1` is a parameter; nothing is assumed about what it accepts. A response
carries its JSON value.
-/

namespace TradeOps.Admission

open Tables Keyed
open SafeIntegers (maxSafeInteger)
open TradeOps.Entry (isSafeInteger sha256Text)
open scoped JsString

/-- The fields of a decoded delivery that the handler reads, and the whole delivery. -/
structure SignalDeliveryV1 where
  deliveryId : String
  producerNamespace : String
  attemptKey : String
  deliveryBodySha256 : String
  receiptId : String
  evidenceId : String
  evidenceBodySha256 : String
  registrationId : String
  generation : Int
  admittedAtEpoch : Int
  expiresAtEpoch : Int
  document : Json

/-- A row of `signal_evidence_inbox_v1`, without its two constant columns. -/
structure InboxRow where
  deliveryId : String
  namespace_ : String
  attemptKey : String
  deliveryBodySha256 : String
  receiptId : String
  evidenceId : String
  evidenceBodySha256 : String
  registrationId : String
  generation : Int
  admittedAtEpoch : Int
  expiresAtEpoch : Int
  receivedAtEpoch : Int
  body : String
  deriving DecidableEq, Repr

def InboxRow.attempt (row : InboxRow) : String × String := (row.namespace_, row.attemptKey)

/-- `length(text) BETWEEN 1 AND 160`. -/
def isShortText (text : String) : Bool := 1 ≤ text.length ∧ text.length ≤ 160

def InboxRow.check (jsonValid : String → Bool) (row : InboxRow) : Bool :=
  sha256Text row.deliveryId && isShortText row.namespace_ && sha256Text row.attemptKey &&
    sha256Text row.deliveryBodySha256 && sha256Text row.receiptId && sha256Text row.evidenceId &&
    sha256Text row.evidenceBodySha256 && isShortText row.registrationId &&
    isOrdinal row.generation && isStoredEpoch row.admittedAtEpoch &&
    isStoredEpoch row.expiresAtEpoch && decide (row.admittedAtEpoch < row.expiresAtEpoch) &&
    decide (row.admittedAtEpoch ≤ row.receivedAtEpoch ∧ row.receivedAtEpoch ≤ maxSafeInteger ∧
      row.receivedAtEpoch < row.expiresAtEpoch) &&
    decide (1 ≤ row.body.utf8ByteSize ∧ row.body.utf8ByteSize ≤ 278528) && jsonValid row.body

def SignalDeliveryV1.row (body : SignalDeliveryV1) (now : Int) : InboxRow where
  deliveryId := body.deliveryId
  namespace_ := body.producerNamespace
  attemptKey := body.attemptKey
  deliveryBodySha256 := body.deliveryBodySha256
  receiptId := body.receiptId
  evidenceId := body.evidenceId
  evidenceBodySha256 := body.evidenceBodySha256
  registrationId := body.registrationId
  generation := body.generation
  admittedAtEpoch := body.admittedAtEpoch
  expiresAtEpoch := body.expiresAtEpoch
  receivedAtEpoch := now
  body := body.document.canonical

/-! ## Responses -/

structure Response where
  status : Nat
  redirected : Bool
  body : Json

inductive AckStatus where
  | stored | duplicate
  deriving DecidableEq, Repr

def AckStatus.name : AckStatus → String
  | .stored => "STORED"
  | .duplicate => "DUPLICATE"

def AckStatus.code : AckStatus → Nat
  | .stored => 201
  | .duplicate => 200

def failure (error : String) (status : Nat) : Response :=
  ⟨status, false, .obj [("authority", .str "EVIDENCE_ONLY"), ("execution_allowed", .bool false),
    ("error", .str error)]⟩

def ack (body : SignalDeliveryV1) (status : AckStatus) : Response :=
  ⟨status.code, false, .obj [("schema_version", .str "TradeOpsSignalDeliveryAckV1"),
    ("authority", .str "EVIDENCE_ONLY"), ("execution_allowed", .bool false),
    ("delivery_id", .str body.deliveryId),
    ("delivery_body_sha256", .str body.deliveryBodySha256), ("status", .str status.name)]⟩

/-! ## The handler -/

/-- What a request shows to the checks before the body is decoded. -/
structure InboxRequest where
  enabled : Bool
  post : Bool
  authenticated : Bool
  jsonContent : Bool
  bytes : String
  now : Int
  deriving DecidableEq, Repr

inductive DecodeError where
  | tooLarge | invalid
  deriving DecidableEq, Repr

inductive HandlerPhase where
  | received
  | lookup (body : SignalDeliveryV1)
  | insert (body : SignalDeliveryV1)
  | winner (body : SignalDeliveryV1)
  | answered (body : Option SignalDeliveryV1) (response : Response)

structure Handler where
  request : InboxRequest
  phase : HandlerPhase

section Handle

variable (decodeSignalDeliveryV1 : String → Except DecodeError SignalDeliveryV1)
  (jsonValid : String → Bool) (inbox : List InboxRow)

/-- The checks that need no database. -/
def receive (request : InboxRequest) : HandlerPhase :=
  if !request.enabled then .answered none (failure "NOT_FOUND" 404)
  else if !request.post then .answered none (failure "METHOD_NOT_ALLOWED" 405)
  else if !request.authenticated then .answered none (failure "UNAUTHORIZED" 401)
  else if !request.jsonContent then .answered none (failure "INVALID_DELIVERY" 415)
  else
    match decodeSignalDeliveryV1 request.bytes with
    | .error .tooLarge => .answered none (failure "INVALID_DELIVERY" 413)
    | .error .invalid => .answered none (failure "INVALID_DELIVERY" 422)
    | .ok body =>
      if ¬ isSafeInteger request.now ∨ request.now < 0 then
        .answered (some body) (failure "UNAVAILABLE" 503)
      else .lookup body

def lookupDelivery (now : Int) (body : SignalDeliveryV1) : HandlerPhase :=
  match inbox.find? fun row => row.deliveryId = body.deliveryId with
  | some existing =>
    if existing.deliveryBodySha256 = body.deliveryBodySha256 then
      .answered (some body) (ack body .duplicate)
    else .answered (some body) (failure "CONFLICT" 409)
  | none =>
    if now < body.admittedAtEpoch ∨ now ≥ body.expiresAtEpoch then
      .answered (some body) (failure "EXPIRED" 422)
    else .insert body

/-- `INSERT … ON CONFLICT DO NOTHING`: a constraint other than uniqueness throws. -/
def insertDelivery (now : Int) (body : SignalDeliveryV1) : List InboxRow × HandlerPhase :=
  if !(body.row now).check jsonValid then
    (inbox, .answered (some body) (failure "UNAVAILABLE" 503))
  else if inbox.any fun row => row.deliveryId = body.deliveryId ||
      row.attempt = (body.row now).attempt then
    (inbox, .winner body)
  else (inbox ++ [body.row now], .answered (some body) (ack body .stored))

def compareWinner (body : SignalDeliveryV1) : HandlerPhase :=
  match inbox.find? fun row => row.attempt = (body.producerNamespace, body.attemptKey) with
  | some winner =>
    if winner.deliveryId = body.deliveryId ∧
        winner.deliveryBodySha256 = body.deliveryBodySha256 then
      .answered (some body) (ack body .duplicate)
    else .answered (some body) (failure "CONFLICT" 409)
  | none => .answered (some body) (failure "UNAVAILABLE" 503)

/-- One query of `handleSignalEvidenceInbox`. -/
def Handler.advance (h : Handler) : List InboxRow × Handler :=
  match h.phase with
  | .received => (inbox, { h with phase := receive decodeSignalDeliveryV1 h.request })
  | .lookup body => (inbox, { h with phase := lookupDelivery inbox h.request.now body })
  | .insert body =>
    ((insertDelivery jsonValid inbox h.request.now body).1,
      { h with phase := (insertDelivery jsonValid inbox h.request.now body).2 })
  | .winner body => (inbox, { h with phase := compareWinner inbox body })
  | .answered _ _ => (inbox, h)

/-- A query that throws is answered as unavailable. -/
def Handler.fault (h : Handler) : Handler :=
  match h.phase with
  | .lookup body | .insert body | .winner body =>
    { h with phase := .answered (some body) (failure "UNAVAILABLE" 503) }
  | _ => h

end Handle

/-! ## What an answer means -/

/-- The inbox holds a delivery with this digest. -/
def Stored (inbox : List InboxRow) (deliveryId digest : String) : Prop :=
  ∃ row ∈ inbox, row.deliveryId = deliveryId ∧ row.deliveryBodySha256 = digest

/-- The two uniqueness constraints of the inbox. -/
structure InboxKeys (inbox : List InboxRow) : Prop where
  ids : KeysNodup (·.deliveryId) inbox
  attempts : KeysNodup (·.attempt) inbox

/-- A phase is sound for an inbox: the delivery is the decoded request, and an acknowledgement means
that the delivery is stored with its digest. -/
def HandlerPhase.Sound (decode : String → Except DecodeError SignalDeliveryV1) (bytes : String)
    (inbox : List InboxRow) : HandlerPhase → Prop
  | .received => True
  | .lookup body | .insert body | .winner body => decode bytes = .ok body
  | .answered none response => ∃ error status, response = failure error status
  | .answered (some body) response => decode bytes = .ok body ∧
      ((∃ error status, response = failure error status) ∨
        ((∃ status, response = ack body status) ∧
          Stored inbox body.deliveryId body.deliveryBodySha256))

section Sound

variable {decode : String → Except DecodeError SignalDeliveryV1} {jsonValid : String → Bool}
  {inbox inbox' : List InboxRow} {h : Handler} {body : SignalDeliveryV1} {now : Int}
  {bytes : String}

theorem Stored.mono {deliveryId digest : String} (hsub : inbox ⊆ inbox')
    (hstored : Stored inbox deliveryId digest) : Stored inbox' deliveryId digest := by
  obtain ⟨row, hrow, hsame⟩ := hstored
  exact ⟨row, hsub hrow, hsame⟩

theorem HandlerPhase.Sound.mono {phase : HandlerPhase} (hsub : inbox ⊆ inbox')
    (hp : phase.Sound decode bytes inbox) : phase.Sound decode bytes inbox' := by
  cases phase with
  | answered body response =>
    cases body with
    | none => exact hp
    | some body =>
      refine ⟨hp.1, hp.2.imp_right fun hack => ?_⟩
      exact ⟨hack.1, hack.2.mono hsub⟩
  | _ => exact hp

theorem receive_sound {request : InboxRequest} :
    (receive decode request).Sound decode request.bytes inbox := by
  unfold receive
  split
  · exact ⟨_, _, rfl⟩
  split
  · exact ⟨_, _, rfl⟩
  split
  · exact ⟨_, _, rfl⟩
  split
  · exact ⟨_, _, rfl⟩
  split
  · exact ⟨_, _, rfl⟩
  · exact ⟨_, _, rfl⟩
  · rename_i body hdecode
    split
    · exact ⟨hdecode, .inl ⟨_, _, rfl⟩⟩
    · exact hdecode

theorem lookupDelivery_sound (hdecode : decode bytes = .ok body) :
    (lookupDelivery inbox now body).Sound decode bytes inbox := by
  unfold lookupDelivery
  split
  · rename_i existing hfind
    split
    · rename_i hdigest
      have hid := List.find?_some hfind
      exact ⟨hdecode, .inr ⟨⟨_, rfl⟩, existing, List.mem_of_find?_eq_some hfind,
        by simpa using hid, hdigest⟩⟩
    · exact ⟨hdecode, .inl ⟨_, _, rfl⟩⟩
  · split
    · exact ⟨hdecode, .inl ⟨_, _, rfl⟩⟩
    · exact hdecode

theorem insertDelivery_sound (hdecode : decode bytes = .ok body) :
    (insertDelivery jsonValid inbox now body).2.Sound decode bytes
      (insertDelivery jsonValid inbox now body).1 := by
  unfold insertDelivery
  split
  · exact ⟨hdecode, .inl ⟨_, _, rfl⟩⟩
  split
  · exact hdecode
  · exact ⟨hdecode, .inr ⟨⟨_, rfl⟩, _, List.mem_append_right _ List.mem_cons_self, rfl, rfl⟩⟩

theorem compareWinner_sound (hdecode : decode bytes = .ok body) :
    (compareWinner inbox body).Sound decode bytes inbox := by
  unfold compareWinner
  split
  · rename_i winner hfind
    split
    · rename_i hsame
      exact ⟨hdecode, .inr ⟨⟨_, rfl⟩, winner, List.mem_of_find?_eq_some hfind, hsame⟩⟩
    · exact ⟨hdecode, .inl ⟨_, _, rfl⟩⟩
  · exact ⟨hdecode, .inl ⟨_, _, rfl⟩⟩

theorem Handler.advance_sound (hs : h.phase.Sound decode h.request.bytes inbox) :
    (h.advance decode jsonValid inbox).2.phase.Sound decode h.request.bytes
      (h.advance decode jsonValid inbox).1 := by
  unfold Handler.advance
  split
  · exact receive_sound
  · rename_i body hphase
    rw [hphase] at hs
    exact lookupDelivery_sound hs
  · rename_i body hphase
    rw [hphase] at hs
    exact insertDelivery_sound hs
  · rename_i body hphase
    rw [hphase] at hs
    exact compareWinner_sound hs
  · exact hs

theorem Handler.fault_sound (hs : h.phase.Sound decode h.request.bytes inbox) :
    h.fault.phase.Sound decode h.request.bytes inbox := by
  unfold Handler.fault
  split
  · rename_i hphase
    rw [hphase] at hs
    exact ⟨hs, .inl ⟨_, _, rfl⟩⟩
  · rename_i hphase
    rw [hphase] at hs
    exact ⟨hs, .inl ⟨_, _, rfl⟩⟩
  · rename_i hphase
    rw [hphase] at hs
    exact ⟨hs, .inl ⟨_, _, rfl⟩⟩
  · exact hs

theorem Handler.advance_request :
    (h.advance decode jsonValid inbox).2.request = h.request := by
  unfold Handler.advance
  split <;> rfl

theorem Handler.fault_request : h.fault.request = h.request := by
  unfold Handler.fault
  split <;> rfl

/-- The inbox stays, or gains one row that no constraint forbids. -/
theorem Handler.advance_inbox (decode : String → Except DecodeError SignalDeliveryV1)
    (jsonValid : String → Bool) (inbox : List InboxRow) (h : Handler) :
    (h.advance decode jsonValid inbox).1 = inbox ∨
      ∃ row, (h.advance decode jsonValid inbox).1 = inbox ++ [row] ∧
        ∀ row' ∈ inbox, row'.deliveryId ≠ row.deliveryId ∧ row'.attempt ≠ row.attempt := by
  unfold Handler.advance
  split
  · exact .inl rfl
  · exact .inl rfl
  · unfold insertDelivery
    split
    · exact .inl rfl
    split
    · exact .inl rfl
    · rename_i hfree
      refine .inr ⟨_, rfl, fun row' hrow' => ?_⟩
      simp only [List.any_eq_true, Bool.or_eq_true, decide_eq_true_eq, not_exists, not_and,
        not_or] at hfree
      exact hfree row' hrow'
  · exact .inl rfl
  · exact .inl rfl

theorem InboxKeys.advance (hk : InboxKeys inbox) :
    InboxKeys (h.advance decode jsonValid inbox).1 := by
  rcases Handler.advance_inbox decode jsonValid inbox h with heq | ⟨row, heq, hfree⟩
  · rw [heq]
    exact hk
  · rw [heq]
    exact ⟨keysNodup_append hk.ids fun row' hrow' => (hfree row' hrow').1,
      keysNodup_append hk.attempts fun row' hrow' => (hfree row' hrow').2⟩

theorem Handler.advance_subset : inbox ⊆ (h.advance decode jsonValid inbox).1 := by
  rcases Handler.advance_inbox decode jsonValid inbox h with heq | ⟨row, heq, -⟩
  · rw [heq]
    exact List.Subset.refl _
  · rw [heq]
    exact List.subset_append_left _ _

end Sound

end TradeOps.Admission
