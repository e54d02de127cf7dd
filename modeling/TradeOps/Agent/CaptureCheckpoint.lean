import TradeOps.Agent.CaptureJson

/-!
# Capture checkpoints

Embeds the checkpoint part of `TradeOpsCaptureStateCodec.mqh`: what the collector knows between two
polls, as a row of net strings, each with its length in bytes in front. A checkpoint that encodes is
read back field by field, and a payload is accepted only if it is the encoding of what was read.

The rows of a checkpoint are lists, as long as the counts of the source. The quarantine fields are
written only when the flag is set.
-/

namespace TradeOps.Agent

open Reader

def captureRevisionsMax : Nat := 1024

def captureQueueMax : Nat := 512

structure CaptureRevision where
  ticket : Text
  revision : Nat
  recordSha : Text
  contentSha : Text
  brokerMsc : Nat
  deriving DecidableEq

structure CaptureQueued where
  sequence : Nat
  observedUtc : Nat
  eventId : Text
  recordSha : Text
  deriving DecidableEq

structure CaptureProtectionIndex where
  positionId : Text
  contentSha : Text
  deriving DecidableEq

structure CaptureCheckpoint where
  identity : Text
  registrationSha : Text
  startMsc : Nat
  initializedUtc : Nat
  currencyScale : Nat
  produced : Nat
  forwardStart : Nat
  forwardEnd : Nat
  rotationStart : Nat
  rotationEnd : Nat
  watermark : Nat
  scanFinished : Bool
  recordGap : Text
  observationGap : Bool
  previousUtc : Nat
  previousBroker : Nat
  brokerAnchorUtc : Nat
  reconcile : Bool
  rotateNext : Bool
  accountJson : Text
  attemptStatus : Text
  attemptUtc : Nat
  attemptBroker : Nat
  positionCount : Int
  orderCount : Int
  lastCompleteJson : Text
  revisions : List CaptureRevision
  queued : List CaptureQueued
  protections : List CaptureProtectionIndex
  quarantine : Bool
  quarantineTicket : Text
  quarantineMsc : Nat
  quarantineType : Nat
  quarantineReason : Nat
  deriving DecidableEq

/-! ## Checks -/

def captureGaps : List String :=
  ["HISTORY_UNAVAILABLE", "CLOCK_DISCONTINUITY", "OUTBOX_CORRUPT", "CAPTURE_FAILED",
    "UNSUPPORTED_RECORD"]

def captureGap (gap : Text) : Bool := gap = dash ∨ captureChoice gap captureGaps

/-- The exposure of the last attempt. -/
def CaptureCheckpoint.attempt (c : CaptureCheckpoint) (last : CaptureExposure) :
    CaptureExposure where
  status := c.attemptStatus
  observedAtUtcSeconds := c.attemptUtc
  observedAtBrokerMsc := c.attemptBroker
  positionCount := c.positionCount
  orderCount := c.orderCount
  positions := if c.attemptStatus = complete then last.positions else []
  orders := if c.attemptStatus = complete then last.orders else []

def CaptureCheckpoint.revisionValid (c : CaptureCheckpoint) (row : CaptureRevision) : Bool :=
  ticket row.ticket ∧ counter row.revision 1 ∧ digest row.recordSha ∧ digest row.contentSha ∧
    counter row.brokerMsc c.startMsc

def CaptureCheckpoint.queuedValid (c : CaptureCheckpoint) (row : CaptureQueued) : Bool :=
  counter row.sequence 1 ∧ row.sequence ≤ c.produced ∧ counter row.observedUtc c.initializedUtc ∧
    identifier row.eventId ∧ digest row.recordSha

def protectionValid (row : CaptureProtectionIndex) : Bool :=
  ticket row.positionId ∧ digest row.contentSha

/-- The fields before the values. -/
def CaptureCheckpoint.scalarsValid (c : CaptureCheckpoint) : Bool :=
  (localIdentity c.identity).isSome ∧ digest c.registrationSha ∧ counter c.startMsc 1 ∧
    c.startMsc ≤ 9007199254739991 ∧ c.startMsc % 1000 = 0 ∧ counter c.initializedUtc 1 ∧
    c.currencyScale ≤ 16 ∧ counter c.produced ∧ counter c.forwardStart c.startMsc ∧
    counter c.forwardEnd c.forwardStart ∧ counter c.rotationStart c.startMsc ∧
    counter c.rotationEnd c.rotationStart ∧ counter c.watermark ∧
    ¬ (0 < c.watermark ∧ c.watermark < c.startMsc) ∧
    ¬ (c.scanFinished = true ∧ c.watermark = 0) ∧
    ¬ (c.reconcile = true ∧ (c.watermark ≠ 0 ∨ c.scanFinished = true)) ∧ captureGap c.recordGap ∧
    counter c.previousUtc 1 ∧ counter c.previousBroker 1 ∧ counter c.brokerAnchorUtc 1 ∧
    c.brokerAnchorUtc ≤ c.previousUtc ∧ c.revisions.length ≤ captureRevisionsMax ∧
    c.queued.length ≤ captureQueueMax ∧ c.protections.length ≤ positionsMax

/-- The account and the exposures. -/
def CaptureCheckpoint.valuesValid (c : CaptureCheckpoint) : Bool :=
  match captureDecodeAccount c.accountJson c.currencyScale,
    captureDecodeExposure c.lastCompleteJson c.currencyScale with
  | some account, some last =>
    last.status = complete ∧ c.initializedUtc ≤ account.observedAtUtcSeconds ∧
      c.initializedUtc ≤ last.observedAtUtcSeconds ∧ c.startMsc ≤ last.observedAtBrokerMsc ∧
      c.watermark ≤ max account.observedAtBrokerMsc c.attemptBroker ∧
      captureExposureValid (c.attempt last) c.currencyScale ∧ c.initializedUtc ≤ c.attemptUtc ∧
      ¬ (c.attemptStatus = complete ∧ (c.attemptUtc ≠ last.observedAtUtcSeconds ∨
        c.attemptBroker ≠ last.observedAtBrokerMsc))
  | _, _ => false

/-- The rows, in their order. -/
def CaptureCheckpoint.rowsValid (c : CaptureCheckpoint) : Bool :=
  c.revisions.all c.revisionValid ∧ c.revisions.Pairwise (fun a b => a.ticket < b.ticket) ∧
    (c.revisions.map (·.revision)).sum ≤ c.produced ∧ c.queued.all c.queuedValid ∧
    c.queued.Pairwise (fun a b => a.sequence < b.sequence ∧ a.eventId ≠ b.eventId) ∧
    c.protections.all protectionValid ∧
    c.protections.Pairwise (fun a b => a.positionId < b.positionId)

def CaptureCheckpoint.quarantineValid (c : CaptureCheckpoint) : Bool :=
  ¬ (c.quarantine = true ∧
    ¬ (ticket c.quarantineTicket ∧ counter c.quarantineMsc c.startMsc ∧ counter c.quarantineType ∧
      counter c.quarantineReason ∧ c.recordGap = "UNSUPPORTED_RECORD".toList))

def captureCheckpointValid (c : CaptureCheckpoint) : Bool :=
  c.scalarsValid ∧ c.valuesValid ∧ c.rowsValid ∧ c.quarantineValid

/-! ## Encoding -/

def captureNet (value : Text) : Text :=
  match captureUtf8Bytes value with
  | some bytes => localNumber bytes.length ++ ':' :: value ++ [',']
  | none => []

def captureNetNumber (value : Nat) : Text := captureNet (localNumber value)

/-- A count that may be unknown. -/
def captureNetCount (count : Int) : Text :=
  captureNet (if count < 0 then dash else localNumber count.toNat)

def captureTag : Text := "TCAP1".toList

def CaptureRevision.net (row : CaptureRevision) : Text :=
  captureNet row.ticket ++ (captureNetNumber row.revision ++ (captureNet row.recordSha ++
    (captureNet row.contentSha ++ captureNetNumber row.brokerMsc)))

def CaptureQueued.net (row : CaptureQueued) : Text :=
  captureNetNumber row.sequence ++ (captureNet row.eventId ++ (captureNetNumber row.observedUtc ++
    captureNet row.recordSha))

def CaptureProtectionIndex.net (row : CaptureProtectionIndex) : Text :=
  captureNet row.positionId ++ captureNet row.contentSha

/-- The quarantine flag, and the four fields it stands for. -/
def CaptureCheckpoint.quarantineNet (c : CaptureCheckpoint) : Text :=
  captureNetNumber c.quarantine.toNat ++
    if c.quarantine then captureNet c.quarantineTicket ++ (captureNetNumber c.quarantineMsc ++
      (captureNetNumber c.quarantineType ++ captureNetNumber c.quarantineReason))
    else []

def CaptureCheckpoint.net (c : CaptureCheckpoint) : Text :=
  captureNet captureTag ++ (captureNet c.identity ++ (captureNet c.registrationSha ++
  (captureNetNumber c.startMsc ++ (captureNetNumber c.initializedUtc ++
  (captureNetNumber c.currencyScale ++ (captureNetNumber c.produced ++
  (captureNetNumber c.forwardStart ++ (captureNetNumber c.forwardEnd ++
  (captureNetNumber c.rotationStart ++ (captureNetNumber c.rotationEnd ++
  (captureNetNumber c.watermark ++ (captureNetNumber c.scanFinished.toNat ++
  (captureNet c.recordGap ++ (captureNetNumber c.observationGap.toNat ++
  (captureNetNumber c.previousUtc ++ (captureNetNumber c.previousBroker ++
  (captureNetNumber c.brokerAnchorUtc ++ (captureNetNumber c.reconcile.toNat ++
  (captureNetNumber c.rotateNext.toNat ++ (captureNet c.accountJson ++
  (captureNet c.attemptStatus ++ (captureNetNumber c.attemptUtc ++
  (captureNetNumber c.attemptBroker ++ (captureNetCount c.positionCount ++
  (captureNetCount c.orderCount ++ (captureNet c.lastCompleteJson ++
  (captureNetNumber c.revisions.length ++ (c.revisions.flatMap CaptureRevision.net ++
  (captureNetNumber c.queued.length ++ (c.queued.flatMap CaptureQueued.net ++
  (captureNetNumber c.protections.length ++ (c.protections.flatMap CaptureProtectionIndex.net ++
  c.quarantineNet))))))))))))))))))))))))))))))))

def captureCheckpointEncode (c : CaptureCheckpoint) : Option Bytes :=
  if captureCheckpointValid c then captureUtf8Bytes c.net else none

/-! ## Decoding -/

/-- `CTov2CaptureNetReader`, at a place of its bytes. -/
abbrev CaptureNetReader (α : Type) := Reader UInt8 α

def digitByte (b : UInt8) : Bool := 48 ≤ b ∧ b ≤ 57

/-- The source stops at a seventh digit, at a leading zero and above the maximum. -/
def netText (maximum : Nat := captureJsonMax) : CaptureNetReader Text := do
  let digits ← span digitByte
  let length := Nat.ofDigitChars 10 (ofBytes digits) 0
  guard (1 ≤ digits.length ∧ digits.length ≤ 6 ∧ ¬ (1 < digits.length ∧ digits.head? = some 48) ∧
    1 ≤ length ∧ length ≤ maximum)
  take [58]
  let bytes ← segment length
  take [44]
  (captureUtf8Text bytes : CaptureNetReader Text)

def netNumber (minimum : Nat := 0) : CaptureNetReader Nat := do
  let value ← netText 16
  (counterFromText value minimum : CaptureNetReader Nat)

def netCount (maximum : Nat) : CaptureNetReader Nat := do
  let value ← netNumber
  guard (value ≤ maximum)
  pure value

def netFlag : CaptureNetReader Bool := do
  let value ← netNumber
  guard (value ≤ 1)
  pure (value = 1)

def netOptionalCount : CaptureNetReader Int := do
  let value ← netText 16
  if value = dash then pure (-1)
  else
    let count ← (counterFromText value 0 : CaptureNetReader Nat)
    pure count

def netRevision : CaptureNetReader CaptureRevision := do
  let ticket ← netText 20
  let revision ← netNumber 1
  let recordSha ← netText 64
  let contentSha ← netText 64
  let brokerMsc ← netNumber 1
  pure { ticket, revision, recordSha, contentSha, brokerMsc }

def netQueued : CaptureNetReader CaptureQueued := do
  let sequence ← netNumber 1
  let eventId ← netText 160
  let observedUtc ← netNumber 1
  let recordSha ← netText 64
  pure { sequence, observedUtc, eventId, recordSha }

def netProtection : CaptureNetReader CaptureProtectionIndex := do
  let positionId ← netText 20
  let contentSha ← netText 64
  pure { positionId, contentSha }

/-- The flag and its fields; they stay clear when it is not set. -/
def netQuarantine : CaptureNetReader (Bool × Text × Nat × Nat × Nat) := do
  let quarantine ← netFlag
  if quarantine then
    let quarantineTicket ← netText 20
    let quarantineMsc ← netNumber 1
    let quarantineType ← netNumber
    let quarantineReason ← netNumber
    pure (true, quarantineTicket, quarantineMsc, quarantineType, quarantineReason)
  else pure (false, [], 0, 0, 0)

def netCheckpoint : CaptureNetReader CaptureCheckpoint := do
  let tag ← netText 5
  guard (tag = captureTag)
  let identity ← netText 1024
  let registrationSha ← netText 64
  let startMsc ← netNumber 1
  let initializedUtc ← netNumber 1
  let currencyScale ← netCount 16
  let produced ← netNumber
  let forwardStart ← netNumber 1
  let forwardEnd ← netNumber 1
  let rotationStart ← netNumber 1
  let rotationEnd ← netNumber 1
  let watermark ← netNumber
  let scanFinished ← netFlag
  let recordGap ← netText 24
  let observationGap ← netFlag
  let previousUtc ← netNumber 1
  let previousBroker ← netNumber 1
  let brokerAnchorUtc ← netNumber 1
  let reconcile ← netFlag
  let rotateNext ← netFlag
  let accountJson ← netText
  let attemptStatus ← netText 16
  let attemptUtc ← netNumber 1
  let attemptBroker ← netNumber 1
  let positionCount ← netOptionalCount
  let orderCount ← netOptionalCount
  let lastCompleteJson ← netText
  let revisionCount ← netCount captureRevisionsMax
  let revisions ← times netRevision revisionCount
  let queueCount ← netCount captureQueueMax
  let queued ← times netQueued queueCount
  let protectionCount ← netCount positionsMax
  let protections ← times netProtection protectionCount
  let (quarantine, quarantineTicket, quarantineMsc, quarantineType, quarantineReason) ←
    netQuarantine
  pure { identity, registrationSha, startMsc, initializedUtc, currencyScale, produced,
         forwardStart, forwardEnd, rotationStart, rotationEnd, watermark, scanFinished, recordGap,
         observationGap, previousUtc, previousBroker, brokerAnchorUtc, reconcile, rotateNext,
         accountJson, attemptStatus, attemptUtc, attemptBroker, positionCount, orderCount,
         lastCompleteJson, revisions, queued, protections, quarantine, quarantineTicket,
         quarantineMsc, quarantineType, quarantineReason }

def captureCheckpointDecode (payload : Bytes) : Option CaptureCheckpoint := do
  guard (0 < payload.length ∧ payload.length ≤ captureJsonMax)
  let (c, rest) ← netCheckpoint.run payload
  guard (rest = [] ∧ captureCheckpointEncode c = some payload)
  some c

/-! ## Reading back -/

section Fields
variable {max maximum minimum : Nat} {text : Text} {bytes : Bytes}

theorem digit_le {ch : Char} (h : ch.isDigit = true) : 48 ≤ ch.toNat ∧ ch.toNat ≤ 57 := by
  simp only [Char.isDigit, Bool.and_eq_true, decide_eq_true_eq] at h
  exact ⟨h.1, h.2⟩

theorem ascii_of_isDigit {ch : Char} (h : ch.isDigit = true) : ch.toNat < 128 := by
  have := digit_le h
  omega

theorem utf8_captureNet (h : captureUtf8Bytes text = some bytes) :
    utf8 (captureNet text) =
      toBytes (localNumber bytes.length) ++ (58 :: (bytes ++ [44])) := by
  obtain ⟨rfl, -, -⟩ := eq_utf8_of_captureUtf8Bytes h
  have hdigits : ∀ ch ∈ localNumber (utf8 text).length, ch.toNat < 128 := by
    intro ch hch
    exact ascii_of_isDigit (isDigit_of_mem_localNumber hch)
  rw [captureNet, h]
  dsimp only
  rw [List.append_assoc, utf8_append, utf8_ascii hdigits, List.cons_append]
  have hcolon : utf8 (':' :: (text ++ [','])) = utf8 [':'] ++ (utf8 text ++ utf8 [',']) := by
    rw [← utf8_append, ← utf8_append]
    rfl
  rw [hcolon]
  rfl

theorem digitByte_toBytes {value : Nat} :
    ∀ b ∈ toBytes (localNumber value), digitByte b = true := by
  intro b hb
  obtain ⟨ch, hch, rfl⟩ := List.mem_map.1 hb
  have hdigit := digit_le (isDigit_of_mem_localNumber hch)
  refine decide_eq_true ⟨?_, ?_⟩
  · rw [UInt8.le_iff_toNat_le, UInt8.toNat_ofNat', Nat.mod_eq_of_lt (by omega)]
    exact hdigit.1
  · rw [UInt8.le_iff_toNat_le, UInt8.toNat_ofNat', Nat.mod_eq_of_lt (by omega)]
    exact hdigit.2

/-- A net string is read back, with whatever follows left. -/
theorem reads_netText (h : captureUtf8Bytes text = some bytes) (hmax : bytes.length ≤ maximum) :
    Reads (netText maximum) (utf8 (captureNet text)) text := by
  rw [utf8_captureNet h]
  obtain ⟨-, hlow, hhigh⟩ := eq_utf8_of_captureUtf8Bytes h
  refine Reads.span_bind digitByte_toBytes rfl ?_
  have hback : ofBytes (toBytes (localNumber bytes.length)) = localNumber bytes.length :=
    ofBytes_toBytes fun ch hch => ascii_of_isDigit (isDigit_of_mem_localNumber hch)
  have hvalue : Nat.ofDigitChars 10 (localNumber bytes.length) 0 = bytes.length :=
    Nat.ofDigitChars_ten_toDigits
  simp only [hback, hvalue, length_toBytes]
  have hsmall : (localNumber bytes.length).length ≤ 6 := by
    rw [localNumber, Nat.length_toDigits_le_iff (by decide) (by decide)]
    exact lt_of_le_of_lt hhigh (by decide)
  have hleading : ¬ (1 < (localNumber bytes.length).length ∧
      (toBytes (localNumber bytes.length)).head? = some 48) := by
    rintro ⟨-, hhead⟩
    rw [toBytes, List.head?_map] at hhead
    obtain ⟨ch, hch, hbyte⟩ := Option.map_eq_some_iff.1 hhead
    have hdigit := digit_le (isDigit_of_mem_localNumber (List.mem_of_head? hch))
    have hcode := congrArg UInt8.toNat hbyte
    rw [UInt8.toNat_ofNat', Nat.mod_eq_of_lt (by omega)] at hcode
    have hzero : ch = '0' := by
      rw [← Char.ofNat_toNat ch, hcode]
      rfl
    rw [hzero] at hch
    exact JsValue.toDigits_head hlow hch
  refine (reads_guard ⟨Nat.length_toDigits_pos, hsmall, hleading, hlow, hmax⟩).bind_nil ?_
  refine (reads_take [58]).bind ((reads_segment bytes).bind ?_)
  refine (reads_take [44]).bind_pure ?_
  rw [captureUtf8Text_of_bytes h]
  rfl

theorem reads_fits {most : Nat} (h : Fits most text) (hmost : most ≤ maximum)
    (hmax : maximum ≤ captureJsonMax) :
    Reads (netText maximum) (utf8 (captureNet text)) text := by
  have hfits := h.mono hmost
  refine reads_netText (hfits.captureUtf8Bytes hmax) ?_
  rw [length_toBytes]
  exact hfits.short

theorem reads_netNumber {value : Nat} (h : counter value minimum = true) :
    Reads (netNumber minimum) (utf8 (captureNetNumber value)) value := by
  have hcounter : counter value = true := by
    simp only [counter, decide_eq_true_eq] at h ⊢
    omega
  refine (reads_fits (fits_localNumber hcounter) le_rfl (by decide)).bind_pure ?_
  rw [counterFromText_localNumber h]
  rfl

theorem reads_netCount {value : Nat} (hcounter : counter value = true) (h : value ≤ maximum) :
    Reads (netCount maximum) (utf8 (captureNetNumber value)) value := by
  refine (reads_netNumber hcounter).bind_pure ?_
  rw [guard, if_pos h]
  rfl

theorem reads_netFlag (flag : Bool) :
    Reads netFlag (utf8 (captureNetNumber flag.toNat)) flag := by
  cases flag
  · exact (reads_netNumber (by decide)).bind_pure rfl
  · exact (reads_netNumber (by decide)).bind_pure rfl

theorem reads_netOptionalCount {count : Int} (h : captureCount count = true) :
    Reads netOptionalCount (utf8 (captureNetCount count)) count := by
  simp only [captureCount, decide_eq_true_eq] at h
  rcases h with rfl | ⟨hnonneg, hcounter⟩
  · exact (reads_fits fits_dash (by decide) (by decide)).bind_pure rfl
  · rw [captureNetCount, if_neg (by omega)]
    refine (reads_fits (fits_localNumber hcounter) le_rfl (by decide)).bind_pure ?_
    rw [if_neg, counterFromText_localNumber hcounter]
    · show (pure ((count.toNat : Int)) : CaptureNetReader Int) = pure count
      rw [Int.toNat_of_nonneg hnonneg]
    · intro hdash
      have hmem : '-' ∈ localNumber count.toNat := by
        rw [hdash]
        exact List.mem_singleton_self _
      exact absurd (isDigit_of_mem_localNumber hmem) (by decide)

end Fields

section Rows

variable {c : CaptureCheckpoint}

theorem le_of_counter {value minimum : Nat} (h : counter value minimum = true) :
    minimum ≤ value := by
  simp only [counter, decide_eq_true_eq] at h
  exact h.1

/-- The bytes of a row are those of its fields. -/
theorem reads_netRevision {row : CaptureRevision} (h : c.revisionValid row = true)
    (hstart : 1 ≤ c.startMsc) : Reads netRevision (utf8 row.net) row := by
  simp only [CaptureCheckpoint.revisionValid, decide_eq_true_eq] at h
  obtain ⟨hticket, hrevision, hrecord, hcontent, hmsc⟩ := h
  simp only [CaptureRevision.net, utf8_append]
  refine (reads_fits (fits_ticket hticket) le_rfl (by decide)).bind ?_
  refine (reads_netNumber hrevision).bind ?_
  refine (reads_fits (fits_digest hrecord) le_rfl (by decide)).bind ?_
  refine (reads_fits (fits_digest hcontent) le_rfl (by decide)).bind ?_
  exact (reads_netNumber (counter_weaken hmsc hstart)).bind_pure rfl

theorem reads_netQueued {row : CaptureQueued} (h : c.queuedValid row = true)
    (hinitialized : 1 ≤ c.initializedUtc) : Reads netQueued (utf8 row.net) row := by
  simp only [CaptureCheckpoint.queuedValid, decide_eq_true_eq] at h
  obtain ⟨hsequence, -, hobserved, hevent, hrecord⟩ := h
  simp only [CaptureQueued.net, utf8_append]
  refine (reads_netNumber hsequence).bind ?_
  refine (reads_fits (fits_identifier hevent) le_rfl (by decide)).bind ?_
  refine (reads_netNumber (counter_weaken hobserved hinitialized)).bind ?_
  exact (reads_fits (fits_digest hrecord) le_rfl (by decide)).bind_pure rfl

theorem reads_netProtection {row : CaptureProtectionIndex} (h : protectionValid row = true) :
    Reads netProtection (utf8 row.net) row := by
  simp only [protectionValid, decide_eq_true_eq] at h
  simp only [CaptureProtectionIndex.net, utf8_append]
  refine (reads_fits (fits_ticket h.1) le_rfl (by decide)).bind ?_
  exact (reads_fits (fits_digest h.2) le_rfl (by decide)).bind_pure rfl

/-- The fields of a quarantine that is not set are clear. -/
def CaptureCheckpoint.cleared (c : CaptureCheckpoint) : CaptureCheckpoint :=
  if c.quarantine then c
  else { c with quarantineTicket := [], quarantineMsc := 0, quarantineType := 0,
                quarantineReason := 0 }

theorem reads_netQuarantine (h : c.quarantineValid = true) (hstart : 1 ≤ c.startMsc) :
    Reads netQuarantine (utf8 c.quarantineNet) (c.cleared.quarantine, c.cleared.quarantineTicket,
      c.cleared.quarantineMsc, c.cleared.quarantineType, c.cleared.quarantineReason) := by
  rw [CaptureCheckpoint.quarantineNet, utf8_append]
  refine (reads_netFlag c.quarantine).bind ?_
  by_cases hset : c.quarantine = true
  · simp only [CaptureCheckpoint.quarantineValid, decide_eq_true_eq] at h
    obtain ⟨hticket, hmsc, htype, hreason, -⟩ := not_not.1 fun hnot => h ⟨hset, hnot⟩
    rw [CaptureCheckpoint.cleared, if_pos hset, if_pos hset, if_pos hset]
    simp only [utf8_append]
    refine (reads_fits (fits_ticket hticket) le_rfl (by decide)).bind ?_
    refine (reads_netNumber (counter_weaken hmsc hstart)).bind ?_
    refine (reads_netNumber htype).bind ?_
    refine (reads_netNumber hreason).bind_pure ?_
    rw [hset]
  · rw [CaptureCheckpoint.cleared, if_neg hset, if_neg hset, if_neg hset]
    rw [Bool.not_eq_true] at hset
    rw [hset]
    exact reads_pure _

theorem captureUtf8Bytes_of_decodeAccount {json : Text} {scale : Nat} {account : CaptureAccount}
    (h : captureDecodeAccount json scale = some account) :
    ∃ bytes, captureUtf8Bytes json = some bytes := by
  simp only [captureDecodeAccount, Option.bind_eq_bind, Option.bind_eq_some_iff,
    Option.guard_eq_some'] at h
  obtain ⟨-, hbytes, -⟩ := h
  exact Option.isSome_iff_exists.1 hbytes

theorem captureUtf8Bytes_of_decodeExposure {json : Text} {scale : Nat} {exposure : CaptureExposure}
    (h : captureDecodeExposure json scale = some exposure) :
    ∃ bytes, captureUtf8Bytes json = some bytes := by
  simp only [captureDecodeExposure, Option.bind_eq_bind, Option.bind_eq_some_iff,
    Option.guard_eq_some'] at h
  obtain ⟨-, hbytes, -⟩ := h
  exact Option.isSome_iff_exists.1 hbytes

theorem fits_choice {value : Text} {choices : List String} {max : Nat}
    (h : captureChoice value choices = true) (hfits : ∀ choice ∈ choices, Fits max choice.toList) :
    Fits max value := by
  simp only [captureChoice, decide_eq_true_eq] at h
  obtain ⟨choice, hchoice, rfl⟩ := List.mem_map.1 h
  exact hfits choice hchoice

theorem fits_captureGap {gap : Text} (h : captureGap gap = true) : Fits 24 gap := by
  simp only [captureGap, decide_eq_true_eq] at h
  rcases h with rfl | h
  · exact fits_dash.mono (by decide)
  · refine fits_choice h ?_
    intro choice hchoice
    simp only [captureGaps, List.mem_cons, List.not_mem_nil, or_false] at hchoice
    rcases hchoice with rfl | rfl | rfl | rfl | rfl
    all_goals exact ⟨by decide, by decide, by decide⟩

/-- What the values of a valid checkpoint say of the fields that hold them. -/
structure CaptureCheckpoint.Spelled (c : CaptureCheckpoint) : Prop where
  account : ∃ bytes, captureUtf8Bytes c.accountJson = some bytes
  last : ∃ bytes, captureUtf8Bytes c.lastCompleteJson = some bytes
  status : Fits 16 c.attemptStatus
  utc : counter c.attemptUtc 1 = true
  broker : counter c.attemptBroker 1 = true
  positions : captureCount c.positionCount = true
  orders : captureCount c.orderCount = true

theorem spelled_of_valuesValid (h : c.valuesValid = true) : c.Spelled := by
  unfold CaptureCheckpoint.valuesValid at h
  split at h
  · rename_i account last haccount hlast
    simp only [decide_eq_true_eq] at h
    obtain ⟨-, -, -, -, -, hattempt, -⟩ := h
    simp only [captureExposureValid, decide_eq_true_eq] at hattempt
    obtain ⟨-, hutc, hbroker, -, -, hpositions, horders, hstatus⟩ := hattempt
    refine ⟨captureUtf8Bytes_of_decodeAccount haccount, captureUtf8Bytes_of_decodeExposure hlast,
      ?_, hutc, hbroker, hpositions, horders⟩
    by_cases hcomplete : c.attemptStatus = complete
    · rw [hcomplete]
      exact ⟨by decide, by decide, by decide⟩
    · have hother : (c.attempt last).status ≠ complete := hcomplete
      rw [if_pos hother] at hstatus
      refine fits_choice hstatus.1 ?_
      intro choice hchoice
      simp only [List.mem_cons, List.not_mem_nil, or_false] at hchoice
      rcases hchoice with rfl | rfl
      all_goals exact ⟨by decide, by decide, by decide⟩
  · cases h

theorem reads_netCheckpoint (h : captureCheckpointValid c = true) :
    Reads netCheckpoint (utf8 c.net) c.cleared := by
  simp only [captureCheckpointValid, decide_eq_true_eq] at h
  obtain ⟨hscalars, hvalues, hrows, hquarantine⟩ := h
  simp only [CaptureCheckpoint.scalarsValid, decide_eq_true_eq] at hscalars
  obtain ⟨hidentity, hregistration, hstart, -, -, hinitialized, hscale, hproduced, hforwardStart,
    hforwardEnd, hrotationStart, hrotationEnd, hwatermark, -, -, -, hgap, hutc, hbroker, hanchor, -,
    hrevisionCount, hqueueCount, hprotectionCount⟩ := hscalars
  obtain ⟨⟨account, haccount⟩, ⟨last, hlast⟩, hstatus, hattemptUtc, hattemptBroker, hpositions,
    horders⟩ := spelled_of_valuesValid hvalues
  simp only [CaptureCheckpoint.rowsValid, decide_eq_true_eq, List.all_eq_true] at hrows
  obtain ⟨hrevisions, -, -, hqueued, -, hprotections, -⟩ := hrows
  have hstartPos := le_of_counter hstart
  have hinitializedPos := le_of_counter hinitialized
  simp only [CaptureCheckpoint.net, utf8_append, utf8_flatMap]
  have htag : Fits 5 captureTag := ⟨by decide, by decide, by decide⟩
  refine (reads_fits htag le_rfl (by decide)).bind ?_
  refine (reads_guard rfl).bind_nil ?_
  refine (reads_fits (fits_identity hidentity) (by decide) (by decide)).bind ?_
  refine (reads_fits (fits_digest hregistration) le_rfl (by decide)).bind ?_
  refine (reads_netNumber hstart).bind ?_
  refine (reads_netNumber hinitialized).bind ?_
  refine (reads_netCount (counter_of_le (by decide) hscale) hscale).bind ?_
  refine (reads_netNumber hproduced).bind ?_
  have hforward := hstartPos.trans (le_of_counter hforwardStart)
  have hrotation := hstartPos.trans (le_of_counter hrotationStart)
  refine (reads_netNumber (counter_weaken hforwardStart hstartPos)).bind ?_
  refine (reads_netNumber (counter_weaken hforwardEnd hforward)).bind ?_
  refine (reads_netNumber (counter_weaken hrotationStart hstartPos)).bind ?_
  refine (reads_netNumber (counter_weaken hrotationEnd hrotation)).bind ?_
  refine (reads_netNumber hwatermark).bind ?_
  refine (reads_netFlag c.scanFinished).bind ?_
  refine (reads_fits (fits_captureGap hgap) le_rfl (by decide)).bind ?_
  refine (reads_netFlag c.observationGap).bind ?_
  refine (reads_netNumber hutc).bind ?_
  refine (reads_netNumber hbroker).bind ?_
  refine (reads_netNumber hanchor).bind ?_
  refine (reads_netFlag c.reconcile).bind ?_
  refine (reads_netFlag c.rotateNext).bind ?_
  refine (reads_netText haccount (eq_utf8_of_captureUtf8Bytes haccount).2.2).bind ?_
  refine (reads_fits hstatus le_rfl (by decide)).bind ?_
  refine (reads_netNumber hattemptUtc).bind ?_
  refine (reads_netNumber hattemptBroker).bind ?_
  refine (reads_netOptionalCount hpositions).bind ?_
  refine (reads_netOptionalCount horders).bind ?_
  refine (reads_netText hlast (eq_utf8_of_captureUtf8Bytes hlast).2.2).bind ?_
  refine (reads_netCount (counter_of_le (by decide) hrevisionCount) hrevisionCount).bind ?_
  refine (Reads.times fun row hrow => reads_netRevision (hrevisions row hrow) hstartPos).bind ?_
  refine (reads_netCount (counter_of_le (by decide) hqueueCount) hqueueCount).bind ?_
  refine (Reads.times fun row hrow => reads_netQueued (hqueued row hrow) hinitializedPos).bind ?_
  refine (reads_netCount (counter_of_le (by decide) hprotectionCount) hprotectionCount).bind ?_
  refine (Reads.times fun row hrow => reads_netProtection (hprotections row hrow)).bind ?_
  refine (reads_netQuarantine hquarantine hstartPos).bind_pure ?_
  by_cases hset : c.quarantine = true
  · rw [CaptureCheckpoint.cleared, if_pos hset]
  · rw [CaptureCheckpoint.cleared, if_neg hset]

end Rows
section Sizes

variable {size : Nat} {text : Text} {c : CaptureCheckpoint}

theorem printed_flatMap {α : Type} {net : α → Text} {rows : List α}
    (h : ∀ row ∈ rows, Printed size (net row)) :
    Printed (rows.length * size) (rows.flatMap net) := by
  induction rows with
  | nil => exact ⟨Nat.zero_le _, rfl⟩
  | cons row rows ih =>
    have hrows := (h row List.mem_cons_self).append
      (ih fun x hx => h x (List.mem_cons_of_mem _ hx))
    rw [List.flatMap_cons, List.length_cons, Nat.succ_mul, Nat.add_comm]
    exact hrows

/-- A net string is at most eight characters longer than its value. -/
theorem printed_net (h : Fits size text) (hsize : size ≤ captureJsonMax) :
    Printed (size + 8) (captureNet text) := by
  have hdigits : (localNumber text.length).length ≤ 6 := by
    rw [localNumber, Nat.length_toDigits_le_iff (by decide) (by decide)]
    exact lt_of_le_of_lt (h.short.trans hsize) (by decide)
  have hshort := h.short
  rw [captureNet, h.captureUtf8Bytes hsize]
  dsimp only
  rw [length_toBytes]
  refine ⟨?_, ?_⟩
  · simp only [List.length_append, List.length_cons, List.length_nil]
    omega
  · rw [List.all_append, List.all_append, List.all_cons, h.printable, Bool.and_eq_true,
      Bool.and_eq_true, List.all_eq_true]
    exact ⟨⟨fun ch hch => printable_isDigit (isDigit_of_mem_localNumber hch), by decide⟩,
      by decide⟩

theorem printed_netNumber {value : Nat} (h : counter value = true) :
    Printed 24 (captureNetNumber value) :=
  printed_net (fits_localNumber h) (by decide)

theorem printed_netCount {count : Int} (h : captureCount count = true) :
    Printed 24 (captureNetCount count) := by
  simp only [captureCount, decide_eq_true_eq] at h
  rcases h with rfl | ⟨hnonneg, hcounter⟩
  · exact printed_net (fits_dash.mono (by decide)) (by decide)
  · rw [captureNetCount, if_neg (by omega)]
    exact printed_netNumber hcounter

theorem printed_netFlag (flag : Bool) : Printed 24 (captureNetNumber flag.toNat) := by
  cases flag
  · exact printed_netNumber (by decide)
  · exact printed_netNumber (by decide)

theorem printed_revision {row : CaptureRevision} (h : c.revisionValid row = true) :
    Printed 220 row.net := by
  simp only [CaptureCheckpoint.revisionValid, decide_eq_true_eq] at h
  obtain ⟨hticket, hrevision, hrecord, hcontent, hmsc⟩ := h
  exact (printed_net (fits_ticket hticket) (by decide)).append
    ((printed_netNumber (counter_weaken hrevision (Nat.zero_le _))).append
    ((printed_net (fits_digest hrecord) (by decide)).append
    ((printed_net (fits_digest hcontent) (by decide)).append
    (printed_netNumber (counter_weaken hmsc (Nat.zero_le _))))))

theorem printed_queued {row : CaptureQueued} (h : c.queuedValid row = true) :
    Printed 288 row.net := by
  simp only [CaptureCheckpoint.queuedValid, decide_eq_true_eq] at h
  obtain ⟨hsequence, -, hobserved, hevent, hrecord⟩ := h
  exact (printed_netNumber (counter_weaken hsequence (Nat.zero_le _))).append
    ((printed_net (fits_identifier hevent) (by decide)).append
    ((printed_netNumber (counter_weaken hobserved (Nat.zero_le _))).append
    (printed_net (fits_digest hrecord) (by decide))))

theorem printed_protection {row : CaptureProtectionIndex} (h : protectionValid row = true) :
    Printed 100 row.net := by
  simp only [protectionValid, decide_eq_true_eq] at h
  exact (printed_net (fits_ticket h.1) (by decide)).append
    (printed_net (fits_digest h.2) (by decide))

theorem printed_quarantine (h : c.quarantineValid = true) : Printed 124 c.quarantineNet := by
  rw [CaptureCheckpoint.quarantineNet]
  by_cases hset : c.quarantine = true
  · simp only [CaptureCheckpoint.quarantineValid, decide_eq_true_eq] at h
    obtain ⟨hticket, hmsc, htype, hreason, -⟩ := not_not.1 fun hnot => h ⟨hset, hnot⟩
    rw [if_pos hset]
    exact (printed_netFlag c.quarantine).append
      ((printed_net (fits_ticket hticket) (by decide)).append
      ((printed_netNumber (counter_weaken hmsc (Nat.zero_le _))).append
      ((printed_netNumber htype).append (printed_netNumber hreason))))
  · rw [if_neg hset, List.append_nil]
    exact ⟨(printed_netFlag c.quarantine).short.trans (by decide),
      (printed_netFlag c.quarantine).printable⟩

theorem printed_checkpoint {account last : Nat} (h : captureCheckpointValid c = true)
    (haccount : Fits account c.accountJson) (haccountSize : account ≤ captureJsonMax)
    (hlast : Fits last c.lastCompleteJson) (hlastSize : last ≤ captureJsonMax) :
    Printed (1535 + account + last + 220 * c.revisions.length + 288 * c.queued.length +
      100 * c.protections.length) c.net := by
  simp only [captureCheckpointValid, decide_eq_true_eq] at h
  obtain ⟨hscalars, hvalues, hrows, hquarantine⟩ := h
  simp only [CaptureCheckpoint.scalarsValid, decide_eq_true_eq] at hscalars
  obtain ⟨hidentity, hregistration, hstart, -, -, hinitialized, hscale, hproduced, hforwardStart,
    hforwardEnd, hrotationStart, hrotationEnd, hwatermark, -, -, -, hgap, hutc, hbroker, hanchor, -,
    hrevisionCount, hqueueCount, hprotectionCount⟩ := hscalars
  obtain ⟨-, -, hstatus, hattemptUtc, hattemptBroker, hpositions, horders⟩ :=
    spelled_of_valuesValid hvalues
  simp only [CaptureCheckpoint.rowsValid, decide_eq_true_eq, List.all_eq_true] at hrows
  obtain ⟨hrevisions, -, -, hqueued, -, hprotections, -⟩ := hrows
  have htag : Fits 5 captureTag := ⟨by decide, by decide, by decide⟩
  have hnumber : ∀ {value minimum : Nat}, counter value minimum = true →
      Printed 24 (captureNetNumber value) :=
    fun h => printed_netNumber (counter_weaken h (Nat.zero_le _))
  have hcount : ∀ {value most : Nat}, counter most = true → value ≤ most →
      Printed 24 (captureNetNumber value) :=
    fun hmost h => printed_netNumber (counter_of_le hmost h)
  have hlists := (hcount (by decide) hrevisionCount).append
    ((printed_flatMap fun row hrow => printed_revision (hrevisions row hrow)).append
    ((hcount (by decide) hqueueCount).append
    ((printed_flatMap fun row hrow => printed_queued (hqueued row hrow)).append
    ((hcount (by decide) hprotectionCount).append
    ((printed_flatMap fun row hrow => printed_protection (hprotections row hrow)).append
    (printed_quarantine hquarantine))))))
  have hattempt := (printed_net haccount haccountSize).append
    ((printed_net hstatus (by decide)).append ((hnumber hattemptUtc).append
    ((hnumber hattemptBroker).append ((printed_netCount hpositions).append
    ((printed_netCount horders).append ((printed_net hlast hlastSize).append hlists))))))
  have hclocks := (printed_netFlag c.scanFinished).append
    ((printed_net (fits_captureGap hgap) (by decide)).append
    ((printed_netFlag c.observationGap).append ((hnumber hutc).append
    ((hnumber hbroker).append ((hnumber hanchor).append
    ((printed_netFlag c.reconcile).append ((printed_netFlag c.rotateNext).append hattempt)))))))
  have hscan := (hcount (by decide) hscale).append ((hnumber hproduced).append
    ((hnumber hforwardStart).append ((hnumber hforwardEnd).append
    ((hnumber hrotationStart).append ((hnumber hrotationEnd).append
    ((hnumber hwatermark).append hclocks))))))
  have hnet := (printed_net htag (by decide)).append
    ((printed_net (fits_identity hidentity) (by decide)).append
    ((printed_net (fits_digest hregistration) (by decide)).append
    ((hnumber hstart).append ((hnumber hinitialized).append hscan))))
  rw [CaptureCheckpoint.net]
  refine ⟨hnet.short.trans ?_, hnet.printable⟩
  clear * -
  omega

/-- A valid checkpoint of this size encodes. -/
theorem captureCheckpointEncode_of_size {account last : Nat} (h : captureCheckpointValid c = true)
    (haccount : Fits account c.accountJson) (hlast : Fits last c.lastCompleteJson)
    (hsize : 1535 + account + last + 220 * c.revisions.length + 288 * c.queued.length +
      100 * c.protections.length ≤ captureJsonMax) :
    ∃ payload, captureCheckpointEncode c = some payload := by
  have hprinted := printed_checkpoint h haccount (by omega) hlast (by omega)
  have hfits : Fits captureJsonMax c.net := by
    refine ⟨?_, hprinted.short.trans hsize, hprinted.printable⟩
    have htag : Fits 5 captureTag := ⟨by decide, by decide, by decide⟩
    have hopen : 1 ≤ (captureNet captureTag).length := by
      rw [captureNet, htag.captureUtf8Bytes (by decide)]
      simp only [List.length_append, List.length_cons, List.length_nil]
      omega
    rw [CaptureCheckpoint.net, List.length_append]
    exact hopen.trans (Nat.le_add_right _ _)
  rw [captureCheckpointEncode, if_pos h]
  exact ⟨_, hfits.captureUtf8Bytes le_rfl⟩

end Sizes

section RoundTrip

variable {c : CaptureCheckpoint} {payload : Bytes}

theorem cleared_of_unset (h : c.quarantine = false) :
    c.cleared = { c with quarantineTicket := [], quarantineMsc := 0, quarantineType := 0,
                         quarantineReason := 0 } := by
  rw [CaptureCheckpoint.cleared, if_neg]
  rw [h]
  exact Bool.false_ne_true

theorem quarantine_unset (h : c.quarantine = false) :
    c.quarantineValid = true ∧ c.quarantineNet = captureNetNumber 0 := by
  rw [CaptureCheckpoint.quarantineValid, CaptureCheckpoint.quarantineNet, h]
  exact ⟨decide_eq_true fun h => absurd h.1 Bool.false_ne_true, List.append_nil _⟩

theorem captureCheckpointEncode_cleared :
    captureCheckpointEncode c.cleared = captureCheckpointEncode c := by
  by_cases hset : c.quarantine = true
  · rw [CaptureCheckpoint.cleared, if_pos hset]
  · rw [Bool.not_eq_true] at hset
    obtain ⟨hvalid, hnet⟩ := quarantine_unset hset
    have hcleared := cleared_of_unset hset
    have hset' : c.cleared.quarantine = false := by
      rw [hcleared]
      exact hset
    obtain ⟨hvalid', hnet'⟩ := quarantine_unset hset'
    unfold captureCheckpointEncode captureCheckpointValid CaptureCheckpoint.net
    rw [hvalid, hvalid', hnet, hnet', hcleared]
    rfl

/-- A checkpoint that encodes is read back, but for the fields of a quarantine that is not set. -/
theorem captureCheckpointDecode_of_encode (h : captureCheckpointEncode c = some payload) :
    captureCheckpointDecode payload = some c.cleared := by
  have hencoded := h
  rw [captureCheckpointEncode] at h
  split at h
  · rename_i hvalid
    obtain ⟨hpayload, hlow, hhigh⟩ := eq_utf8_of_captureUtf8Bytes h
    have hrun := reads_netCheckpoint hvalid []
    rw [List.append_nil, ← hpayload] at hrun
    simp only [captureCheckpointDecode, Option.bind_eq_bind, Option.bind_eq_some_iff,
      Option.guard_eq_some']
    exact ⟨(), ⟨hlow, hhigh⟩, _, hrun, (), ⟨rfl, captureCheckpointEncode_cleared.trans hencoded⟩,
      rfl⟩
  · cases h

theorem captureCheckpointEncode_of_decode (h : captureCheckpointDecode payload = some c) :
    captureCheckpointEncode c = some payload := by
  simp only [captureCheckpointDecode, Option.bind_eq_bind, Option.bind_eq_some_iff,
    Option.guard_eq_some'] at h
  obtain ⟨-, -, read, -, -, hencoded, h⟩ := h
  rw [← Option.some.inj h]
  exact hencoded.2

end RoundTrip
/-! ## A quarantine that is not set -/

def failedReading : CaptureReading := ⟨"READ_FAILED".toList, ⟨[], 0⟩⟩

/-- No reading of the account came through. -/
def failedAccount : CaptureAccount where
  status := captureFailed
  observedAtUtcSeconds := 1
  observedAtBrokerMsc := 1000
  balance := failedReading
  equity := failedReading
  marginUsed := failedReading
  marginFree := failedReading
  marginLevel := failedReading

def noExposure : CaptureExposure where
  status := complete
  observedAtUtcSeconds := 1
  observedAtBrokerMsc := 1000
  positionCount := 0
  orderCount := 0
  positions := []
  orders := []

def onlyDigits : Text := List.replicate 64 '1'

/-- The fields of an identity. -/
def someIdentity : List Text := [['a'], ['b'], ['c'], ['1'], onlyDigits, onlyDigits, onlyDigits]

theorem localIdentity_someIdentity :
    (localIdentity (['~'].intercalate someIdentity)).isSome = true := by
  have hplain : ∀ field ∈ someIdentity, '~' ∉ field := by
    have hall : someIdentity.all (fun field => field.all fun ch => ch != '~') = true := by decide
    intro field hfield hmem
    have hne := List.all_eq_true.1 (List.all_eq_true.1 hall field hfield) _ hmem
    exact absurd hne (by decide)
  have hvalid : identifier ['a'] ∧ identifier ['b'] ∧ identifier ['c'] ∧
      (counterFromText ['1'] 0).isSome ∧ digest onlyDigits ∧ digest onlyDigits ∧
      digest onlyDigits := by
    have hdigits : digest onlyDigits = true := by decide
    exact ⟨by decide, by decide, by decide, by decide, hdigits, hdigits, hdigits⟩
  rw [localIdentity, List.splitOn_intercalate '~' hplain (List.cons_ne_nil _ _)]
  show (if _ then some _ else none).isSome = true
  rw [if_pos hvalid]
  rfl

/-- A checkpoint that is not quarantined, with a time left in the quarantine fields. -/
def leftoverCheckpoint (account last : Text) : CaptureCheckpoint where
  identity := ['~'].intercalate someIdentity
  registrationSha := onlyDigits
  startMsc := 1000
  initializedUtc := 1
  currencyScale := 0
  produced := 0
  forwardStart := 1000
  forwardEnd := 1000
  rotationStart := 1000
  rotationEnd := 1000
  watermark := 0
  scanFinished := false
  recordGap := dash
  observationGap := false
  previousUtc := 1
  previousBroker := 1000
  brokerAnchorUtc := 1
  reconcile := false
  rotateNext := false
  accountJson := account
  attemptStatus := complete
  attemptUtc := 1
  attemptBroker := 1000
  positionCount := 0
  orderCount := 0
  lastCompleteJson := last
  revisions := []
  queued := []
  protections := []
  quarantine := false
  quarantineTicket := []
  quarantineMsc := 1000
  quarantineType := 0
  quarantineReason := 0

theorem leftoverCheckpoint_valid {account last : Text}
    (haccount : captureDecodeAccount account 0 = some failedAccount)
    (hlast : captureDecodeExposure last 0 = some noExposure) :
    captureCheckpointValid (leftoverCheckpoint account last) = true := by
  have hvalues : (leftoverCheckpoint account last).valuesValid = true := by
    rw [CaptureCheckpoint.valuesValid]
    show (match captureDecodeAccount account 0, captureDecodeExposure last 0 with
      | some _, some _ => _
      | _, _ => _) = true
    rw [haccount, hlast]
    rfl
  have hdigits : digest onlyDigits = true := by decide
  have hscalars : (leftoverCheckpoint [] []).scalarsValid = true := by
    refine decide_eq_true ⟨localIdentity_someIdentity, hdigits, ?_⟩
    decide
  exact decide_eq_true ⟨hscalars, hvalues, rfl, rfl⟩

theorem leftoverCheckpoint_lost :
    ¬ ∀ (c : CaptureCheckpoint) (payload : Bytes), captureCheckpointValid c = true →
      captureCheckpointEncode c = some payload → captureCheckpointDecode payload = some c := by
  intro hall
  obtain ⟨account, haccount, haccountFits⟩ :=
    captureEncodeAccount_of_valid (show captureAccountValid failedAccount 0 = true by decide)
  obtain ⟨last, hlast, hlastFits⟩ :=
    captureEncodeExposure_of_valid (show captureExposureValid noExposure 0 = true by decide) rfl rfl
  have hvalid := leftoverCheckpoint_valid (captureDecodeAccount_of_encode haccount)
    (captureDecodeExposure_of_encode hlast)
  obtain ⟨payload, hpayload⟩ := captureCheckpointEncode_of_size hvalid haccountFits hlastFits
    (by show 1535 + 1692 + 424 + 220 * 0 + 288 * 0 + 100 * 0 ≤ captureJsonMax; decide)
  have hread := hall _ payload hvalid hpayload
  rw [captureCheckpointDecode_of_encode hpayload] at hread
  have htime : (0 : Nat) = 1000 := congrArg CaptureCheckpoint.quarantineMsc (Option.some.inj hread)
  exact absurd htime (by decide)

/-! ## Exactness -/

/-- Frames, states, commits and checkpoints are read back as they were written, every valid state
and commit can be written, and nothing else is read. -/
theorem storage_codecs_exact :
    (∀ (sha : Sha256) (kind : Text) (generation : Nat) (payload frame : Bytes),
      recordEncode sha kind generation payload = some frame ↔
        recordDecode sha frame = some (kind, generation, payload)) ∧
    (∀ s : LocalState, localStateValid s = true →
      ∃ payload, localStateEncode s = some payload ∧ payload.length ≤ payloadMax ∧
        localStateDecode payload = some s) ∧
    (∀ (payload : Bytes) (s : LocalState), localStateDecode payload = some s →
      localStateEncode s = some payload) ∧
    (∀ c : LocalCommit, localCommitValid c = true →
      ∃ payload, localCommitEncode c = some payload ∧ payload.length ≤ payloadMax ∧
        localCommitDecode payload = some c) ∧
    (∀ (payload : Bytes) (c : LocalCommit), localCommitDecode payload = some c →
      localCommitEncode c = some payload) ∧
    (∀ (c : CaptureCheckpoint) (payload : Bytes), captureCheckpointEncode c = some payload →
      captureCheckpointDecode payload = some c.cleared) ∧
    ∀ (payload : Bytes) (c : CaptureCheckpoint), captureCheckpointDecode payload = some c →
      captureCheckpointEncode c = some payload ∧ c.cleared = c := by
  refine ⟨fun _ _ _ _ _ => ⟨recordDecode_of_recordEncode, recordEncode_of_recordDecode⟩,
    fun s hs => ?_, fun _ _ => localStateEncode_of_decode, fun c hc => ?_,
    fun _ _ => localCommitEncode_of_decode, fun _ _ => captureCheckpointDecode_of_encode,
    fun payload c hc => ?_⟩
  · obtain ⟨payload, hpayload, hsize⟩ := localStateEncode_of_valid hs
    exact ⟨payload, hpayload, hsize, localStateDecode_of_encode hpayload⟩
  · obtain ⟨payload, hpayload, hsize⟩ := localCommitEncode_of_valid hc
    exact ⟨payload, hpayload, hsize, localCommitDecode_of_encode hpayload⟩
  · have hencoded := captureCheckpointEncode_of_decode hc
    have hback := captureCheckpointDecode_of_encode hencoded
    rw [hc] at hback
    exact ⟨hencoded, (Option.some.inj hback).symm⟩

end TradeOps.Agent
