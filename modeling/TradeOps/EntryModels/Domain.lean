import TradeOps.Canonical.Python
import TradeOps.Entry.ArbitratorV3Py

/-!
# Value objects of the entry models

Embeds the enumerations and the value objects of `rd_entry_models.py` that the flip scan works on.
A record whose constructor refuses inconsistent values carries what the constructor asks for, and
the checks that a function runs again are functions here too. `canonical_sha256` takes the digest of
the canonical bytes from a parameter.
-/

namespace TradeOps.EntryModels

open Canonical Checks
open Entry.Py (requirePositive requireNonNegative requireSha256 requireSortedUniqueContexts)

inductive EntryDirection where
  | long | short
  deriving DecidableEq, Repr

inductive CandidateFidelity where
  | exact | calibrated | discretionary | unresolved
  deriving DecidableEq, Repr

inductive ProofPlane where
  | confirmed5m | lowerTimeframeReplay | realtimeTick | externalArchivedTick
  deriving DecidableEq, Repr

inductive AmbiguityCode where
  | sameChildBarOrder | missingIntrabarCoverage | realtimeOnlyNotReplayable
  deriving DecidableEq, Repr

/-- `OrderedCandle`. -/
structure OrderedCandle where
  openEpoch : Int
  closeEpoch : Int
  openTicks : Int
  highTicks : Int
  lowTicks : Int
  closeTicks : Int
  nonneg : 0 ≤ openEpoch
  increasing : openEpoch < closeEpoch
  high : max (max openTicks closeTicks) lowTicks ≤ highTicks
  low : lowTicks ≤ min (min openTicks closeTicks) highTicks
  deriving DecidableEq

/-- `SetupEntryFacts`, without the fields that the scan does not look at. -/
structure SetupEntryFacts where
  direction : EntryDirection
  zoneTopTicks : Int
  zoneBottomTicks : Int
  zone : zoneBottomTicks < zoneTopTicks
  deriving DecidableEq

/-! ## Digests -/

def canonicalSha256 (sha256 : ByteArray → String) (value : PyObject) : Except String String := do
  let bytes ← canonicalJsonBytes value
  pure (sha256 bytes)

/-- The key of a mapping. -/
def mappingKey (name : String) : PyString := name.toList.map Char.toNat

def mapping (items : List (String × PyObject)) : PyObject :=
  .dict (items.map fun item => (mappingKey item.1, item.2))

def OrderedCandle.toMapping (candle : OrderedCandle) : PyObject :=
  mapping
    [("open_epoch", .int candle.openEpoch), ("close_epoch", .int candle.closeEpoch),
      ("open_ticks", .int candle.openTicks), ("high_ticks", .int candle.highTicks),
      ("low_ticks", .int candle.lowTicks), ("close_ticks", .int candle.closeTicks)]

/-! ## Completed prefixes -/

/-- What `validate_completed_htf_prefix` accepts: a nonempty prefix of the context, made of
completed five-minute slices. -/
structure CompletedHtfPrefix (contextMinutes htfOpenEpoch scanCutoffEpoch
    proofResolutionSeconds : Int) : Prop where
  context : contextMinutes = 15 ∨ contextMinutes = 30 ∨ contextMinutes = 60
  openEpoch : 0 ≤ htfOpenEpoch
  resolution : 0 < proofResolutionSeconds
  below : proofResolutionSeconds < 300
  divides : 300 % proofResolutionSeconds = 0
  nonempty : 0 < scanCutoffEpoch - htfOpenEpoch
  inside : scanCutoffEpoch - htfOpenEpoch ≤ contextMinutes * 60
  slices : (scanCutoffEpoch - htfOpenEpoch) % 300 = 0
  aligned : (scanCutoffEpoch - htfOpenEpoch) % proofResolutionSeconds = 0

def validateCompletedHtfPrefix (contextMinutes htfOpenEpoch scanCutoffEpoch
    proofResolutionSeconds : Int) : Except String Int := do
  requirePositive contextMinutes "context_minutes"
  failIf (contextMinutes ∉ [15, 30, 60]) "context_minutes must be one of 15, 30, 60"
  requireNonNegative htfOpenEpoch "htf_open_epoch"
  requireNonNegative scanCutoffEpoch "scan_cutoff_epoch"
  requirePositive proofResolutionSeconds "proof_resolution_seconds"
  failIf (proofResolutionSeconds ≥ 300 ∨ 300 % proofResolutionSeconds ≠ 0)
    "proof_resolution_seconds must divide 300 and be below 300"
  let coverageSeconds := scanCutoffEpoch - htfOpenEpoch
  failIf (¬ (0 < coverageSeconds ∧ coverageSeconds ≤ contextMinutes * 60))
    "scan cutoff must be inside the HTF context"
  failIf (coverageSeconds % 300 ≠ 0)
    "coverage length must align to a completed five-minute slice"
  failIf (coverageSeconds % proofResolutionSeconds ≠ 0)
    "scan cutoff must align to the proof resolution"
  pure (coverageSeconds / proofResolutionSeconds)

@[simp] theorem discard_ok {α : Type} (a : α) :
    discard (Except.ok a : Except String α) = .ok () :=
  rfl

theorem validateCompletedHtfPrefix_eq_ok {context openEpoch cutoff resolution : Int}
    (h : CompletedHtfPrefix context openEpoch cutoff resolution) :
    validateCompletedHtfPrefix context openEpoch cutoff resolution =
      .ok ((cutoff - openEpoch) / resolution) := by
  have hcontext : context ∈ ([15, 30, 60] : List Int) := by simpa using h.context
  have hpositive : 0 < context := by
    have := h.context
    omega
  have hopen := h.openEpoch
  have hresolution := h.resolution
  have hbelow := h.below
  have hnonempty := h.nonempty
  simp only [validateCompletedHtfPrefix, requirePositive, requireNonNegative, then_ok_iff,
    failIf_ok_iff, pure_ok_iff, hcontext, h.divides, h.inside, h.slices, h.aligned, ne_eq,
    not_true_eq_false, not_false_eq_true, or_false, true_and, and_true]
  omega

/-! ## Transcripts -/

/-- `HTFFlipProofTranscript`. -/
structure HTFFlipProofTranscript where
  contextMinutes : Int
  htfOpenEpoch : Int
  htfOpenTicks : Int
  scanCutoffEpoch : Int
  proofResolutionSeconds : Int
  coverageStartEpoch : Int
  coverageEndEpoch : Int
  expectedChildCount : Int
  observedChildCount : Int
  gapPresent : Bool
  fullLifecycleOrdered : Bool
  destinationSeenBeforeContact : Bool
  contactCandle : Option OrderedCandle
  recrossCandle : Option OrderedCandle
  sameChild : Bool
  deriving DecidableEq

/-- Both candles are there and span the same interval. -/
def sameInterval (contact recross : Option OrderedCandle) : Bool :=
  match contact, recross with
  | some contact, some recross =>
    contact.openEpoch = recross.openEpoch ∧ contact.closeEpoch = recross.closeEpoch
  | _, _ => false

def transcriptPostInit (transcript : HTFFlipProofTranscript) : Except String Unit := do
  requireNonNegative transcript.htfOpenEpoch "htf_open_epoch"
  requireNonNegative transcript.scanCutoffEpoch "scan_cutoff_epoch"
  requirePositive transcript.proofResolutionSeconds "proof_resolution_seconds"
  requireNonNegative transcript.coverageStartEpoch "coverage_start_epoch"
  requireNonNegative transcript.coverageEndEpoch "coverage_end_epoch"
  requireNonNegative transcript.expectedChildCount "expected_child_count"
  requireNonNegative transcript.observedChildCount "observed_child_count"
  failIf (transcript.coverageStartEpoch ≠ transcript.htfOpenEpoch)
    "coverage_start_epoch must equal htf_open_epoch"
  failIf (transcript.coverageEndEpoch ≠ transcript.scanCutoffEpoch)
    "coverage_end_epoch must equal scan_cutoff_epoch"
  discard (validateCompletedHtfPrefix transcript.contextMinutes transcript.htfOpenEpoch
    transcript.scanCutoffEpoch transcript.proofResolutionSeconds)
  failIf (transcript.recrossCandle.isSome ∧ transcript.contactCandle.isNone)
    "recross_candle requires contact_candle"
  failIf (transcript.sameChild ≠ sameInterval transcript.contactCandle transcript.recrossCandle)
    "same_child must exactly reflect retained candle intervals"

def optionalCandle (candle : Option OrderedCandle) : PyObject :=
  (candle.map OrderedCandle.toMapping).getD .none

def HTFFlipProofTranscript.toMapping (transcript : HTFFlipProofTranscript) : PyObject :=
  mapping
    [("context_minutes", .int transcript.contextMinutes),
      ("htf_open_epoch", .int transcript.htfOpenEpoch),
      ("htf_open_ticks", .int transcript.htfOpenTicks),
      ("scan_cutoff_epoch", .int transcript.scanCutoffEpoch),
      ("proof_resolution_seconds", .int transcript.proofResolutionSeconds),
      ("coverage_start_epoch", .int transcript.coverageStartEpoch),
      ("coverage_end_epoch", .int transcript.coverageEndEpoch),
      ("expected_child_count", .int transcript.expectedChildCount),
      ("observed_child_count", .int transcript.observedChildCount),
      ("gap_present", .bool transcript.gapPresent),
      ("full_lifecycle_ordered", .bool transcript.fullLifecycleOrdered),
      ("destination_seen_before_contact", .bool transcript.destinationSeenBeforeContact),
      ("contact_candle", optionalCandle transcript.contactCandle),
      ("recross_candle", optionalCandle transcript.recrossCandle),
      ("same_child", .bool transcript.sameChild)]

/-! ## Proofs -/

/-- `HTFFlipProof`. -/
structure HTFFlipProof where
  matched : Bool
  eventAnchorEpoch : Int
  triggerEpoch : Option Int
  triggerTicks : Option Int
  htfContextMinutes : List Int
  fidelity : CandidateFidelity
  proofPlane : ProofPlane
  proofResolutionSeconds : Int
  coverageStartEpoch : Int
  coverageEndEpoch : Int
  coverageExpectedChildCount : Int
  coverageObservedChildCount : Int
  coverageGapDetected : Bool
  contactChild : Option OrderedCandle
  recrossChild : Option OrderedCandle
  destinationSeenBeforeContact : Bool
  ambiguityCodes : List AmbiguityCode
  transcriptSha256 : String
  fullLifecycleOrdered : Bool
  transcript : HTFFlipProofTranscript
  deriving DecidableEq

/-- The fields of a proof, its digest apart, repeat those of its transcript. -/
def HTFFlipProof.Agrees (proof : HTFFlipProof) : Prop :=
  proof.eventAnchorEpoch = proof.transcript.htfOpenEpoch ∧
    proof.htfContextMinutes = [proof.transcript.contextMinutes] ∧
    proof.proofPlane = .lowerTimeframeReplay ∧
    proof.proofResolutionSeconds = proof.transcript.proofResolutionSeconds ∧
    proof.coverageStartEpoch = proof.transcript.coverageStartEpoch ∧
    proof.coverageEndEpoch = proof.transcript.coverageEndEpoch ∧
    proof.coverageExpectedChildCount = proof.transcript.expectedChildCount ∧
    proof.coverageObservedChildCount = proof.transcript.observedChildCount ∧
    proof.coverageGapDetected = proof.transcript.gapPresent ∧
    proof.contactChild = proof.transcript.contactCandle ∧
    proof.recrossChild = proof.transcript.recrossCandle ∧
    proof.destinationSeenBeforeContact = proof.transcript.destinationSeenBeforeContact ∧
    proof.fullLifecycleOrdered = proof.transcript.fullLifecycleOrdered ∧
    proof.triggerEpoch = proof.transcript.recrossCandle.map (·.closeEpoch) ∧
    proof.triggerTicks = proof.transcript.recrossCandle.map fun _ => proof.transcript.htfOpenTicks

instance (proof : HTFFlipProof) : Decidable proof.Agrees := by
  unfold HTFFlipProof.Agrees
  infer_instance

def proofPostInit (sha256 : ByteArray → String) (proof : HTFFlipProof) : Except String Unit := do
  requireNonNegative proof.eventAnchorEpoch "event_anchor_epoch"
  failIf (proof.triggerEpoch.isNone ≠ proof.triggerTicks.isNone)
    "trigger epoch and ticks must both be present or absent"
  whenSome proof.triggerEpoch (requireNonNegative · "trigger_epoch")
  requireSortedUniqueContexts proof.htfContextMinutes
  requirePositive proof.proofResolutionSeconds "proof_resolution_seconds"
  requireNonNegative proof.coverageStartEpoch "coverage_start_epoch"
  requireNonNegative proof.coverageEndEpoch "coverage_end_epoch"
  requireNonNegative proof.coverageExpectedChildCount "coverage_expected_child_count"
  requireNonNegative proof.coverageObservedChildCount "coverage_observed_child_count"
  failIf (proof.coverageEndEpoch ≤ proof.coverageStartEpoch) "coverage epochs must increase"
  failIf (¬ proof.ambiguityCodes.Nodup) "ambiguity_codes must not contain duplicates"
  requireSha256 proof.transcriptSha256 "transcript_sha256"
  failIf (¬ proof.Agrees) "HTF proof fields must agree with its transcript"
  let transcriptSha256 ← canonicalSha256 sha256 proof.transcript.toMapping
  failIf (proof.transcriptSha256 ≠ transcriptSha256)
    "HTF proof fields must agree with its transcript"

end TradeOps.EntryModels
