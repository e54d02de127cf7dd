import TradeOps.Entry.DomainV3

/-!
# Validators of the v3 entry records

Embeds the validating functions of `rd-entry-domain-v3.ts`, check by check and with the source's
messages: the raw arbitration input with its proofs, the candidate, evidence and selection records,
and the whole evaluation.
-/

namespace TradeOps.Entry

open Checks SortBy
open JsString (js trimBy)
open scoped JsString

/-! ## Shared checks -/

def isSafeInteger (value : Int) : Prop :=
  -9007199254740991 ≤ value ∧ value ≤ 9007199254740991

instance (value : Int) : Decidable (isSafeInteger value) :=
  inferInstanceAs (Decidable (_ ∧ _))

def safeInteger (value : Int) (name : String) (minimum : Option Int) : Except String Unit :=
  failIf (¬ isSafeInteger value ∨ ∃ m ∈ minimum, value < m) (name ++ " must be a safe integer")

def unique (values : List JsString) (name : String) : Except String Unit :=
  failIf ((∃ value ∈ values, value = []) ∨ ¬ values.Nodup)
    (name ++ " must contain unique non-empty strings")

def isLowerHex (c : Char) : Bool :=
  ('0' ≤ c ∧ c ≤ '9') ∨ ('a' ≤ c ∧ c ≤ 'f')

/-- The pattern `^[a-f0-9]{64}$`. -/
def sha256Text (value : String) : Bool :=
  value.toList.length = 64 ∧ value.toList.all isLowerHex

def zeroSha256 : String := "0000000000000000000000000000000000000000000000000000000000000000"

def digest (value name : String) : Except String Unit :=
  failIf (sha256Text value = false ∨ value = zeroSha256)
    (name ++ " must be a nonzero lowercase SHA-256")

section Letters

/-! A digest that is written out is checked letter by letter. -/

variable {letters : List Char}

theorem sha256Text_ofList (hlength : letters.length = 64) (hhex : letters.all isLowerHex = true) :
    sha256Text (String.ofList letters) = true := by
  rw [sha256Text, String.toList_ofList]
  exact decide_eq_true ⟨hlength, hhex⟩

theorem ofList_ne_zeroSha256 (h : letters.any (· ≠ '0') = true) :
    String.ofList letters ≠ zeroSha256 := by
  intro heq
  obtain ⟨letter, hletter, hne⟩ := List.any_eq_true.1 h
  have hletters : letters = List.replicate 64 '0' := String.ofList_injective heq
  rw [hletters] at hletter
  exact of_decide_eq_true hne (List.eq_of_mem_replicate hletter)

theorem not_badDigest_ofList (hlength : letters.length = 64)
    (hhex : letters.all isLowerHex = true) (hzero : letters.any (· ≠ '0') = true) :
    ¬ (sha256Text (String.ofList letters) = false ∨ String.ofList letters = zeroSha256) := by
  rw [sha256Text_ofList hlength hhex]
  rintro (h | h)
  · cases h
  · exact ofList_ne_zeroSha256 hzero h

theorem digest_ofList {name : String} (hlength : letters.length = 64)
    (hhex : letters.all isLowerHex = true) (hzero : letters.any (· ≠ '0') = true) :
    digest (String.ofList letters) name = .ok () :=
  failIf_ok_iff.2 (not_badDigest_ofList hlength hhex hzero)

end Letters

/-- The characters `String.prototype.trim` strips. -/
def isTrimSpace (n : Nat) : Bool :=
  (9 ≤ n ∧ n ≤ 13) ∨ n = 0x20 ∨ n = 0xA0 ∨ n = 0x1680 ∨ (0x2000 ≤ n ∧ n ≤ 0x200A) ∨
    n = 0x2028 ∨ n = 0x2029 ∨ n = 0x202F ∨ n = 0x205F ∨ n = 0x3000 ∨ n = 0xFEFF

def trim (value : JsString) : JsString :=
  trimBy (isTrimSpace ·.toNat) value

/-- `Array.prototype.join` with its default separator. -/
def join (values : List String) : String :=
  ",".intercalate values

def validateLiquidityCohortV3 (setup : SetupEntryFactsV3) : Except String Unit :=
  failIf
    ((setup.liquidityCohort = .oneCandle ∧
        (setup.oneCandleEnabled = false ∨ setup.commonFidelity = .exact)) ∨
      (setup.liquidityCohort = .twoPlusCandles ∧ setup.commonFidelity = .discretionary))
    "invalid liquidity cohort"

def validateOrderedCandleV3 (candle : OrderedCandleV3) (name : String) : Except String Unit := do
  safeInteger candle.openEpoch (name ++ ".open_epoch") (some 0)
  safeInteger candle.closeEpoch (name ++ ".close_epoch") (some 0)
  safeInteger candle.openTicks (name ++ ".open_ticks") none
  safeInteger candle.highTicks (name ++ ".high_ticks") none
  safeInteger candle.lowTicks (name ++ ".low_ticks") none
  safeInteger candle.closeTicks (name ++ ".close_ticks") none
  failIf
    (candle.closeEpoch ≤ candle.openEpoch ∨
      candle.highTicks < max (max candle.openTicks candle.closeTicks) candle.lowTicks ∨
      candle.lowTicks > min (min candle.openTicks candle.closeTicks) candle.highTicks)
    (name ++ " chronology or OHLC is invalid")

/-- The three supported higher timeframes, in minutes. -/
def supportedContext (context : Int) : Prop :=
  context = 15 ∨ context = 30 ∨ context = 60

instance (context : Int) : Decidable (supportedContext context) :=
  inferInstanceAs (Decidable (_ ∨ _))

def validateContextsV3 (value : List Int) (name : String) : Except String Unit :=
  failIf
    (value.length > 3 ∨ (∃ context ∈ value, ¬ supportedContext context) ∨
      sortBy id value ≠ value ∨ ¬ value.Nodup)
    (name ++ " must be sorted unique supported HTF contexts")

/-! ## Raw proofs and the arbitration input -/

def validateBocProofV3 (proof : BocProofV3) (observedAtEpoch : Int) : Except String Unit := do
  validateOrderedCandleV3 proof.referenceCandle "reference_candle"
  safeInteger proof.triggerCandleOpenEpoch "trigger_candle_open_epoch" (some 0)
  safeInteger proof.triggerEpoch "trigger_epoch" (some 0)
  safeInteger proof.triggerSequence "trigger_sequence" (some 0)
  safeInteger proof.triggerTicks "trigger_ticks" none
  whenSome proof.htfBoundaryEpoch fun epoch => safeInteger epoch "htf_boundary_epoch" (some 0)
  validateContextsV3 proof.htfContextMinutes "htf_context_minutes"
  safeInteger proof.coverageStartEpoch "coverage_start_epoch" (some 0)
  safeInteger proof.coverageEndEpoch "coverage_end_epoch" (some 0)
  failIf
    (proof.coverageEndEpoch ≤ proof.coverageStartEpoch ∨
      proof.coverageEndEpoch > observedAtEpoch ∨
      proof.triggerEpoch < proof.coverageStartEpoch ∨
      proof.triggerEpoch > proof.coverageEndEpoch ∨
      proof.referenceCandle.closeEpoch - proof.referenceCandle.openEpoch ≠ 300 ∨
      proof.referenceCandle.openEpoch % 300 ≠ 0 ∨
      proof.triggerCandleOpenEpoch % 300 ≠ 0 ∨
      proof.referenceCandle.closeEpoch > proof.triggerCandleOpenEpoch ∨
      proof.triggerEpoch < proof.triggerCandleOpenEpoch ∨
      proof.triggerEpoch ≥ proof.triggerCandleOpenEpoch + 300)
    "BOC proof chronology is invalid"

/-- A flip candle is well formed and lies inside the proof's coverage. -/
def validateFlipCandleV3 (proof : EntryTriggerProofV3) (candle : OrderedCandleV3) (name : String) :
    Except String Unit := do
  validateOrderedCandleV3 candle name
  failIf
    (candle.openEpoch < proof.coverageStartEpoch ∨ candle.closeEpoch > proof.coverageEndEpoch)
    (name ++ " lies outside coverage")

def validateFlipProofV3 (proof : EntryTriggerProofV3) (observedAtEpoch : Int) :
    Except String Unit := do
  safeInteger proof.eventAnchorEpoch "event_anchor_epoch" (some 0)
  safeInteger proof.triggerEpoch "trigger_epoch" (some 0)
  safeInteger proof.triggerSequence "trigger_sequence" (some 0)
  safeInteger proof.coverageStartEpoch "coverage_start_epoch" (some 0)
  safeInteger proof.coverageEndEpoch "coverage_end_epoch" (some 0)
  safeInteger proof.triggerTicks "trigger_ticks" none
  safeInteger proof.htfOpenTicks "htf_open_ticks" none
  validateContextsV3 proof.htfContextMinutes "htf_context_minutes"
  failIf (¬ proof.ambiguityCodes.Nodup) "HTF flip proof enums are unsupported"
  failIf
    (proof.coverageEndEpoch ≤ proof.coverageStartEpoch ∨
      proof.coverageEndEpoch > observedAtEpoch ∨
      proof.triggerEpoch < proof.coverageStartEpoch ∨
      proof.triggerEpoch > proof.coverageEndEpoch)
    "HTF flip coverage is invalid"
  whenSome proof.contactCandle fun candle => validateFlipCandleV3 proof candle "contact_candle"
  whenSome proof.recrossCandle fun candle => validateFlipCandleV3 proof candle "recross_candle"
  failIf (proof.recrossCandle ≠ none ∧ proof.contactCandle = none)
    "recross_candle requires contact_candle"
  whenSome proof.contactCandle fun contact =>
    failIf (proof.eventAnchorEpoch > contact.openEpoch) "HTF anchor must precede contact"
  whenSome proof.contactCandle fun contact =>
    whenSome proof.recrossCandle fun recross =>
      failIf
        (contact.closeEpoch > recross.openEpoch ∨ proof.triggerEpoch ≠ recross.closeEpoch ∨
          proof.triggerTicks ≠ recross.closeTicks)
        "HTF flip trigger must equal the retained recross market close"
  failIf
    (∃ context ∈ proof.htfContextMinutes,
      proof.triggerEpoch ≥ proof.eventAnchorEpoch + context * 60)
    "HTF trigger lies outside context"

/-- A confirmed close is an aligned five-minute bar. -/
def validateConfirmedBarV3 (bar : OrderedCandleV3) (name message : String) :
    Except String Unit := do
  validateOrderedCandleV3 bar name
  failIf (bar.closeEpoch - bar.openEpoch ≠ 300 ∨ bar.openEpoch % 300 ≠ 0) message

/-- The setup facts an input states, with the defaults of the two cohort fields. -/
def EntryArbitrationInputV3.setupFacts (input : EntryArbitrationInputV3) : SetupEntryFactsV3 where
  setupId := input.setupId
  direction := input.direction
  zoneTopTicks := input.zoneTopTicks
  zoneBottomTicks := input.zoneBottomTicks
  zoneEngagedEpoch := input.zoneEngagedEpoch
  invalidatedBeforeEntry := input.setupInvalidated
  commonFidelity := input.commonFidelity
  liquidityCohort := input.liquidityCohort.getD .twoPlusCandles
  oneCandleEnabled := input.oneCandleEnabled.getD false

def validateOpenedSelectionSeedV3 (input : EntryArbitrationInputV3)
    (seed : OpenedSelectionSeedV3) : Except String Unit := do
  failIf (input.liquidityCohort.getD .twoPlusCandles = .oneCandle)
    "one-candle setup cannot have an opened selection"
  validateConfirmedBarV3 seed.confirmedBar "opened confirmed_bar"
    "opened confirmed bar must be aligned five-minute"
  safeInteger seed.triggerSequence "opened trigger_sequence" (some 0)
  safeInteger seed.revision "opened revision" (some 0)
  safeInteger seed.evaluatedAtEpoch "opened evaluated_at_epoch" (some 0)
  failIf (seed.evaluatedAtEpoch > input.evaluatedAtEpoch)
    "opened selection cannot follow evaluation"

def validateEntryArbitrationInputV3 (input : EntryArbitrationInputV3) : Except String Unit := do
  -- the two cohort fields come together: the legacy key set has neither
  failIf (input.liquidityCohort.isSome ≠ input.oneCandleEnabled.isSome)
    "entry arbitration input has unsupported keys"
  failIf
    (input.setupId = [] ∨ trim input.setupId ≠ input.setupId ∨
      input.policyVersion ≠ policyVersionV3)
    "entry arbitration input enums are unsupported"
  safeInteger input.zoneTopTicks "zone_top_ticks" none
  safeInteger input.zoneBottomTicks "zone_bottom_ticks" none
  failIf (input.zoneTopTicks ≤ input.zoneBottomTicks) "zone geometry is inverted"
  whenSome input.zoneEngagedEpoch fun epoch => safeInteger epoch "zone_engaged_epoch" (some 0)
  validateLiquidityCohortV3 input.setupFacts
  safeInteger input.closeTriggerSequence "close_trigger_sequence" (some 0)
  safeInteger input.observedAtEpoch "observed_at_epoch" (some 0)
  safeInteger input.revision "revision" (some 0)
  safeInteger input.evaluatedAtEpoch "evaluated_at_epoch" (some 0)
  failIf (input.observedAtEpoch > input.evaluatedAtEpoch) "observation cannot follow evaluation"
  failIf (input.directionalClose ≠ input.confirmedBar.isSome)
    "directional_close and confirmed_bar must pair"
  whenSome input.confirmedBar fun bar =>
    validateConfirmedBarV3 bar "confirmed_bar" "confirmed close must be an aligned five-minute bar"
  whenSome input.bocProof fun proof => validateBocProofV3 proof input.observedAtEpoch
  whenSome input.htfFlipProof fun proof => validateFlipProofV3 proof input.observedAtEpoch
  whenSome input.openedSelectionSeed fun seed => validateOpenedSelectionSeedV3 input seed

/-! ## Candidate and evidence records -/

def validateEntryCandidateV3 (candidate : EntryCandidateV3) : Except String Unit := do
  digest candidate.candidateId "candidate_id"
  failIf (candidate.setupId = []) "candidate enum or identity field is invalid"
  safeInteger candidate.eventAnchorEpoch "event_anchor_epoch" (some 0)
  safeInteger candidate.triggerOrdinal "trigger_ordinal" (some 1)
  safeInteger candidate.observedAtEpoch "observed_at_epoch" (some 0)
  failIf
    (if candidate.model = .boc then
      candidate.bocTier = none ∨ candidate.referenceCandleOpenEpoch = none
    else candidate.bocTier ≠ none ∨ candidate.referenceCandleOpenEpoch ≠ none)
    "candidate BOC identity fields are inconsistent"
  whenSome candidate.referenceCandleOpenEpoch fun epoch =>
    safeInteger epoch "reference_candle_open_epoch" (some 0)
  unique candidate.sourceClaimIds "source_claim_ids"

def exactEvidenceRuleIsConsistent (candidate : EntryCandidateV3)
    (evidence : EntryCandidateEvidenceV3) : Bool :=
  evidence.passedRuleIds = [expectedRules candidate.model] ∧ evidence.failedRuleIds = []

def sourceClaimsBocHtfTimed : List JsString :=
  ["discretionary-break-2025-11", "reject-non-htf-break-2026-05", "htf-timed-boc-2026-06"]

def sourceClaimsBocDiscretionary5m : List JsString :=
  ["discretionary-break-2025-11"]

def sourceClaimsDirClose : List JsString :=
  ["standard-close-2024-03", "closure-or-flip-2025-03", "directional-close-2025-08",
    "directional-close-required-2026-06", "model-continuation-2026-07"]

def sourceClaimsHtfFlip : List JsString :=
  ["htf-flip-2024-03", "htf-context-set-2025-08", "htf-flip-definition-2025-08",
    "pure-flip-narrowing-2026-05", "model-continuation-2026-07"]

def expectedSourceClaimsV3 (candidate : EntryCandidateV3) : List JsString :=
  match candidate.model with
  | .boc =>
    if candidate.bocTier = some .htfTimed then sourceClaimsBocHtfTimed
    else sourceClaimsBocDiscretionary5m
  | .dirClose => sourceClaimsDirClose
  | .htfFlip => sourceClaimsHtfFlip

/-- The five reference candle fields of BOC evidence. -/
def EvidencePayloadFields.referenceValues (e : EvidencePayloadFields) : List (Option Int) :=
  [e.referenceCandleOpenEpoch, e.referenceCandleOpenTicks, e.referenceCandleHighTicks,
    e.referenceCandleLowTicks, e.referenceCandleCloseTicks]

/-- Which of the six flip lifecycle fields are present. -/
def EvidencePayloadFields.flipPresent (e : EvidencePayloadFields) : List Bool :=
  [e.htfOpenTicks.isSome, e.contactCandle.isSome, e.recrossCandle.isSome,
    e.coverageGapDetected.isSome, e.fullLifecycleOrdered.isSome,
    e.destinationSeenBeforeContact.isSome]

/-- The reference candle of evidence that has a BOC tier. -/
def validateReferenceV3 (evidence : EntryCandidateEvidenceV3) : Except String Unit :=
  match evidence.referenceCandleOpenEpoch, evidence.referenceCandleOpenTicks,
    evidence.referenceCandleHighTicks, evidence.referenceCandleLowTicks,
    evidence.referenceCandleCloseTicks with
  | some openEpoch, some openTicks, some high, some low, some close => do
    safeInteger openEpoch "reference_candle_open_epoch" (some 0)
    safeInteger openTicks "reference_candle_open_ticks" none
    safeInteger high "reference_candle_high_ticks" none
    safeInteger low "reference_candle_low_ticks" none
    safeInteger close "reference_candle_close_ticks" none
    failIf (high < max (max openTicks close) low ∨ low > min (min openTicks close) high)
      "reference OHLC is invalid"
  | _, _, _, _, _ => .ok ()

/-- The lifecycle candles of evidence that carries the flip fields. -/
def validateLifecycleV3 (evidence : EntryCandidateEvidenceV3) : Except String Unit :=
  match evidence.contactCandle, evidence.recrossCandle with
  | some contact, some recross => do
    validateOrderedCandleV3 contact "contact_candle"
    validateOrderedCandleV3 recross "recross_candle"
    failIf
      (contact.closeEpoch > recross.openEpoch ∨
        evidence.observedTriggerEpoch ≠ some recross.closeEpoch ∨
        evidence.observedTriggerTicks ≠ some recross.closeTicks)
      "flip lifecycle chronology is inconsistent"
  | _, _ => .ok ()

/-- The replayability that exact evidence of a plane must state. -/
def expectedReplayability (plane : ProofPlaneV3) : EvidenceReplayability :=
  if plane = .realtimeTick then .liveExactNonReplayable else .replayable

def validateEntryEvidenceV3 (evidence : EntryCandidateEvidenceV3) : Except String Unit := do
  digest evidence.evidenceId "evidence_id"
  digest evidence.candidateId "candidate_id"
  digest evidence.payloadSha256 "payload_sha256"
  failIf (evidence.observedTriggerEpoch.isNone ≠ evidence.observedTriggerTicks.isNone)
    "trigger epoch and ticks must pair"
  safeInteger evidence.triggerSequence "trigger_sequence" (some 0)
  safeInteger evidence.coverageStartEpoch "coverage_start_epoch" (some 0)
  safeInteger evidence.coverageEndEpoch "coverage_end_epoch" (some 0)
  safeInteger evidence.observedAtEpoch "observed_at_epoch" (some 0)
  failIf
    (evidence.coverageEndEpoch ≤ evidence.coverageStartEpoch ∨
      evidence.coverageEndEpoch > evidence.observedAtEpoch)
    "evidence fidelity, plane, or coverage is invalid"
  whenSome evidence.observedTriggerEpoch fun epoch =>
    failIf
      (epoch < evidence.coverageStartEpoch ∨ epoch > evidence.coverageEndEpoch ∨
        epoch > evidence.observedAtEpoch)
      "trigger lies outside causal coverage"
  failIf
    (sortBy id evidence.htfContextMinutes ≠ evidence.htfContextMinutes ∨
      ¬ evidence.htfContextMinutes.Nodup ∨
      ∃ context ∈ evidence.htfContextMinutes, ¬ supportedContext context)
    "HTF contexts must be sorted, unique, and supported"
  unique (evidence.ambiguityCodes.map (js ·.name)) "ambiguity_codes"
  unique evidence.passedRuleIds "passed_rule_ids"
  unique evidence.failedRuleIds "failed_rule_ids"
  unique evidence.sourceClaimIds "source_claim_ids"
  failIf
    ((∃ rule ∈ evidence.passedRuleIds, rule ∈ evidence.failedRuleIds) ∨
      (evidence.fidelity = .exact ∧
        (evidence.failedRuleIds ≠ [] ∨ evidence.passedRuleIds = [])))
    "evidence rule results are inconsistent"
  failIf
    (if evidence.bocTier = none then ∃ value ∈ evidence.referenceValues, value ≠ none
    else ∃ value ∈ evidence.referenceValues, value = none)
    "BOC evidence requires complete reference OHLC"
  whenSome evidence.bocTier fun _ => validateReferenceV3 evidence
  failIf (true ∈ evidence.flipPresent ∧ false ∈ evidence.flipPresent)
    "flip evidence lifecycle fields must be complete"
  validateLifecycleV3 evidence
  failIf
    (evidence.fidelity = .exact ∧
      evidence.replayability ≠ expectedReplayability evidence.proofPlane)
    "exact proof plane and replayability are inconsistent"

/-! ## Selections and whole evaluations -/

def canonicalReasons : List SelectionReasonV3 :=
  [.onlyExactTrigger, .earliestExactTrigger, .fallbackToConfirmedClose, .coTriggerSameEvent]

/-- The action of a selection without a canonical candidate. -/
def emptyActions : SelectionReasonV3 → Option SelectionActionV3
  | .coTriggerPriceConflict => some .shadowOnly
  | .noExactCandidate => some .shadowOnly
  | .setupInvalidated => some .none
  | .noCandidate => some .none
  | _ => none

def validateSelectionShapeV3 (selection : EntrySelectionV3) : Except String Unit := do
  digest selection.selectionId "selection_id"
  failIf (selection.policyVersion ≠ policyVersionV3 ∨ selection.setupId = [])
    "selection identity is invalid"
  safeInteger selection.revision "revision" (some 0)
  safeInteger selection.evaluatedAtEpoch "evaluated_at_epoch" (some 0)
  unique (selection.candidateIdsConsidered.map js) "candidate_ids_considered"
  failIf
    (join (sortBy id selection.candidateIdsConsidered) ≠ join selection.candidateIdsConsidered)
    "candidate IDs considered must be sorted"
  failIf
    (selection.canonicalCandidateId.isNone ≠ selection.canonicalEvidenceId.isNone ∨
      selection.canonicalCandidateId.isNone ≠ selection.canonicalModel.isNone)
    "canonical selection pointers and model must agree"
  whenSome selection.canonicalCandidateId fun id => digest id "canonical_candidate_id"
  whenSome selection.canonicalEvidenceId fun id => digest id "canonical_evidence_id"
  failIf
    (sortBy (·.name) selection.coTriggeredModels.dedup ≠ selection.coTriggeredModels)
    "co-triggered models must be sorted and unique"
  if selection.canonicalCandidateId.isSome then
    failIf
      (selection.fidelity ≠ some .exact ∨ selection.action ≠ .paperEligible ∨
        selection.reason ∉ canonicalReasons)
      "canonical action, reason, and fidelity are inconsistent"
  else
    failIf
      (selection.fidelity ≠ none ∨ emptyActions selection.reason ≠ some selection.action)
      "canonical-null action, reason, and fidelity are inconsistent"
  failIf
    (if selection.reason = .coTriggerSameEvent then selection.coTriggeredModels.length < 2
    else selection.coTriggeredModels.length ≠ 0)
    "co-trigger fields are inconsistent"

/-- The geometry that exact evidence of a candidate has to show, by model. -/
def validateExactGeometryV3 (candidate : EntryCandidateV3)
    (evidence : EntryCandidateEvidenceV3) : Except String Unit :=
  match candidate.model with
  | .dirClose =>
    failIf
      (candidate.eventAnchorEpoch ≠ evidence.coverageStartEpoch ∨
        evidence.coverageEndEpoch - evidence.coverageStartEpoch ≠ 300 ∨
        evidence.observedTriggerEpoch ≠ some evidence.coverageEndEpoch)
      "exact close evidence must cover one five-minute bar"
  | .boc =>
    match candidate.referenceCandleOpenEpoch, evidence.referenceCandleOpenEpoch,
      evidence.observedTriggerEpoch with
    | some candidateReference, some reference, some trigger =>
      let triggerOpen := trigger / 300 * 300
      failIf
        (candidate.eventAnchorEpoch ≠ candidateReference ∨ candidateReference % 300 ≠ 0 ∨
          reference ≠ candidateReference ∨ reference + 300 > triggerOpen ∨
          evidence.htfContextMinutes = [] ∨
          ∃ context ∈ evidence.htfContextMinutes, triggerOpen % (context * 60) ≠ 0)
        "exact BOC evidence violates causal HTF timing"
    | _, _, _ => .error "exact BOC evidence requires reference and trigger epochs"
  | .htfFlip =>
    match evidence.htfOpenTicks, evidence.contactCandle, evidence.recrossCandle,
      evidence.observedTriggerEpoch with
    | some htfOpen, some contact, some recross, some trigger => do
      failIf
        (evidence.coverageGapDetected ≠ some false ∨ evidence.fullLifecycleOrdered ≠ some true ∨
          evidence.destinationSeenBeforeContact ≠ some false ∨
          candidate.eventAnchorEpoch > contact.openEpoch ∨ evidence.htfContextMinutes = [] ∨
          ∃ context ∈ evidence.htfContextMinutes,
            trigger ≥ candidate.eventAnchorEpoch + context * 60)
        "exact flip evidence lacks ordered lifecycle chronology"
      failIf
        (if candidate.direction = .long then contact.highTicks > htfOpen
        else contact.lowTicks < htfOpen)
        "flip contact already crossed the HTF open"
      failIf
        (¬ if candidate.direction = .long then recross.closeTicks > htfOpen
        else recross.closeTicks < htfOpen)
        "flip actual close did not cross the HTF open"
    | _, _, _, _ => .error "exact flip evidence lacks ordered lifecycle chronology"

/-- The checks of one evidence record against the candidate it names. -/
def validateEvidenceOfCandidateV3 (candidates : List EntryCandidateV3)
    (evidence : EntryCandidateEvidenceV3) : Except String Unit :=
  match candidates.find? (·.candidateId = evidence.candidateId) with
  | none => .error "evidence references unknown candidate"
  | some candidate => do
    failIf (evidence.sourceClaimIds ≠ expectedSourceClaimsV3 candidate)
      "source claims conflict with candidate model"
    failIf
      (evidence.fidelity = .exact ∧ exactEvidenceRuleIsConsistent candidate evidence = false)
      "exact evidence rule results conflict with candidate model"
    if evidence.fidelity = .exact then validateExactGeometryV3 candidate evidence

/-- The checks of the canonical pointers of a selection. -/
def validateCanonicalV3 (evaluation : EntryEvaluationV3) (canonicalCandidateId : String) :
    Except String Unit :=
  let selection := evaluation.selection
  match evaluation.candidates.find? (·.candidateId = canonicalCandidateId),
    evaluation.evidence.find? (fun e => some e.evidenceId = selection.canonicalEvidenceId) with
  | some candidate, some evidence => do
    failIf
      (evidence.candidateId ≠ candidate.candidateId ∨
        selection.canonicalModel ≠ some candidate.model ∨
        selection.fidelity ≠ some evidence.fidelity)
      "canonical selection graph is inconsistent"
    failIf
      (selection.action = .paperEligible ∧
        (candidate.state ≠ .matched ∨ evidence.fidelity ≠ .exact ∨
          exactEvidenceRuleIsConsistent candidate evidence = false))
      "paper eligible selection requires matched exact evidence"
    if candidate.model = .htfFlip then
      match evidence.contactCandle, evidence.observedTriggerEpoch with
      | some contact, some trigger =>
        failIf
          (candidate.eventAnchorEpoch > contact.openEpoch ∨ evidence.htfContextMinutes = [] ∨
            ∃ context ∈ evidence.htfContextMinutes,
              trigger ≥ candidate.eventAnchorEpoch + context * 60)
          "canonical flip violates anchor chronology"
      | _, _ => .error "canonical flip violates anchor chronology"
  | _, _ => .error "canonical selection graph is inconsistent"

def validateEntryEvaluationV3 (evaluation : EntryEvaluationV3) : Except String Unit := do
  let candidateIds := evaluation.candidates.map (·.candidateId)
  let evidenceIds := evaluation.evidence.map (·.evidenceId)
  forAll validateEntryCandidateV3 evaluation.candidates
  forAll validateEntryEvidenceV3 evaluation.evidence
  validateSelectionShapeV3 evaluation.selection
  failIf
    ((∃ candidate ∈ evaluation.candidates,
        candidate.observedAtEpoch > evaluation.selection.evaluatedAtEpoch) ∨
      ∃ evidence ∈ evaluation.evidence,
        evidence.observedAtEpoch > evaluation.selection.evaluatedAtEpoch)
    "records cannot be observed after selection evaluation"
  failIf
    (join candidateIds ≠ join (sortBy id candidateIds) ∨
      join evidenceIds ≠ join (sortBy id evidenceIds) ∨ ¬ candidateIds.Nodup ∨
      ¬ evidenceIds.Nodup ∨ join evaluation.selection.candidateIdsConsidered ≠ join candidateIds)
    "evaluation records must be unique, sorted, and selected"
  forAll
    (fun candidate =>
      failIf (candidate.sourceClaimIds ≠ expectedSourceClaimsV3 candidate)
        "source claims conflict with candidate model")
    evaluation.candidates
  forAll (validateEvidenceOfCandidateV3 evaluation.candidates) evaluation.evidence
  whenSome evaluation.selection.canonicalCandidateId fun id => validateCanonicalV3 evaluation id

end TradeOps.Entry
