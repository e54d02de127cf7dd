import TradeOps.Entry.RuleContractV3
import TradeOps.Entry.ParityV3

/-!
# Which inputs can be evaluated

An evaluation validates the records that the matchers made, and the validators of the records ask
for more than the validator of the input. Each record of a BOC proof passes. The evidence of a close
passes when its bar closed by the time of observation, the evidence of a flip when both candles of
its lifecycle are there.
-/

namespace TradeOps.Entry

open Checks Keyed SortBy
open JsString (js)
open scoped JsString

/-- A flip proof retains its contact and its recross. -/
def EntryTriggerProofV3.Complete (proof : EntryTriggerProofV3) : Prop :=
  proof.contactCandle.isSome = true ∧ proof.recrossCandle.isSome = true

/-- What the records of an input need: the flip proof is complete and the confirmed bar has closed
when it is observed. -/
structure Evaluable (input : EntryArbitrationInputV3) : Prop where
  flip : ∀ proof, input.htfFlipProof = some proof → proof.Complete
  close : ∀ bar, input.confirmedBar = some bar → bar.closeEpoch ≤ input.observedAtEpoch

/-- The facts of a validated input that the records repeat. -/
structure SoundInput (input : EntryArbitrationInputV3) : Prop extends ValidProofs input where
  setupId : input.setupId ≠ [] ∧ trim input.setupId = input.setupId
  closeSequence : safeInteger input.closeTriggerSequence "close_trigger_sequence" (some 0) = .ok ()
  observedAt : safeInteger input.observedAtEpoch "observed_at_epoch" (some 0) = .ok ()
  revision : safeInteger input.revision "revision" (some 0) = .ok ()
  evaluatedAt : safeInteger input.evaluatedAtEpoch "evaluated_at_epoch" (some 0) = .ok ()
  observed : input.observedAtEpoch ≤ input.evaluatedAtEpoch
  barCandle : ∀ bar, input.confirmedBar = some bar →
    validateOrderedCandleV3 bar "confirmed_bar" = .ok ()

theorem soundInput_of_validate {input : EntryArbitrationInputV3}
    (h : validateEntryArbitrationInputV3 input = .ok ()) : SoundInput input := by
  have hv := validProofs_of_validate h
  unfold validateEntryArbitrationInputV3 at h
  simp only [then_ok_iff, whenSome_ok_iff, failIf_ok_iff, validateConfirmedBarV3] at h
  obtain ⟨-, hsetup, -, -, -, -, -, hsequence, hobserved, hrevision, hevaluated, hordered, -, hbar,
    -⟩ := h
  push Not at hsetup
  exact ⟨hv, ⟨hsetup.1, hsetup.2.1⟩, hsequence, hobserved, hrevision, hevaluated, by omega,
    fun bar hb => (hbar bar hb).1⟩

theorem safeInteger_ok_iff {value : Int} {name : String} {minimum : Option Int} :
    safeInteger value name minimum = .ok () ↔ isSafeInteger value ∧ ∀ m ∈ minimum, m ≤ value := by
  simp [safeInteger]

theorem digest_ok_iff {value name : String} : digest value name = .ok () ↔ IsDigest value := by
  simp only [digest, failIf_ok_iff, not_or, Bool.not_eq_false]
  exact ⟨fun h => ⟨h.1, h.2⟩, fun h => ⟨h.1, h.2⟩⟩

/-! ## What a matcher decides -/

/-- A list that holds at most one message, which is not empty. -/
def OneMessage (failed : List JsString) : Prop :=
  failed = [] ∨ ∃ message, message ≠ [] ∧ failed = [message]

/-- Either the rule passed, or one message says what failed and the fidelity is not exact. -/
structure SoundOutcome (outcome : MatchOutcomeV3) (rule : JsString) : Prop where
  rules : outcome.passedRuleIds = [rule] ∧ outcome.failedRuleIds = [] ∨
    outcome.passedRuleIds = [] ∧ outcome.failedRuleIds ≠ [] ∧ OneMessage outcome.failedRuleIds
  exact : outcome.fidelity = .exact → outcome.state = .matched ∧
    outcome.passedRuleIds = [rule] ∧ outcome.failedRuleIds = []

theorem oneMessage_singleton {message : JsString} (h : message ≠ []) : OneMessage [message] :=
  Or.inr ⟨message, h, rfl⟩

theorem oneMessage_nil : OneMessage [] := Or.inl rfl

/-- One more branch of a chain of rules. -/
theorem oneMessage_ite {c : Prop} [Decidable c] {message : JsString} {rest : List JsString}
    (hmessage : message ≠ []) (h : OneMessage rest) :
    OneMessage (if c then [message] else rest) := by
  by_cases hc : c
  · rw [if_pos hc]
    exact oneMessage_singleton hmessage
  · rw [if_neg hc]
    exact h

theorem OneMessage.unique {failed : List JsString} (h : OneMessage failed) (name : String) :
    unique failed name = .ok () := by
  rcases h with rfl | ⟨message, hne, rfl⟩
  · simp [Entry.unique]
  · simpa [Entry.unique] using hne

namespace SoundOutcome

variable {outcome : MatchOutcomeV3} {rule : JsString}

theorem passed_unique (h : SoundOutcome outcome rule) (hrule : rule ≠ []) (name : String) :
    unique outcome.passedRuleIds name = .ok () := by
  apply OneMessage.unique
  rcases h.rules with ⟨hp, -⟩ | ⟨hp, -⟩
  · exact Or.inr ⟨rule, hrule, hp⟩
  · exact Or.inl hp

theorem failed_unique (h : SoundOutcome outcome rule) (name : String) :
    unique outcome.failedRuleIds name = .ok () := by
  apply OneMessage.unique
  rcases h.rules with ⟨-, hf⟩ | ⟨-, -, hf⟩
  · exact Or.inl hf
  · exact hf

theorem consistent (h : SoundOutcome outcome rule) :
    ¬ ((∃ rule ∈ outcome.passedRuleIds, rule ∈ outcome.failedRuleIds) ∨
      (outcome.fidelity = .exact ∧
        (outcome.failedRuleIds ≠ [] ∨ outcome.passedRuleIds = []))) := by
  rintro (⟨passed, hp, hf⟩ | ⟨hexact, hrules⟩)
  · rcases h.rules with ⟨-, hnil⟩ | ⟨hnil, -⟩
    · rw [hnil] at hf
      cases hf
    · rw [hnil] at hp
      cases hp
  · obtain ⟨-, hp, hf⟩ := h.exact hexact
    rw [hp, hf] at hrules
    simp at hrules

end SoundOutcome

theorem commonFailure_oneMessage (request : EntryMatchRequestV3) (triggerEpoch : Int) :
    OneMessage (commonFailure request triggerEpoch) := by
  unfold commonFailure
  split_ifs
  · apply oneMessage_singleton
    decide
  · apply oneMessage_singleton
    decide
  · cases request.setup.zoneEngagedEpoch with
    | none =>
      apply oneMessage_singleton
      decide
    | some engaged =>
      by_cases h : triggerEpoch < engaged
      · simp only [if_pos h]
        apply oneMessage_singleton
        decide
      · simp only [if_neg h]
        exact Or.inl rfl

theorem realtimeFailure_oneMessage (plane : ProofPlaneV3) (replayability : EvidenceReplayability)
    (isRealtime : Bool) : OneMessage (realtimeFailure plane replayability isRealtime) := by
  unfold realtimeFailure
  split_ifs
  case pos | pos => exact oneMessage_singleton (by simp)
  all_goals exact oneMessage_nil

theorem flipLifecycleFailure_oneMessage (request : EntryMatchRequestV3)
    (proof : EntryTriggerProofV3) : OneMessage (flipLifecycleFailure request proof) := by
  unfold flipLifecycleFailure
  split
  · iterate 10 apply oneMessage_ite (by simp)
    exact oneMessage_nil
  · exact oneMessage_singleton (by simp)

theorem outcomeOf_sound {failed : List JsString} {rule : JsString} (h : OneMessage failed) :
    SoundOutcome (outcomeOf failed rule) rule := by
  unfold outcomeOf
  by_cases hlen : failed.length > 0
  · rw [if_pos hlen]
    exact ⟨Or.inr ⟨rfl, List.ne_nil_of_length_pos hlen, h⟩, fun hf => nomatch hf⟩
  · rw [if_neg hlen]
    exact ⟨Or.inl ⟨rfl, rfl⟩, fun _ => ⟨rfl, rfl, rfl⟩⟩

theorem closeOutcome_sound (request : EntryMatchRequestV3) (bar : OrderedCandleV3) :
    SoundOutcome (closeOutcome request bar) "ENTRY_DIR_CLOSE" := by
  apply outcomeOf_sound
  split_ifs
  · exact commonFailure_oneMessage request bar.closeEpoch
  · exact oneMessage_singleton (by decide)
  · exact Or.inl rfl

theorem flipOutcome_sound (request : EntryMatchRequestV3) (proof : EntryTriggerProofV3) :
    SoundOutcome (flipOutcome request proof) "ENTRY_HTF_FLIP" := by
  apply outcomeOf_sound
  split_ifs
  · exact commonFailure_oneMessage request proof.triggerEpoch
  · exact flipLifecycleFailure_oneMessage request proof
  · exact realtimeFailure_oneMessage _ _ _
  · exact oneMessage_singleton (by decide)
  · exact Or.inl rfl

theorem bocOutcome_sound (request : EntryMatchRequestV3) (proof : BocProofV3) :
    SoundOutcome (bocOutcome request proof) "ENTRY_BOC_HTF_TIMED" := by
  have hc := commonFailure_oneMessage request proof.triggerEpoch
  have hr := realtimeFailure_oneMessage proof.proofPlane proof.replayability proof.isRealtime
  -- a failed rule takes the exact fidelity away
  have failed : ∀ (state : CandidateStateV3) (fidelity : CandidateFidelityV3)
      (messages : List JsString), OneMessage messages → messages.length > 0 →
      SoundOutcome
        (if messages.length > 0 ∧ fidelity = .exact then ⟨state, .unresolved, [], messages⟩
        else ⟨state, fidelity, [], messages⟩) "ENTRY_BOC_HTF_TIMED" := by
    intro state fidelity messages hone hlen
    have hne : messages ≠ [] := List.ne_nil_of_length_pos hlen
    by_cases hf : fidelity = .exact
    · rw [if_pos ⟨hlen, hf⟩]
      exact ⟨Or.inr ⟨rfl, hne, hone⟩, fun h => nomatch h⟩
    · rw [if_neg (fun h => hf h.2)]
      exact ⟨Or.inr ⟨rfl, hne, hone⟩, fun h => absurd h hf⟩
  unfold bocOutcome
  by_cases h₁ : (commonFailure request proof.triggerEpoch).length > 0
  · simp only [if_pos h₁]
    exact failed _ _ _ hc h₁
  simp only [if_neg h₁]
  by_cases h₂ : bocBreaksReference request proof = false
  · simp only [if_pos h₂]
    exact failed _ _ _ (oneMessage_singleton (by decide)) (by decide)
  simp only [if_neg h₂]
  by_cases h₃ : (realtimeFailure proof.proofPlane proof.replayability proof.isRealtime).length > 0
  · simp only [if_pos h₃]
    exact failed _ _ _ hr h₃
  simp only [if_neg h₃]
  by_cases h₄ : proof.fidelity ≠ .exact
  · simp only [if_pos h₄]
    exact failed _ _ _ (oneMessage_singleton (by decide)) (by decide)
  simp only [if_neg h₄]
  by_cases h₅ : strictBocContext proof = false
  · simp only [if_pos h₅]
    exact failed _ _ _ (oneMessage_singleton (by decide)) (by decide)
  · simp only [if_neg h₅]
    exact ⟨Or.inl ⟨rfl, rfl⟩, fun _ => ⟨rfl, rfl, rfl⟩⟩

/-! ## The records of the matchers are valid -/

/-- The facts of a candle that its validator checks. -/
structure SoundCandle (candle : OrderedCandleV3) : Prop where
  openEpoch : isSafeInteger candle.openEpoch ∧ 0 ≤ candle.openEpoch
  closeEpoch : isSafeInteger candle.closeEpoch ∧ 0 ≤ candle.closeEpoch
  ticks : isSafeInteger candle.openTicks ∧ isSafeInteger candle.highTicks ∧
    isSafeInteger candle.lowTicks ∧ isSafeInteger candle.closeTicks
  ordered : candle.openEpoch < candle.closeEpoch
  high : max (max candle.openTicks candle.closeTicks) candle.lowTicks ≤ candle.highTicks
  low : candle.lowTicks ≤ min (min candle.openTicks candle.closeTicks) candle.highTicks

theorem validateOrderedCandleV3_ok_iff {candle : OrderedCandleV3} {name : String} :
    validateOrderedCandleV3 candle name = .ok () ↔ SoundCandle candle := by
  simp only [validateOrderedCandleV3, then_ok_iff, safeInteger_ok_iff, failIf_ok_iff,
    Option.mem_def, Option.some.injEq, forall_eq', reduceCtorEq, false_implies, implies_true,
    and_true]
  constructor
  · rintro ⟨hopen, hclose, h₁, h₂, h₃, h₄, hshape⟩
    push Not at hshape
    exact ⟨hopen, hclose, ⟨h₁, h₂, h₃, h₄⟩, hshape.1, hshape.2.1, hshape.2.2⟩
  · rintro ⟨hopen, hclose, ⟨h₁, h₂, h₃, h₄⟩, hordered, hhigh, hlow⟩
    refine ⟨hopen, hclose, h₁, h₂, h₃, h₄, ?_⟩
    push Not
    exact ⟨hordered, hhigh, hlow⟩

theorem epoch_ok {value : Int} {name : String} (h : isSafeInteger value ∧ 0 ≤ value) :
    safeInteger value name (some 0) = .ok () :=
  safeInteger_ok_iff.2 ⟨h.1, by simpa using h.2⟩

theorem epoch_of_ok {value : Int} {name : String} (h : safeInteger value name (some 0) = .ok ()) :
    isSafeInteger value ∧ 0 ≤ value := by
  simpa using safeInteger_ok_iff.1 h

theorem sourceClaims_unique : ∀ claims ∈ [sourceClaimsBocHtfTimed, sourceClaimsBocDiscretionary5m,
    sourceClaimsDirClose, sourceClaimsHtfFlip],
    ¬ ((∃ value ∈ claims, value = []) ∨ ¬ claims.Nodup) := by
  decide

/-- The source claims of the models are lists of distinct texts. -/
theorem unique_expectedSourceClaimsV3 (candidate : EntryCandidateV3) (name : String) :
    unique (expectedSourceClaimsV3 candidate) name = .ok () := by
  rw [unique, failIf_ok_iff]
  apply sourceClaims_unique
  unfold expectedSourceClaimsV3
  cases candidate.model with
  | boc => by_cases h : candidate.bocTier = some .htfTimed <;> simp [h]
  | dirClose => simp
  | htfFlip => simp

section Records

variable {sha256 : Json → String} {input : EntryArbitrationInputV3}

/-- Every matched candidate states the claims of its model. -/
theorem Matched.claims_eq {pair : EligiblePair} (h : Matched sha256 input pair) :
    pair.candidate.sourceClaimIds = expectedSourceClaimsV3 pair.candidate ∧
      pair.evidence.sourceClaimIds = expectedSourceClaimsV3 pair.candidate := by
  cases h with
  | @boc proof present =>
    by_cases hs : strictBocContext proof = true <;>
      simp [matchBoc, candidate, evidence, expectedSourceClaimsV3, bocClaimsOf, bocTierOf, hs]
  | dirClose present => exact ⟨rfl, rfl⟩
  | htfFlip present => exact ⟨rfl, rfl⟩

theorem Matched.candidate_ok {pair : EligiblePair} (hsha : IsSha256 sha256)
    (hs : SoundInput input) (h : Matched sha256 input pair) :
    validateEntryCandidateV3 pair.candidate = .ok () := by
  have hclaims : unique pair.candidate.sourceClaimIds "source_claim_ids" = .ok () := by
    rw [h.claims_eq.1]
    exact unique_expectedSourceClaimsV3 _ _
  have hordinal : safeInteger 1 "trigger_ordinal" (some 1) = .ok () := by decide
  simp only [validateEntryCandidateV3, then_ok_iff, digest_ok_iff, failIf_ok_iff,
    whenSome_ok_iff]
  cases h with
  | @boc proof present =>
    have hproof := hs.boc proof present
    unfold validateBocProofV3 at hproof
    rw [then_ok_iff, validateOrderedCandleV3_ok_iff] at hproof
    have hopen := hproof.1.openEpoch
    refine ⟨hsha.isDigest _, hs.setupId.1, epoch_ok hopen, hordinal, hs.observedAt, ?_, ?_,
      hclaims⟩
    · simp [matchBoc, candidate]
    · rintro epoch ⟨⟩
      exact epoch_ok hopen
  | @dirClose bar present =>
    have hopen := (validateOrderedCandleV3_ok_iff.1 (hs.barCandle bar present)).openEpoch
    refine ⟨hsha.isDigest _, hs.setupId.1, epoch_ok hopen, hordinal, hs.observedAt, ?_, ?_,
      hclaims⟩
    · simp [matchClose, candidate]
    · rintro epoch ⟨⟩
  | @htfFlip proof present =>
    have hproof := hs.flip proof present
    unfold validateFlipProofV3 at hproof
    rw [then_ok_iff] at hproof
    refine ⟨hsha.isDigest _, hs.setupId.1, epoch_ok (epoch_of_ok hproof.1), hordinal,
      hs.observedAt, ?_, ?_, hclaims⟩
    · simp [matchFlip, candidate]
    · rintro epoch ⟨⟩

theorem ambiguityCodes_unique {codes : List AmbiguityCodeV3} {name : String} (h : codes.Nodup) :
    unique (codes.map (js ·.name)) name = .ok () := by
  have hinjective : Function.Injective fun code : AmbiguityCodeV3 => js code.name := by
    intro a b
    rw [JsString.js_eq_iff]
    cases a <;> cases b <;> decide
  have hnonempty : ∀ code : AmbiguityCodeV3, js code.name ≠ [] := by
    intro code
    rw [Ne, JsString.js_eq_nil_iff]
    cases code <;> decide
  simp only [unique, failIf_ok_iff, List.mem_map, not_or, not_not]
  refine ⟨?_, h.map hinjective⟩
  rintro ⟨_, ⟨code, -, rfl⟩, hempty⟩
  exact hnonempty code hempty

theorem validateContextsV3_ok_iff {contexts : List Int} {name : String} :
    validateContextsV3 contexts name = .ok () ↔ contexts.length ≤ 3 ∧
      (∀ context ∈ contexts, supportedContext context) ∧ sortBy id contexts = contexts ∧
      contexts.Nodup := by
  rw [validateContextsV3, failIf_ok_iff]
  push Not
  rfl

theorem expectedReplayability_of_realtimeFailure {plane : ProofPlaneV3}
    {replayability : EvidenceReplayability} {isRealtime : Bool}
    (h : realtimeFailure plane replayability isRealtime = []) :
    replayability = expectedReplayability plane := by
  have hplane := realtimeFailure_eq_nil_iff.1 h
  unfold expectedReplayability
  by_cases hp : plane = .realtimeTick
  · rw [if_pos hp] at hplane ⊢
    exact hplane.2
  · rw [if_neg hp] at hplane ⊢
    exact hplane

theorem boc_evidence_ok {proof : BocProofV3} (hsha : IsSha256 sha256) (hs : SoundInput input)
    (present : input.bocProof = some proof) :
    validateEntryEvidenceV3 (matchBoc sha256 input.matchRequest proof).2 = .ok () := by
  have hmatched : Matched sha256 input ⟨_, _⟩ := .boc present
  have hclaims := hmatched.claims_eq.2
  have houtcome := bocOutcome_sound input.matchRequest proof
  have hreplay : (bocOutcome input.matchRequest proof).fidelity = .exact →
      proof.replayability = expectedReplayability proof.proofPlane := by
    intro hexact
    obtain ⟨-, -, hr, -⟩ := bocOutcome_matched_iff.1 ⟨(houtcome.exact hexact).1, hexact⟩
    exact expectedReplayability_of_realtimeFailure hr
  have hproof := hs.boc proof present
  simp only [validateBocProofV3, then_ok_iff, validateOrderedCandleV3_ok_iff,
    validateContextsV3_ok_iff, failIf_ok_iff] at hproof
  obtain ⟨hcandle, -, -, hsequence, -, -, ⟨-, hsupported, hsorted, hnodup⟩, hstart, hend,
    hchrono⟩ := hproof
  push Not at hchrono
  obtain ⟨hcover, hseen, hafter, hbefore, -⟩ := hchrono
  simp only [validateEntryEvidenceV3, then_ok_iff, digest_ok_iff, failIf_ok_iff,
    whenSome_ok_iff]
  refine ⟨hsha.isDigest _, hsha.isDigest _, hsha.isDigest _, by simp [matchBoc, evidence],
    hsequence, hstart, hend, hs.observedAt, ?_, ?_, ?_, OneMessage.unique (Or.inl rfl) _,
    houtcome.passed_unique (by decide) _, houtcome.failed_unique _, ?_, houtcome.consistent, ?_,
    ?_, ?_, rfl, ?_⟩
  · push Not
    exact ⟨hcover, hseen⟩
  · rintro epoch ⟨⟩
    push Not
    exact ⟨hafter, hbefore, hbefore.trans hseen⟩
  · push Not
    exact ⟨hsorted, hnodup, hsupported⟩
  · rw [hclaims]
    exact unique_expectedSourceClaimsV3 _ _
  · simp [matchBoc, evidence, EvidencePayloadFields.referenceValues]
  · rintro tier ⟨⟩
    obtain ⟨h₁, h₂, h₃, h₄⟩ := hcandle.ticks
    simp only [validateReferenceV3, matchBoc, evidence, Option.map_some, then_ok_iff,
      safeInteger_ok_iff, failIf_ok_iff]
    refine ⟨⟨hcandle.openEpoch.1, by simpa using hcandle.openEpoch.2⟩, ⟨h₁, by simp⟩,
      ⟨h₂, by simp⟩, ⟨h₃, by simp⟩, ⟨h₄, by simp⟩, ?_⟩
    push Not
    exact ⟨hcandle.high, hcandle.low⟩
  · simp [matchBoc, evidence, EvidencePayloadFields.flipPresent]
  · rintro ⟨hexact, hne⟩
    exact hne (hreplay hexact)

/-- The evidence of a close needs its bar to have closed when it is observed. -/
theorem closed_of_close_evidence {bar : OrderedCandleV3}
    (h : validateEntryEvidenceV3 (matchClose sha256 input.matchRequest bar).2 = .ok ()) :
    bar.closeEpoch ≤ input.observedAtEpoch := by
  simp only [validateEntryEvidenceV3, then_ok_iff, failIf_ok_iff] at h
  obtain ⟨-, -, -, -, -, -, -, -, hcover, -⟩ := h
  push Not at hcover
  exact hcover.2

theorem close_evidence_ok {bar : OrderedCandleV3} (hsha : IsSha256 sha256)
    (hs : SoundInput input) (present : input.confirmedBar = some bar)
    (hclosed : bar.closeEpoch ≤ input.observedAtEpoch) :
    validateEntryEvidenceV3 (matchClose sha256 input.matchRequest bar).2 = .ok () := by
  have hmatched : Matched sha256 input ⟨_, _⟩ := .dirClose present
  have hclaims := hmatched.claims_eq.2
  have hcandle := validateOrderedCandleV3_ok_iff.1 (hs.barCandle bar present)
  have houtcome := closeOutcome_sound input.matchRequest bar
  simp only [validateEntryEvidenceV3, then_ok_iff, digest_ok_iff, failIf_ok_iff,
    whenSome_ok_iff]
  refine ⟨hsha.isDigest _, hsha.isDigest _, hsha.isDigest _, by simp [matchClose, evidence],
    epoch_ok (epoch_of_ok hs.closeSequence), epoch_ok hcandle.openEpoch,
    epoch_ok hcandle.closeEpoch, hs.observedAt, ?_, ?_, ?_, OneMessage.unique (Or.inl rfl) _,
    houtcome.passed_unique (by decide) _, houtcome.failed_unique _, ?_, houtcome.consistent, ?_,
    (fun _ htier => by cases htier), ?_, rfl, fun h => h.2 rfl⟩
  · push Not
    exact ⟨hcandle.ordered, hclosed⟩
  · rintro epoch ⟨⟩
    push Not
    exact ⟨hcandle.ordered.le, le_rfl, hclosed⟩
  · simp [matchClose, evidence, sortBy]
  · rw [hclaims]
    exact unique_expectedSourceClaimsV3 _ _
  · simp [matchClose, evidence, EvidencePayloadFields.referenceValues]
  · simp [matchClose, evidence, EvidencePayloadFields.flipPresent]

/-- The evidence of a flip needs both candles of its lifecycle. -/
theorem complete_of_flip_evidence {proof : EntryTriggerProofV3}
    (h : validateEntryEvidenceV3 (matchFlip sha256 input.matchRequest proof).2 = .ok ()) :
    proof.Complete := by
  simp only [validateEntryEvidenceV3, then_ok_iff, failIf_ok_iff] at h
  obtain ⟨-, -, -, -, -, -, -, -, -, -, -, -, -, -, -, -, -, -, hcomplete, -⟩ := h
  simpa [matchFlip, evidence, EvidencePayloadFields.flipPresent, EntryTriggerProofV3.Complete,
    Option.isSome_iff_ne_none] using hcomplete

theorem flip_evidence_ok {proof : EntryTriggerProofV3} (hsha : IsSha256 sha256)
    (hs : SoundInput input) (present : input.htfFlipProof = some proof)
    (hcomplete : proof.Complete) :
    validateEntryEvidenceV3 (matchFlip sha256 input.matchRequest proof).2 = .ok () := by
  have hmatched : Matched sha256 input ⟨_, _⟩ := .htfFlip present
  have hclaims := hmatched.claims_eq.2
  have houtcome := flipOutcome_sound input.matchRequest proof
  have hreplay : (flipOutcome input.matchRequest proof).fidelity = .exact →
      proof.replayability = expectedReplayability proof.proofPlane := by
    intro hexact
    obtain ⟨failed, heq, hfailed⟩ := flipOutcome_eq input proof
    have hstate := (houtcome.exact hexact).1
    rw [heq] at hstate
    obtain ⟨-, -, hr, -⟩ := hfailed.1 (outcomeOf_matched_iff.1 hstate)
    exact expectedReplayability_of_realtimeFailure hr
  have hproof := hs.flip proof present
  simp only [validateFlipProofV3, then_ok_iff, validateFlipCandleV3,
    validateContextsV3_ok_iff, failIf_ok_iff, whenSome_ok_iff] at hproof
  obtain ⟨-, -, hsequence, hstart, hend, -, -, ⟨-, hsupported, hsorted, hnodup⟩, hcodes, hchrono,
    hcontact, hrecross, -, -, hlifecycle, -⟩ := hproof
  push Not at hchrono
  obtain ⟨hcover, hseen, hafter, hbefore⟩ := hchrono
  obtain ⟨contact, hc⟩ := Option.isSome_iff_exists.1 hcomplete.1
  obtain ⟨recross, hr⟩ := Option.isSome_iff_exists.1 hcomplete.2
  simp only [validateEntryEvidenceV3, then_ok_iff, digest_ok_iff, failIf_ok_iff,
    whenSome_ok_iff]
  refine ⟨hsha.isDigest _, hsha.isDigest _, hsha.isDigest _, by simp [matchFlip, evidence],
    hsequence, hstart, hend, hs.observedAt, ?_, ?_, ?_, ?_, houtcome.passed_unique (by decide) _,
    houtcome.failed_unique _, ?_, houtcome.consistent, ?_,
    (fun _ htier => by cases htier), ?_, ?_, fun h => h.2 (hreplay h.1)⟩
  · push Not
    exact ⟨hcover, hseen⟩
  · rintro epoch ⟨⟩
    push Not
    exact ⟨hafter, hbefore, hbefore.trans hseen⟩
  · push Not
    exact ⟨hsorted, hnodup, hsupported⟩
  · exact ambiguityCodes_unique (not_not.1 hcodes)
  · rw [hclaims]
    exact unique_expectedSourceClaimsV3 _ _
  · simp [matchFlip, evidence, EvidencePayloadFields.referenceValues]
  · simp [matchFlip, evidence, EvidencePayloadFields.flipPresent, hc, hr]
  · simp only [validateLifecycleV3, matchFlip, evidence, hc, hr, then_ok_iff, failIf_ok_iff]
    refine ⟨(hcontact contact hc).1, (hrecross recross hr).1, ?_⟩
    simpa using hlifecycle contact hc recross hr

end Records

end TradeOps.Entry
