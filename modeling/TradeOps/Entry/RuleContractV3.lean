import TradeOps.Entry.EarliestTrigger

/-!
# The rule contract over raw facts

States the v3 entry rules on the raw proofs of an input, without candidates, evidence or
selections, and shows that the pipeline of matchers and arbitrator decides exactly these rules:
an evaluated input is paper eligible if and only if the contract holds of its facts.
-/

namespace TradeOps.Entry

open Checks Keyed SortBy
open scoped JsString

/-! ## The contract -/

/-- The common gate at a trigger: an exact setup that still stands, whose zone was engaged. -/
def CommonRule (input : EntryArbitrationInputV3) (triggerEpoch : Int) : Prop :=
  input.commonFidelity = .exact ∧ input.setupInvalidated = false ∧
    ∃ engaged, input.zoneEngagedEpoch = some engaged ∧ engaged ≤ triggerEpoch

/-- The planes on which an intrabar trigger may be exact: live ticks are realtime and not
replayable, every other plane is replayable, and a confirmed bar proves no intrabar order. -/
def PlaneRule (plane : ProofPlaneV3) (replayability : EvidenceReplayability)
    (isRealtime : Bool) : Prop :=
  plane ≠ .confirmed5m ∧
    if plane = .realtimeTick then isRealtime = true ∧ replayability = .liveExactNonReplayable
    else replayability = .replayable

/-- A price beyond a level, in the direction of the setup. -/
def Beyond (direction : EntryDirectionV3) (ticks above below : Int) : Prop :=
  match direction with
  | .long => ticks > above
  | .short => ticks < below

/-- A candle that does not go beyond a level, in the direction of the setup. -/
def StaysBefore (direction : EntryDirectionV3) (candle : OrderedCandleV3) (level : Int) : Prop :=
  match direction with
  | .long => candle.highTicks ≤ level
  | .short => candle.lowTicks ≥ level

/-- BOC: the first child of a timed higher timeframe bar breaks the reference candle. -/
structure BocRule (input : EntryArbitrationInputV3) (proof : BocProofV3) : Prop where
  common : CommonRule input proof.triggerEpoch
  exact : proof.fidelity = .exact
  firstChild : proof.htfBoundaryEpoch = some proof.triggerCandleOpenEpoch
  timed : proof.htfContextMinutes ≠ [] ∧
    ∀ context ∈ proof.htfContextMinutes, proof.triggerCandleOpenEpoch % (context * 60) = 0
  breaks : Beyond input.direction proof.triggerTicks proof.referenceCandle.highTicks
    proof.referenceCandle.lowTicks
  plane : PlaneRule proof.proofPlane proof.replayability proof.isRealtime

/-- DIR_CLOSE: an aligned five-minute bar that the input reports as a directional close. -/
structure CloseRule (input : EntryArbitrationInputV3) (bar : OrderedCandleV3) : Prop where
  common : CommonRule input bar.closeEpoch
  reported : input.directionalClose = true
  fiveMinutes : bar.closeEpoch - bar.openEpoch = 300
  aligned : bar.openEpoch % 300 = 0

/-- HTF_FLIP: an ordered contact and recross of the higher timeframe open, from the zone. -/
structure FlipRule (input : EntryArbitrationInputV3) (proof : EntryTriggerProofV3)
    (contact recross : OrderedCandleV3) : Prop where
  common : CommonRule input proof.triggerEpoch
  exact : proof.fidelity = .exact
  contact_eq : proof.contactCandle = some contact
  recross_eq : proof.recrossCandle = some recross
  ordered : proof.fullLifecycleOrdered = true ∧ proof.coverageGapDetected = false ∧
    proof.destinationSeenBeforeContact = false ∧ proof.ambiguityCodes = []
  chronology : proof.eventAnchorEpoch ≤ contact.openEpoch ∧
    contact.closeEpoch ≤ recross.openEpoch
  inZone : contact.lowTicks ≤ input.zoneTopTicks ∧ contact.highTicks ≥ input.zoneBottomTicks
  contact_before_open : StaysBefore input.direction contact proof.htfOpenTicks
  recross_beyond_open : Beyond input.direction recross.closeTicks proof.htfOpenTicks
    proof.htfOpenTicks
  contexts : proof.htfContextMinutes ≠ [] ∧ ∀ context ∈ proof.htfContextMinutes,
    proof.eventAnchorEpoch % (context * 60) = 0 ∧
      proof.triggerEpoch < proof.eventAnchorEpoch + context * 60
  plane : PlaneRule proof.proofPlane proof.replayability proof.isRealtime

/-- What a triggering model contributes: its event and its price. -/
structure RawTrigger where
  model : EntryModelV3
  event : EventKey
  ticks : Int

/-- The triggers that the raw facts of an input prove. -/
inductive Triggers (input : EntryArbitrationInputV3) : RawTrigger → Prop
  | boc {proof : BocProofV3} (present : input.bocProof = some proof) (rule : BocRule input proof) :
    Triggers input ⟨.boc, toLex (proof.triggerEpoch, proof.triggerSequence), proof.triggerTicks⟩
  | dirClose {bar : OrderedCandleV3} (present : input.confirmedBar = some bar)
    (rule : CloseRule input bar) :
    Triggers input
      ⟨.dirClose, toLex (bar.closeEpoch, input.closeTriggerSequence), bar.closeTicks⟩
  | htfFlip {proof : EntryTriggerProofV3} {contact recross : OrderedCandleV3}
    (present : input.htfFlipProof = some proof) (rule : FlipRule input proof contact recross) :
    Triggers input
      ⟨.htfFlip, toLex (proof.triggerEpoch, proof.triggerSequence), proof.triggerTicks⟩

/-- A trigger that no other trigger of the input precedes. -/
def EarliestTrigger (input : EntryArbitrationInputV3) (trigger : RawTrigger) : Prop :=
  Triggers input trigger ∧ ∀ other, Triggers input other → trigger.event ≤ other.event

/-- The v3 rule contract: the setup stands, its cohort has two candles or more, some model
triggers, and the models at the earliest event agree on the price. -/
structure RuleContract (input : EntryArbitrationInputV3) : Prop where
  stands : input.setupInvalidated = false
  cohort : input.liquidityCohort.getD .twoPlusCandles = .twoPlusCandles
  triggered : ∃ trigger, Triggers input trigger
  agree : ∀ a b, EarliestTrigger input a → EarliestTrigger input b → a.ticks = b.ticks

/-! ## The matchers decide the rules -/

section Matchers

variable {canonicalSha256 : Json → String} {input : EntryArbitrationInputV3}

theorem commonFailure_eq_nil_iff {triggerEpoch : Int} :
    commonFailure input.matchRequest triggerEpoch = [] ↔ CommonRule input triggerEpoch := by
  unfold commonFailure CommonRule
  simp only [EntryArbitrationInputV3.matchRequest, EntryArbitrationInputV3.setupFacts]
  by_cases hf : input.commonFidelity = .exact
  · by_cases hi : input.setupInvalidated = true
    · simp [hf, hi]
    · cases hz : input.zoneEngagedEpoch <;> simp [hf, hi]
  · simp [hf]

theorem realtimeFailure_eq_nil_iff {plane : ProofPlaneV3} {replayability : EvidenceReplayability}
    {isRealtime : Bool} :
    realtimeFailure plane replayability isRealtime = [] ↔
      if plane = .realtimeTick then isRealtime = true ∧ replayability = .liveExactNonReplayable
      else replayability = .replayable := by
  unfold realtimeFailure
  by_cases hp : plane = .realtimeTick
  · by_cases hr : isRealtime = false ∨ replayability ≠ .liveExactNonReplayable
    · simp only [hp, if_true, if_pos hr, reduceCtorEq, false_iff, not_and]
      rintro rfl
      simpa using hr
    · simp only [hp, if_true, if_neg hr, true_iff]
      simpa using hr
  · by_cases hr : replayability = .replayable <;> simp [hp, hr]

theorem bocBreaksReference_iff {proof : BocProofV3} :
    bocBreaksReference input.matchRequest proof = true ↔
      Beyond input.direction proof.triggerTicks proof.referenceCandle.highTicks
        proof.referenceCandle.lowTicks := by
  unfold bocBreaksReference Beyond
  simp only [EntryArbitrationInputV3.matchRequest, EntryArbitrationInputV3.setupFacts]
  cases input.direction <;> simp

/-- A BOC proof is matched exactly when every rule on its way passes. -/
theorem bocOutcome_matched_iff {proof : BocProofV3} :
    ((bocOutcome input.matchRequest proof).state = .matched ∧
      (bocOutcome input.matchRequest proof).fidelity = .exact) ↔
    CommonRule input proof.triggerEpoch ∧
      Beyond input.direction proof.triggerTicks proof.referenceCandle.highTicks
        proof.referenceCandle.lowTicks ∧
      realtimeFailure proof.proofPlane proof.replayability proof.isRealtime = [] ∧
      proof.fidelity = .exact ∧ strictBocContext proof = true := by
  rw [← commonFailure_eq_nil_iff, ← bocBreaksReference_iff]
  unfold bocOutcome
  simp only [List.length_pos_iff]
  by_cases hc : commonFailure input.matchRequest proof.triggerEpoch = []
  · by_cases hb : bocBreaksReference input.matchRequest proof = true
    · by_cases hr : realtimeFailure proof.proofPlane proof.replayability proof.isRealtime = []
      · by_cases hf : proof.fidelity = .exact
        · by_cases hs : strictBocContext proof = true <;> simp [hc, hb, hr, hf, hs]
        · simp [hc, hb, hr, hf]
      · simp [hc, hb, hr]
        split_ifs <;> simp
    · simp [hc, hb]
      split_ifs <;> simp
  · simp [hc]
    split_ifs <;> simp

theorem bocOutcome_rules {proof : BocProofV3}
    (h : (bocOutcome input.matchRequest proof).state = .matched)
    (hf : (bocOutcome input.matchRequest proof).fidelity = .exact) :
    (bocOutcome input.matchRequest proof).passedRuleIds = ["ENTRY_BOC_HTF_TIMED"] ∧
      (bocOutcome input.matchRequest proof).failedRuleIds = [] := by
  obtain ⟨hc, hb, hr, hx, hs⟩ := bocOutcome_matched_iff.1 ⟨h, hf⟩
  rw [← commonFailure_eq_nil_iff] at hc
  rw [← bocBreaksReference_iff] at hb
  unfold bocOutcome
  simp [hc, hb, hr, hx, hs]

/-- The chronology that the validator of BOC proofs establishes. -/
theorem validateBocProofV3_chronology {proof : BocProofV3} {observedAtEpoch : Int}
    (h : validateBocProofV3 proof observedAtEpoch = .ok ()) :
    proof.referenceCandle.closeEpoch - proof.referenceCandle.openEpoch = 300 ∧
      proof.referenceCandle.openEpoch % 300 = 0 ∧ proof.triggerCandleOpenEpoch % 300 = 0 ∧
      proof.referenceCandle.closeEpoch ≤ proof.triggerCandleOpenEpoch ∧
      proof.triggerCandleOpenEpoch ≤ proof.triggerEpoch ∧
      proof.triggerEpoch < proof.triggerCandleOpenEpoch + 300 ∧
      ∀ context ∈ proof.htfContextMinutes, supportedContext context := by
  unfold validateBocProofV3 at h
  simp only [then_ok_iff, validateContextsV3, failIf_ok_iff] at h
  obtain ⟨-, -, -, -, -, -, hcontexts, -, -, hchrono⟩ := h
  push Not at hcontexts hchrono
  obtain ⟨-, -, -, -, hclose, haligned, htrigger, hbefore, hge, hlt⟩ := hchrono
  exact ⟨hclose, haligned, htrigger, hbefore, hge, hlt, hcontexts.2.1⟩

theorem strictBocContext_iff {proof : BocProofV3} {observedAtEpoch : Int}
    (h : validateBocProofV3 proof observedAtEpoch = .ok ()) :
    strictBocContext proof = true ↔
      proof.htfBoundaryEpoch = some proof.triggerCandleOpenEpoch ∧
        proof.htfContextMinutes ≠ [] ∧ ∀ context ∈ proof.htfContextMinutes,
          proof.triggerCandleOpenEpoch % (context * 60) = 0 := by
  obtain ⟨-, -, -, -, -, -, hsupported⟩ := validateBocProofV3_chronology h
  simp only [strictBocContext, decide_eq_true_eq, gt_iff_lt, List.length_pos_iff]
  refine and_congr_right fun _ => and_congr_right fun _ => ?_
  exact ⟨fun hall context hc => (hall context hc).2,
    fun hall context hc => ⟨hsupported context hc, hall context hc⟩⟩

/-- The five-minute candle of the trigger is the trigger candle of the proof. -/
theorem triggerOpen_eq {proof : BocProofV3} {observedAtEpoch : Int}
    (h : validateBocProofV3 proof observedAtEpoch = .ok ()) :
    proof.triggerEpoch / 300 * 300 = proof.triggerCandleOpenEpoch := by
  obtain ⟨-, -, htrigger, -, hge, hlt, -⟩ := validateBocProofV3_chronology h
  omega

/-- Off the confirmed bars, an intrabar model is refused only for live ticks that claim to be
replayable. -/
theorem planeEligibleV3_iff {model : EntryModelV3} (hm : model ≠ .dirClose)
    {e : EntryCandidateEvidenceV3} :
    planeEligibleV3 model e = true ↔ e.proofPlane ≠ .confirmed5m ∧
      (e.proofPlane = .realtimeTick → e.replayability = .liveExactNonReplayable) := by
  simp only [planeEligibleV3, decide_eq_true_eq, hm, false_and, or_false]
  cases e.proofPlane <;> simp

theorem PlaneRule.live {plane : ProofPlaneV3} {replayability : EvidenceReplayability}
    {isRealtime : Bool} (h : PlaneRule plane replayability isRealtime)
    (hp : plane = .realtimeTick) : replayability = .liveExactNonReplayable := by
  have hlive := h.2
  rw [if_pos hp] at hlive
  exact hlive.2

theorem exactEligible_matchBoc {proof : BocProofV3} {observedAtEpoch : Int}
    (hv : validateBocProofV3 proof observedAtEpoch = .ok ()) :
    exactEligibleV3 (matchBoc canonicalSha256 input.matchRequest proof).1
      (matchBoc canonicalSha256 input.matchRequest proof).2 = true ↔ BocRule input proof := by
  obtain ⟨hclose, haligned, -, hbefore, -, -, -⟩ := validateBocProofV3_chronology hv
  have hopen := triggerOpen_eq hv
  constructor
  · intro h
    simp only [exactEligibleV3, matchBoc, evidence, candidate, decide_eq_true_eq] at h
    obtain ⟨hstate, hfidelity, -, -, -, -, -, -, -, hplane⟩ := h
    obtain ⟨hcommon, hbreaks, hrealtime, hexact, hstrict⟩ :=
      bocOutcome_matched_iff.1 ⟨hstate, hfidelity⟩
    obtain ⟨hboundary, htimed⟩ := (strictBocContext_iff hv).1 hstrict
    exact ⟨hcommon, hexact, hboundary, htimed, hbreaks,
      ((planeEligibleV3_iff (by decide)).1 hplane).1, realtimeFailure_eq_nil_iff.1 hrealtime⟩
  · intro h
    have hstrict := (strictBocContext_iff hv).2 ⟨h.firstChild, h.timed⟩
    obtain ⟨hstate, hfidelity⟩ := bocOutcome_matched_iff.2
      ⟨h.common, h.breaks, realtimeFailure_eq_nil_iff.2 h.plane.2, h.exact, hstrict⟩
    obtain ⟨hpassed, hfailed⟩ := bocOutcome_rules hstate hfidelity
    simp only [exactEligibleV3, matchBoc, evidence, candidate, decide_eq_true_eq]
    refine ⟨hstate, hfidelity, trivial, hpassed, hfailed, trivial, rfl, ?_, ?_,
      (planeEligibleV3_iff (by decide)).2 ⟨h.plane.1, h.plane.live⟩⟩
    · simp only [geometryV3, bocGeometryV3, Option.map_some, bocTierOf, hstrict, if_true, hopen,
        decide_eq_true_eq]
      exact ⟨trivial, trivial, haligned, by omega, h.timed.1, h.timed.2⟩
    · simp [EvidencePayloadFields.flipPresent]

/-! ### Closes -/

theorem outcomeOf_matched_iff {failed : List JsString} {rule : JsString} :
    (outcomeOf failed rule).state = .matched ↔ failed = [] := by
  unfold outcomeOf
  split_ifs with h
  · simpa using List.ne_nil_of_length_pos h
  · simpa using h

theorem outcomeOf_nil (rule : String) :
    outcomeOf [] rule = ⟨.matched, .exact, [rule], []⟩ := by
  simp [outcomeOf]

theorem exactEligible_matchClose {bar : OrderedCandleV3} (hreported : input.directionalClose = true)
    (hspan : bar.closeEpoch - bar.openEpoch = 300) (haligned : bar.openEpoch % 300 = 0) :
    exactEligibleV3 (matchClose canonicalSha256 input.matchRequest bar).1
      (matchClose canonicalSha256 input.matchRequest bar).2 = true ↔ CloseRule input bar := by
  have houtcome : closeOutcome input.matchRequest bar =
      outcomeOf (commonFailure input.matchRequest bar.closeEpoch) "ENTRY_DIR_CLOSE" := by
    unfold closeOutcome
    by_cases hlen : (commonFailure input.matchRequest bar.closeEpoch).length > 0
    · simp only [if_pos hlen]
    · simp only [if_neg hlen, if_neg (not_not.2 hspan)]
      rw [List.length_eq_zero_iff.1 (Nat.eq_zero_of_not_pos hlen)]
  constructor
  · intro h
    simp only [exactEligibleV3, matchClose, evidence, candidate, houtcome, decide_eq_true_eq] at h
    exact ⟨commonFailure_eq_nil_iff.1 (outcomeOf_matched_iff.1 h.1), hreported, hspan, haligned⟩
  · intro h
    rw [commonFailure_eq_nil_iff.2 h.common, outcomeOf_nil] at houtcome
    simp only [exactEligibleV3, matchClose, evidence, candidate, houtcome, decide_eq_true_eq]
    refine ⟨trivial, trivial, trivial, rfl, trivial, trivial, rfl, ?_, ?_, ?_⟩
    · simp [geometryV3, closeGeometryV3, hspan]
    · simp [EvidencePayloadFields.flipPresent]
    · simp [planeEligibleV3]

/-! ### Flips -/

theorem ite_cons_eq_nil_iff {p : Prop} [Decidable p] {message : JsString} {rest : List JsString} :
    (if p then [message] else rest) = [] ↔ ¬ p ∧ rest = [] := by
  by_cases hp : p <;> simp [hp]

/-- The lifecycle conditions of the flip rule. -/
structure FlipLifecycle (input : EntryArbitrationInputV3) (proof : EntryTriggerProofV3)
    (contact recross : OrderedCandleV3) : Prop where
  contact_eq : proof.contactCandle = some contact
  recross_eq : proof.recrossCandle = some recross
  ordered : proof.fullLifecycleOrdered = true ∧ proof.coverageGapDetected = false ∧
    proof.destinationSeenBeforeContact = false ∧ proof.ambiguityCodes = []
  anchored : proof.eventAnchorEpoch ≤ contact.openEpoch
  inZone : contact.lowTicks ≤ input.zoneTopTicks ∧ contact.highTicks ≥ input.zoneBottomTicks
  contact_before_open : StaysBefore input.direction contact proof.htfOpenTicks
  recross_beyond_open : Beyond input.direction recross.closeTicks proof.htfOpenTicks
    proof.htfOpenTicks
  contexts : proof.htfContextMinutes ≠ [] ∧ ∀ context ∈ proof.htfContextMinutes,
    proof.eventAnchorEpoch % (context * 60) = 0 ∧
      proof.triggerEpoch < proof.eventAnchorEpoch + context * 60

theorem beyond_iff {direction : EntryDirectionV3} {ticks level : Int} :
    Beyond direction ticks level level ↔
      if direction = .long then ticks > level else ticks < level := by
  cases direction <;> simp [Beyond]

theorem staysBefore_iff {direction : EntryDirectionV3} {candle : OrderedCandleV3} {level : Int} :
    StaysBefore direction candle level ↔
      ¬ if direction = .long then candle.highTicks > level else candle.lowTicks < level := by
  cases direction <;> simp [StaysBefore]

theorem candleCrossesHtfOpen_iff {proof : EntryTriggerProofV3} {candle : OrderedCandleV3} :
    ¬ candleCrossesHtfOpen input.matchRequest proof candle = true ↔
      StaysBefore input.direction candle proof.htfOpenTicks := by
  unfold candleCrossesHtfOpen StaysBefore
  simp only [EntryArbitrationInputV3.matchRequest, EntryArbitrationInputV3.setupFacts]
  cases input.direction <;> simp

theorem actualTickCrossesHtfOpen_iff {proof : EntryTriggerProofV3} {candle : OrderedCandleV3} :
    actualTickCrossesHtfOpen input.matchRequest proof candle = true ↔
      Beyond input.direction candle.closeTicks proof.htfOpenTicks proof.htfOpenTicks := by
  unfold actualTickCrossesHtfOpen Beyond
  simp only [EntryArbitrationInputV3.matchRequest, EntryArbitrationInputV3.setupFacts]
  cases input.direction <;> simp

theorem flipLifecycleFailure_eq_nil_iff {proof : EntryTriggerProofV3} :
    flipLifecycleFailure input.matchRequest proof = [] ↔
      ∃ contact recross, FlipLifecycle input proof contact recross := by
  unfold flipLifecycleFailure
  cases hc : proof.contactCandle with
  | none =>
    simp only [reduceCtorEq, false_iff]
    rintro ⟨contact, recross, h⟩
    simpa [hc] using h.contact_eq
  | some contact =>
    cases hr : proof.recrossCandle with
    | none =>
      simp only [reduceCtorEq, false_iff]
      rintro ⟨contact', recross, h⟩
      simpa [hr] using h.recross_eq
    | some recross =>
      simp only [ite_cons_eq_nil_iff, Bool.not_eq_true, Bool.not_eq_false, gt_iff_lt,
        List.length_pos_iff, not_not, not_lt, not_exists, not_and, not_le, ge_iff_le, not_or,
        List.length_eq_zero_iff, and_true]
      constructor
      · rintro ⟨hgap, hordered, hdest, hamb, hanchor, hinside, hzone, hcontact, hrecross, hne,
          haligned⟩
        rw [← Bool.not_eq_true, candleCrossesHtfOpen_iff] at hcontact
        rw [actualTickCrossesHtfOpen_iff] at hrecross
        simp only [contactsZone, decide_eq_true_eq] at hzone
        exact ⟨contact, recross, hc, hr, ⟨hordered, hgap, hdest, hamb⟩, hanchor, hzone, hcontact,
          hrecross, hne, fun context hm => ⟨haligned context hm, hinside context hm⟩⟩
      · rintro ⟨contact', recross', h⟩
        obtain rfl : contact = contact' := by simpa [hc] using h.contact_eq
        obtain rfl : recross = recross' := by simpa [hr] using h.recross_eq
        obtain ⟨hordered, hgap, hdest, hamb⟩ := h.ordered
        refine ⟨hgap, hordered, hdest, hamb, h.anchored, fun context hm => (h.contexts.2 _ hm).2,
          ?_, ?_, actualTickCrossesHtfOpen_iff.2 h.recross_beyond_open, h.contexts.1,
          fun context hm => (h.contexts.2 _ hm).1⟩
        · simp only [contactsZone, decide_eq_true_eq]
          exact h.inZone
        · rw [← Bool.not_eq_true, candleCrossesHtfOpen_iff]
          exact h.contact_before_open

theorem flipOutcome_eq (input : EntryArbitrationInputV3) (proof : EntryTriggerProofV3) :
    ∃ failed, flipOutcome input.matchRequest proof = outcomeOf failed "ENTRY_HTF_FLIP" ∧
      (failed = [] ↔ CommonRule input proof.triggerEpoch ∧
        (∃ contact recross, FlipLifecycle input proof contact recross) ∧
        realtimeFailure proof.proofPlane proof.replayability proof.isRealtime = [] ∧
        proof.fidelity = .exact) := by
  refine ⟨_, rfl, ?_⟩
  rw [← commonFailure_eq_nil_iff, ← flipLifecycleFailure_eq_nil_iff]
  simp only [gt_iff_lt, List.length_pos_iff]
  split_ifs with hc hl hr hf
  · simp [hc]
  · simp [hl]
  · simp [hr]
  · simp [hf]
  · simp_all

/-- The validator of flip proofs orders the retained candles. -/
theorem validateFlipProofV3_ordered {proof : EntryTriggerProofV3} {observedAtEpoch : Int}
    (h : validateFlipProofV3 proof observedAtEpoch = .ok ()) {contact recross : OrderedCandleV3}
    (hc : proof.contactCandle = some contact) (hr : proof.recrossCandle = some recross) :
    contact.closeEpoch ≤ recross.openEpoch := by
  unfold validateFlipProofV3 at h
  simp only [then_ok_iff, whenSome_ok_iff, failIf_ok_iff] at h
  obtain ⟨-, -, -, -, -, -, -, -, -, -, -, -, -, -, hclose, -⟩ := h
  have hclose' := hclose contact hc recross hr
  push Not at hclose'
  exact hclose'.1

theorem exactEligible_matchFlip {proof : EntryTriggerProofV3} {observedAtEpoch : Int}
    (hv : validateFlipProofV3 proof observedAtEpoch = .ok ()) :
    exactEligibleV3 (matchFlip canonicalSha256 input.matchRequest proof).1
      (matchFlip canonicalSha256 input.matchRequest proof).2 = true ↔
    ∃ contact recross, FlipRule input proof contact recross := by
  obtain ⟨failed, houtcome, hfailed⟩ := flipOutcome_eq input proof
  constructor
  · intro h
    simp only [exactEligibleV3, matchFlip, evidence, candidate, houtcome, decide_eq_true_eq] at h
    obtain ⟨hstate, -, -, -, -, -, -, -, -, hplane⟩ := h
    obtain ⟨hcommon, ⟨contact, recross, hl⟩, hrealtime, hexact⟩ :=
      hfailed.1 (outcomeOf_matched_iff.1 hstate)
    exact ⟨contact, recross, hcommon, hexact, hl.contact_eq, hl.recross_eq, hl.ordered,
      ⟨hl.anchored, validateFlipProofV3_ordered hv hl.contact_eq hl.recross_eq⟩, hl.inZone,
      hl.contact_before_open, hl.recross_beyond_open, hl.contexts,
      ((planeEligibleV3_iff (by decide)).1 hplane).1, realtimeFailure_eq_nil_iff.1 hrealtime⟩
  · rintro ⟨contact, recross, h⟩
    have hl : FlipLifecycle input proof contact recross :=
      ⟨h.contact_eq, h.recross_eq, h.ordered, h.chronology.1, h.inZone, h.contact_before_open,
        h.recross_beyond_open, h.contexts⟩
    obtain rfl := hfailed.2 ⟨h.common, ⟨contact, recross, hl⟩,
      realtimeFailure_eq_nil_iff.2 h.plane.2, h.exact⟩
    obtain ⟨hordered, hgap, hdest, hamb⟩ := h.ordered
    rw [outcomeOf_nil] at houtcome
    simp only [exactEligibleV3, matchFlip, evidence, candidate, houtcome, decide_eq_true_eq]
    refine ⟨trivial, trivial, hamb, rfl, trivial, trivial, rfl, ?_, by simp,
      (planeEligibleV3_iff (by decide)).2 ⟨h.plane.1, h.plane.live⟩⟩
    simp only [geometryV3, flipGeometryV3, h.contact_eq, h.recross_eq, hgap, hordered, hdest,
      decide_eq_true_eq, not_exists, not_and, not_le, ge_iff_le, not_lt, gt_iff_lt, true_and]
    exact ⟨beyond_iff.1 h.recross_beyond_open, staysBefore_iff.1 h.contact_before_open,
      h.chronology.1, h.contexts.1, fun context hm => (h.contexts.2 _ hm).2⟩

end Matchers

/-! ## The matched pairs of an input -/

section Pipeline

variable {canonicalSha256 : Json → String} {input : EntryArbitrationInputV3}

/-- The candidate and the evidence that a matcher makes of a raw proof. -/
inductive Matched (canonicalSha256 : Json → String) (input : EntryArbitrationInputV3) :
    EligiblePair → Prop
  | boc {proof : BocProofV3} (present : input.bocProof = some proof) :
    Matched canonicalSha256 input ⟨(matchBoc canonicalSha256 input.matchRequest proof).1,
      (matchBoc canonicalSha256 input.matchRequest proof).2⟩
  | dirClose {bar : OrderedCandleV3} (present : input.confirmedBar = some bar) :
    Matched canonicalSha256 input ⟨(matchClose canonicalSha256 input.matchRequest bar).1,
      (matchClose canonicalSha256 input.matchRequest bar).2⟩
  | htfFlip {proof : EntryTriggerProofV3} (present : input.htfFlipProof = some proof) :
    Matched canonicalSha256 input ⟨(matchFlip canonicalSha256 input.matchRequest proof).1,
      (matchFlip canonicalSha256 input.matchRequest proof).2⟩

theorem Matched.id_eq {pair : EligiblePair} (h : Matched canonicalSha256 input pair) :
    pair.evidence.candidateId = pair.candidate.candidateId := by
  cases h <;> rfl

/-- There is one matched pair for each model. -/
theorem Matched.eq_of_model {p q : EligiblePair} (hp : Matched canonicalSha256 input p)
    (hq : Matched canonicalSha256 input q) (hm : p.candidate.model = q.candidate.model) :
    p = q := by
  cases hp <;> cases hq <;> simp_all [matchBoc, matchClose, matchFlip, candidate]

theorem closePairs_eq (hpaired : input.directionalClose = input.confirmedBar.isSome) :
    closePairs canonicalSha256 input.matchRequest =
      .ok (input.confirmedBar.map (matchClose canonicalSha256 input.matchRequest)).toList := by
  unfold closePairs
  cases hb : input.confirmedBar with
  | none => simp [EntryArbitrationInputV3.matchRequest, hpaired, hb]
  | some bar => simp [EntryArbitrationInputV3.matchRequest, hpaired, hb]

theorem mem_matchedPairs (hpaired : input.directionalClose = input.confirmedBar.isSome)
    {pairs : List (EntryCandidateV3 × EntryCandidateEvidenceV3)}
    (h : matchedPairs canonicalSha256 input.matchRequest = .ok pairs) (pair : EligiblePair) :
    (pair.candidate, pair.evidence) ∈ pairs ↔ Matched canonicalSha256 input pair := by
  unfold matchedPairs at h
  simp only [closePairs_eq hpaired, ok_bind_eq, pure_ok_iff] at h
  subst h
  obtain ⟨c, e⟩ := pair
  simp only [List.mem_append, Option.mem_toList, Option.map_eq_some_iff]
  constructor
  · rintro ((⟨proof, hp, heq⟩ | ⟨bar, hb, heq⟩) | ⟨proof, hp, heq⟩)
    · obtain ⟨rfl, rfl⟩ := Prod.mk.inj heq.symm
      exact Matched.boc hp
    · obtain ⟨rfl, rfl⟩ := Prod.mk.inj heq.symm
      exact Matched.dirClose hb
    · obtain ⟨rfl, rfl⟩ := Prod.mk.inj heq.symm
      exact Matched.htfFlip hp
  · rintro (⟨hp⟩ | ⟨hb⟩ | ⟨hp⟩)
    · exact Or.inl (Or.inl ⟨_, hp, rfl⟩)
    · exact Or.inl (Or.inr ⟨_, hb, rfl⟩)
    · exact Or.inr ⟨_, hp, rfl⟩

/-- The records of an evaluation are the matched pairs, taken apart and sorted. -/
structure MatchedRecords (canonicalSha256 : Json → String) (input : EntryArbitrationInputV3)
    (candidates : List EntryCandidateV3) (evidence : List EntryCandidateEvidenceV3) : Prop where
  mem_candidates : ∀ c, c ∈ candidates ↔ ∃ e, Matched canonicalSha256 input ⟨c, e⟩
  mem_evidence : ∀ e, e ∈ evidence ↔ ∃ c, Matched canonicalSha256 input ⟨c, e⟩

theorem matchEntryCandidatesV3_ok (hpaired : input.directionalClose = input.confirmedBar.isSome)
    {matched : EntryMatchResultV3}
    (h : matchEntryCandidatesV3 canonicalSha256 input.matchRequest = .ok matched) :
    MatchedRecords canonicalSha256 input matched.candidates matched.evidence := by
  unfold matchEntryCandidatesV3 at h
  rw [bind_ok_iff] at h
  obtain ⟨pairs, hpairs, hpure⟩ := h
  rw [pure_ok_iff] at hpure
  subst hpure
  have hmem := mem_matchedPairs hpaired hpairs
  constructor
  · intro c
    simp only [mem_sortBy, List.mem_map, Prod.exists, exists_and_right, exists_eq_right]
    exact exists_congr fun e => hmem ⟨c, e⟩
  · intro e
    simp only [mem_sortBy, List.mem_map, Prod.exists, exists_eq_right]
    exact exists_congr fun c => hmem ⟨c, e⟩

section Records

variable {candidates : List EntryCandidateV3} {evidence : List EntryCandidateEvidenceV3}

/-- Evidence finds back the candidate it was matched with: another one of its id is equal. -/
theorem exactPair_iff (hr : MatchedRecords canonicalSha256 input candidates evidence)
    (hcons : Consistent (·.candidateId) candidates) (pair : EligiblePair) :
    ExactPair candidates evidence pair ↔
      Matched canonicalSha256 input pair ∧
        exactEligibleV3 pair.candidate pair.evidence = true := by
  constructor
  · rintro ⟨hc, he, hid, hel⟩
    obtain ⟨e, hm⟩ := (hr.mem_candidates _).1 hc
    obtain ⟨c, hm'⟩ := (hr.mem_evidence _).1 he
    have hcmem : c ∈ candidates := (hr.mem_candidates _).2 ⟨_, hm'⟩
    obtain ⟨c₀, e₀⟩ := pair
    obtain rfl : c = c₀ := hcons c hcmem _ hc (hm'.id_eq.symm.trans hid)
    exact ⟨hm', hel⟩
  · rintro ⟨hm, hel⟩
    exact ⟨(hr.mem_candidates _).2 ⟨_, hm⟩, (hr.mem_evidence _).2 ⟨_, hm⟩, hm.id_eq, hel⟩

/-- Every candidate has one evidence record, so an earliest pair is an exact pair that no other
precedes. -/
theorem earliestPair_iff (hr : MatchedRecords canonicalSha256 input candidates evidence)
    (hcons : Consistent (·.candidateId) candidates) (pair : EligiblePair) :
    EarliestPair candidates evidence pair ↔ ExactPair candidates evidence pair ∧
      ∀ other, ExactPair candidates evidence other →
        eventKey pair.evidence ≤ eventKey other.evidence := by
  constructor
  · intro h
    exact ⟨h.toIsPair, h.earliest⟩
  · rintro ⟨h, hearliest⟩
    refine ⟨⟨h, ?_⟩, hearliest⟩
    intro other ho hc
    have hm := ((exactPair_iff hr hcons pair).1 h).1
    have hm' := ((exactPair_iff hr hcons other).1 ho).1
    rw [hm'.eq_of_model hm (by rw [hc])]

/-- What a pair says about the trigger. -/
def rawTrigger (pair : EligiblePair) : RawTrigger :=
  ⟨pair.candidate.model, eventKey pair.evidence, pair.evidence.observedTriggerTicks.getD 0⟩

theorem Matched.ticks_eq {pair : EligiblePair} (h : Matched canonicalSha256 input pair) :
    pair.evidence.observedTriggerTicks = some (rawTrigger pair).ticks := by
  cases h <;> rfl

/-- The parts of the input validation that the rules rest on. -/
structure ValidProofs (input : EntryArbitrationInputV3) : Prop where
  paired : input.directionalClose = input.confirmedBar.isSome
  bar : ∀ bar, input.confirmedBar = some bar →
    bar.closeEpoch - bar.openEpoch = 300 ∧ bar.openEpoch % 300 = 0
  boc : ∀ proof, input.bocProof = some proof →
    validateBocProofV3 proof input.observedAtEpoch = .ok ()
  flip : ∀ proof, input.htfFlipProof = some proof →
    validateFlipProofV3 proof input.observedAtEpoch = .ok ()

theorem validProofs_of_validate (h : validateEntryArbitrationInputV3 input = .ok ()) :
    ValidProofs input := by
  unfold validateEntryArbitrationInputV3 at h
  simp only [then_ok_iff, whenSome_ok_iff, failIf_ok_iff, not_not, validateConfirmedBarV3,
    not_or] at h
  obtain ⟨-, -, -, -, -, -, -, -, -, -, -, -, hpaired, hbar, hboc, hflip, -⟩ := h
  exact ⟨hpaired, fun bar hb => (hbar bar hb).2, hboc, hflip⟩

/-- The triggers of the raw facts are those of the eligible matched pairs. -/
theorem triggers_iff (canonicalSha256 : Json → String) (hv : ValidProofs input)
    (trigger : RawTrigger) :
    Triggers input trigger ↔ ∃ pair, Matched canonicalSha256 input pair ∧
      exactEligibleV3 pair.candidate pair.evidence = true ∧ trigger = rawTrigger pair := by
  constructor
  · rintro (⟨present, rule⟩ | ⟨present, rule⟩ | ⟨present, rule⟩)
    · exact ⟨_, .boc present, (exactEligible_matchBoc (hv.boc _ present)).2 rule, rfl⟩
    · exact ⟨_, .dirClose present,
        (exactEligible_matchClose rule.reported rule.fiveMinutes rule.aligned).2 rule, rfl⟩
    · exact ⟨_, .htfFlip present,
        (exactEligible_matchFlip (hv.flip _ present)).2 ⟨_, _, rule⟩, rfl⟩
  · rintro ⟨pair, hm, hel, rfl⟩
    cases hm with
    | boc present => exact .boc present ((exactEligible_matchBoc (hv.boc _ present)).1 hel)
    | dirClose present =>
      have hreported : input.directionalClose = true := by rw [hv.paired, present]; rfl
      obtain ⟨hspan, haligned⟩ := hv.bar _ present
      exact .dirClose present ((exactEligible_matchClose hreported hspan haligned).1 hel)
    | htfFlip present =>
      obtain ⟨contact, recross, rule⟩ := (exactEligible_matchFlip (hv.flip _ present)).1 hel
      exact .htfFlip present rule

theorem triggers_iff_exactPair (hv : ValidProofs input)
    (hr : MatchedRecords canonicalSha256 input candidates evidence)
    (hcons : Consistent (·.candidateId) candidates) (trigger : RawTrigger) :
    Triggers input trigger ↔
      ∃ pair, ExactPair candidates evidence pair ∧ trigger = rawTrigger pair := by
  rw [triggers_iff canonicalSha256 hv]
  simp only [exactPair_iff hr hcons, and_assoc]

theorem earliestTrigger_iff (hv : ValidProofs input)
    (hr : MatchedRecords canonicalSha256 input candidates evidence)
    (hcons : Consistent (·.candidateId) candidates) (trigger : RawTrigger) :
    EarliestTrigger input trigger ↔
      ∃ pair, EarliestPair candidates evidence pair ∧ trigger = rawTrigger pair := by
  have htriggers := triggers_iff_exactPair hv hr hcons
  constructor
  · rintro ⟨ht, hearliest⟩
    obtain ⟨pair, hp, rfl⟩ := (htriggers _).1 ht
    refine ⟨pair, (earliestPair_iff hr hcons pair).2 ⟨hp, ?_⟩, rfl⟩
    intro other ho
    exact hearliest (rawTrigger other) ((htriggers _).2 ⟨other, ho, rfl⟩)
  · rintro ⟨pair, hp, rfl⟩
    refine ⟨(htriggers _).2 ⟨pair, hp.toIsPair, rfl⟩, ?_⟩
    intro other ho
    obtain ⟨q, hq, rfl⟩ := (htriggers _).1 ho
    exact hp.earliest q hq

/-- The price conflict of the arbitrator is a disagreement between the earliest triggers. -/
theorem not_priceConflict_iff (hv : ValidProofs input)
    (hr : MatchedRecords canonicalSha256 input candidates evidence)
    (hcons : Consistent (·.candidateId) candidates) :
    ¬ PriceConflict candidates evidence ↔
      ∀ a b, EarliestTrigger input a → EarliestTrigger input b → a.ticks = b.ticks := by
  have hmatched : ∀ pair, EarliestPair candidates evidence pair →
      Matched canonicalSha256 input pair :=
    fun pair hp => ((exactPair_iff hr hcons pair).1 hp.toIsPair).1
  constructor
  · intro hno a b ha hb
    obtain ⟨p, hp, rfl⟩ := (earliestTrigger_iff hv hr hcons a).1 ha
    obtain ⟨q, hq, rfl⟩ := (earliestTrigger_iff hv hr hcons b).1 hb
    by_contra hticks
    refine hno ⟨⟨p, q, hp, hq, ?_⟩, p, q, hp, hq, ?_⟩
    · intro hmodel
      exact hticks (by rw [(hmatched p hp).eq_of_model (hmatched q hq) hmodel])
    · rw [(hmatched p hp).ticks_eq, (hmatched q hq).ticks_eq]
      simpa using hticks
  · rintro hagree ⟨-, p, q, hp, hq, hticks⟩
    have hsame := hagree _ _ ((earliestTrigger_iff hv hr hcons _).2 ⟨p, hp, rfl⟩)
      ((earliestTrigger_iff hv hr hcons _).2 ⟨q, hq, rfl⟩)
    rw [(hmatched p hp).ticks_eq, (hmatched q hq).ticks_eq, hsame] at hticks
    exact hticks rfl

end Records

/-- An evaluated input is paper eligible exactly when the rule contract holds of its raw facts; a
one-candle cohort never is. -/
theorem evaluateEntryV3Bundle_paperEligible_iff {evaluation : EntryEvaluationV3}
    (h : evaluateEntryV3Bundle canonicalSha256 input = .ok evaluation)
    (hseed : input.openedSelectionSeed = none) :
    (evaluation.selection.action = .paperEligible ↔ RuleContract input) ∧
      (input.liquidityCohort = some .oneCandle →
        evaluation.selection.action ≠ .paperEligible) := by
  unfold evaluateEntryV3Bundle at h
  rw [then_ok_iff] at h
  obtain ⟨hvalid, h⟩ := h
  have hv := validProofs_of_validate hvalid
  simp only [hseed] at h
  unfold evaluateWithoutOpenedSeed at h
  rw [bind_ok_iff] at h
  obtain ⟨matched, hmatched, h⟩ := h
  rw [bind_ok_iff] at h
  obtain ⟨selected, hselected, h⟩ := h
  rw [then_ok_iff, pure_ok_iff] at h
  obtain ⟨-, rfl⟩ := h
  have hr := matchEntryCandidatesV3_ok hv.paired hmatched
  obtain ⟨-, hrecords, byId, pairs, hindexed, hpairs, hchoose⟩ :=
    arbitrateEntryCandidatesV3_ok hselected
  have hcons := hrecords.candidates_consistent
  have hiff := (chooseSelection_spec hindexed hpairs hchoose).1
  have hcontract : selected.action = .paperEligible ↔ RuleContract input := by
    rw [hiff, not_priceConflict_iff hv hr hcons]
    constructor
    · rintro ⟨hstands, hcohort, ⟨pair, hp⟩, hagree⟩
      have ht := (triggers_iff_exactPair hv hr hcons _).2 ⟨pair, hp, rfl⟩
      exact ⟨hstands, hcohort, ⟨_, ht⟩, hagree⟩
    · rintro ⟨hstands, hcohort, ⟨trigger, ht⟩, hagree⟩
      obtain ⟨pair, hp, -⟩ := (triggers_iff_exactPair hv hr hcons _).1 ht
      exact ⟨hstands, hcohort, ⟨pair, hp⟩, hagree⟩
  refine ⟨hcontract, fun hone hpaper => ?_⟩
  have hcohort := (hcontract.1 hpaper).cohort
  rw [hone] at hcohort
  cases hcohort

end Pipeline

/-! ## A directional close is a reported fact

The bar below closes under its open and inside the zone of a long setup. The input reports it as a
directional close, and no stage looks at the bar's direction again. -/

def bearishBar : OrderedCandleV3 := ⟨300, 600, 105, 106, 94, 95⟩

def bearishInput : EntryArbitrationInputV3 where
  setupId := "setup-1"
  direction := .long
  zoneTopTicks := 100
  zoneBottomTicks := 90
  zoneEngagedEpoch := some 300
  commonFidelity := .exact
  liquidityCohort := some .twoPlusCandles
  oneCandleEnabled := some false
  setupInvalidated := false
  bocProof := none
  directionalClose := true
  confirmedBar := some bearishBar
  closeTriggerSequence := 1
  htfFlipProof := none
  observedAtEpoch := 600
  policyVersion := "rd-entry-arbitration-v3"
  revision := 0
  evaluatedAtEpoch := 600
  openedSelectionSeed := none

/-- The digests of the records that the input leads to. -/
def bearishSha256 : Json → String
  | .obj (("boc_tier", _) :: _) =>
    "e171724b0eb2ff6724ff94f19ad98206d794ad6c9db6371f27405b8364df36a5"
  | .obj (("ambiguity_codes", _) :: _) =>
    "a61703e73e8c94db157632fecec616601afde69124d01d41b3de0509e0a7d218"
  | .obj (("candidate_id", _) :: _) =>
    "838c215fb108e6d0d25b32b8d48d3c7eed857548e78cf1a407b1909e40eaab28"
  | _ => "26e8b84c604fb7f3047f58b0eae6cbd04d841cf1c714590807de415349200cdc"

theorem bearishInput_action :
    (evaluateEntryV3Bundle bearishSha256 bearishInput).toOption.map (·.selection.action) =
      some .paperEligible := by
  decide +kernel

/-- A long setup is paper eligible on a bar that closes down, without any other proof. -/
theorem bearishInput_paperEligible :
    bearishInput.direction = .long ∧ bearishBar.closeTicks < bearishBar.openTicks ∧
      bearishInput.confirmedBar = some bearishBar ∧ bearishInput.bocProof = none ∧
      bearishInput.htfFlipProof = none ∧
      ∃ evaluation, evaluateEntryV3Bundle bearishSha256 bearishInput = .ok evaluation ∧
        evaluation.selection.action = .paperEligible :=
  ⟨rfl, by decide, rfl, rfl, rfl, toOption_map_eq_some.1 bearishInput_action⟩

/-- The contract, as stated here, holds of that input. -/
theorem bearishInput_ruleContract :
    ∃ evaluation, evaluateEntryV3Bundle bearishSha256 bearishInput = .ok evaluation ∧
      RuleContract bearishInput := by
  obtain ⟨evaluation, hok, haction⟩ := toOption_map_eq_some.1 bearishInput_action
  have h := evaluateEntryV3Bundle_paperEligible_iff hok rfl
  exact ⟨evaluation, hok, h.1.1 haction⟩

end TradeOps.Entry
