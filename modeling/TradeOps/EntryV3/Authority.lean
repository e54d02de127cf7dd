import TradeOps.EntryV3.Bundles

/-!
# The authority of an accepted entry decision

What an accepted payload says of a setup that its selection makes eligible for a paper trade: every
record of evidence that triggered it fires at the market event of the payload and at the entry of
the plan, the plan has its stop and its target on the two sides of the entry, the zone was engaged
before, and the geometry of the model holds of the bars and ticks of the payload.
-/

namespace TradeOps.EntryV3

open Checks SortBy Entry
open JsString (js)
open scoped JsString

/-! ## Statements -/

/-- Exact evidence of a bundle at the event of the canonical evidence, with its candidate, whose
model is one of those that the selection says triggered together. -/
structure CoTriggered (bundle : Bundle) (candidate : EntryCandidateV3)
    (evidence : EntryCandidateEvidenceV3) : Prop where
  candidate_mem : candidate ∈ bundle.evaluation.candidates
  evidence_mem : evidence ∈ bundle.evaluation.evidence
  of_candidate : evidence.candidateId = candidate.candidateId
  exact : evidence.fidelity = .exact
  model : candidate.model ∈ selectedModels bundle.evaluation.selection
  event : ∃ canonical ∈ bundle.evaluation.evidence,
    some canonical.evidenceId = bundle.evaluation.selection.canonicalEvidenceId ∧
      evidence.observedTriggerEpoch = canonical.observedTriggerEpoch ∧
      evidence.triggerSequence = canonical.triggerSequence

/-- A price beyond a level, in a direction. -/
def beyond (direction : EntryDirectionV3) (above below price : Int) : Prop :=
  match direction with
  | .long => above < price
  | .short => price < below

/-- The tick breaks a reference candle that closed before the candle of the event opened. -/
def BreaksReference (o : Observation) (setup : SetupEntryFactsV3) (candidate : EntryCandidateV3)
    (evidence : EntryCandidateEvidenceV3) : Prop :=
  ∃ reference high low, candidate.referenceCandleOpenEpoch = some reference ∧
    evidence.referenceCandleOpenEpoch = some reference ∧
    evidence.referenceCandleHighTicks = some high ∧ evidence.referenceCandleLowTicks = some low ∧
    reference % 300 = 0 ∧ reference + 300 ≤ o.marketEvent.epoch / 300 * 300 ∧
    beyond setup.direction high low o.marketEvent.tickPriceTicks

/-- The confirmed bar of the payload, anchored by the candidate, closes beyond the zone. -/
def ClosesBeyondZone (o : Observation) (setup : SetupEntryFactsV3) (candidate : EntryCandidateV3) :
    Prop :=
  ∃ bar, o.marketEvent.confirmedBar = some bar ∧ bar.openEpoch = candidate.eventAnchorEpoch ∧
    bar.closeEpoch - bar.openEpoch = 300 ∧ bar.closeEpoch = o.marketEvent.epoch ∧
    bar.closeTicks = o.marketEvent.tickPriceTicks ∧
    beyond setup.direction setup.zoneTopTicks setup.zoneBottomTicks bar.closeTicks

/-- The contact touches the zone on the near side of the open of every context; the recross, which
opens after it, closes beyond the open at the market event, inside every context. -/
def FlipsInOrder (o : Observation) (setup : SetupEntryFactsV3) (candidate : EntryCandidateV3)
    (evidence : EntryCandidateEvidenceV3) : Prop :=
  ∃ htfOpen contact recross, evidence.htfOpenTicks = some htfOpen ∧
    evidence.contactCandle = some contact ∧ evidence.recrossCandle = some recross ∧
    evidence.coverageGapDetected = some false ∧ evidence.fullLifecycleOrdered = some true ∧
    evidence.destinationSeenBeforeContact = some false ∧
    candidate.eventAnchorEpoch ≤ contact.openEpoch ∧ contact.closeEpoch ≤ recross.openEpoch ∧
    recross.closeEpoch = o.marketEvent.epoch ∧
    recross.closeTicks = o.marketEvent.tickPriceTicks ∧ evidence.htfContextMinutes ≠ [] ∧
    (∀ context ∈ evidence.htfContextMinutes,
      candidate.eventAnchorEpoch % (context * 60) = 0 ∧
        o.marketEvent.epoch < candidate.eventAnchorEpoch + context * 60) ∧
    ¬beyond setup.direction htfOpen htfOpen
      (if setup.direction = .long then contact.highTicks else contact.lowTicks) ∧
    beyond setup.direction htfOpen htfOpen recross.closeTicks ∧
    contact.lowTicks ≤ setup.zoneTopTicks ∧ setup.zoneBottomTicks ≤ contact.highTicks

def Geometry (o : Observation) (setup : SetupEntryFactsV3) (candidate : EntryCandidateV3)
    (evidence : EntryCandidateEvidenceV3) : Prop :=
  match candidate.model with
  | .boc => BreaksReference o setup candidate evidence
  | .dirClose => ClosesBeyondZone o setup candidate
  | .htfFlip => FlipsInOrder o setup candidate evidence

/-- The payload has the authority to open a paper trade for a bundle. -/
structure Authorised (o : Observation) (bundle : Bundle) : Prop where
  triggered : ∃ candidate evidence, CoTriggered bundle candidate evidence
  trigger : ∀ candidate evidence, CoTriggered bundle candidate evidence →
    evidence.observedTriggerEpoch = some o.marketEvent.epoch ∧
      evidence.triggerSequence = o.marketEvent.sequence ∧
      evidence.observedTriggerTicks = some o.marketEvent.tickPriceTicks
  entry : bundle.tradePlan.entryTicks = o.marketEvent.tickPriceTicks
  direction : bundle.tradePlan.direction = bundle.setup.direction
  sides : bundle.tradePlan.sided
  engaged : ∃ engaged, bundle.setup.zoneEngagedEpoch = some engaged ∧
    engaged ≤ o.marketEvent.epoch
  geometry : ∀ candidate evidence, CoTriggered bundle candidate evidence →
    Geometry o bundle.setup candidate evidence

/-! ## What the parsers promise -/

/-- What a parsed bundle satisfies. -/
structure Bundle.Valid (bundle : Bundle) : Prop where
  evaluation : validateEntryEvaluationV3 bundle.evaluation = .ok ()
  directions : ∀ candidate ∈ bundle.evaluation.candidates,
    candidate.direction = bundle.setup.direction
  engaged : bundle.evaluation.selection.action = .paperEligible →
    ∃ engaged, bundle.setup.zoneEngagedEpoch = some engaged ∧
      ∀ item ∈ bundle.evaluation.evidence, ∀ trigger, item.observedTriggerEpoch = some trigger →
        engaged ≤ trigger
  plan : bundle.tradePlan.direction = bundle.setup.direction ∧ bundle.tradePlan.sided

theorem caught_ok_iff {check : Except String Unit} : caught check = .ok () ↔ check = .ok () := by
  cases check <;> simp [caught]

theorem parseTradePlan_ok {direction : EntryDirectionV3} {value : Option StrictJson}
    {plan : TradePlan} (h : parseTradePlan direction value = .ok plan) :
    plan.direction = direction ∧ plan.sided := by
  simp only [parseTradePlan, bind_ok_iff, failIf_ok_iff, pure_ok_iff] at h
  obtain ⟨_, _, _, _, _, _, _, _, _, _, _, _, _, hcheck, rfl⟩ := h
  push Not at hcheck
  exact hcheck

theorem parseBundle_ok {canonicalSha256 : Json → String} {unreviewed : Bool}
    {schemaVersion : SchemaVersion} {value : Option StrictJson} {bundle : Bundle}
    (h : parseBundle canonicalSha256 unreviewed schemaVersion value = .ok bundle) :
    bundle.Valid := by
  simp only [parseBundle, bind_ok_iff, failIf_ok_iff, pure_ok_iff] at h
  obtain ⟨result, -, _, -, ⟨setup, rules⟩, -, ⟨candidates, evidence⟩, -, _, hrecords, h⟩ := h
  obtain ⟨_, -, _, -, selection, -, _, -, _, -, _, -, _, -, _, -, h⟩ := h
  obtain ⟨_, hvalid, _, -, _, hengaged, plan, hplan, rfl⟩ := h
  refine ⟨caught_ok_iff.mp hvalid, fun candidate hmem => ?_, fun haction => ?_,
    parseTradePlan_ok hplan⟩
  · have hcandidate := (sortBy_perm _ _).mem_iff.mp hmem
    by_contra hdirection
    exact hrecords (.inr (.inr (.inr (.inr ⟨candidate, hcandidate, .inr hdirection⟩))))
  · push Not at hengaged
    obtain ⟨-, -, hsome, hbefore⟩ := hengaged haction
    obtain ⟨engaged, hengaged⟩ := Option.ne_none_iff_exists'.mp hsome
    exact ⟨engaged, hengaged, fun item hitem trigger htrigger =>
      hbefore item hitem trigger htrigger engaged hengaged⟩

/-! ## What the validators promise -/

section Evaluation

variable {evaluation : EntryEvaluationV3} (h : validateEntryEvaluationV3 evaluation = .ok ())

include h

theorem candidateIds_nodup : Keyed.KeysNodup (·.candidateId) evaluation.candidates := by
  simp only [validateEntryEvaluationV3, then_ok_iff, failIf_ok_iff, not_or, not_not] at h
  exact h.2.2.2.2.1.2.2.1

theorem evidenceIds_nodup : Keyed.KeysNodup (·.evidenceId) evaluation.evidence := by
  simp only [validateEntryEvaluationV3, then_ok_iff, failIf_ok_iff, not_or, not_not] at h
  exact h.2.2.2.2.1.2.2.2.1

theorem evidence_valid {evidence : EntryCandidateEvidenceV3}
    (hmem : evidence ∈ evaluation.evidence) :
    validateEntryEvidenceV3 evidence = .ok () := by
  simp only [validateEntryEvaluationV3, then_ok_iff, forAll_ok_iff] at h
  exact h.2.1 evidence hmem

theorem exactGeometry_valid {candidate : EntryCandidateV3} {evidence : EntryCandidateEvidenceV3}
    (hcandidate : candidate ∈ evaluation.candidates) (hmem : evidence ∈ evaluation.evidence)
    (hof : evidence.candidateId = candidate.candidateId) (hexact : evidence.fidelity = .exact) :
    validateExactGeometryV3 candidate evidence = .ok () := by
  have hnodup := candidateIds_nodup h
  simp only [validateEntryEvaluationV3, then_ok_iff, forAll_ok_iff] at h
  have hevidence := h.2.2.2.2.2.2.1 evidence hmem
  rw [validateEvidenceOfCandidateV3] at hevidence
  split at hevidence
  next => cases hevidence
  next found hfind =>
    obtain rfl : found = candidate := by
      have hid := List.find?_some hfind
      apply hnodup.eq_of_key (List.mem_of_find?_eq_some hfind) hcandidate
      rw [← hof]
      simpa using hid
    simp only [then_ok_iff] at hevidence
    rw [if_pos hexact] at hevidence
    exact hevidence.2.2

end Evaluation

/-- The recross of a flip opens after its contact. -/
theorem lifecycle_ordered {evidence : EntryCandidateEvidenceV3} {contact recross : OrderedCandleV3}
    (h : validateEntryEvidenceV3 evidence = .ok ())
    (hcontact : evidence.contactCandle = some contact)
    (hrecross : evidence.recrossCandle = some recross) :
    contact.closeEpoch ≤ recross.openEpoch := by
  simp only [validateEntryEvidenceV3, then_ok_iff, validateLifecycleV3, hcontact, hrecross,
    failIf_ok_iff] at h
  obtain ⟨-, -, -, -, -, -, -, -, -, -, -, -, -, -, -, -, -, -, -, ⟨-, -, hordered⟩, -⟩ := h
  push Not at hordered
  exact hordered.1

/-- The pairs are the evidence that triggered together. -/
theorem mem_selectedAuthoritativePairs_iff {bundle : Bundle} (hvalid : bundle.Valid)
    {pairs : List EligiblePair} (h : selectedAuthoritativePairs bundle.evaluation = .ok pairs)
    (hne : pairs ≠ []) {pair : EligiblePair} :
    pair ∈ pairs ↔ CoTriggered bundle pair.candidate pair.evidence := by
  rw [selectedAuthoritativePairs] at h
  dsimp only at h
  split at h
  next => exact absurd (Except.ok.inj h).symm hne
  next =>
    split at h
    next => cases h
    next canonical hcanonical =>
      simp only [bind_ok_iff, pure_ok_iff] at h
      obtain ⟨_, -, raw, hraw, rfl⟩ := h
      obtain ⟨hfrom, hto⟩ := mapM_ok hraw
      have hcanonicalId := List.find?_some hcanonical
      have hcanonicalMem := List.mem_of_find?_eq_some hcanonical
      constructor
      · intro hpair
        obtain ⟨hpair, hmodel⟩ := List.mem_filter.mp hpair
        obtain ⟨item, hitem, hfind⟩ := hfrom pair hpair
        obtain ⟨hitem, hevent⟩ := List.mem_filter.mp hitem
        split at hfind
        next => cases hfind
        next candidate hcandidate =>
          obtain rfl := (Except.ok.inj hfind).symm
          have hid := List.find?_some hcandidate
          simp only [decide_eq_true_eq] at hid hevent hmodel hcanonicalId
          exact ⟨List.mem_of_find?_eq_some hcandidate, hitem, hid.symm, hevent.1, hmodel, canonical,
            hcanonicalMem, hcanonicalId, hevent.2.1, hevent.2.2⟩
      · intro hpair
        obtain ⟨canonical', hmem', hid', hepoch, hsequence⟩ := hpair.event
        obtain rfl : canonical' = canonical := by
          apply (evidenceIds_nodup hvalid.evaluation).eq_of_key hmem' hcanonicalMem
          simp only [decide_eq_true_eq] at hcanonicalId
          exact Option.some.inj (hid'.trans hcanonicalId.symm)
        have hevent : pair.evidence ∈ bundle.evaluation.evidence.filter fun item =>
            item.fidelity = .exact ∧ item.observedTriggerEpoch = canonical'.observedTriggerEpoch ∧
              item.triggerSequence = canonical'.triggerSequence :=
          List.mem_filter.mpr ⟨hpair.evidence_mem, by simp [hpair.exact, hepoch, hsequence]⟩
        obtain ⟨found, hmem, hfind⟩ := hto pair.evidence hevent
        split at hfind
        next => cases hfind
        next candidate hcandidate =>
          obtain rfl : candidate = pair.candidate := by
            have hid := List.find?_some hcandidate
            apply (candidateIds_nodup hvalid.evaluation).eq_of_key
              (List.mem_of_find?_eq_some hcandidate) hpair.candidate_mem
            rw [← hpair.of_candidate]
            simpa using hid
          obtain rfl := (Except.ok.inj hfind).symm
          exact List.mem_filter.mpr ⟨hmem, by simpa using hpair.model⟩

/-! ## The geometry of the models -/

section Models

variable {o : Observation} {bundle : Bundle} {candidate : EntryCandidateV3}
  {evidence : EntryCandidateEvidenceV3}

/-- What the checks on an entry decision say of a pair. -/
structure Checked (o : Observation) (bundle : Bundle) (candidate : EntryCandidateV3)
    (evidence : EntryCandidateEvidenceV3) : Prop where
  epoch : evidence.observedTriggerEpoch = some o.marketEvent.epoch
  sequence : evidence.triggerSequence = o.marketEvent.sequence
  ticks : evidence.observedTriggerTicks = some o.marketEvent.tickPriceTicks
  direction : candidate.direction = bundle.setup.direction
  exact : validateExactGeometryV3 candidate evidence = .ok ()
  valid : validateEntryEvidenceV3 evidence = .ok ()
  authority : modelAuthority bundle.setup o.marketEvent .entryDecision ⟨candidate, evidence⟩ = true

/-- The comparison that the checks make is the one of the direction. -/
theorem beyond_iff {direction : EntryDirectionV3} {above below price : Int} :
    (if direction = .long then above < price else price < below) ↔
      beyond direction above below price := by
  cases direction <;> simp [beyond]

theorem Checked.breaksReference (h : Checked o bundle candidate evidence)
    (hmodel : candidate.model = .boc) : BreaksReference o bundle.setup candidate evidence := by
  have hauthority := h.authority
  have hexact := h.exact
  rw [modelAuthority, hmodel] at hauthority
  rw [validateExactGeometryV3, hmodel, h.epoch] at hexact
  dsimp only at hauthority hexact
  rw [bocAuthority, h.ticks] at hauthority
  split at hauthority
  next reference high low trigger hreference hhigh hlow htrigger =>
    obtain rfl := Option.some.inj htrigger
    rw [decide_eq_true_eq, h.direction, beyond_iff] at hauthority
    obtain ⟨-, haligned, hevidence, hbreak⟩ := hauthority
    rw [hreference, hevidence, failIf_ok_iff] at hexact
    push Not at hexact
    exact ⟨reference, high, low, hreference, hevidence, hhigh, hlow, haligned,
      hexact.2.2.2.1, hbreak⟩
  next => cases hauthority

theorem Checked.closesBeyondZone (h : Checked o bundle candidate evidence)
    (hmodel : candidate.model = .dirClose) : ClosesBeyondZone o bundle.setup candidate := by
  have hauthority := h.authority
  rw [modelAuthority, hmodel] at hauthority
  dsimp only at hauthority
  rw [Bool.and_eq_true, closeAuthority, h.ticks, closesConfirmedBar] at hauthority
  obtain ⟨hclose, hbar⟩ := hauthority
  dsimp only at hclose
  rw [decide_eq_true_eq, h.direction, beyond_iff] at hclose
  obtain ⟨-, -, hlength, -, hbeyond⟩ := hclose
  split at hbar
  next bar hconfirmed =>
    simp only [reduceCtorEq, decide_false, Bool.false_or, decide_eq_true_eq, h.epoch, h.ticks,
      Option.some.injEq] at hbar
    obtain ⟨-, hanchor, hopen, hcloses, hepoch, hticks⟩ := hbar
    refine ⟨bar, hconfirmed, hanchor.symm, by omega, hepoch.symm, hticks.symm, ?_⟩
    rw [← hticks]
    exact hbeyond
  next => simp at hbar

theorem Checked.flipsInOrder (h : Checked o bundle candidate evidence)
    (hmodel : candidate.model = .htfFlip) : FlipsInOrder o bundle.setup candidate evidence := by
  have hauthority := h.authority
  have hexact := h.exact
  rw [modelAuthority, hmodel] at hauthority
  rw [validateExactGeometryV3, hmodel, h.epoch] at hexact
  dsimp only at hauthority hexact
  rw [flipAuthority, h.epoch, h.ticks] at hauthority
  split at hauthority
  next contact recross trigger htfOpen hcontact hrecross htrigger hopen =>
    obtain rfl := Option.some.inj htrigger
    simp only [hopen, hcontact, hrecross, then_ok_iff, failIf_ok_iff] at hexact
    obtain ⟨hlifecycle, -, -⟩ := hexact
    push Not at hlifecycle
    rw [decide_eq_true_eq, h.direction, beyond_iff] at hauthority
    obtain ⟨hcontexts, hinside, -, -, -, -, hepoch, hticks, hrecrossed, hnear, htop, hbottom⟩ :=
      hauthority
    have hordered := lifecycle_ordered h.valid hcontact hrecross
    refine ⟨htfOpen, contact, recross, hopen, hcontact, hrecross, hlifecycle.1, hlifecycle.2.1,
      hlifecycle.2.2.1, hlifecycle.2.2.2.1, hordered, hepoch.symm, (Option.some.inj hticks).symm,
      hcontexts, fun context hmem => ⟨(hinside context hmem).1, (hinside context hmem).2.2⟩, ?_,
      hrecrossed, htop, hbottom⟩
    cases hdirection : bundle.setup.direction <;> simp [hdirection, beyond] at hnear ⊢ <;> omega
  next => cases hauthority

theorem Checked.geometry (h : Checked o bundle candidate evidence) :
    Geometry o bundle.setup candidate evidence := by
  rw [Geometry]
  split
  next hmodel => exact h.breaksReference hmodel
  next hmodel => exact h.closesBeyondZone hmodel
  next hmodel => exact h.flipsInOrder hmodel

end Models

/-! ## Accepted payloads -/

/-- The authority check on an entry decision, for a bundle that was parsed. -/
theorem authorised_of_checks {o : Observation} {bundle : Bundle} (hvalid : bundle.Valid)
    (haction : bundle.evaluation.selection.action = .paperEligible)
    (h : validateAuthoritativePaperFacts bundle o.marketEvent .entryDecision = .ok ()) :
    Authorised o bundle := by
  simp only [validateAuthoritativePaperFacts, bind_ok_iff, haction, if_true, failIf_ok_iff] at h
  obtain ⟨pairs, hpairs, _, hfits, hmodels⟩ := h
  push Not at hfits hmodels
  obtain ⟨hne, hfits, hentry⟩ := hfits
  have hmem : ∀ pair, pair ∈ pairs ↔ CoTriggered bundle pair.candidate pair.evidence :=
    fun pair => mem_selectedAuthoritativePairs_iff hvalid hpairs hne
  have hchecked : ∀ candidate evidence, CoTriggered bundle candidate evidence →
      Checked o bundle candidate evidence := by
    intro candidate evidence hpair
    have hin := (hmem ⟨candidate, evidence⟩).mpr hpair
    have hfit := hfits _ hin
    simp only [triggerFits, ne_eq, Bool.not_eq_false, decide_eq_true_eq, forall_const] at hfit
    exact ⟨hfit.2.1, hfit.2.2.1, hfit.2.2.2, hvalid.directions candidate hpair.candidate_mem,
      exactGeometry_valid hvalid.evaluation hpair.candidate_mem hpair.evidence_mem
        hpair.of_candidate hpair.exact,
      evidence_valid hvalid.evaluation hpair.evidence_mem, by simpa using hmodels _ hin⟩
  obtain ⟨pair, hpair⟩ := List.exists_mem_of_ne_nil pairs hne
  have htriggered := (hmem pair).mp hpair
  obtain ⟨engaged, hengaged, hbefore⟩ := hvalid.engaged haction
  exact
    { triggered := ⟨pair.candidate, pair.evidence, htriggered⟩
      trigger := fun candidate evidence hpair =>
        ⟨(hchecked candidate evidence hpair).epoch, (hchecked candidate evidence hpair).sequence,
          (hchecked candidate evidence hpair).ticks⟩
      entry := hentry trivial
      direction := hvalid.plan.1
      sides := hvalid.plan.2
      engaged := ⟨engaged, hengaged, hbefore _ htriggered.evidence_mem _
        (hchecked _ _ htriggered).epoch⟩
      geometry := fun candidate evidence hpair => (hchecked candidate evidence hpair).geometry }

/-- What the validator promises of a payload that it accepts. -/
structure Observation.Accepted (o : Observation) : Prop where
  role : o.eventRole = if o.exitEvents.length = 0 then .entryDecision else .exitFollowup
  setups : (o.entryBundles.map (·.setup.setupId)).Nodup
  bundles : ∀ bundle ∈ o.entryBundles, bundle.Valid
  exits : validateExitFollowup o.exitEvents o.isRealtime o.marketEvent o.entryBundles = .ok ()
  checks : ∀ bundle ∈ o.entryBundles,
    validateBundle o.isRealtime o.observedAtEpoch o.marketEvent o.eventRole bundle = .ok ()

theorem validateEntryV3Payload_ok {canonicalSha256 : Json → String} {raw : StrictJson}
    {o : Observation} (h : validateEntryV3Payload canonicalSha256 raw = .ok o) : o.Accepted := by
  simp only [validateEntryV3Payload, bind_ok_iff, failIf_ok_iff, pure_ok_iff, not_not,
    forAll_ok_iff] at h
  obtain ⟨_, -, _, -, payload, -, _, -, schemaVersion, -, _, -, _, -, _, -, isRealtime, -, h⟩ := h
  obtain ⟨_, -, _, -, _, -, _, -, _, -, _, -, observedAtEpoch, -, marketEvent, -, _, -, h⟩ := h
  obtain ⟨_, -, exitEvents, -, _, -, entryBundles, hbundles, _, hsetups, _, hexits,
    _, hchecks, h⟩ :=
    h
  rw [← h]
  refine ⟨rfl, hsetups, fun bundle hmem => ?_, hexits, hchecks⟩
  obtain ⟨item, -, hparse⟩ := (mapM_ok hbundles).1 bundle hmem
  exact parseBundle_ok hparse

/-- An accepted entry decision has the authority for every bundle that it makes eligible for a paper
trade. -/
theorem accepted_entry_authorised {canonicalSha256 : Json → String} {raw : StrictJson}
    {o : Observation} (h : validateEntryV3Payload canonicalSha256 raw = .ok o)
    (hrole : o.eventRole = .entryDecision) {bundle : Bundle} (hbundle : bundle ∈ o.entryBundles)
    (haction : bundle.evaluation.selection.action = .paperEligible) : Authorised o bundle := by
  have haccepted := validateEntryV3Payload_ok h
  have hchecks := haccepted.checks bundle hbundle
  rw [hrole] at hchecks
  simp only [validateBundle, then_ok_iff] at hchecks
  exact authorised_of_checks (haccepted.bundles bundle hbundle) haction hchecks.2

/-! ## A payload -/

namespace Sample

/-- The digests of the row identifiers of the events below. -/
def rowId : String → String → String
  | "event-1", "candidate" =>
    "39a9dc0cd55fafad37c1b3e3b8a4e494a60787bd4c15c79742014b178c86f871"
  | "event-1", "evidence" =>
    "3dcd7e65bd63e6ba1bc73a68f6d58b5e3b9a669350105b4754a4471650135d8e"
  | "event-1", "selection" =>
    "dc50ce66b343acb79fdf167c77281d2b8d042636174b6da99dd95a2652589ff8"
  | "event-1", "parity" =>
    "d46836367c5238ae2ec1c81acee8361edcfc249b06591ebe85a0d261f5c85c08"
  | "event-2", "candidate" =>
    "19c9efc72dd899f8512b0e3fdd262ed38ead03042e79fc7481f66d32322b4eab"
  | "event-2", "evidence" =>
    "c351469252079eafb11a6109e38115a8295f04cab042138b2720488e05803f6e"
  | "event-2", "selection" =>
    "bc213247d9a4e49b89b2288cfd15748080ab9003b257f55824edaa3ca377cfbc"
  | "event-2", "parity" =>
    "d9bf820c852e96c2415d197c336fd9840469138099da352a5b0de091309ec510"
  | "event-3", "candidate" =>
    "47ea4626ccb6cd8e51721e1ef952cbbdb8cc9cb375fd64fa9c6ac21dd0bc1405"
  | "event-3", "evidence" =>
    "46f078a8b1e952eea206fe0c22eff47ae56087a7575d7b5fde14dd3553706223"
  | "event-3", "selection" =>
    "d623c2967635cae31b65b0c2a023a26ab6afb45c249e43fcb8c201c38ed355c3"
  | "event-3", "parity" =>
    "1aee9199f903e3aee5241ebc5ef30f209a4ad9561201e75676cb094d2204fb83"
  | "exit-1", "settlement" =>
    "c4c49c13516156c903444e1d0b4521279936f4d5fe3f3698881eafa2fb91184d"
  | "exit-1", "exit-application" =>
    "9fc82d6deca5d9cfb4730f7a2e68ebb8f88f158fb8d31e9ae2bba7080581c8e9"
  | _, _ => ""

/-- The digests of the records below. -/
def sha256 : Json → String
  | .obj (("boc_tier", _) :: _) =>
    "95c7c22f90d75737c0033ee67a9334978400ac725ed4ec4e1b3e800577c8bbd6"
  | .obj (("ambiguity_codes", _) :: _) =>
    "2e4a55c957a38a71729ed3b8dddfe7b2f5ebb944b882e2fad1befeeff27500cf"
  | .obj (("candidate_id", _) :: _) =>
    "1787c9f7d431181f2727b3461d69f5ff43cc331c8f04cd0a279591411338eed5"
  | .obj (("action", .str action) :: _) =>
    if action = "PAPER_ELIGIBLE" then
      "b433d22264e16c64eb0909786f28e8a1423bcf0139fa466fbe461690bb62eeca"
    else "b5522868272384690d53b306697f2773d14011a93b2e6fd938345692f1114def"
  | .obj [("event_id", .str event), ("kind", .str kind), _] =>
    rowId ((JsString.ascii event).getD "") ((JsString.ascii kind).getD "")
  | .obj (("schema_version", _) :: _) =>
    "b0d4d65c06396bca0ffabd26c6751201774d8b0ca629164fb34213d799ed9b93"
  | .obj (("intent_id", _) :: _) =>
    "c26d88de29531ec64cffa00fccecde12d2893d473298117cf6c61f9a7f1b6bb8"
  | _ => "b5522868272384690d53b306697f2773d14011a93b2e6fd938345692f1114def"

def marker : StrictJson := .str "EDGE_DERIVED:DIR_CLOSE"

/-- The texts of `sourceClaimsDirClose`. -/
def closeClaims : List String :=
  ["standard-close-2024-03", "closure-or-flip-2025-03", "directional-close-2025-08",
    "directional-close-required-2026-06", "model-continuation-2026-07"]

def claims : StrictJson := .arr (closeClaims.map .str)

def candidate : StrictJson :=
  .obj [("candidate_id", marker), ("setup_id", .str "setup-1"), ("model", .str "DIR_CLOSE"),
    ("state", .str "MATCHED"), ("direction", .str "LONG"), ("event_anchor_epoch", .int 1700000100),
    ("trigger_ordinal", .int 1), ("boc_tier", .null), ("reference_candle_open_epoch", .null),
    ("source_claim_ids", claims), ("observed_at_epoch", .int 1700000401)]

def evidence : StrictJson :=
  .obj [("evidence_id", marker), ("candidate_id", marker),
    ("observed_trigger_epoch", .int 1700000400), ("trigger_sequence", .int 0),
    ("observed_trigger_ticks", .int 111), ("htf_context_minutes", .arr []),
    ("fidelity", .str "EXACT"), ("proof_plane", .str "CONFIRMED_5M"),
    ("replayability", .str "REPLAYABLE"), ("coverage_start_epoch", .int 1700000100),
    ("coverage_end_epoch", .int 1700000400), ("ambiguity_codes", .arr []), ("boc_tier", .null),
    ("reference_candle_open_epoch", .null), ("reference_candle_open_ticks", .null),
    ("reference_candle_high_ticks", .null), ("reference_candle_low_ticks", .null),
    ("reference_candle_close_ticks", .null), ("htf_open_ticks", .null), ("contact_candle", .null),
    ("recross_candle", .null), ("coverage_gap_detected", .null), ("full_lifecycle_ordered", .null),
    ("destination_seen_before_contact", .null),
    ("passed_rule_ids", .arr [.str "ENTRY_DIR_CLOSE"]), ("failed_rule_ids", .arr []),
    ("source_claim_ids", claims), ("payload_sha256", .str "EDGE_DERIVED"),
    ("observed_at_epoch", .int 1700000401)]

def selection (canonical model fidelity : StrictJson) (reason action : String) : StrictJson :=
  .obj [("selection_id", .str "EDGE_DERIVED"), ("setup_id", .str "setup-1"),
    ("policy_version", .str policyVersionV3), ("revision", .int 0),
    ("candidate_ids_considered", .arr [marker]), ("canonical_candidate_id", canonical),
    ("canonical_evidence_id", canonical), ("canonical_model", model), ("reason", .str reason),
    ("fidelity", fidelity), ("action", .str action), ("co_triggered_models", .arr []),
    ("evaluated_at_epoch", .int 1700000401)]

def setup (fidelity cohort : String) (oneCandleEnabled : Bool) : StrictJson :=
  .obj [("setup_id", .str "setup-1"), ("direction", .str "LONG"), ("zone_top_ticks", .int 105),
    ("zone_bottom_ticks", .int 95), ("zone_engaged_epoch", .int 1699999800),
    ("invalidated_before_entry", .bool false), ("common_fidelity", .str fidelity),
    ("common_rule_results", .arr (requiredCommonRuleIds.map fun ruleId =>
      .obj [("rule_id", .str ruleId), ("passed", .bool true)])),
    ("liquidity_cohort", .str cohort), ("one_candle_enabled", .bool oneCandleEnabled)]

def tradePlan (target : Int) : StrictJson :=
  .obj [("direction", .str "LONG"), ("entry_ticks", .int 111), ("stop_ticks", .int 90),
    ("target_ticks", .int target)]

/-- The setup with two candles, which is eligible, with a target. -/
def eligible (target : Int) : StrictJson :=
  .obj [("setup", setup "EXACT" "TWO_PLUS_CANDLES" false), ("candidates", .arr [candidate]),
    ("evidence", .arr [evidence]),
    ("selection_proposal",
      selection marker (.str "DIR_CLOSE") (.str "EXACT") "ONLY_EXACT_TRIGGER" "PAPER_ELIGIBLE"),
    ("trade_plan", tradePlan target)]

def candle (openEpoch openTicks high low close : Int) : StrictJson :=
  .obj [("open_epoch", .int openEpoch), ("close_epoch", .int (openEpoch + 300)),
    ("open_ticks", .int openTicks), ("high_ticks", .int high), ("low_ticks", .int low),
    ("close_ticks", .int close)]

/-- A payload at the close of a bar. -/
def payload (eventId : String) (sequence openEpoch openTicks high low close : Int)
    (exitEvents setups : List StrictJson) : StrictJson :=
  .obj [("schema_version", .str "3.1"), ("strategy_id", .str "rd_liquidity_sd_5m_v1"),
    ("strategy_version", .str "3.1.0-contract3"), ("rule_contract_version", .str "3.1.0"),
    ("execution_mode", .str "PAPER_ONLY"), ("producer_instance_id", .str "producer-1"),
    ("producer_sequence", .int sequence), ("event_id", .str eventId), ("is_realtime", .bool false),
    ("symbol", .str "EURUSD"), ("ticker_id", .str "FX:EURUSD"), ("feed", .str "FX"),
    ("timeframe", .str "5"), ("tick_size", .str "0.0001"),
    ("detector_code_hash",
      .str "cccccccccccccccccccccccccccccccccccccccccccccccccccccccccccccccc"),
    ("settings_hash", .str "dddddddddddddddddddddddddddddddddddddddddddddddddddddddddddddddd"),
    ("observed_at_epoch", .int (openEpoch + 301)),
    ("market_event", .obj [("epoch", .int (openEpoch + 300)), ("sequence", .int 0),
      ("tick_price_ticks", .int close), ("barstate_isconfirmed", .bool true),
      ("confirmed_bar", candle openEpoch openTicks high low close)]),
    ("exit_events", .arr exitEvents), ("setups", .arr setups)]

/-- A bar that closes above the zone. -/
def entry (target : Int) : StrictJson :=
  payload "event-1" 1 1700000100 100 112 99 111 [] [eligible target]

/-- The same setup with one candle, which may only be shadowed. -/
def experimental : StrictJson :=
  .obj [("setup", setup "CALIBRATED" "ONE_CANDLE" true), ("candidates", .arr [candidate]),
    ("evidence", .arr [evidence]),
    ("selection_proposal",
      selection .null .null .null "ONE_CANDLE_EXPERIMENT_NOT_PROMOTED" "SHADOW_ONLY"),
    ("trade_plan", tradePlan 153)]

/-- The stop of the setup, reached within a bar. -/
def stopped (openEpoch : Int) : StrictJson :=
  .obj [("event_id", .str "exit-1"), ("setup_id", .str "setup-1"),
    ("exit_reason", .str "STOP_LOSS"), ("epoch", .int (openEpoch + 300)), ("sequence", .int 0),
    ("price_ticks", .int 91)]

/-! The records that the validator makes of these payloads. -/

def candidateRecord : EntryCandidateV3 :=
  { setupId := "setup-1", model := .dirClose, direction := .long, eventAnchorEpoch := 1700000100
    triggerOrdinal := 1, bocTier := none, referenceCandleOpenEpoch := none
    candidateId := "95c7c22f90d75737c0033ee67a9334978400ac725ed4ec4e1b3e800577c8bbd6"
    state := .matched, sourceClaimIds := sourceClaimsDirClose, observedAtEpoch := 1700000401 }

def evidenceRecord : EntryCandidateEvidenceV3 :=
  { candidateId := candidateRecord.candidateId, observedTriggerEpoch := some 1700000400
    triggerSequence := 0, observedTriggerTicks := some 111, htfContextMinutes := []
    fidelity := .exact, proofPlane := .confirmed5m, replayability := .replayable
    coverageStartEpoch := 1700000100, coverageEndEpoch := 1700000400, ambiguityCodes := []
    bocTier := none, referenceCandleOpenEpoch := none, referenceCandleOpenTicks := none
    referenceCandleHighTicks := none, referenceCandleLowTicks := none
    referenceCandleCloseTicks := none, htfOpenTicks := none, contactCandle := none
    recrossCandle := none, coverageGapDetected := none, fullLifecycleOrdered := none
    destinationSeenBeforeContact := none, passedRuleIds := ["ENTRY_DIR_CLOSE"]
    failedRuleIds := [], sourceClaimIds := sourceClaimsDirClose
    evidenceId := "1787c9f7d431181f2727b3461d69f5ff43cc331c8f04cd0a279591411338eed5"
    payloadSha256 := "2e4a55c957a38a71729ed3b8dddfe7b2f5ebb944b882e2fad1befeeff27500cf"
    observedAtEpoch := 1700000401 }

def eligibleSelection : EntrySelectionV3 :=
  { setupId := "setup-1", policyVersion := policyVersionV3, revision := 0
    candidateIdsConsidered := [candidateRecord.candidateId]
    canonicalCandidateId := some candidateRecord.candidateId
    canonicalEvidenceId := some evidenceRecord.evidenceId, reason := .onlyExactTrigger
    fidelity := some .exact, action := .paperEligible, coTriggeredModels := []
    selectionId := "b433d22264e16c64eb0909786f28e8a1423bcf0139fa466fbe461690bb62eeca"
    canonicalModel := some .dirClose, evaluatedAtEpoch := 1700000401 }

def shadowSelection : EntrySelectionV3 :=
  { setupId := "setup-1", policyVersion := policyVersionV3, revision := 0
    candidateIdsConsidered := [candidateRecord.candidateId], canonicalCandidateId := none
    canonicalEvidenceId := none, reason := .noExactCandidate, fidelity := none
    action := .shadowOnly, coTriggeredModels := []
    selectionId := "b5522868272384690d53b306697f2773d14011a93b2e6fd938345692f1114def"
    canonicalModel := none, evaluatedAtEpoch := 1700000401 }

def bundle (commonFidelity : CandidateFidelityV3) (liquidityCohort : LiquidityCohortV3)
    (oneCandleEnabled : Bool) (selection : EntrySelectionV3) : Bundle :=
  { setup :=
      { setupId := "setup-1", direction := .long, zoneTopTicks := 105, zoneBottomTicks := 95
        zoneEngagedEpoch := some 1699999800, invalidatedBeforeEntry := false, commonFidelity
        liquidityCohort, oneCandleEnabled }
    commonRuleResults := requiredCommonRuleIds.map (⟨·, true⟩)
    evaluation := ⟨[candidateRecord], [evidenceRecord], selection⟩
    tradePlan := ⟨.long, 111, 90, 153⟩ }

def eligibleBundle : Bundle := bundle .exact .twoPlusCandles false eligibleSelection

def experimentalBundle : Bundle := bundle .calibrated .oneCandle true shadowSelection

def observation (eventId : String) (producerSequence openEpoch openTicks high low close : Int)
    (exitEvents : List ExitEvent) (bundle : Bundle) : Observation :=
  { metadata :=
      { idempotencyKey := eventId, schemaVersion := "3.1", strategyId := "rd_liquidity_sd_5m_v1"
        strategyVersion := "3.1.0-contract3", producerInstanceId := "producer-1"
        sequence := producerSequence, symbol := "EURUSD", tickerId := "FX:EURUSD", feed := "FX"
        timeframe := "5", kind := .incremental }
    eventRole := if exitEvents.length = 0 then .entryDecision else .exitFollowup
    producerSequence
    eventId
    isRealtime := false
    detectorCodeHash := "cccccccccccccccccccccccccccccccccccccccccccccccccccccccccccccccc"
    settingsHash := "dddddddddddddddddddddddddddddddddddddddddddddddddddddddddddddddd"
    tickSize := "0.0001"
    observedAtEpoch := openEpoch + 301
    marketEvent :=
      { epoch := openEpoch + 300, sequence := 0, tickPriceTicks := close
        barstateIsConfirmed := true
        confirmedBar := some ⟨openEpoch, openEpoch + 300, openTicks, high, low, close⟩ }
    exitEvents
    entryBundles := [bundle] }

/-- The entry decision, eligible for a paper trade. -/
def entryObservation : Observation :=
  observation "event-1" 1 1700000100 100 112 99 111 [] eligibleBundle

/-- The experiment with one candle. -/
def experimentObservation : Observation :=
  observation "event-2" 2 1700000100 100 112 99 111 [] experimentalBundle

/-- A later bar that reaches the stop. -/
def exitObservation (openEpoch : Int) : Observation :=
  observation "event-3" 3 openEpoch 111 112 89 91
    [⟨"exit-1", "setup-1", .stopLoss, openEpoch + 300, 0, 91⟩] eligibleBundle

/-! The validator accepts these payloads. What they share is checked once. -/

/-- The fields of a bundle with these records. -/
def bundleFields (setupValue selectionValue : StrictJson) : Fields :=
  [("setup", setupValue), ("candidates", .arr [candidate]), ("evidence", .arr [evidence]),
    ("selection_proposal", selectionValue), ("trade_plan", tradePlan 153)]

theorem commonRules_ok : parseCommonRules (some (.arr (requiredCommonRuleIds.map fun ruleId =>
    .obj [("rule_id", .str ruleId), ("passed", .bool true)]))) =
    .ok (requiredCommonRuleIds.map (⟨·, true⟩)) := by
  have hidentifiers :
      ∀ ruleId ∈ requiredCommonRuleIds, identifier (some (.str ruleId)) = .ok ruleId := by
    simp only [requiredCommonRuleIds, List.forall_mem_cons]
    refine ⟨?_, ?_, ?_, ?_, ?_, ?_, ?_, ?_, ?_, ?_, ?_, ?_, ?_, ?_, fun _ h => nomatch h⟩
    all_goals exact identifier_ofList (by decide) (by decide) (by decide)
  refine bind_ok_iff.2 ⟨_, rfl, bind_ok_iff.2 ⟨requiredCommonRuleIds.map (⟨·, true⟩), ?_, ?_⟩⟩
  · rw [eachItem, List.mapM_map]
    apply mapM_eq_ok
    intro ruleId hmem
    refine bind_ok_iff.2 ⟨_, rfl, then_ok_iff.2 ⟨?_, bind_ok_iff.2 ⟨ruleId, ?_, rfl⟩⟩⟩
    · rw [exactKeys, failIf_ok_iff, not_not]
      rfl
    · exact hidentifiers ruleId hmem
  · refine then_ok_iff.2 ⟨failIf_ok_iff.2 (not_not.2 ?_), rfl⟩
    rw [List.map_map]
    rfl

theorem setup_ok {fidelity cohort : String} {enabled : Bool} {facts : SetupEntryFactsV3}
    (hfacts : facts = { facts with
      setupId := "setup-1", direction := .long, zoneTopTicks := 105, zoneBottomTicks := 95
      zoneEngagedEpoch := some 1699999800, invalidatedBeforeEntry := false
      oneCandleEnabled := enabled })
    (hfidelity : named CandidateFidelityV3.name fidelities (some (.str fidelity)) =
      .ok facts.commonFidelity)
    (hcohort : named cohortName cohorts (some (.str cohort)) = .ok facts.liquidityCohort)
    (hvalid : validateLiquidityCohortV3 facts = .ok ())
    (hrules : validateCommonRules .v31 facts (requiredCommonRuleIds.map (⟨·, true⟩)) false =
      .ok ()) :
    parseSetup false .v31 (some (setup fidelity cohort enabled)) =
      .ok (facts, requiredCommonRuleIds.map (⟨·, true⟩)) := by
  have hsetupId : identifier (some (.str "setup-1")) = .ok "setup-1" :=
    identifier_ofList (by decide) (by decide) (by decide)
  have hlong : named EntryDirectionV3.name directions (some (.str "LONG")) = .ok .long := rfl
  refine bind_ok_iff.2 ⟨_, rfl, then_ok_iff.2 ⟨?_, bind_ok_iff.2 ⟨_, hsetupId, ?_⟩⟩⟩
  · rw [exactKeys, failIf_ok_iff, not_not]
    rfl
  refine bind_ok_iff.2 ⟨105, rfl, bind_ok_iff.2 ⟨95, rfl, bind_ok_iff.2 ⟨some 1699999800, rfl, ?_⟩⟩⟩
  refine bind_ok_iff.2 ⟨false, rfl, bind_ok_iff.2 ⟨enabled, rfl, bind_ok_iff.2 ⟨.long, hlong, ?_⟩⟩⟩
  refine then_ok_iff.2 ⟨rfl, bind_ok_iff.2 ⟨_, hfidelity, bind_ok_iff.2 ⟨_, hcohort, ?_⟩⟩⟩
  rw [hfacts] at hvalid hrules ⊢
  exact then_ok_iff.2 ⟨caught_ok_iff.2 hvalid,
    bind_ok_iff.2 ⟨_, commonRules_ok, then_ok_iff.2 ⟨hrules, rfl⟩⟩⟩

theorem marker_model : edgeDerivedModel (some marker) = .ok .dirClose :=
  bind_ok_iff.2 ⟨_, text_ofList (by decide) (by decide) (by decide), rfl⟩

theorem claims_ok : stringValues 32 (some claims) = .ok closeClaims := by
  have hidentifiers : ∀ claim ∈ closeClaims, identifier (some (.str claim)) = .ok claim := by
    simp only [closeClaims, List.forall_mem_cons]
    refine ⟨?_, ?_, ?_, ?_, ?_, fun _ h => nomatch h⟩
    all_goals exact identifier_ofList (by decide) (by decide) (by decide)
  refine bind_ok_iff.2 ⟨_, rfl, bind_ok_iff.2 ⟨closeClaims, ?_, then_ok_iff.2 ⟨?_, rfl⟩⟩⟩
  · rw [eachItem, List.mapM_map]
    exact (mapM_eq_ok hidentifiers).trans (by rw [List.map_id'])
  · rw [failIf_ok_iff]
    simp [closeClaims]

theorem candidateRecord_valid {candidateId : String}
    (h : Entry.digest candidateId "candidate_id" = .ok ()) :
    validateEntryCandidateV3 { candidateRecord with candidateId } = .ok () := by
  refine then_ok_iff.2 ⟨h, then_ok_iff.2 ⟨failIf_ok_iff.2 (by simp [candidateRecord]), ?_⟩⟩
  refine then_ok_iff.2 ⟨rfl, then_ok_iff.2 ⟨rfl, then_ok_iff.2 ⟨rfl, then_ok_iff.2 ⟨rfl, ?_⟩⟩⟩⟩
  refine then_ok_iff.2 ⟨rfl, failIf_ok_iff.2 ?_⟩
  simp [candidateRecord, sourceClaimsDirClose]

theorem evidenceRecord_valid {evidenceId payloadSha256 : String}
    (hid : Entry.digest evidenceId "evidence_id" = .ok ())
    (hpayload : Entry.digest payloadSha256 "payload_sha256" = .ok ()) :
    validateEntryEvidenceV3 { evidenceRecord with evidenceId, payloadSha256 } = .ok () := by
  refine then_ok_iff.2 ⟨hid, then_ok_iff.2 ⟨?_, then_ok_iff.2 ⟨hpayload, ?_⟩⟩⟩
  · exact Entry.digest_ofList (by decide) (by decide) (by decide)
  · rfl

theorem stringValues_singleton {value : String}
    (h : identifier (some (.str value)) = .ok value) :
    stringValues 32 (some (.arr [.str value])) = .ok [value] := by
  refine bind_ok_iff.2 ⟨_, rfl, bind_ok_iff.2 ⟨[value], ?_, then_ok_iff.2 ⟨?_, rfl⟩⟩⟩
  · rw [eachItem, List.mapM_cons, h]
    rfl
  · exact failIf_ok_iff.2 (by simp)

theorem candidate_ok :
    parseEdgeDerivedCandidate sha256 (some candidate) = .ok candidateRecord := by
  have hprovisional : parseCandidate (some (.obj (override
      (fieldsOf (some candidate)) "candidate_id" (.str provisionalId)))) =
        .ok { candidateRecord with candidateId := provisionalId } := by
    refine bind_ok_iff.2 ⟨_, rfl, then_ok_iff.2 ⟨?_, bind_ok_iff.2 ⟨provisionalId, ?_, ?_⟩⟩⟩
    · rw [exactKeys, failIf_ok_iff, not_not]
      rfl
    · exact digest_ofList (by decide) (by decide) (by decide)
    refine bind_ok_iff.2 ⟨"setup-1", identifier_ofList (by decide) (by decide) (by decide), ?_⟩
    refine bind_ok_iff.2 ⟨_, rfl, bind_ok_iff.2 ⟨_, rfl, bind_ok_iff.2 ⟨_, rfl, ?_⟩⟩⟩
    refine bind_ok_iff.2 ⟨_, claims_ok, bind_ok_iff.2 ⟨_, rfl, bind_ok_iff.2 ⟨_, rfl, ?_⟩⟩⟩
    refine bind_ok_iff.2 ⟨_, rfl, bind_ok_iff.2 ⟨_, rfl, bind_ok_iff.2 ⟨_, rfl, ?_⟩⟩⟩
    refine then_ok_iff.2 ⟨caught_ok_iff.2 (candidateRecord_valid ?_), rfl⟩
    exact Entry.digest_ofList (by decide) (by decide) (by decide)
  refine bind_ok_iff.2 ⟨_, rfl, then_ok_iff.2 ⟨?_, bind_ok_iff.2 ⟨_, marker_model, ?_⟩⟩⟩
  · rw [exactKeys, failIf_ok_iff, not_not]
    rfl
  · exact bind_ok_iff.2 ⟨_, hprovisional, then_ok_iff.2 ⟨rfl, rfl⟩⟩

theorem evidence_ok :
    parseEdgeDerivedEvidence sha256 [candidateRecord] (some evidence) = .ok evidenceRecord := by
  have hprovisional : parseEvidence (some (.obj (override (override (override
      (fieldsOf (some evidence)) "evidence_id" (.str provisionalId)) "candidate_id"
        (.str candidateRecord.candidateId)) "payload_sha256" (.str provisionalPayload)))) =
      .ok { evidenceRecord with
        evidenceId := provisionalId, payloadSha256 := provisionalPayload } := by
    refine bind_ok_iff.2 ⟨_, rfl, then_ok_iff.2 ⟨?_, bind_ok_iff.2 ⟨provisionalId, ?_, ?_⟩⟩⟩
    · rw [exactKeys, failIf_ok_iff, not_not]
      rfl
    · exact digest_ofList (by decide) (by decide) (by decide)
    refine bind_ok_iff.2 ⟨candidateRecord.candidateId, ?_, bind_ok_iff.2 ⟨_, rfl, ?_⟩⟩
    · exact digest_ofList (by decide) (by decide) (by decide)
    refine bind_ok_iff.2 ⟨_, rfl, bind_ok_iff.2 ⟨_, rfl, bind_ok_iff.2 ⟨_, rfl, ?_⟩⟩⟩
    refine bind_ok_iff.2 ⟨_, rfl, bind_ok_iff.2 ⟨_, rfl, bind_ok_iff.2 ⟨_, rfl, ?_⟩⟩⟩
    refine bind_ok_iff.2 ⟨[], rfl, bind_ok_iff.2 ⟨_, rfl, bind_ok_iff.2 ⟨_, rfl, ?_⟩⟩⟩
    refine bind_ok_iff.2 ⟨_, rfl, bind_ok_iff.2 ⟨_, rfl, bind_ok_iff.2 ⟨_, rfl, ?_⟩⟩⟩
    refine bind_ok_iff.2 ⟨_, rfl, bind_ok_iff.2 ⟨_, rfl, bind_ok_iff.2 ⟨_, rfl, ?_⟩⟩⟩
    refine bind_ok_iff.2 ⟨_, rfl, bind_ok_iff.2 ⟨_, rfl, bind_ok_iff.2 ⟨_, rfl, ?_⟩⟩⟩
    refine bind_ok_iff.2 ⟨["ENTRY_DIR_CLOSE"], ?_, bind_ok_iff.2 ⟨[], rfl, ?_⟩⟩
    · exact stringValues_singleton (identifier_ofList (by decide) (by decide) (by decide))
    refine bind_ok_iff.2 ⟨_, claims_ok, bind_ok_iff.2 ⟨provisionalPayload, ?_, ?_⟩⟩
    · exact digest_ofList (by decide) (by decide) (by decide)
    refine bind_ok_iff.2 ⟨_, rfl, bind_ok_iff.2 ⟨_, rfl, bind_ok_iff.2 ⟨_, rfl, ?_⟩⟩⟩
    refine bind_ok_iff.2 ⟨_, rfl, bind_ok_iff.2 ⟨[], rfl, bind_ok_iff.2 ⟨_, rfl, ?_⟩⟩⟩
    refine then_ok_iff.2 ⟨caught_ok_iff.2 (evidenceRecord_valid ?_ ?_), rfl⟩
    · exact Entry.digest_ofList (by decide) (by decide) (by decide)
    · exact Entry.digest_ofList (by decide) (by decide) (by decide)
  refine bind_ok_iff.2 ⟨_, rfl, then_ok_iff.2 ⟨?_, ?_⟩⟩
  · rw [exactKeys, failIf_ok_iff, not_not]
    rfl
  refine bind_ok_iff.2 ⟨_, marker_model, bind_ok_iff.2 ⟨_, marker_model, then_ok_iff.2 ⟨rfl, ?_⟩⟩⟩
  exact bind_ok_iff.2 ⟨_, hprovisional, rfl⟩

theorem records_ok (setupValue selectionValue : StrictJson) :
    parseRecords sha256 true (bundleFields setupValue selectionValue) =
      .ok ([candidateRecord], [evidenceRecord]) := by
  have hcandidates :
      (bundleFields setupValue selectionValue).lookup "candidates" = some (.arr [candidate]) := rfl
  have hevidence :
      (bundleFields setupValue selectionValue).lookup "evidence" = some (.arr [evidence]) := rfl
  rw [parseRecords, hcandidates, hevidence]
  refine bind_ok_iff.2 ⟨[candidate], rfl, bind_ok_iff.2 ⟨[candidateRecord], ?_, ?_⟩⟩
  · rw [if_pos rfl, eachItem, List.mapM_cons, candidate_ok]
    rfl
  · refine bind_ok_iff.2 ⟨[evidence], rfl, bind_ok_iff.2 ⟨[evidenceRecord], ?_, rfl⟩⟩
    rw [if_pos rfl, eachItem, List.mapM_cons, evidence_ok]
    rfl

theorem bundle_edgeDerived (setupValue selectionValue : StrictJson) :
    bundleUsesEdgeDerivedIdentity (bundleFields setupValue selectionValue) = true := by
  have hcandidates :
      (bundleFields setupValue selectionValue).lookup "candidates" = some (.arr [candidate]) := rfl
  have hmarked : (itemsOf (some (.arr [candidate]))).any (fun item =>
      isEdgeDerivedMarker ((fieldsOf (some item)).lookup "candidate_id")) = true := by
    rfl
  rw [bundleUsesEdgeDerivedIdentity, hcandidates, hmarked]
  rfl

theorem evaluation_valid {selected : EntrySelectionV3}
    (hshape : validateSelectionShapeV3 selected = .ok ())
    (hevaluated : selected.evaluatedAtEpoch = 1700000401)
    (hconsidered : selected.candidateIdsConsidered = [candidateRecord.candidateId])
    (hcanonical : ∀ id, selected.canonicalCandidateId = some id →
      validateCanonicalV3 ⟨[candidateRecord], [evidenceRecord], selected⟩ id = .ok ()) :
    validateEntryEvaluationV3 ⟨[candidateRecord], [evidenceRecord], selected⟩ = .ok () := by
  have hcandidate : validateEntryCandidateV3 candidateRecord = .ok () :=
    candidateRecord_valid (Entry.digest_ofList (by decide) (by decide) (by decide))
  have hevidence : validateEntryEvidenceV3 evidenceRecord = .ok () :=
    evidenceRecord_valid (Entry.digest_ofList (by decide) (by decide) (by decide))
      (Entry.digest_ofList (by decide) (by decide) (by decide))
  have hof : validateEvidenceOfCandidateV3 [candidateRecord] evidenceRecord = .ok () := rfl
  refine then_ok_iff.2 ⟨?_, then_ok_iff.2 ⟨?_, then_ok_iff.2 ⟨hshape, then_ok_iff.2 ⟨?_, ?_⟩⟩⟩⟩
  · rw [forAll_ok_iff, List.forall_mem_singleton]
    exact hcandidate
  · rw [forAll_ok_iff, List.forall_mem_singleton]
    exact hevidence
  · rw [failIf_ok_iff]
    simp [hevaluated, candidateRecord, evidenceRecord]
  refine then_ok_iff.2 ⟨?_, then_ok_iff.2 ⟨?_, then_ok_iff.2 ⟨?_, whenSome_ok_iff.2 hcanonical⟩⟩⟩
  · rw [failIf_ok_iff, hconsidered]
    simp [SortBy.sortBy]
  · rw [forAll_ok_iff, List.forall_mem_singleton, failIf_ok_iff, not_not]
    rfl
  · rw [forAll_ok_iff, List.forall_mem_singleton]
    exact hof

theorem digests_ok {selected : EntrySelectionV3}
    (h : selectionIdV3 sha256 selected.toSelectionIdentityV3 = selected.selectionId) :
    verifyCanonicalDigests sha256 ⟨[candidateRecord], [evidenceRecord], selected⟩ = .ok () := by
  refine then_ok_iff.2 ⟨forAll_ok_iff.2 ?_, then_ok_iff.2 ⟨forAll_ok_iff.2 ?_, ?_⟩⟩
  · rw [List.forall_mem_singleton, failIf_ok_iff, not_not]
    rfl
  · rw [List.forall_mem_singleton, failIf_ok_iff]
    rintro (hpayload | hid)
    · exact hpayload rfl
    · exact hid rfl
  · exact failIf_ok_iff.2 (not_not.2 h)

/-- A bundle with these records is accepted when its setup and its selection are. -/
theorem bundle_ok {setupValue selectionValue : StrictJson} {facts : SetupEntryFactsV3}
    {rules : List CommonRuleResult} {selected : EntrySelectionV3} {proposal : Fields}
    {truthful : Bool}
    (hsetup : parseSetup false .v31 (some setupValue) = .ok (facts, rules))
    (hsetupId : facts.setupId = "setup-1") (hdirection : facts.direction = .long)
    (hseed : parseEdgeDerivedSelectionSeed [.dirClose] (some selectionValue) =
      .ok ⟨"setup-1", 0, 1700000401⟩)
    (hselected : arbitrateEntryCandidatesV3 sha256 "setup-1" [candidateRecord] [evidenceRecord]
      facts.invalidatedBeforeEntry 0 1700000401 none facts.liquidityCohort = .ok selected)
    (hproposal : object (some selectionValue) = .ok proposal)
    (htruthful : truthfulOneCandleTerminal proposal = .ok truthful)
    (hcohort : ¬(facts.liquidityCohort = .oneCandle ∧ truthful = false))
    (hvalid : validateEntryEvaluationV3 ⟨[candidateRecord], [evidenceRecord], selected⟩ = .ok ())
    (hdigest : selectionIdV3 sha256 selected.toSelectionIdentityV3 = selected.selectionId)
    (heligible : ¬(selected.action = .paperEligible ∧ (facts.commonFidelity ≠ .exact ∨
      facts.invalidatedBeforeEntry = true ∨ facts.zoneEngagedEpoch = none ∨
        ∃ item ∈ [evidenceRecord], ∃ trigger ∈ item.observedTriggerEpoch,
          ∃ engaged ∈ facts.zoneEngagedEpoch, trigger < engaged))) :
    parseBundle sha256 false .v31 (some (.obj (bundleFields setupValue selectionValue))) =
      .ok ⟨facts, rules, ⟨[candidateRecord], [evidenceRecord], selected⟩,
      ⟨.long, 111, 90, 153⟩⟩ := by
  have hplan : parseTradePlan .long (some (tradePlan 153)) = .ok ⟨.long, 111, 90, 153⟩ := rfl
  have hlookupSetup :
      (bundleFields setupValue selectionValue).lookup "setup" = some setupValue := rfl
  have hlookupSelection : (bundleFields setupValue selectionValue).lookup "selection_proposal" =
      some selectionValue := rfl
  have hlookupPlan :
      (bundleFields setupValue selectionValue).lookup "trade_plan" = some (tradePlan 153) := rfl
  refine bind_ok_iff.2 ⟨bundleFields setupValue selectionValue, rfl, ?_⟩
  rw [hlookupSetup, hlookupSelection, hlookupPlan]
  refine then_ok_iff.2 ⟨?_, bind_ok_iff.2 ⟨(facts, rules), hsetup, ?_⟩⟩
  · rw [exactKeys, failIf_ok_iff, not_not]
    rfl
  rw [bundle_edgeDerived]
  refine bind_ok_iff.2 ⟨_, records_ok setupValue selectionValue, then_ok_iff.2 ⟨?_, ?_⟩⟩
  · rw [failIf_ok_iff]
    simp [hsetupId, hdirection, candidateRecord]
  refine bind_ok_iff.2 ⟨(⟨"setup-1", 0, 1700000401⟩, none), ?_, ?_⟩
  · rw [parseSeed, if_pos rfl, hlookupSelection]
    exact bind_ok_iff.2 ⟨_, hseed, rfl⟩
  dsimp only
  rw [hsetupId, hdirection]
  refine then_ok_iff.2 ⟨failIf_ok_iff.2 (not_not.2 rfl), bind_ok_iff.2 ⟨_, hselected, ?_⟩⟩
  refine bind_ok_iff.2 ⟨_, hproposal, bind_ok_iff.2 ⟨_, htruthful, then_ok_iff.2 ⟨?_, ?_⟩⟩⟩
  · exact failIf_ok_iff.2 hcohort
  refine then_ok_iff.2 ⟨failIf_ok_iff.2 (by simp), then_ok_iff.2 ⟨rfl, then_ok_iff.2 ⟨?_, ?_⟩⟩⟩
  · exact caught_ok_iff.2 hvalid
  · exact then_ok_iff.2 ⟨digests_ok hdigest, then_ok_iff.2 ⟨failIf_ok_iff.2 heligible,
      bind_ok_iff.2 ⟨_, hplan, rfl⟩⟩⟩

theorem eligible_ok : parseBundle sha256 false .v31 (some (eligible 153)) = .ok eligibleBundle := by
  have hsetup : parseSetup false .v31 (some (setup "EXACT" "TWO_PLUS_CANDLES" false)) =
      .ok (eligibleBundle.setup, eligibleBundle.commonRuleResults) :=
    setup_ok rfl rfl rfl rfl rfl
  have hselected : arbitrateEntryCandidatesV3 sha256 "setup-1" [candidateRecord] [evidenceRecord]
      false 0 1700000401 none .twoPlusCandles = .ok eligibleSelection := rfl
  have hcandidate : Entry.digest candidateRecord.candidateId "canonical_candidate_id" = .ok () :=
    Entry.digest_ofList (by decide) (by decide) (by decide)
  have hevidence : Entry.digest evidenceRecord.evidenceId "canonical_evidence_id" = .ok () :=
    Entry.digest_ofList (by decide) (by decide) (by decide)
  have hshape : validateSelectionShapeV3 eligibleSelection = .ok () := by
    refine then_ok_iff.2 ⟨Entry.digest_ofList (by decide) (by decide) (by decide), ?_⟩
    refine then_ok_iff.2 ⟨failIf_ok_iff.2 (by simp [eligibleSelection]), then_ok_iff.2 ⟨rfl, ?_⟩⟩
    refine then_ok_iff.2 ⟨rfl, then_ok_iff.2 ⟨rfl, then_ok_iff.2 ⟨failIf_ok_iff.2 ?_, ?_⟩⟩⟩
    · simp [eligibleSelection, SortBy.sortBy]
    refine then_ok_iff.2 ⟨rfl, then_ok_iff.2 ⟨hcandidate, then_ok_iff.2 ⟨hevidence, ?_⟩⟩⟩
    rfl
  have hcanonical : validateCanonicalV3 eligibleBundle.evaluation candidateRecord.candidateId =
      .ok () := rfl
  refine bundle_ok hsetup rfl rfl rfl hselected rfl rfl (by decide)
    (evaluation_valid hshape rfl rfl ?_) rfl (by decide)
  rintro id ⟨⟩
  exact hcanonical

theorem experimental_ok :
    parseBundle sha256 false .v31 (some experimental) = .ok experimentalBundle := by
  have hsetup : parseSetup false .v31 (some (setup "CALIBRATED" "ONE_CANDLE" true)) =
      .ok (experimentalBundle.setup, experimentalBundle.commonRuleResults) :=
    setup_ok rfl rfl rfl rfl rfl
  have hselected : arbitrateEntryCandidatesV3 sha256 "setup-1" [candidateRecord] [evidenceRecord]
      false 0 1700000401 none .oneCandle = .ok shadowSelection := rfl
  have hshape : validateSelectionShapeV3 shadowSelection = .ok () := by
    refine then_ok_iff.2 ⟨?_, rfl⟩
    exact Entry.digest_ofList (by decide) (by decide) (by decide)
  have htruthful : truthfulOneCandleTerminal (fieldsOf (some (selection .null .null .null
      "ONE_CANDLE_EXPERIMENT_NOT_PROMOTED" "SHADOW_ONLY"))) = .ok true := rfl
  exact bundle_ok hsetup rfl rfl rfl hselected rfl htruthful (by decide)
    (evaluation_valid hshape rfl rfl nofun) rfl (by decide)

theorem parseVersions_v31 {fields : Fields}
    (hschema : fields.lookup "schema_version" = some (.str "3.1"))
    (hstrategy : fields.lookup "strategy_version" = some (.str "3.1.0-contract3"))
    (hcontract : fields.lookup "rule_contract_version" = some (.str "3.1.0"))
    (hid : fields.lookup "strategy_id" = some (.str "rd_liquidity_sd_5m_v1"))
    (hmode : fields.lookup "execution_mode" = some (.str "PAPER_ONLY"))
    (htimeframe : fields.lookup "timeframe" = some (.str "5")) :
    parseVersions fields = .ok .v31 := by
  simp only [parseVersions, hschema, hstrategy, hcontract, hid, hmode, htimeframe]
  rfl

theorem hashes_ok {fields : Fields}
    (hdetector : fields.lookup "detector_code_hash" =
      some (.str "cccccccccccccccccccccccccccccccccccccccccccccccccccccccccccccccc"))
    (hsettings : fields.lookup "settings_hash" =
      some (.str "dddddddddddddddddddddddddddddddddddddddddddddddddddddddddddddddd")) :
    parseHashes fields = .ok (false,
      "cccccccccccccccccccccccccccccccccccccccccccccccccccccccccccccccc",
      "dddddddddddddddddddddddddddddddddddddddddddddddddddddddddddddddd") := by
  have hdetectorText : isText (fields.lookup "detector_code_hash") "UNREVIEWED" = false := by
    rw [hdetector, isText]
    exact decide_eq_false (by simp)
  have hsettingsText : isText (fields.lookup "settings_hash") "UNREVIEWED" = false := by
    rw [hsettings, isText]
    exact decide_eq_false (by simp)
  rw [parseHashes, hdetectorText, hsettingsText, hdetector, hsettings]
  refine then_ok_iff.2 ⟨failIf_ok_iff.2 (by simp), ?_⟩
  rw [if_neg (by simp)]
  refine bind_ok_iff.2 ⟨_, ?_, bind_ok_iff.2 ⟨_, ?_, rfl⟩⟩
  · exact digest_ofList (by decide) (by decide) (by decide)
  · exact digest_ofList (by decide) (by decide) (by decide)

/-- A payload is accepted when its bundle, its market event and its exits are. -/
theorem payload_ok {eventId : String} {sequence openEpoch openTicks high low close : Int}
    {exitEvents : List StrictJson} {events : List ExitEvent} {setupValue : StrictJson}
    {bundle : Bundle} {marketEvent : MarketEvent}
    (hplain : (payload eventId sequence openEpoch openTicks high low close exitEvents
      [setupValue]).plain = true)
    (hlength : (payload eventId sequence openEpoch openTicks high low close exitEvents
      [setupValue]).serializedLength < maxPayloadCharacters)
    (hevent : identifier (some (.str eventId)) = .ok eventId)
    (hsequence : integer 0 (some (.int sequence)) = .ok sequence)
    (hobserved : integer 0 (some (.int (openEpoch + 301))) = .ok (openEpoch + 301))
    (hmarketEvent : marketEvent = ⟨openEpoch + 300, 0, close, true,
      some ⟨openEpoch, openEpoch + 300, openTicks, high, low, close⟩⟩)
    (hmarket : parseMarketEvent (some (.obj [("epoch", .int (openEpoch + 300)),
      ("sequence", .int 0), ("tick_price_ticks", .int close), ("barstate_isconfirmed", .bool true),
      ("confirmed_bar", candle openEpoch openTicks high low close)])) = .ok marketEvent)
    (hexits : values 0 32 (some (.arr exitEvents)) = .ok exitEvents)
    (hevents : eachItem parseExitEvent exitEvents = .ok events)
    (hbundle : parseBundle sha256 false .v31 (some setupValue) = .ok bundle)
    (hfollowup : validateExitFollowup events false marketEvent [bundle] = .ok ())
    (hchecks : validateBundle false (openEpoch + 301) marketEvent
      (if events.length = 0 then .entryDecision else .exitFollowup) bundle = .ok ()) :
    validateEntryV3Payload sha256 (payload eventId sequence openEpoch openTicks high low close
      exitEvents [setupValue]) =
      .ok (observation eventId sequence openEpoch openTicks high low close events bundle) := by
  rw [validateEntryV3Payload]
  refine then_ok_iff.2 ⟨failIf_ok_iff.2 (by simp [hplain]), then_ok_iff.2 ⟨?_, ?_⟩⟩
  · exact failIf_ok_iff.2 (Nat.not_le.2 hlength)
  rw [payload]
  refine bind_ok_iff.2 ⟨_, rfl, then_ok_iff.2 ⟨?_, ?_⟩⟩
  · rw [exactKeys, failIf_ok_iff, not_not]
    rfl
  refine bind_ok_iff.2 ⟨.v31, parseVersions_v31 rfl rfl rfl rfl rfl rfl, ?_⟩
  refine bind_ok_iff.2 ⟨"producer-1", ?_, ?_⟩
  · exact identifier_ofList (by decide) (by decide) (by decide)
  refine bind_ok_iff.2 ⟨_, hsequence, bind_ok_iff.2 ⟨_, hevent, bind_ok_iff.2 ⟨_, rfl, ?_⟩⟩⟩
  refine bind_ok_iff.2 ⟨"EURUSD", ?_, bind_ok_iff.2 ⟨"FX:EURUSD", ?_, bind_ok_iff.2 ⟨"FX", ?_, ?_⟩⟩⟩
  · exact identifier_ofList (by decide) (by decide) (by decide)
  · exact identifier_ofList (by decide) (by decide) (by decide)
  · exact identifier_ofList (by decide) (by decide) (by decide)
  refine bind_ok_iff.2 ⟨"0.0001", ?_, then_ok_iff.2 ⟨?_, ?_⟩⟩
  · exact text_ofList (by decide) (by decide) (by decide)
  · rfl
  refine bind_ok_iff.2 ⟨_, hashes_ok rfl rfl, bind_ok_iff.2 ⟨_, hobserved, ?_⟩⟩
  refine bind_ok_iff.2 ⟨_, hmarket, then_ok_iff.2 ⟨failIf_ok_iff.2 ?_, ?_⟩⟩
  · rw [hmarketEvent]
    dsimp only
    omega
  refine bind_ok_iff.2 ⟨_, hexits, bind_ok_iff.2
    ⟨_, hevents, bind_ok_iff.2 ⟨[setupValue], rfl, ?_⟩⟩⟩
  refine bind_ok_iff.2 ⟨[bundle], ?_, then_ok_iff.2 ⟨failIf_ok_iff.2 (by simp), ?_⟩⟩
  · rw [eachItem, List.mapM_cons, hbundle]
    rfl
  rw [hmarketEvent] at hfollowup hchecks ⊢
  exact then_ok_iff.2 ⟨hfollowup, then_ok_iff.2 ⟨forAll_ok_iff.2 (by simpa using hchecks), rfl⟩⟩

/-- No payload below is too long. -/
theorem lengths_ok :
    (entry 153).serializedLength < maxPayloadCharacters ∧
      (payload "event-2" 2 1700000100 100 112 99 111 [] [experimental]).serializedLength <
        maxPayloadCharacters ∧
      (payload "event-3" 3 1700000400 111 112 89 91 [stopped 1700000400]
        [eligible 153]).serializedLength < maxPayloadCharacters ∧
      (payload "event-3" 3 1700000700 111 112 89 91 [stopped 1700000700]
        [eligible 153]).serializedLength < maxPayloadCharacters := by
  decide +kernel

theorem entry_ok : validateEntryV3Payload sha256 (entry 153) = .ok entryObservation :=
  payload_ok rfl lengths_ok.1 (identifier_ofList (by decide) (by decide) (by decide)) rfl rfl rfl
    rfl rfl rfl eligible_ok rfl rfl

theorem experiment_ok :
    validateEntryV3Payload sha256
      (payload "event-2" 2 1700000100 100 112 99 111 [] [experimental]) =
      .ok experimentObservation :=
  payload_ok rfl lengths_ok.2.1 (identifier_ofList (by decide) (by decide) (by decide)) rfl rfl rfl
    rfl rfl rfl experimental_ok rfl rfl

theorem stopped_ok {openEpoch : Int}
    (h : integer 0 (some (.int (openEpoch + 300))) = .ok (openEpoch + 300)) :
    eachItem parseExitEvent [stopped openEpoch] =
      .ok [⟨"exit-1", "setup-1", .stopLoss, openEpoch + 300, 0, 91⟩] := by
  rw [eachItem, List.mapM_cons]
  refine bind_ok_iff.2 ⟨⟨"exit-1", "setup-1", .stopLoss, openEpoch + 300, 0, 91⟩, ?_, rfl⟩
  refine bind_ok_iff.2 ⟨_, rfl, then_ok_iff.2 ⟨?_, bind_ok_iff.2 ⟨.stopLoss, rfl, ?_⟩⟩⟩
  · rw [exactKeys, failIf_ok_iff, not_not]
    rfl
  refine bind_ok_iff.2 ⟨"exit-1", ?_, bind_ok_iff.2 ⟨"setup-1", ?_, bind_ok_iff.2 ⟨_, h, rfl⟩⟩⟩
  · exact identifier_ofList (by decide) (by decide) (by decide)
  · exact identifier_ofList (by decide) (by decide) (by decide)

/-- The bar right after the entry. -/
theorem firstExit_ok :
    validateEntryV3Payload sha256
      (payload "event-3" 3 1700000400 111 112 89 91 [stopped 1700000400] [eligible 153]) =
      .ok (exitObservation 1700000400) :=
  payload_ok rfl lengths_ok.2.2.1 (identifier_ofList (by decide) (by decide) (by decide)) rfl rfl
    rfl rfl rfl (stopped_ok rfl) eligible_ok rfl rfl

/-- The bar after that. -/
theorem laterExit_ok :
    validateEntryV3Payload sha256
      (payload "event-3" 3 1700000700 111 112 89 91 [stopped 1700000700] [eligible 153]) =
      .ok (exitObservation 1700000700) :=
  payload_ok rfl lengths_ok.2.2.2 (identifier_ofList (by decide) (by decide) (by decide)) rfl rfl
    rfl rfl rfl (stopped_ok rfl) eligible_ok rfl rfl

end Sample

theorem sample_entry_authorised :
    ∃ o bundle, validateEntryV3Payload Sample.sha256 (Sample.entry 153) = .ok o ∧
      o.eventRole = .entryDecision ∧ bundle ∈ o.entryBundles ∧
      bundle.evaluation.selection.action = .paperEligible ∧ Authorised o bundle := by
  have hbundle : Sample.eligibleBundle ∈ Sample.entryObservation.entryBundles :=
    List.mem_singleton_self _
  exact ⟨Sample.entryObservation, Sample.eligibleBundle, Sample.entry_ok, rfl, hbundle, rfl,
    accepted_entry_authorised Sample.entry_ok rfl hbundle rfl⟩

end TradeOps.EntryV3
