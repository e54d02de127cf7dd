import TradeOps.Entry.Totality

/-!
# Opened selections

An input with an opened seed is evaluated as the input that was opened: the proofs, the
invalidation and the times of the later input are replaced by those of the seed. The engagement of
the zone is not part of the seed, and neither the input nor the seed is checked against it.
-/

namespace TradeOps.Entry

open Checks Keyed SortBy

/-- The input that the seed stands for. -/
def seededInput (input : EntryArbitrationInputV3) (seed : OpenedSelectionSeedV3) :
    EntryArbitrationInputV3 :=
  { input with
    commonFidelity := .exact
    setupInvalidated := false
    bocProof := none
    directionalClose := true
    confirmedBar := some seed.confirmedBar
    closeTriggerSequence := seed.triggerSequence
    htfFlipProof := none
    observedAtEpoch := seed.evaluatedAtEpoch
    revision := seed.revision
    evaluatedAtEpoch := seed.evaluatedAtEpoch
    openedSelectionSeed := none }

/-- The zone was engaged by the close of the seed's bar, which had closed when it was opened. -/
structure EngagedSeed (input : EntryArbitrationInputV3) (seed : OpenedSelectionSeedV3) : Prop where
  engaged : ∃ engaged, input.zoneEngagedEpoch = some engaged ∧
    engaged ≤ seed.confirmedBar.closeEpoch
  closed : seed.confirmedBar.closeEpoch ≤ seed.evaluatedAtEpoch

/-- Two inputs of one opened setup: the proofs, the fidelity, the invalidation, the revision and
the times are free. -/
structure SameOpened (input later : EntryArbitrationInputV3) : Prop where
  setupId : later.setupId = input.setupId
  direction : later.direction = input.direction
  zoneTopTicks : later.zoneTopTicks = input.zoneTopTicks
  zoneBottomTicks : later.zoneBottomTicks = input.zoneBottomTicks
  zoneEngagedEpoch : later.zoneEngagedEpoch = input.zoneEngagedEpoch
  liquidityCohort : later.liquidityCohort = input.liquidityCohort
  oneCandleEnabled : later.oneCandleEnabled = input.oneCandleEnabled
  seed : later.openedSelectionSeed = input.openedSelectionSeed

/-- The selection is paper eligible, and its canonical records are the close of the seed's bar. -/
structure OpensSeed (evaluation : EntryEvaluationV3) (seed : OpenedSelectionSeedV3) : Prop where
  action : evaluation.selection.action = .paperEligible
  model : evaluation.selection.canonicalModel = some .dirClose
  canonical : ∃ c ∈ evaluation.candidates, ∃ e ∈ evaluation.evidence,
    evaluation.selection.canonicalCandidateId = some c.candidateId ∧
      evaluation.selection.canonicalEvidenceId = some e.evidenceId ∧
      e.candidateId = c.candidateId ∧ c.model = .dirClose ∧
      c.eventAnchorEpoch = seed.confirmedBar.openEpoch ∧
      e.coverageStartEpoch = seed.confirmedBar.openEpoch ∧
      e.coverageEndEpoch = seed.confirmedBar.closeEpoch ∧
      e.observedTriggerEpoch = some seed.confirmedBar.closeEpoch ∧
      e.observedTriggerTicks = some seed.confirmedBar.closeTicks ∧
      e.triggerSequence = seed.triggerSequence

section Seeded

variable {sha256 : Json → String} {input later : EntryArbitrationInputV3}
  {seed : OpenedSelectionSeedV3}

/-- The input that a seed stands for is valid. -/
theorem validate_seededInput (h : validateEntryArbitrationInputV3 input = .ok ())
    (hseed : input.openedSelectionSeed = some seed) :
    validateEntryArbitrationInputV3 (seededInput input seed) = .ok () := by
  unfold validateEntryArbitrationInputV3 at h ⊢
  simp only [then_ok_iff, whenSome_ok_iff, failIf_ok_iff] at h ⊢
  obtain ⟨hkeys, hsetup, htop, hbottom, hzone, hengaged, hcohort, -, -, -, -, -, -, -, -, -,
    hopened⟩ := h
  have hopened' := hopened seed hseed
  simp only [validateOpenedSelectionSeedV3, then_ok_iff, failIf_ok_iff] at hopened'
  obtain ⟨hone, hbar, hsequence, hrevision, hevaluated, -⟩ := hopened'
  simp only [seededInput]
  refine ⟨hkeys, hsetup, htop, hbottom, hzone, hengaged, ?_, epoch_ok (epoch_of_ok hsequence),
    epoch_ok (epoch_of_ok hevaluated), epoch_ok (epoch_of_ok hrevision),
    epoch_ok (epoch_of_ok hevaluated), lt_irrefl _, ?_, ?_, ?_, ?_, ?_⟩
  · rw [validateLiquidityCohortV3, failIf_ok_iff]
    simp only [EntryArbitrationInputV3.setupFacts]
    rintro (⟨hcandle, -⟩ | ⟨-, hfidelity⟩)
    · exact hone hcandle
    · cases hfidelity
  · simp
  · intro bar hb
    cases hb
    simp only [validateConfirmedBarV3, then_ok_iff, validateOrderedCandleV3_ok_iff,
      failIf_ok_iff] at hbar ⊢
    exact hbar
  · intro proof hp
    cases hp
  · intro proof hp
    cases hp
  · intro seed hp
    cases hp

/-- An opened input is evaluated as the input of its seed. -/
theorem evaluateEntryV3Bundle_seeded (h : validateEntryArbitrationInputV3 input = .ok ())
    (hseed : input.openedSelectionSeed = some seed) :
    evaluateEntryV3Bundle sha256 input = evaluateEntryV3Bundle sha256 (seededInput input seed) := by
  have hseeded := validate_seededInput h hseed
  simp only [evaluateEntryV3Bundle, h, hseeded, hseed, ok_bind_eq]
  rfl

theorem policyVersion_of_validate (h : validateEntryArbitrationInputV3 input = .ok ()) :
    input.policyVersion = policyVersionV3 := by
  unfold validateEntryArbitrationInputV3 at h
  simp only [then_ok_iff, failIf_ok_iff] at h
  obtain ⟨-, hsetup, -⟩ := h
  push Not at hsetup
  exact hsetup.2.2

/-- Nothing of the later input is left in the input of the seed. -/
theorem seededInput_congr (h : validateEntryArbitrationInputV3 input = .ok ())
    (hlater : validateEntryArbitrationInputV3 later = .ok ()) (hsame : SameOpened input later) :
    seededInput later seed = seededInput input seed := by
  simp only [seededInput, hsame.setupId, hsame.direction, hsame.zoneTopTicks,
    hsame.zoneBottomTicks, hsame.zoneEngagedEpoch, hsame.liquidityCohort, hsame.oneCandleEnabled,
    policyVersion_of_validate h, policyVersion_of_validate hlater]

/-- The rule contract of the seed's input is that its zone was engaged by the close. -/
theorem ruleContract_seededInput_iff (h : validateEntryArbitrationInputV3 input = .ok ())
    (hseed : input.openedSelectionSeed = some seed) :
    RuleContract (seededInput input seed) ↔ ∃ engaged, input.zoneEngagedEpoch = some engaged ∧
      engaged ≤ seed.confirmedBar.closeEpoch := by
  have hclose : ∀ trigger, Triggers (seededInput input seed) trigger ↔
      CloseRule (seededInput input seed) seed.confirmedBar ∧
        trigger = ⟨.dirClose, toLex (seed.confirmedBar.closeEpoch, seed.triggerSequence),
          seed.confirmedBar.closeTicks⟩ := by
    intro trigger
    constructor
    · rintro (⟨present, rule⟩ | ⟨present, rule⟩ | ⟨present, rule⟩)
      · cases present
      · cases present
        exact ⟨rule, rfl⟩
      · cases present
    · rintro ⟨rule, rfl⟩
      exact .dirClose rfl rule
  constructor
  · intro hc
    obtain ⟨trigger, ht⟩ := hc.triggered
    exact ((hclose trigger).1 ht).1.common.2.2
  · intro hengaged
    have hopened : validateOpenedSelectionSeedV3 input seed = .ok () := by
      unfold validateEntryArbitrationInputV3 at h
      simp only [then_ok_iff, whenSome_ok_iff] at h
      exact h.2.2.2.2.2.2.2.2.2.2.2.2.2.2.2.2 seed hseed
    simp only [validateOpenedSelectionSeedV3, then_ok_iff, failIf_ok_iff] at hopened
    obtain ⟨hone, hbar, -⟩ := hopened
    simp only [validateConfirmedBarV3, then_ok_iff, failIf_ok_iff, not_or, not_not] at hbar
    have hrule : CloseRule (seededInput input seed) seed.confirmedBar :=
      ⟨⟨rfl, rfl, hengaged⟩, rfl, hbar.2.1, hbar.2.2⟩
    refine ⟨rfl, ?_, ⟨_, (hclose _).2 ⟨hrule, rfl⟩⟩, ?_⟩
    · show input.liquidityCohort.getD .twoPlusCandles = .twoPlusCandles
      cases hc : input.liquidityCohort.getD .twoPlusCandles with
      | oneCandle => exact absurd hc hone
      | twoPlusCandles => rfl
    · intro a b ha hb
      rw [((hclose a).1 ha.1).2, ((hclose b).1 hb.1).2]

/-- A paper eligible evaluation points to a matched pair of its records. -/
theorem selects_matched {evaluation : EntryEvaluationV3} (hv : ValidProofs input)
    (h : evaluateWithoutOpenedSeed sha256 input = .ok evaluation)
    (hpaper : evaluation.selection.action = .paperEligible) :
    ∃ pair, Matched sha256 input pair ∧ pair.candidate ∈ evaluation.candidates ∧
      pair.evidence ∈ evaluation.evidence ∧
      evaluation.selection.canonicalCandidateId = some pair.candidate.candidateId ∧
      evaluation.selection.canonicalEvidenceId = some pair.evidence.evidenceId ∧
      evaluation.selection.canonicalModel = some pair.candidate.model := by
  unfold evaluateWithoutOpenedSeed at h
  rw [bind_ok_iff] at h
  obtain ⟨matched, hmatched, h⟩ := h
  rw [bind_ok_iff] at h
  obtain ⟨selected, hselected, h⟩ := h
  rw [then_ok_iff, pure_ok_iff] at h
  obtain ⟨-, rfl⟩ := h
  have hr := matchEntryCandidatesV3_ok hv.paired hmatched
  obtain ⟨-, hrecords, byId, pairs, hindexed, hpairs, hchoose⟩ :=
    arbitrateEntryCandidatesV3_ok hselected
  obtain ⟨pair, hp⟩ := (chooseSelection_spec hindexed hpairs hchoose).2 hpaper
  have hm := ((exactPair_iff hr hrecords.candidates_consistent pair).1 hp.toIsPair).1
  exact ⟨pair, hm, hp.candidate_mem, hp.evidence_mem, hp.candidateId_eq, hp.evidenceId_eq,
    hp.model_eq⟩

/-- What the seed's input selects is the close of its bar. -/
theorem opensSeed_of_paperEligible {evaluation : EntryEvaluationV3}
    (hv : ValidProofs (seededInput input seed))
    (h : evaluateWithoutOpenedSeed sha256 (seededInput input seed) = .ok evaluation)
    (hpaper : evaluation.selection.action = .paperEligible) : OpensSeed evaluation seed := by
  obtain ⟨pair, hm, hc, he, hcid, heid, hmodel⟩ := selects_matched hv h hpaper
  cases hm with
  | boc present => cases present
  | dirClose present =>
    cases present
    exact ⟨hpaper, hmodel, _, hc, _, he, hcid, heid, rfl, rfl, rfl, rfl, rfl, rfl, rfl, rfl⟩
  | htfFlip present => cases present

/-- An opened selection is evaluated to the close of the seed's bar, for the input and for every
later one of the same setup, exactly when the zone was engaged by that close and the bar had closed
when it was opened. -/
theorem openedSelection_frozen_iff (hsha : IsSha256 sha256)
    (hinj : Set.InjOn sha256 (identityTexts sha256 (seededInput input seed)))
    (hvalid : validateEntryArbitrationInputV3 input = .ok ())
    (hseed : input.openedSelectionSeed = some seed) :
    (∃ evaluation, evaluateEntryV3Bundle sha256 input = .ok evaluation ∧
      OpensSeed evaluation seed ∧
      ∀ later, validateEntryArbitrationInputV3 later = .ok () → SameOpened input later →
        ∃ evaluation', evaluateEntryV3Bundle sha256 later = .ok evaluation' ∧
          evaluation'.selection = evaluation.selection) ↔ EngagedSeed input seed := by
  have hseeded := validate_seededInput hvalid hseed
  have hs := soundInput_of_validate hseeded
  have heval : evaluateEntryV3Bundle sha256 (seededInput input seed) =
      evaluateWithoutOpenedSeed sha256 (seededInput input seed) := by
    simp only [evaluateEntryV3Bundle, hseeded, ok_bind_eq]
    rfl
  rw [evaluateEntryV3Bundle_seeded hvalid hseed]
  constructor
  · rintro ⟨evaluation, h, hopens, -⟩
    obtain ⟨hcontract, -⟩ := evaluateEntryV3Bundle_paperEligible_iff h rfl
    rw [heval] at h
    exact ⟨(ruleContract_seededInput_iff hvalid hseed).1 (hcontract.1 hopens.action),
      (evaluable_of_ok hs.toValidProofs h).close _ rfl⟩
  · intro hengaged
    have he : Evaluable (seededInput input seed) := by
      constructor
      · intro proof hp
        cases hp
      · intro bar hb
        cases hb
        exact hengaged.closed
    obtain ⟨evaluation, h⟩ := evaluateWithoutOpenedSeed_exists hsha hinj hs he
    have hok := heval.trans h
    obtain ⟨hcontract, -⟩ := evaluateEntryV3Bundle_paperEligible_iff hok rfl
    have hpaper := hcontract.2 ((ruleContract_seededInput_iff hvalid hseed).2 hengaged.engaged)
    refine ⟨evaluation, hok, opensSeed_of_paperEligible hs.toValidProofs h hpaper, ?_⟩
    intro later hlater hsame
    refine ⟨evaluation, ?_, rfl⟩
    rw [evaluateEntryV3Bundle_seeded hlater (hsame.seed.trans hseed),
      seededInput_congr hvalid hlater hsame]
    exact hok

end Seeded

/-! ## A seed whose zone is not engaged

The later input says that the zone was engaged at 900, after the bar of the seed had closed. The
selection is then not paper eligible, although its bar, its sequence and its times are frozen. -/

def lateEngagedInput : EntryArbitrationInputV3 :=
  { bearishInput with
    zoneEngagedEpoch := some 900
    observedAtEpoch := 900
    evaluatedAtEpoch := 900
    openedSelectionSeed := some ⟨bearishBar, 1, 0, 600⟩ }

theorem lateEngagedInput_not_paperEligible :
    validateEntryArbitrationInputV3 lateEngagedInput = .ok () ∧
      lateEngagedInput.openedSelectionSeed = some ⟨bearishBar, 1, 0, 600⟩ ∧
      ∀ (sha256 : Json → String) (evaluation : EntryEvaluationV3),
        evaluateEntryV3Bundle sha256 lateEngagedInput = .ok evaluation →
          evaluation.selection.action ≠ .paperEligible := by
  have hvalid : validateEntryArbitrationInputV3 lateEngagedInput = .ok () := by decide +kernel
  refine ⟨hvalid, rfl, ?_⟩
  intro sha256 evaluation h hpaper
  rw [evaluateEntryV3Bundle_seeded hvalid rfl] at h
  obtain ⟨hcontract, -⟩ := evaluateEntryV3Bundle_paperEligible_iff h rfl
  obtain ⟨engaged, heq, hle⟩ := (ruleContract_seededInput_iff hvalid rfl).1 (hcontract.1 hpaper)
  cases heq
  exact absurd hle (by decide)

/-- The close of the bar as the seed of a later, invalidated input. -/
def openedInput : EntryArbitrationInputV3 :=
  { bearishInput with
    setupInvalidated := true
    observedAtEpoch := 900
    evaluatedAtEpoch := 900
    openedSelectionSeed := some ⟨bearishBar, 1, 0, 600⟩ }

/-- The theorem at that input. -/
theorem openedInput_frozen :
    ∃ evaluation, evaluateEntryV3Bundle bearishSha256 openedInput = .ok evaluation ∧
      OpensSeed evaluation ⟨bearishBar, 1, 0, 600⟩ := by
  have hengaged : EngagedSeed openedInput ⟨bearishBar, 1, 0, 600⟩ :=
    ⟨⟨300, rfl, by decide⟩, by decide⟩
  have hinj : Set.InjOn bearishSha256 (identityTexts bearishSha256
      (seededInput openedInput ⟨bearishBar, 1, 0, 600⟩)) := bearishSha256_injOn
  obtain ⟨evaluation, h, hopens, -⟩ := (openedSelection_frozen_iff bearishSha256_isSha256 hinj
    (by decide +kernel) rfl).2 hengaged
  exact ⟨evaluation, h, hopens⟩

end TradeOps.Entry
