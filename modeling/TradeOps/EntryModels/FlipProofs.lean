import TradeOps.EntryModels.Coverage

/-!
# What the flip scan proves

Every round of the scan keeps `Retains`: the retained candles are children, in order, that do what
they are retained for. A transcript written by the scan therefore passes every check that replays
it, and the scan can only fail at a number that has no canonical form. Without a gap the scan is a
search: the first contact, and the first recross from there on.
-/

namespace TradeOps.EntryModels

open Canonical Checks HTFFlipScanRequest

variable {request : HTFFlipScanRequest} {children : List OrderedCandle}

/-- The candle crosses the open in the direction of the setup. -/
def HTFFlipScanRequest.crosses (request : HTFFlipScanRequest) (candle : OrderedCandle) : Bool :=
  recrossesHtfOpen request.setup.direction request.htfOpenTicks candle

/-- The candle touches the zone of the setup. -/
def HTFFlipScanRequest.touches (request : HTFFlipScanRequest) (candle : OrderedCandle) : Bool :=
  contactsZone request.setup candle

/-! ## One round -/

section Round

variable (request) (candle : OrderedCandle) (seen : Bool)

theorem scanStep_gap (state : ScanState) :
    scanStep request state none = ⟨none, none, state.destinationSeenBeforeContact⟩ :=
  rfl

theorem scanStep_done (contact : Option OrderedCandle) (recross : OrderedCandle) :
    scanStep request ⟨contact, some recross, seen⟩ (some candle) =
      ⟨contact, some recross, seen⟩ :=
  rfl

theorem scanStep_before (h : request.touches candle = false) :
    scanStep request ⟨none, none, seen⟩ (some candle) =
      ⟨none, none, seen || request.crosses candle⟩ := by
  have hcontacts : contactsZone request.setup candle = false := h
  simp [scanStep, hcontacts, crosses]

theorem scanStep_contact (h : request.touches candle = true) :
    scanStep request ⟨none, none, seen⟩ (some candle) =
      ⟨some candle, if request.crosses candle then some candle else none, seen⟩ := by
  have hcontacts : contactsZone request.setup candle = true := h
  by_cases hcrosses : recrossesHtfOpen request.setup.direction request.htfOpenTicks candle <;>
    simp [scanStep, hcontacts, crosses, hcrosses]

theorem scanStep_after (contact : OrderedCandle) :
    scanStep request ⟨some contact, none, seen⟩ (some candle) =
      ⟨some contact, if request.crosses candle then some candle else none, seen⟩ := by
  by_cases h : recrossesHtfOpen request.setup.direction request.htfOpenTicks candle <;>
    simp [scanStep, crosses, h]

end Round

/-- What the scan has retained when it comes to the interval that opens at `now`. -/
structure Retains (request : HTFFlipScanRequest) (children : List OrderedCandle) (now : Int)
    (state : ScanState) : Prop where
  contact : ∀ contact ∈ state.contact,
    contact ∈ children ∧ request.touches contact = true ∧ contact.closeEpoch ≤ now
  recross : ∀ recross ∈ state.recross, recross ∈ children ∧ request.crosses recross = true
  order : ∀ recross ∈ state.recross, ∃ contact ∈ state.contact,
    contact = recross ∨ contact.closeEpoch ≤ recross.openEpoch
  sameChild : ∀ contact ∈ state.contact, request.crosses contact = true →
    state.recross = some contact

theorem Retains.init (now : Int) : Retains request children now ⟨none, none, false⟩ where
  contact := by simp
  recross := by simp
  order := by simp
  sameChild := by simp

theorem Retains.later {now later : Int} {state : ScanState}
    (h : Retains request children now state) (hle : now ≤ later) :
    Retains request children later state :=
  { h with contact := fun contact hcontact =>
      have hfacts := h.contact contact hcontact
      ⟨hfacts.1, hfacts.2.1, hfacts.2.2.trans hle⟩ }

/-- A round keeps what is known of the retained candles. -/
theorem Retains.round {now : Int} {state : ScanState} {child : Option OrderedCandle}
    (h : Retains request children now state)
    (hchild : ∀ candle ∈ child, candle ∈ children ∧ candle.openEpoch = now ∧
      candle.closeEpoch = now + request.proofResolutionSeconds) :
    Retains request children (now + request.proofResolutionSeconds)
      (scanStep request state child) := by
  have hresolution := request.completed.resolution
  have hkept : Retains request children (now + request.proofResolutionSeconds) state :=
    h.later (by omega)
  cases child with
  | none => exact ⟨by simp [scanStep], by simp [scanStep], by simp [scanStep], by simp [scanStep]⟩
  | some candle =>
    obtain ⟨hmem, hopen, hclose⟩ := hchild candle rfl
    obtain ⟨contact, recross, seen⟩ := state
    cases recross with
    | some recross => exact hkept
    | none =>
      by_cases hcrosses : request.crosses candle = true
      · -- the child is a recross as soon as there is a contact, itself included
        cases contact with
        | none =>
          by_cases htouches : request.touches candle = true
          · rw [scanStep_contact request candle seen htouches, if_pos hcrosses]
            exact ⟨by simpa using ⟨hmem, htouches, hclose.le⟩, by simpa using ⟨hmem, hcrosses⟩,
              by simp, by simp⟩
          · rw [scanStep_before request candle seen (Bool.eq_false_iff.mpr htouches)]
            exact ⟨by simp, by simp, by simp, by simp⟩
        | some contact =>
          rw [scanStep_after, if_pos hcrosses]
          refine ⟨hkept.contact, by simpa using ⟨hmem, hcrosses⟩, ?_, ?_⟩
          · intro recross hrecross
            obtain rfl : candle = recross := Option.some.inj hrecross
            exact ⟨contact, rfl, .inr (hopen ▸ (h.contact contact rfl).2.2)⟩
          · intro c hc hcrossesContact
            exact absurd (h.sameChild c hc hcrossesContact) (by simp)
      · cases contact with
        | none =>
          by_cases htouches : request.touches candle = true
          · rw [scanStep_contact request candle seen htouches, if_neg hcrosses]
            refine ⟨by simpa using ⟨hmem, htouches, hclose.le⟩, by simp, by simp, ?_⟩
            intro c hc hcrossesContact
            obtain rfl : candle = c := Option.some.inj hc
            exact absurd hcrossesContact hcrosses
          · rw [scanStep_before request candle seen (Bool.eq_false_iff.mpr htouches)]
            exact ⟨by simp, by simp, by simp, by simp⟩
        | some contact =>
          rw [scanStep_after, if_neg hcrosses]
          exact hkept

/-! ## All rounds -/

theorem scanState_succ (request : HTFFlipScanRequest) (children : List OrderedCandle)
    (rounds : Nat) :
    scanState request children (rounds + 1) =
      scanStep request (scanState request children rounds) (request.childAt children rounds) := by
  simp [scanState, List.range_succ]

theorem openAt_succ (request : HTFFlipScanRequest) (index : Nat) :
    request.openAt (index + 1) = request.openAt index + request.proofResolutionSeconds := by
  unfold openAt
  push_cast
  rw [Int.add_mul, Int.one_mul]
  omega

theorem retains_scanState (h : validChildrenByOpen request = .ok children) (rounds : Nat) :
    Retains request children (request.openAt rounds) (scanState request children rounds) := by
  induction rounds with
  | zero => exact Retains.init _
  | succ rounds ih =>
    rw [scanState_succ, openAt_succ]
    apply ih.round
    intro candle hcandle
    obtain ⟨hmem, hopen⟩ := childAt_eq_some hcandle
    exact ⟨hmem, hopen, hopen ▸ spans_of_valid h hmem⟩

/-! ## Without a gap -/

/-- The first child that touches the zone. -/
def HTFFlipScanRequest.firstContact (request : HTFFlipScanRequest) : Option OrderedCandle :=
  request.children.find? request.touches

/-- The first child, from the first contact on, that crosses the open. -/
def HTFFlipScanRequest.firstRecross (request : HTFFlipScanRequest) : Option OrderedCandle :=
  (request.children.dropWhile fun child => !request.touches child).find? request.crosses

theorem foldl_scanStep_done (contact : Option OrderedCandle) (recross : OrderedCandle)
    (seen : Bool) (candles : List OrderedCandle) :
    (candles.map some).foldl (scanStep request) ⟨contact, some recross, seen⟩ =
      ⟨contact, some recross, seen⟩ := by
  induction candles with
  | nil => rfl
  | cons candle rest ih =>
    rw [List.map_cons, List.foldl_cons, scanStep_done]
    exact ih

theorem foldl_scanStep_after (contact : OrderedCandle) (seen : Bool)
    (candles : List OrderedCandle) :
    (candles.map some).foldl (scanStep request) ⟨some contact, none, seen⟩ =
      ⟨some contact, candles.find? request.crosses, seen⟩ := by
  induction candles with
  | nil => rfl
  | cons candle rest ih =>
    rw [List.map_cons, List.foldl_cons, scanStep_after]
    by_cases hcrosses : request.crosses candle = true
    · rw [if_pos hcrosses, foldl_scanStep_done, List.find?_cons_of_pos hcrosses]
    · rw [if_neg hcrosses, ih, List.find?_cons_of_neg hcrosses]

/-- A scan without a gap is a search. -/
theorem foldl_scanStep (seen : Bool) (candles : List OrderedCandle) :
    (candles.map some).foldl (scanStep request) ⟨none, none, seen⟩ =
      ⟨candles.find? request.touches,
        (candles.dropWhile fun child => !request.touches child).find? request.crosses,
        seen || (candles.takeWhile fun child => !request.touches child).any request.crosses⟩ := by
  induction candles generalizing seen with
  | nil => simp
  | cons candle rest ih =>
    rw [List.map_cons, List.foldl_cons]
    by_cases htouches : request.touches candle = true
    · rw [scanStep_contact request candle seen htouches, List.find?_cons_of_pos htouches]
      by_cases hcrosses : request.crosses candle = true
      · rw [if_pos hcrosses, foldl_scanStep_done]
        simp [htouches, hcrosses]
      · rw [if_neg hcrosses, foldl_scanStep_after]
        simp [htouches, hcrosses]
    · have hbefore := Bool.eq_false_iff.mpr htouches
      rw [scanStep_before request candle seen hbefore, ih]
      simp [hbefore, Bool.or_assoc]

theorem scanState_of_allPresent (h : validChildrenByOpen request = .ok children)
    (hall : request.AllPresent) :
    scanState request children request.expectedCount.toNat =
      ⟨request.firstContact, request.firstRecross,
        (request.children.takeWhile fun child => !request.touches child).any request.crosses⟩ := by
  have hcount := (length_eq_iff_allPresent h).mpr hall
  unfold scanState
  rw [(ordered_children_of_valid h).rounds_eq hcount, foldl_scanStep, eq_of_allPresent h hall,
    Bool.false_or]
  rfl

/-! ## The transcript passes its replay -/

section Replay

variable (h : validChildrenByOpen request = .ok children)
include h

theorem retains_at_cutoff :
    Retains request children request.scanCutoffEpoch
      (scanState request children request.expectedCount.toNat) := by
  have hproduct := request.resolution_mul_expectedCount
  have hpos := request.expectedCount_pos
  have hcutoff : request.openAt request.expectedCount.toNat = request.scanCutoffEpoch := by
    rw [openAt, Int.toNat_of_nonneg hpos.le, Int.mul_comm]
    omega
  rw [← hcutoff]
  exact retains_scanState h _

theorem transcriptPostInit_scan :
    transcriptPostInit (scanTranscript request children) = .ok () := by
  have hretains := retains_at_cutoff h
  have hopen := request.completed.openEpoch
  have hnonempty := request.completed.nonempty
  have hresolution := request.completed.resolution
  have hexpected := request.expectedCount_pos
  have horder : ¬ ((scanState request children request.expectedCount.toNat).recross.isSome ∧
      (scanState request children request.expectedCount.toNat).contact.isNone) := by
    rintro ⟨hrecross, hcontact⟩
    obtain ⟨recross, hrecross⟩ := Option.isSome_iff_exists.mp hrecross
    obtain ⟨contact, hsome, -⟩ := hretains.order recross hrecross
    rw [Option.mem_def.mp hsome] at hcontact
    exact absurd hcontact (by simp)
  simp only [transcriptPostInit, Entry.Py.requireNonNegative, Entry.Py.requirePositive, then_ok_iff,
    failIf_ok_iff]
  simp only [scanTranscript, validateCompletedHtfPrefix_eq_ok request.completed, discard_ok, ne_eq,
    not_true_eq_false, not_false_eq_true, horder, and_true]
  omega

theorem validateRetained_scan (name : String) {candle : OrderedCandle}
    (hcandle : candle ∈ children) :
    validateRetained (scanTranscript request children) name candle = .ok () := by
  have hordered := ordered_children_of_valid h
  have hstart := hordered.start candle hcandle
  have hcutoff := hordered.cutoff candle hcandle
  have hspans := spans_of_valid h hcandle
  simp only [validateRetained, then_ok_iff, failIf_ok_iff]
  simp only [scanTranscript, hordered.aligned candle hcandle, ne_eq, not_true_eq_false,
    not_false_eq_true, and_true]
  omega

theorem retainedIntervals_scan :
    (retainedIntervals (scanTranscript request children)).length ≤ children.length := by
  have hretains := retains_at_cutoff h
  have hsubset : retainedIntervals (scanTranscript request children) ⊆
      children.map fun candle => (candle.openEpoch, candle.closeEpoch) := by
    intro interval hinterval
    obtain ⟨candle, hcandle, rfl⟩ := List.mem_map.mp (List.mem_dedup.mp hinterval)
    apply List.mem_map_of_mem
    obtain hcontact | hrecross := List.mem_append.mp hcandle
    · exact (hretains.contact candle (Option.mem_toList.mp hcontact)).1
    · exact (hretains.recross candle (Option.mem_toList.mp hrecross)).1
  have hle := ((List.nodup_dedup _).subperm hsubset).length_le
  rw [List.length_map] at hle
  exact hle

theorem validateTranscriptShape_scan :
    validateTranscriptShape (scanTranscript request children) = .ok () := by
  have hretains := retains_at_cutoff h
  have hlength := (ordered_children_of_valid h).length_le
  have hintervals := retainedIntervals_scan h
  have hcontact : ∀ candle, (scanTranscript request children).contactCandle = some candle →
      validateRetained (scanTranscript request children) "contact candle" candle = .ok () :=
    fun candle hcandle => validateRetained_scan h _ (hretains.contact candle hcandle).1
  have hrecross : ∀ candle, (scanTranscript request children).recrossCandle = some candle →
      validateRetained (scanTranscript request children) "recross candle" candle = .ok () :=
    fun candle hcandle => validateRetained_scan h _ (hretains.recross candle hcandle).1
  have hprefix := validateCompletedHtfPrefix_eq_ok request.completed
  unfold validateTranscriptShape
  simp only [then_ok_iff, whenSome_ok_iff, failIf_ok_iff]
  refine ⟨?_, ?_, ?_, ?_, ?_, hcontact, hrecross, ?_⟩
  · simp only [scanTranscript, hprefix, discard_ok]
  · exact not_not.mpr request.completed.aligned
  · exact not_not.mpr rfl
  · exact not_not.mpr ⟨Int.natCast_nonneg _, hlength⟩
  · exact not_not.mpr rfl
  · have : (scanTranscript request children).observedChildCount = children.length := rfl
    omega

theorem validateLifecycle_scan :
    validateLifecycle request.setup (scanTranscript request children) = .ok () := by
  have hretains := retains_at_cutoff h
  generalize hstate : scanState request children request.expectedCount.toNat = state at hretains
  have hcontact : (scanTranscript request children).contactCandle = state.contact := by
    rw [← hstate]
    rfl
  have hrecross : (scanTranscript request children).recrossCandle = state.recross := by
    rw [← hstate]
    rfl
  have hsame : (scanTranscript request children).sameChild =
      sameInterval state.contact state.recross := by
    rw [← hstate]
    rfl
  have hticks : (scanTranscript request children).htfOpenTicks = request.htfOpenTicks := rfl
  unfold validateLifecycle
  simp only [then_ok_iff, whenSome_ok_iff, failIf_ok_iff, hcontact, hrecross, hsame, hticks]
  refine ⟨?_, ?_, ?_, ?_, ?_⟩
  · intro contact hc
    exact ne_false_of_eq_true (hretains.contact contact hc).2.1
  · intro recross hr
    exact ne_false_of_eq_true (hretains.recross recross hr).2
  · rintro ⟨hr, hc⟩
    obtain ⟨recross, hr⟩ := Option.isSome_iff_exists.mp hr
    obtain ⟨contact, hsome, -⟩ := hretains.order recross hr
    rw [Option.mem_def.mp hsome] at hc
    exact absurd hc (by simp)
  · intro contact hc recross hr
    obtain ⟨_, hsome, horder⟩ := hretains.order recross hr
    obtain rfl := Option.some.inj (hc.symm.trans hsome)
    rw [hc, hr]
    obtain rfl | horder := horder
    · simp [sameInterval]
    · have hincreasing := contact.increasing
      have hdistinct : sameInterval (some contact) (some recross) = false := by
        simp only [sameInterval, decide_eq_false_iff_not]
        omega
      rw [hdistinct, if_neg (by simp), failIf_ok_iff]
      omega
  · rintro contact hc ⟨hcrosses, hother⟩
    have hsame := hretains.sameChild contact hc hcrosses
    rw [hc, hsame] at hother
    simp [sameInterval] at hother

end Replay

end TradeOps.EntryModels
