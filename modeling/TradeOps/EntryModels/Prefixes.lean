import TradeOps.EntryModels.Verdicts

/-!
# Transcripts of growing prefixes

Embeds `_upsert_latest_htf_transcript` of `rd_entry_oracle.py` and follows two scans of one
higher-timeframe candle, of which the second starts with the children of the first. The flag for an
early destination only grows, and without a gap the retained candles stay. What remains to be
asked is that no more children than intervals are added.
-/

namespace TradeOps.EntryModels

open Canonical Checks HTFFlipScanRequest

/-! ## The latest transcript of a context -/

/-- The comparison of two transcripts of one higher-timeframe candle. -/
def validateSameAnchor (previous transcript : HTFFlipProofTranscript) : Except String Unit := do
  failIf
    ((transcript.contextMinutes, transcript.htfOpenEpoch, transcript.htfOpenTicks,
        transcript.proofResolutionSeconds, transcript.coverageStartEpoch,
        transcript.fullLifecycleOrdered) ≠
      (previous.contextMinutes, previous.htfOpenEpoch, previous.htfOpenTicks,
        previous.proofResolutionSeconds, previous.coverageStartEpoch,
        previous.fullLifecycleOrdered))
    "same-anchor HTF transcript changed static prefix facts"
  let expectedDelta := transcript.expectedChildCount - previous.expectedChildCount
  let observedDelta := transcript.observedChildCount - previous.observedChildCount
  failIf (expectedDelta ≤ 0 ∨ ¬ (0 ≤ observedDelta ∧ observedDelta ≤ expectedDelta))
    "same-anchor HTF transcript prefix counts are not monotonic"
  failIf (previous.gapPresent = true ∧ transcript.gapPresent = false)
    "same-anchor HTF transcript cannot erase a prior gap"
  failIf
    (previous.destinationSeenBeforeContact = true ∧
      transcript.destinationSeenBeforeContact = false)
    "same-anchor HTF transcript cannot erase prior destination history"
  if previous.gapPresent = false ∧ transcript.gapPresent = false then
    failIf
      (previous.contactCandle ≠ none ∧ transcript.contactCandle ≠ previous.contactCandle)
      "same-anchor HTF transcript rewrote contact history"
    failIf
      (previous.recrossCandle ≠ none ∧ transcript.recrossCandle ≠ previous.recrossCandle)
      "same-anchor HTF transcript rewrote recross history"

/-- The latest transcript of every context. -/
abbrev Transcripts := Int → Option HTFFlipProofTranscript

def upsertLatestHtfTranscript (transcripts : Transcripts) (transcript : HTFFlipProofTranscript) :
    Except String Transcripts :=
  let latest := Function.update transcripts transcript.contextMinutes (some transcript)
  match transcripts transcript.contextMinutes with
  | none => .ok latest
  | some previous =>
    if transcript.htfOpenEpoch < previous.htfOpenEpoch ∨
        (transcript.htfOpenEpoch = previous.htfOpenEpoch ∧
          transcript.scanCutoffEpoch < previous.scanCutoffEpoch) then
      .error "HTF transcript chronology moved backwards"
    else if transcript.htfOpenEpoch = previous.htfOpenEpoch ∧
        transcript.scanCutoffEpoch = previous.scanCutoffEpoch then
      if transcript ≠ previous then
        .error "HTF transcript boundary has conflicting content"
      else .ok transcripts
    else do
      if transcript.htfOpenEpoch = previous.htfOpenEpoch then
        validateSameAnchor previous transcript
      pure latest

/-- A transcript that is accepted is the latest of its context. -/
theorem upsert_get {transcripts transcripts' : Transcripts} {transcript : HTFFlipProofTranscript}
    (h : upsertLatestHtfTranscript transcripts transcript = .ok transcripts') :
    transcripts' transcript.contextMinutes = some transcript := by
  unfold upsertLatestHtfTranscript at h
  cases hprevious : transcripts transcript.contextMinutes with
  | none =>
    rw [hprevious] at h
    rw [← Except.ok.inj h, Function.update_self]
  | some previous =>
    rw [hprevious] at h
    dsimp only at h
    split_ifs at h with hbackwards hboundary hconflict hanchor
    · rw [← Except.ok.inj h, hprevious, not_not.mp hconflict]
    · obtain ⟨-, -, hresult⟩ := bind_ok_iff.mp h
      rw [← pure_ok_iff.mp hresult, Function.update_self]
    · rw [← pure_ok_iff.mp h, Function.update_self]

/-- A later transcript of the same candle is accepted when it compares well. -/
theorem upsert_isOk_iff {transcripts : Transcripts} {previous transcript : HTFFlipProofTranscript}
    (hprevious : transcripts transcript.contextMinutes = some previous)
    (hanchor : transcript.htfOpenEpoch = previous.htfOpenEpoch)
    (hlater : previous.scanCutoffEpoch < transcript.scanCutoffEpoch) :
    (∃ transcripts', upsertLatestHtfTranscript transcripts transcript = .ok transcripts') ↔
      validateSameAnchor previous transcript = .ok () := by
  have hbackwards : ¬ (transcript.htfOpenEpoch < previous.htfOpenEpoch ∨
      (transcript.htfOpenEpoch = previous.htfOpenEpoch ∧
        transcript.scanCutoffEpoch < previous.scanCutoffEpoch)) := by omega
  have hboundary : ¬ (transcript.htfOpenEpoch = previous.htfOpenEpoch ∧
      transcript.scanCutoffEpoch = previous.scanCutoffEpoch) := by omega
  unfold upsertLatestHtfTranscript
  rw [hprevious]
  dsimp only
  rw [if_neg hbackwards, if_neg hboundary, if_pos hanchor]
  constructor
  · rintro ⟨transcripts', hresult⟩
    exact (then_ok_iff.mp hresult).1
  · intro hsame
    exact ⟨_, then_ok_iff.mpr ⟨hsame, rfl⟩⟩

/-! ## Growing prefixes -/

/-- The second request scans the same candle for the same setup, up to a later cutoff and with
further children. -/
structure HTFFlipScanRequest.Extends (first second : HTFFlipScanRequest) : Prop where
  setup : second.setup = first.setup
  timeframe : second.timeframeMinutes = first.timeframeMinutes
  openEpoch : second.htfOpenEpoch = first.htfOpenEpoch
  openTicks : second.htfOpenTicks = first.htfOpenTicks
  resolution : second.proofResolutionSeconds = first.proofResolutionSeconds
  lifecycle : second.fullLifecycleOrdered = first.fullLifecycleOrdered
  later : first.scanCutoffEpoch < second.scanCutoffEpoch
  children : first.children <+: second.children

section Extends

variable {first second : HTFFlipScanRequest} {children more : List OrderedCandle}

theorem HTFFlipScanRequest.Extends.openAt_eq (h : first.Extends second) (index : Nat) :
    first.openAt index = second.openAt index := by
  unfold openAt
  rw [h.openEpoch, h.resolution]

theorem HTFFlipScanRequest.Extends.scanState_eq (h : first.Extends second)
    (children : List OrderedCandle) (rounds : Nat) :
    scanState first children rounds = scanState second children rounds := by
  have hstep : scanStep first = scanStep second := by
    funext state child
    unfold scanStep
    rw [h.setup, h.openTicks]
  have hchild : first.childAt children = second.childAt children := by
    funext index
    unfold childAt
    rw [h.openAt_eq]
  unfold scanState
  rw [hstep, hchild]

theorem HTFFlipScanRequest.Extends.expectedCount_lt (hext : first.Extends second) :
    first.expectedCount < second.expectedCount := by
  have hfirstProduct := first.resolution_mul_expectedCount
  have hsecondProduct := second.resolution_mul_expectedCount
  have hlater := hext.later
  rw [hext.resolution, hext.openEpoch] at hsecondProduct
  have hlt : first.proofResolutionSeconds * first.expectedCount <
      first.proofResolutionSeconds * second.expectedCount := by omega
  exact Int.lt_of_mul_lt_mul_left hlt first.completed.resolution.le

theorem scanStep_seen {request : HTFFlipScanRequest} {state : ScanState}
    (child : Option OrderedCandle) (h : state.destinationSeenBeforeContact = true) :
    (scanStep request state child).destinationSeenBeforeContact = true := by
  unfold scanStep
  cases child with
  | none => exact h
  | some candle =>
    dsimp only
    split_ifs <;> simp [h]

theorem scanState_seen_mono {request : HTFFlipScanRequest} {n m : Nat} (hle : n ≤ m)
    (h : (scanState request children n).destinationSeenBeforeContact = true) :
    (scanState request children m).destinationSeenBeforeContact = true := by
  induction m, hle using Nat.le_induction with
  | base => exact h
  | succ m _ ih =>
    rw [scanState_succ]
    exact scanStep_seen _ ih

/-- Further children after the others do not take back an early destination. -/
theorem seen_of_append {request : HTFFlipScanRequest}
    (hordered : request.Ordered (children ++ more))
    (rounds : Nat) :
    scanState request children rounds = scanState request (children ++ more) rounds ∨
      (∀ child ∈ children, child.openEpoch < request.openAt rounds) ∧
        ((scanState request children rounds).destinationSeenBeforeContact = true →
          (scanState request (children ++ more) rounds).destinationSeenBeforeContact = true) := by
  induction rounds with
  | zero => exact .inl rfl
  | succ rounds ih =>
    have hnext : request.openAt rounds < request.openAt (rounds + 1) :=
      openAt_lt_openAt.mpr (by omega)
    rw [scanState_succ, scanState_succ]
    obtain heq | ⟨hbefore, hseen⟩ := ih
    · cases hfind : request.childAt children rounds with
      | some child =>
        left
        have hsame : request.childAt (children ++ more) rounds = some child := by
          unfold childAt at hfind ⊢
          rw [List.find?_append, hfind]
          rfl
        rw [heq, hsame]
      | none =>
        have hsame : request.childAt (children ++ more) rounds = request.childAt more rounds := by
          unfold childAt at hfind ⊢
          rw [List.find?_append, hfind]
          rfl
        cases hmore : request.childAt more rounds with
        | none =>
          left
          rw [heq, hsame, hmore]
        | some child =>
          -- the children end here, and `more` has its first child
          right
          obtain ⟨hmem, hopen⟩ := childAt_eq_some hmore
          have hcross := (List.pairwise_append.mp hordered.increasing).2.2
          refine ⟨fun earlier hearlier => ?_, fun h => ?_⟩
          · exact (hopen ▸ hcross earlier hearlier child hmem).trans hnext
          · rw [scanStep_gap, heq] at h
            exact scanStep_seen _ h
    · have hfind : request.childAt children rounds = none :=
        childAt_eq_none.mpr fun child hchild => (hbefore child hchild).ne
      right
      refine ⟨fun child hchild => (hbefore child hchild).trans hnext, fun h => ?_⟩
      rw [hfind, scanStep_gap] at h
      exact scanStep_seen _ (hseen h)

/-! ## The second transcript after the first -/

variable (hext : first.Extends second) (hfirst : validChildrenByOpen first = .ok children)
  (hsecond : validChildrenByOpen second = .ok more)
include hext hfirst hsecond

theorem prefix_of_extends : children <+: more := by
  have hspans : first.spans = second.spans := by
    funext candle
    unfold spans
    rw [hext.resolution]
  rw [eq_filter_of_valid hfirst, eq_filter_of_valid hsecond, hspans]
  exact hext.children.filter _

theorem seen_of_extends
    (h : (scanTranscript first children).destinationSeenBeforeContact = true) :
    (scanTranscript second more).destinationSeenBeforeContact = true := by
  obtain ⟨added, rfl⟩ := prefix_of_extends hext hfirst hsecond
  have hlt := hext.expectedCount_lt
  have hordered := ordered_children_of_valid hsecond
  have hseen : (scanState second children
      first.expectedCount.toNat).destinationSeenBeforeContact = true := by
    rw [← hext.scanState_eq]
    exact h
  have hsame : (scanState second (children ++ added)
      first.expectedCount.toNat).destinationSeenBeforeContact = true := by
    obtain heq | ⟨-, himp⟩ := seen_of_append hordered first.expectedCount.toNat
    · rw [← heq]
      exact hseen
    · exact himp hseen
  exact scanState_seen_mono (by omega) hsame

/-- Without a gap on either side, what is retained stays. -/
theorem retained_of_extends (hall : first.AllPresent) (hallSecond : second.AllPresent) :
    (∀ contact ∈ (scanTranscript first children).contactCandle,
        (scanTranscript second more).contactCandle = some contact) ∧
      ∀ recross ∈ (scanTranscript first children).recrossCandle,
        (scanTranscript second more).recrossCandle = some recross := by
  have htouches : first.touches = second.touches := by
    funext candle
    unfold touches
    rw [hext.setup]
  have hcrosses : first.crosses = second.crosses := by
    funext candle
    unfold crosses
    rw [hext.setup, hext.openTicks]
  simp only [scanTranscript, scanState_of_allPresent hfirst hall,
    scanState_of_allPresent hsecond hallSecond, firstContact, firstRecross, htouches, hcrosses]
  obtain ⟨added, hadded⟩ := hext.children
  rw [← hadded]
  refine ⟨fun contact hcontact => ?_, fun recross hrecross => ?_⟩
  · rw [List.find?_append, Option.mem_def.mp hcontact]
    rfl
  · rw [List.dropWhile_append]
    have hmem := List.mem_of_find?_eq_some hrecross
    rw [if_neg (by simpa using List.ne_nil_of_mem hmem), List.find?_append,
      Option.mem_def.mp hrecross]
    rfl

/-- The second transcript compares well exactly when no more children than intervals are added. -/
theorem validateSameAnchor_iff :
    validateSameAnchor (scanTranscript first children) (scanTranscript second more) = .ok () ↔
      (more.length : Int) - children.length ≤ second.expectedCount - first.expectedCount := by
  have hlt := hext.expectedCount_lt
  have hlength := (prefix_of_extends hext hfirst hsecond).length_le
  have hfirstLe := (ordered_children_of_valid hfirst).length_le
  have hsecondLe := (ordered_children_of_valid hsecond).length_le
  unfold validateSameAnchor
  simp only [then_ok_iff, failIf_ok_iff, ite_ok_iff]
  constructor
  · rintro ⟨-, hcounts, -⟩
    simp only [scanTranscript] at hcounts
    omega
  · intro hadded
    refine ⟨?_, ?_, ?_, ?_, ?_⟩
    · simp [scanTranscript, hext.timeframe, hext.openEpoch, hext.openTicks, hext.resolution,
        hext.lifecycle]
    · simp only [scanTranscript]
      omega
    · rintro ⟨hgap, hnoGap⟩
      have hgap := of_decide_eq_true hgap
      have hnoGap := not_not.mp (of_decide_eq_false hnoGap)
      omega
    · rintro ⟨hseen, hunseen⟩
      rw [seen_of_extends hext hfirst hsecond hseen] at hunseen
      cases hunseen
    · refine ⟨?_, fun _ => rfl⟩
      rintro ⟨hfirstGap, hsecondGap⟩
      have hall := (length_eq_iff_allPresent hfirst).mp (not_not.mp (of_decide_eq_false hfirstGap))
      have hallSecond :=
        (length_eq_iff_allPresent hsecond).mp (not_not.mp (of_decide_eq_false hsecondGap))
      obtain ⟨hcontact, hrecross⟩ := retained_of_extends hext hfirst hsecond hall hallSecond
      constructor
      · rintro ⟨hsome, hchanged⟩
        obtain ⟨contact, hsome⟩ := Option.ne_none_iff_exists'.mp hsome
        exact hchanged ((hcontact contact hsome).trans hsome.symm)
      · rintro ⟨hsome, hchanged⟩
        obtain ⟨recross, hsome⟩ := Option.ne_none_iff_exists'.mp hsome
        exact hchanged ((hrecross recross hsome).trans hsome.symm)

/-- Children that open after the first cutoff are no more than the intervals after it. -/
theorem added_le_of_after
    (hafter : ∀ child ∈ second.children, child ∉ first.children →
      first.scanCutoffEpoch ≤ child.openEpoch) :
    (more.length : Int) - children.length ≤ second.expectedCount - first.expectedCount := by
  have hlt := hext.expectedCount_lt
  have hpos := first.expectedCount_pos
  obtain ⟨added, rfl⟩ := prefix_of_extends hext hfirst hsecond
  have hordered := ordered_children_of_valid hsecond
  have hincreasing := List.pairwise_append.mp hordered.increasing
  have hcutoff : second.openAt first.expectedCount.toNat = first.scanCutoffEpoch := by
    have hproduct := first.resolution_mul_expectedCount
    rw [← hext.openAt_eq, openAt, Int.toNat_of_nonneg hpos.le, Int.mul_comm]
    omega
  have hsubset : added.map second.index ⊆
      List.range' first.expectedCount.toNat (second.expectedCount - first.expectedCount).toNat := by
    intro i hi
    obtain ⟨child, hchild, rfl⟩ := List.mem_map.mp hi
    have hmem : child ∈ children ++ added := List.mem_append_right _ hchild
    have hbelow := hordered.index_lt hmem
    have hopen := hordered.openEpoch_eq hmem
    have habove : first.scanCutoffEpoch ≤ child.openEpoch := by
      apply hafter child
      · rw [eq_filter_of_valid hsecond] at hmem
        exact List.mem_of_mem_filter hmem
      · intro hearlier
        -- an added child of the proof's size is none of the first children
        have hspans := spans_of_valid hsecond hmem
        rw [hext.resolution] at hspans
        have hfound : child ∈ children := by
          rw [eq_filter_of_valid hfirst, List.mem_filter]
          exact ⟨hearlier, decide_eq_true (by omega)⟩
        exact absurd (hincreasing.2.2 child hfound child hchild) (lt_irrefl _)
    have hindex : ¬ second.index child < first.expectedCount.toNat := by
      intro hearlier
      have hopenLt : second.openAt (second.index child) <
          second.openAt first.expectedCount.toNat := openAt_lt_openAt.mpr hearlier
      omega
    rw [List.mem_range'_1]
    omega
  have hnodup : (added.map second.index).Nodup := by
    have hindices := hordered.indices_increasing
    rw [List.map_append] at hindices
    exact (List.pairwise_append.mp hindices).2.1.imp ne_of_lt
  have hle := (hnodup.subperm hsubset).length_le
  rw [List.length_map, List.length_range'] at hle
  rw [List.length_append]
  omega

end Extends

/-- How many children of a request span an interval of the proof. -/
def HTFFlipScanRequest.observedCount (request : HTFFlipScanRequest) : Int :=
  request.children.countP request.spans

theorem observedCount_eq {request : HTFFlipScanRequest} {children : List OrderedCandle}
    (h : validChildrenByOpen request = .ok children) :
    request.observedCount = children.length := by
  rw [observedCount, List.countP_eq_length_filter, ← eq_filter_of_valid h]

/-- A scan that returns has accepted its children and returns the proof of its transcript. -/
theorem transcript_of_scan {sha256 : ByteArray → String} (hsha : IsSha256 sha256)
    {request : HTFFlipScanRequest} {proof : HTFFlipProof}
    (h : scanHtfFlip sha256 request = .ok proof) :
    ∃ children, validChildrenByOpen request = .ok children ∧
      proof.transcript = scanTranscript request children := by
  obtain ⟨children, hvalid, -⟩ := bind_ok_iff.mp h
  obtain ⟨digest, rfl⟩ := scanHtfFlip_ok hsha hvalid h
  exact ⟨children, hvalid, rfl⟩

/-- The second of two growing scans is accepted after the first exactly when it adds no more
children than intervals. -/
theorem upsert_extends_iff {sha256 : ByteArray → String} (hsha : IsSha256 sha256)
    {first second : HTFFlipScanRequest} (hext : first.Extends second)
    {firstProof secondProof : HTFFlipProof} (hfirst : scanHtfFlip sha256 first = .ok firstProof)
    (hsecond : scanHtfFlip sha256 second = .ok secondProof) {transcripts transcripts' : Transcripts}
    (hupsert : upsertLatestHtfTranscript transcripts firstProof.transcript = .ok transcripts') :
    (∃ result, upsertLatestHtfTranscript transcripts' secondProof.transcript = .ok result) ↔
      second.observedCount - first.observedCount ≤
        second.expectedCount - first.expectedCount := by
  obtain ⟨children, hvalid, htranscript⟩ := transcript_of_scan hsha hfirst
  obtain ⟨more, hvalidSecond, htranscriptSecond⟩ := transcript_of_scan hsha hsecond
  have hget := upsert_get hupsert
  rw [htranscript] at hget
  have hcontext : (scanTranscript first children).contextMinutes =
      (scanTranscript second more).contextMinutes := hext.timeframe.symm
  rw [hcontext] at hget
  rw [htranscriptSecond, upsert_isOk_iff hget hext.openEpoch hext.later,
    validateSameAnchor_iff hext hvalid hvalidSecond, observedCount_eq hvalid,
    observedCount_eq hvalidSecond]

/-- The scan of accepted children fails exactly when its transcript has a number outside the
canonical range. Its candles are the first ones when no child is missing, it is exact in the cases
of `IsExact`, and never with a missing child. The transcript of a growing scan is accepted after the
one it extends exactly when it adds no more children than intervals, and so whenever the added
children open after the first cutoff. -/
theorem flip_scan_correct (sha256 : ByteArray → String) (hsha : IsSha256 sha256) :
    (∀ request children, validChildrenByOpen request = .ok children →
      ((∃ proof, scanHtfFlip sha256 request = .ok proof) ↔
        (scanTranscript request children).Safe) ∧
      (request.Safe → ∃ proof, scanHtfFlip sha256 request = .ok proof) ∧
      ∀ proof, scanHtfFlip sha256 request = .ok proof →
        (request.AllPresent →
          proof.contactChild = request.firstContact ∧ proof.recrossChild = request.firstRecross) ∧
        (proof.fidelity = .exact ↔ ∃ contact recross, request.IsExact contact recross) ∧
        (¬ request.AllPresent → proof.fidelity = .unresolved)) ∧
    ∀ first second : HTFFlipScanRequest, first.Extends second →
      ∀ firstProof secondProof, scanHtfFlip sha256 first = .ok firstProof →
        scanHtfFlip sha256 second = .ok secondProof →
        ∀ transcripts transcripts',
          upsertLatestHtfTranscript transcripts firstProof.transcript = .ok transcripts' →
          ((∃ result, upsertLatestHtfTranscript transcripts' secondProof.transcript = .ok result) ↔
            second.observedCount - first.observedCount ≤
              second.expectedCount - first.expectedCount) ∧
          ((∀ child ∈ second.children, child ∉ first.children →
              first.scanCutoffEpoch ≤ child.openEpoch) →
            ∃ result, upsertLatestHtfTranscript transcripts' secondProof.transcript =
              .ok result) := by
  constructor
  · intro request children h
    refine ⟨scanHtfFlip_isOk_iff hsha h, ?_, ?_⟩
    · intro hsafe
      exact (scanHtfFlip_isOk_iff hsha h).mpr (safe_scanTranscript h hsafe)
    · intro proof hproof
      obtain ⟨digest, rfl⟩ := scanHtfFlip_ok hsha h hproof
      have hexact := transcriptExact_scan h
      refine ⟨?_, ?_, ?_⟩
      · intro hall
        simp only [proofOf, scanTranscript, scanState_of_allPresent h hall, and_self]
      · rw [← hexact, proofOf]
        split_ifs with hverdict <;> simp [hverdict]
      · intro hmissing
        refine if_neg fun hverdict => ?_
        obtain ⟨contact, recross, hcase⟩ := hexact.mp hverdict
        exact hmissing hcase.present
  · intro first second hext firstProof secondProof hfirst hsecond transcripts transcripts' hupsert
    have hiff := upsert_extends_iff hsha hext hfirst hsecond hupsert
    refine ⟨hiff, fun hafter => hiff.mpr ?_⟩
    obtain ⟨children, hvalid, -⟩ := transcript_of_scan hsha hfirst
    obtain ⟨more, hvalidSecond, -⟩ := transcript_of_scan hsha hsecond
    rw [observedCount_eq hvalid, observedCount_eq hvalidSecond]
    exact added_le_of_after hext hvalid hvalidSecond hafter

/-! ## Scans of a quarter hour -/

def quarterHour (cutoff openTicks : Int) (children : List OrderedCandle)
    (completed : CompletedHtfPrefix 15 0 cutoff 150) : HTFFlipScanRequest where
  setup := ⟨.long, 110, 100, by decide⟩
  timeframeMinutes := 15
  htfOpenEpoch := 0
  scanCutoffEpoch := cutoff
  htfOpenTicks := openTicks
  children := children
  proofResolutionSeconds := 150
  fullLifecycleOrdered := true
  completed := completed

theorem completed_300 : CompletedHtfPrefix 15 0 300 150 := by constructor <;> decide

theorem completed_600 : CompletedHtfPrefix 15 0 600 150 := by constructor <;> decide

def dip : OrderedCandle := ⟨0, 150, 115, 118, 108, 112, by decide, by decide, by decide, by decide⟩

def rebound : OrderedCandle :=
  ⟨150, 300, 112, 125, 111, 122, by decide, by decide, by decide, by decide⟩

def quiet (openEpoch : Int) (h : 0 ≤ openEpoch) : OrderedCandle :=
  ⟨openEpoch, openEpoch + 150, 122, 123, 121, 122, h, by omega, by decide, by decide⟩

def firstFive : HTFFlipScanRequest := quarterHour 300 120 [dip, rebound] completed_300

def firstTen : HTFFlipScanRequest :=
  quarterHour 600 120 [dip, rebound, quiet 300 (by decide), quiet 450 (by decide)] completed_600

theorem firstTen_extends : firstFive.Extends firstTen where
  setup := rfl
  timeframe := rfl
  openEpoch := rfl
  openTicks := rfl
  resolution := rfl
  lifecycle := rfl
  later := by decide
  children := ⟨[quiet 300 (by decide), quiet 450 (by decide)], rfl⟩

/-- The digests of the transcripts of the two scans, of which only the second has the digit 6. -/
def quarterHourSha256 (bytes : ByteArray) : String :=
  if bytes.toList.contains 54 then
    "121a0b944259b7e35fdad85a9cce0e471e22b7216bfdac9aee7ae07589275516"
  else "46ae393549733154db2d8962f753ef8534e2c643b3821a49a349985aec8cbd16"

theorem isSha256_quarterHour : IsSha256 quarterHourSha256 where
  text bytes := by
    unfold quarterHourSha256
    split_ifs <;> decide +kernel
  nonzero bytes := by
    unfold quarterHourSha256
    split_ifs <;> decide +kernel

theorem firstFive_safe : firstFive.Safe := ⟨by decide, by decide, by decide⟩

theorem firstTen_safe : firstTen.Safe := ⟨by decide, by decide, by decide⟩

theorem firstFive_isExact : firstFive.IsExact dip rebound where
  isContact := by decide
  isRecross := by decide
  present :=
    (length_eq_iff_allPresent
      (show validChildrenByOpen firstFive = .ok [dip, rebound] from rfl)).mp rfl
  lifecycle := rfl
  notBefore := by decide
  opened := by decide

/-- The scan of the first five minutes is exact, and the scan of ten minutes is accepted after
it. -/
theorem firstFive_exact_firstTen_accepted :
    (∃ proof, scanHtfFlip quarterHourSha256 firstFive = .ok proof ∧ proof.fidelity = .exact) ∧
      ∃ firstProof secondProof transcripts result,
        scanHtfFlip quarterHourSha256 firstFive = .ok firstProof ∧
        scanHtfFlip quarterHourSha256 firstTen = .ok secondProof ∧
        upsertLatestHtfTranscript (fun _ => none) firstProof.transcript = .ok transcripts ∧
        upsertLatestHtfTranscript transcripts secondProof.transcript = .ok result := by
  have hcorrect := flip_scan_correct quarterHourSha256 isSha256_quarterHour
  obtain ⟨-, hfive, hexact⟩ := hcorrect.1 firstFive _ rfl
  obtain ⟨-, hten, -⟩ := hcorrect.1 firstTen _ rfl
  obtain ⟨firstProof, hfirst⟩ := hfive firstFive_safe
  obtain ⟨secondProof, hsecond⟩ := hten firstTen_safe
  obtain ⟨-, haccepted⟩ := hcorrect.2 firstFive firstTen firstTen_extends firstProof secondProof
    hfirst hsecond (fun _ => none) _ rfl
  obtain ⟨result, hresult⟩ := haccepted (by decide)
  exact ⟨⟨firstProof, hfirst, (hexact firstProof hfirst).2.1.mpr ⟨_, _, firstFive_isExact⟩⟩,
    firstProof, secondProof, _, result, hfirst, hsecond, rfl, hresult⟩

/-! ## A price out of range and a late child -/

def outOfRange : HTFFlipScanRequest := quarterHour 300 9007199254740992 [] completed_300

/-- The child of the second interval comes with the second request only. -/
def withoutRebound : HTFFlipScanRequest := quarterHour 300 120 [dip] completed_300

theorem firstTen_extends_withoutRebound : withoutRebound.Extends firstTen where
  setup := rfl
  timeframe := rfl
  openEpoch := rfl
  openTicks := rfl
  resolution := rfl
  lifecycle := rfl
  later := by decide
  children := ⟨[rebound, quiet 300 (by decide), quiet 450 (by decide)], rfl⟩

/-- The scan raises at a price outside the canonical range, and a child that comes late makes the
second transcript inadmissible after the first. -/
theorem out_of_range_raises_late_child_refused :
    (validChildrenByOpen outOfRange = .ok [] ∧ ∀ sha256, scanHtfFlip sha256 outOfRange =
      .error "$.htf_open_ticks: integer is outside cross-language range") ∧
    withoutRebound.Extends firstTen ∧
      ∀ sha256, IsSha256 sha256 → ∃ firstProof secondProof transcripts,
        scanHtfFlip sha256 withoutRebound = .ok firstProof ∧
        scanHtfFlip sha256 firstTen = .ok secondProof ∧
        upsertLatestHtfTranscript (fun _ => none) firstProof.transcript = .ok transcripts ∧
        upsertLatestHtfTranscript transcripts secondProof.transcript =
          .error "same-anchor HTF transcript prefix counts are not monotonic" := by
  refine ⟨⟨rfl, fun sha256 => ?_⟩, firstTen_extends_withoutRebound, fun sha256 hsha => ?_⟩
  · rfl
  · have hsafe : withoutRebound.Safe := ⟨by decide, by decide, by decide⟩
    obtain ⟨firstProof, hfirst⟩ :=
      (scanHtfFlip_isOk_iff hsha rfl).mpr (safe_scanTranscript rfl hsafe)
    obtain ⟨secondProof, hsecond⟩ :=
      (scanHtfFlip_isOk_iff hsha rfl).mpr (safe_scanTranscript rfl firstTen_safe)
    obtain ⟨_, hvalid, htranscript⟩ := transcript_of_scan hsha hfirst
    obtain ⟨_, hvalidSecond, htranscriptSecond⟩ := transcript_of_scan hsha hsecond
    obtain rfl := Except.ok.inj hvalid
    obtain rfl := Except.ok.inj hvalidSecond
    refine ⟨firstProof, secondProof, _, hfirst, hsecond, rfl, ?_⟩
    rw [htranscript, htranscriptSecond]
    rfl

end TradeOps.EntryModels
