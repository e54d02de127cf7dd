import TradeOps.EntryModels.FlipProofs

/-!
# The verdict of the flip scan

The scan of accepted children returns the proof of its transcript unless one of the numbers of the
transcript is outside the canonical range, and the proof is exact in the cases that `IsExact` lists.
-/

namespace TradeOps.EntryModels

open Canonical Checks HTFFlipScanRequest SafeIntegers

variable {sha256 : ByteArray → String} {request : HTFFlipScanRequest}
  {children : List OrderedCandle}

/-- What the code relies on in `hashlib.sha256(...).hexdigest()`. -/
structure IsSha256 (sha256 : ByteArray → String) : Prop where
  text : ∀ bytes, Entry.sha256Text (sha256 bytes) = true
  nonzero : ∀ bytes, sha256 bytes ≠ Entry.zeroSha256

/-! ## The scan returns the proof of its transcript -/

theorem canonicalSha256_ok {value : PyObject} {digest : String}
    (h : canonicalSha256 sha256 value = .ok digest) : ∃ bytes, digest = sha256 bytes := by
  obtain ⟨bytes, -, hdigest⟩ := bind_ok_iff.mp h
  rw [pure_ok_iff] at hdigest
  exact ⟨bytes, hdigest.symm⟩

theorem proofPostInit_scan (hsha : IsSha256 sha256) {digest : String}
    (hdigest : canonicalSha256 sha256 (scanTranscript request children).toMapping = .ok digest) :
    proofPostInit sha256 (proofOf request.setup (scanTranscript request children) digest) =
      .ok () := by
  have hopen := request.completed.openEpoch
  have hnonempty := request.completed.nonempty
  have hresolution := request.completed.resolution
  have hexpected := request.expectedCount_pos
  have hcontext := request.completed.context
  obtain ⟨bytes, rfl⟩ := canonicalSha256_ok hdigest
  have hagrees :
      (proofOf request.setup (scanTranscript request children) (sha256 bytes)).Agrees :=
    ⟨rfl, rfl, rfl, rfl, rfl, rfl, rfl, rfl, rfl, rfl, rfl, rfl, rfl, rfl, rfl⟩
  simp only [proofPostInit, Entry.Py.requireNonNegative, Entry.Py.requirePositive,
    Entry.Py.requireSha256, Entry.Py.requireSortedUniqueContexts, then_ok_iff, failIf_ok_iff,
    whenSome_ok_iff, forAll_ok_iff]
  refine ⟨?_, ?_, ?_, ⟨?_, ?_⟩, ?_, ?_, ?_, ?_, ?_, ?_, ?_, ?_, not_not.mpr hagrees, ?_⟩
  · simp only [proofOf, scanTranscript]
    omega
  · simp [proofOf]
  · intro trigger htrigger
    obtain ⟨recross, -, rfl⟩ := Option.map_eq_some_iff.mp htrigger
    have := recross.nonneg
    have := recross.increasing
    omega
  · intro context hmem
    obtain rfl : context = request.timeframeMinutes := List.mem_singleton.mp hmem
    omega
  · simp [proofOf, SortBy.sortBy]
  · simp only [proofOf, scanTranscript]
    omega
  · simp only [proofOf, scanTranscript]
    omega
  · simp only [proofOf, scanTranscript]
    omega
  · simp only [proofOf, scanTranscript]
    omega
  · simp only [proofOf, scanTranscript]
    omega
  · simp only [proofOf, scanTranscript]
    omega
  · simp only [proofOf, transcriptAmbiguityCodes, not_not]
    split_ifs <;> simp
  · simp [proofOf, hsha.text, hsha.nonzero]
  · rw [proofOf, hdigest, ok_bind_eq, failIf_ok_iff]
    exact not_not.mpr rfl

/-- The scan of accepted children can only fail at the digest of its transcript. -/
theorem scanHtfFlip_eq (hsha : IsSha256 sha256)
    (h : validChildrenByOpen request = .ok children) :
    scanHtfFlip sha256 request =
      (canonicalSha256 sha256 (scanTranscript request children).toMapping).map
        (proofOf request.setup (scanTranscript request children)) := by
  unfold scanHtfFlip validateHtfFlipTranscript
  rw [h, ok_bind_eq]
  dsimp only
  rw [transcriptPostInit_scan h, ok_bind_eq, validateTranscriptShape_scan h,
    ok_bind_eq, validateLifecycle_scan h, ok_bind_eq]
  cases hdigest : canonicalSha256 sha256 (scanTranscript request children).toMapping with
  | error message => rfl
  | ok digest =>
    rw [ok_bind_eq, proofPostInit_scan hsha hdigest]
    rfl

theorem scanHtfFlip_ok (hsha : IsSha256 sha256) (h : validChildrenByOpen request = .ok children)
    {proof : HTFFlipProof} (hproof : scanHtfFlip sha256 request = .ok proof) :
    ∃ digest, proof = proofOf request.setup (scanTranscript request children) digest := by
  rw [scanHtfFlip_eq hsha h] at hproof
  cases hdigest : canonicalSha256 sha256 (scanTranscript request children).toMapping with
  | error message =>
    rw [hdigest] at hproof
    cases hproof
  | ok digest =>
    rw [hdigest] at hproof
    exact ⟨digest, (Except.ok.inj hproof).symm⟩

/-! ## Numbers in the canonical range -/

/-- The prices of the candle are in the cross-language range. -/
def OrderedCandle.SafeTicks (candle : OrderedCandle) : Prop :=
  IsSafe candle.lowTicks ∧ IsSafe candle.highTicks

instance (candle : OrderedCandle) : Decidable candle.SafeTicks :=
  inferInstanceAs (Decidable (_ ∧ _))

/-- The numbers of a transcript on which its canonical form depends. -/
structure HTFFlipProofTranscript.Safe (transcript : HTFFlipProofTranscript) : Prop where
  cutoff : IsSafe transcript.scanCutoffEpoch
  openTicks : IsSafe transcript.htfOpenTicks
  contact : ∀ candle ∈ transcript.contactCandle, candle.SafeTicks
  recross : ∀ candle ∈ transcript.recrossCandle, candle.SafeTicks

/-- The numbers of a request are in the cross-language range. -/
structure HTFFlipScanRequest.Safe (request : HTFFlipScanRequest) : Prop where
  cutoff : IsSafe request.scanCutoffEpoch
  openTicks : IsSafe request.htfOpenTicks
  children : ∀ child ∈ request.children, child.SafeTicks

theorem accepted_mapping_iff {items : List (String × PyObject)} {location : String}
    (hkeys : ((items.map Prod.fst).all fun name => matchesKeyPattern (mappingKey name)) = true) :
    Accepted (mapping items) location ↔ ∀ item ∈ items,
      Accepted item.2 (location ++ "." ++ String.ofList (mappingKey item.1).chars) := by
  unfold mapping
  rw [accepted_dict_iff, List.forall_mem_map]
  constructor
  · exact fun h item hitem => (h item hitem).2
  · intro h item hitem
    exact ⟨List.all_eq_true.mp hkeys _ (List.mem_map_of_mem hitem), h item hitem⟩

/-- A candle that closes in the range is accepted when its prices are in the range. -/
theorem accepted_candle_iff {candle : OrderedCandle} {location : String}
    (hclose : candle.closeEpoch ≤ maxSafeInteger) :
    Accepted candle.toMapping location ↔ candle.SafeTicks := by
  have hnonneg := candle.nonneg
  have hincreasing := candle.increasing
  have hhigh := candle.high
  have hlow := candle.low
  have hrange : 0 ≤ maxSafeInteger := by decide
  unfold OrderedCandle.toMapping
  rw [accepted_mapping_iff (by dsimp only [List.map]; decide)]
  simp only [List.forall_mem_cons, List.not_mem_nil, false_implies, implies_true, and_true,
    accepted_int_iff, OrderedCandle.SafeTicks, IsSafe]
  omega

theorem accepted_optionalCandle_iff {candle : Option OrderedCandle} {location : String}
    (hclose : ∀ c ∈ candle, c.closeEpoch ≤ maxSafeInteger) :
    Accepted (optionalCandle candle) location ↔ ∀ c ∈ candle, c.SafeTicks := by
  cases candle with
  | none => simp [optionalCandle]
  | some candle =>
    simpa [optionalCandle] using accepted_candle_iff (hclose candle rfl)

/-- The transcript of the scan has a canonical form exactly when these numbers have one. -/
theorem accepted_scanTranscript_iff (h : validChildrenByOpen request = .ok children)
    {location : String} :
    Accepted (scanTranscript request children).toMapping location ↔
      (scanTranscript request children).Safe := by
  have hretains := retains_at_cutoff h
  have hordered := ordered_children_of_valid h
  have hlength := hordered.length_le
  have hopen := request.completed.openEpoch
  have hnonempty := request.completed.nonempty
  have hinside := request.completed.inside
  have hcontext := request.completed.context
  have hresolution := request.completed.resolution
  have hbelow := request.completed.below
  have hexpected := request.expectedCount_pos
  have hcount : request.expectedCount ≤ 3600 := by
    have hproduct := request.resolution_mul_expectedCount
    have := Int.mul_le_mul_of_nonneg_right
      (show (1 : Int) ≤ request.proofResolutionSeconds by omega)
      hexpected.le
    omega
  have hmax : maxSafeInteger = 9007199254740991 := rfl
  unfold HTFFlipProofTranscript.toMapping
  rw [accepted_mapping_iff (by dsimp only [List.map]; decide)]
  simp only [List.forall_mem_cons, List.not_mem_nil, false_implies, implies_true, and_true,
    true_and, accepted_int_iff, accepted_bool]
  constructor
  · rintro ⟨-, -, hticks, hcutoff, -, -, -, -, -, hcontact, hrecross⟩
    have hclose : ∀ c ∈ children, c.closeEpoch ≤ maxSafeInteger := fun c hc =>
      (hordered.cutoff c hc).trans hcutoff.2
    refine ⟨hcutoff, hticks, ?_, ?_⟩
    · exact (accepted_optionalCandle_iff fun c hc =>
        hclose c (hretains.contact c hc).1).mp hcontact
    · exact (accepted_optionalCandle_iff fun c hc =>
        hclose c (hretains.recross c hc).1).mp hrecross
  · rintro ⟨hcutoff, hticks, hcontact, hrecross⟩
    have hclose : ∀ c ∈ children, c.closeEpoch ≤ maxSafeInteger := fun c hc =>
      (hordered.cutoff c hc).trans hcutoff.2
    have hcutoffLe : request.scanCutoffEpoch ≤ maxSafeInteger := hcutoff.2
    have hnumbers : IsSafe request.timeframeMinutes ∧ IsSafe request.htfOpenEpoch ∧
        IsSafe request.proofResolutionSeconds ∧ IsSafe request.expectedCount ∧
        IsSafe (children.length : Int) := by
      unfold IsSafe
      omega
    obtain ⟨hcontextSafe, hopenSafe, hresolutionSafe, hexpectedSafe, hobservedSafe⟩ := hnumbers
    refine ⟨hcontextSafe, hopenSafe, hticks, hcutoff, hresolutionSafe, hopenSafe, hcutoff,
      hexpectedSafe, hobservedSafe, ?_, ?_⟩
    · exact (accepted_optionalCandle_iff fun c hc =>
        hclose c (hretains.contact c hc).1).mpr hcontact
    · exact (accepted_optionalCandle_iff fun c hc =>
        hclose c (hretains.recross c hc).1).mpr hrecross

/-- The scan of accepted children fails exactly at numbers outside the canonical range. -/
theorem scanHtfFlip_isOk_iff (hsha : IsSha256 sha256)
    (h : validChildrenByOpen request = .ok children) :
    (∃ proof, scanHtfFlip sha256 request = .ok proof) ↔
      (scanTranscript request children).Safe := by
  rw [← accepted_scanTranscript_iff h, ← canonicalJsonBytes_ok_iff, scanHtfFlip_eq hsha h,
    canonicalSha256]
  cases canonicalJsonBytes (scanTranscript request children).toMapping <;>
    simp [bind, Except.bind, pure, Except.pure, Except.map]

theorem safe_scanTranscript (h : validChildrenByOpen request = .ok children)
    (hsafe : request.Safe) : (scanTranscript request children).Safe := by
  have hretains := retains_at_cutoff h
  have hsubset : ∀ child ∈ children, child.SafeTicks := by
    intro child hchild
    rw [eq_filter_of_valid h] at hchild
    exact hsafe.children child (List.mem_of_mem_filter hchild)
  exact
    { cutoff := hsafe.cutoff
      openTicks := hsafe.openTicks
      contact := fun candle hcandle => hsubset candle (hretains.contact candle hcandle).1
      recross := fun candle hcandle => hsubset candle (hretains.recross candle hcandle).1 }

/-! ## Exactness -/

/-- The lifecycle that makes a proof exact. -/
structure HTFFlipScanRequest.IsExact (request : HTFFlipScanRequest)
    (contact recross : OrderedCandle) : Prop where
  isContact : request.firstContact = some contact
  isRecross : request.firstRecross = some recross
  present : request.AllPresent
  lifecycle : request.fullLifecycleOrdered = true
  notBefore : ∀ child ∈ request.children, child.openEpoch < contact.openEpoch →
    request.crosses child = false
  opened : contact = recross → request.setup.zoneBottomTicks ≤ contact.openTicks ∧
    contact.openTicks ≤ request.setup.zoneTopTicks

/-- The children before the first contact. -/
theorem takeWhile_any_eq_false_iff (hordered : request.Ordered request.children)
    {contact : OrderedCandle} (hcontact : request.firstContact = some contact) :
    (request.children.takeWhile fun child => !request.touches child).any request.crosses = false ↔
      ∀ child ∈ request.children, child.openEpoch < contact.openEpoch →
        request.crosses child = false := by
  obtain ⟨htouches, before, after, hsplit, hbefore⟩ := List.find?_eq_some_iff_append.mp hcontact
  have hincreasing := hordered.increasing
  rw [hsplit, List.pairwise_append, List.pairwise_cons] at hincreasing
  obtain ⟨-, ⟨hafter, -⟩, hcross⟩ := hincreasing
  have htake : request.children.takeWhile (fun child => !request.touches child) = before := by
    rw [hsplit, List.takeWhile_append_of_pos hbefore]
    simp [htouches]
  rw [htake, List.any_eq_false, hsplit]
  constructor
  · intro h child hchild hearlier
    obtain hmem | hmem := List.mem_append.mp hchild
    · exact Bool.eq_false_iff.mpr (h child hmem)
    · obtain rfl | hmem := List.mem_cons.mp hmem
      · exact absurd hearlier (lt_irrefl _)
      · exact absurd hearlier (lt_asymm (hafter child hmem))
  · intro h child hchild
    exact Bool.eq_false_iff.mp (h child (List.mem_append_left _ hchild)
      (hcross child hchild contact List.mem_cons_self))

theorem Retains.sameInterval_iff {now : Int} {state : ScanState}
    (h : Retains request children now state) {contact recross : OrderedCandle}
    (hcontact : state.contact = some contact) (hrecross : state.recross = some recross) :
    sameInterval state.contact state.recross = true ↔ contact = recross := by
  obtain ⟨_, hsome, horder⟩ := h.order recross hrecross
  obtain rfl := Option.some.inj (hcontact.symm.trans hsome)
  have hincreasing := contact.increasing
  rw [hcontact, hrecross, sameInterval, decide_eq_true_iff]
  constructor
  · intro hsame
    obtain heq | horder := horder
    · exact heq
    · omega
  · intro heq
    rw [heq]
    exact ⟨rfl, rfl⟩

/-- A transcript without a gap is exact when these facts hold of its candles. -/
theorem transcriptExact_iff {setup : SetupEntryFacts} {transcript : HTFFlipProofTranscript}
    (hgap : transcript.gapPresent = false)
    (hcount : transcript.expectedChildCount = transcript.observedChildCount) :
    transcriptExact setup transcript = true ↔ ∃ contact recross,
      transcript.contactCandle = some contact ∧ transcript.recrossCandle = some recross ∧
      transcript.fullLifecycleOrdered = true ∧ transcript.destinationSeenBeforeContact = false ∧
      (transcript.sameChild = true → setup.zoneBottomTicks ≤ contact.openTicks ∧
        contact.openTicks ≤ setup.zoneTopTicks) := by
  unfold transcriptExact sameChildAmbiguous contactAtOpen HTFFlipProofTranscript.matched
  rw [hgap, hcount]
  cases transcript.contactCandle with
  | none => simp
  | some contact =>
    cases transcript.recrossCandle with
    | none => simp
    | some recross =>
      cases transcript.sameChild <;> simp [and_assoc]

theorem transcriptExact_scan (h : validChildrenByOpen request = .ok children) :
    transcriptExact request.setup (scanTranscript request children) = true ↔
      ∃ contact recross, request.IsExact contact recross := by
  have hretains := retains_at_cutoff h
  by_cases hall : request.AllPresent
  · have hstate := scanState_of_allPresent h hall
    have hcount := (length_eq_iff_allPresent h).mpr hall
    rw [hstate] at hretains
    rw [transcriptExact_iff (by simp [scanTranscript, hcount]) hcount.symm]
    simp only [scanTranscript, hstate]
    constructor
    · rintro ⟨contact, recross, hcontact, hrecross, hlifecycle, hseen, hopened⟩
      refine ⟨contact, recross, hcontact, hrecross, hall, hlifecycle, ?_, ?_⟩
      · exact (takeWhile_any_eq_false_iff (ordered_of_valid h) hcontact).mp hseen
      · exact fun heq => hopened ((hretains.sameInterval_iff hcontact hrecross).mpr heq)
    · rintro ⟨contact, recross, hexact⟩
      refine ⟨contact, recross, hexact.isContact, hexact.isRecross, hexact.lifecycle, ?_, ?_⟩
      · exact (takeWhile_any_eq_false_iff (ordered_of_valid h) hexact.isContact).mpr
          hexact.notBefore
      · exact fun hsame => hexact.opened
          ((hretains.sameInterval_iff hexact.isContact hexact.isRecross).mp hsame)
  · have hcount : ¬ (children.length : Int) = request.expectedCount :=
      fun hcount => hall ((length_eq_iff_allPresent h).mp hcount)
    constructor
    · intro hexact
      simp [transcriptExact, scanTranscript, hcount] at hexact
    · rintro ⟨contact, recross, hexact⟩
      exact absurd hexact.present hall

end TradeOps.EntryModels
