import TradeOps.EntryModels.Domain

/-!
# The scan for a flip of the higher timeframe

Embeds `rd_intrabar_oracle.py`: the replay of a transcript into a proof, and the scan that walks the
children of a higher-timeframe candle oldest first, retains the contact with the zone and the
recross of the open, and replays the transcript it wrote. The fields that the constructor of a
request checks are those of `CompletedHtfPrefix`.
-/

namespace TradeOps.EntryModels

open Canonical Checks

def contactsZone (setup : SetupEntryFacts) (candle : OrderedCandle) : Bool :=
  candle.lowTicks ≤ setup.zoneTopTicks ∧ candle.highTicks ≥ setup.zoneBottomTicks

def recrossesHtfOpen (direction : EntryDirection) (htfOpenTicks : Int) (candle : OrderedCandle) :
    Bool :=
  match direction with
  | .long => candle.highTicks > htfOpenTicks
  | .short => candle.lowTicks < htfOpenTicks

/-! ## The replay of a transcript -/

/-- The checks of a retained candle, which the errors call `name`. -/
def validateRetained (transcript : HTFFlipProofTranscript) (name : String)
    (candle : OrderedCandle) : Except String Unit := do
  failIf
    (candle.openEpoch < transcript.coverageStartEpoch ∨
      candle.closeEpoch > transcript.coverageEndEpoch)
    (name ++ " lies outside transcript coverage")
  failIf (candle.closeEpoch - candle.openEpoch ≠ transcript.proofResolutionSeconds)
    (name ++ " must span one proof-resolution interval")
  failIf
    ((candle.openEpoch - transcript.coverageStartEpoch) % transcript.proofResolutionSeconds ≠ 0)
    (name ++ " must be proof-resolution aligned")

def retainedIntervals (transcript : HTFFlipProofTranscript) : List (Int × Int) :=
  ((transcript.contactCandle.toList ++ transcript.recrossCandle.toList).map
    fun candle => (candle.openEpoch, candle.closeEpoch)).dedup

def validateTranscriptShape (transcript : HTFFlipProofTranscript) : Except String Unit := do
  discard (validateCompletedHtfPrefix transcript.contextMinutes transcript.htfOpenEpoch
    transcript.scanCutoffEpoch transcript.proofResolutionSeconds)
  let resolution := transcript.proofResolutionSeconds
  let coverageSeconds := transcript.coverageEndEpoch - transcript.coverageStartEpoch
  failIf (coverageSeconds % resolution ≠ 0) "coverage length must align to proof resolution"
  let expectedCount := coverageSeconds / resolution
  failIf (transcript.expectedChildCount ≠ expectedCount)
    "expected child count does not match transcript coverage"
  failIf
    (¬ (0 ≤ transcript.observedChildCount ∧ transcript.observedChildCount ≤ expectedCount))
    "observed child count is outside the expected range"
  failIf
    (transcript.gapPresent ≠
      decide (transcript.observedChildCount ≠ transcript.expectedChildCount))
    "gap flag must exactly reflect missing child coverage"
  whenSome transcript.contactCandle (validateRetained transcript "contact candle")
  whenSome transcript.recrossCandle (validateRetained transcript "recross candle")
  failIf (transcript.observedChildCount < (retainedIntervals transcript).length)
    "observed child count cannot be below retained candle intervals"

/-- The checks of the retained candles against the setup. -/
def validateLifecycle (setup : SetupEntryFacts) (transcript : HTFFlipProofTranscript) :
    Except String Unit := do
  let crosses := recrossesHtfOpen setup.direction transcript.htfOpenTicks
  whenSome transcript.contactCandle fun contact =>
    failIf (contactsZone setup contact = false) "contact candle does not contact the setup zone"
  whenSome transcript.recrossCandle fun recross =>
    failIf (crosses recross = false) "recross candle does not cross the HTF open"
  failIf (transcript.recrossCandle.isSome ∧ transcript.contactCandle.isNone)
    "recross cannot precede the retained contact"
  whenSome transcript.contactCandle fun contact =>
    whenSome transcript.recrossCandle fun recross =>
      if transcript.sameChild then
        failIf (contact ≠ recross) "same-child transcript candles differ"
      else
        failIf (contact.closeEpoch > recross.openEpoch)
          "distinct contact and recross are not chronological"
  whenSome transcript.contactCandle fun contact =>
    failIf
      (crosses contact = true ∧
        (transcript.sameChild = false ∨ transcript.recrossCandle ≠ some contact))
      "contact candle already crosses the HTF open and must be the same-child recross"

def HTFFlipProofTranscript.matched (transcript : HTFFlipProofTranscript) : Bool :=
  transcript.contactCandle.isSome && transcript.recrossCandle.isSome

def contactAtOpen (setup : SetupEntryFacts) (transcript : HTFFlipProofTranscript) : Bool :=
  transcript.contactCandle.any fun contact =>
    setup.zoneBottomTicks ≤ contact.openTicks ∧ contact.openTicks ≤ setup.zoneTopTicks

def sameChildAmbiguous (setup : SetupEntryFacts) (transcript : HTFFlipProofTranscript) : Bool :=
  transcript.matched && transcript.sameChild && !contactAtOpen setup transcript

def transcriptExact (setup : SetupEntryFacts) (transcript : HTFFlipProofTranscript) : Bool :=
  transcript.matched && !transcript.gapPresent &&
    transcript.expectedChildCount == transcript.observedChildCount &&
    transcript.fullLifecycleOrdered && !transcript.destinationSeenBeforeContact &&
    !sameChildAmbiguous setup transcript

def transcriptAmbiguityCodes (setup : SetupEntryFacts) (transcript : HTFFlipProofTranscript) :
    List AmbiguityCode :=
  (if sameChildAmbiguous setup transcript then [.sameChildBarOrder] else []) ++
    if transcript.gapPresent then [.missingIntrabarCoverage] else []

/-- The proof that a transcript stands for. -/
def proofOf (setup : SetupEntryFacts) (transcript : HTFFlipProofTranscript)
    (transcriptSha256 : String) : HTFFlipProof where
  matched := transcript.matched
  eventAnchorEpoch := transcript.htfOpenEpoch
  triggerEpoch := transcript.recrossCandle.map (·.closeEpoch)
  triggerTicks := transcript.recrossCandle.map fun _ => transcript.htfOpenTicks
  htfContextMinutes := [transcript.contextMinutes]
  fidelity := if transcriptExact setup transcript then .exact else .unresolved
  proofPlane := .lowerTimeframeReplay
  proofResolutionSeconds := transcript.proofResolutionSeconds
  coverageStartEpoch := transcript.coverageStartEpoch
  coverageEndEpoch := transcript.coverageEndEpoch
  coverageExpectedChildCount := transcript.expectedChildCount
  coverageObservedChildCount := transcript.observedChildCount
  coverageGapDetected := transcript.gapPresent
  contactChild := transcript.contactCandle
  recrossChild := transcript.recrossCandle
  destinationSeenBeforeContact := transcript.destinationSeenBeforeContact
  ambiguityCodes := transcriptAmbiguityCodes setup transcript
  transcriptSha256 := transcriptSha256
  fullLifecycleOrdered := transcript.fullLifecycleOrdered
  transcript := transcript

def validateHtfFlipTranscript (sha256 : ByteArray → String) (setup : SetupEntryFacts)
    (transcript : HTFFlipProofTranscript) : Except String HTFFlipProof := do
  validateTranscriptShape transcript
  validateLifecycle setup transcript
  let transcriptSha256 ← canonicalSha256 sha256 transcript.toMapping
  let proof := proofOf setup transcript transcriptSha256
  proofPostInit sha256 proof
  pure proof

/-! ## The scan -/

/-- `HTFFlipScanRequest`. -/
structure HTFFlipScanRequest where
  setup : SetupEntryFacts
  timeframeMinutes : Int
  htfOpenEpoch : Int
  scanCutoffEpoch : Int
  htfOpenTicks : Int
  children : List OrderedCandle
  proofResolutionSeconds : Int
  fullLifecycleOrdered : Bool
  completed : CompletedHtfPrefix timeframeMinutes htfOpenEpoch scanCutoffEpoch
    proofResolutionSeconds

/-- A child that spans one interval of the proof. -/
def HTFFlipScanRequest.spans (request : HTFFlipScanRequest) (candle : OrderedCandle) : Bool :=
  candle.closeEpoch - candle.openEpoch = request.proofResolutionSeconds

/-- The loop of `_valid_children_by_open`. The opens increase, so every insertion adds a key and
the dictionary is the list of its values. -/
def validChildrenFrom (request : HTFFlipScanRequest) :
    Option Int → List OrderedCandle → Except String (List OrderedCandle)
  | _, [] => .ok []
  | previousOpen, candle :: rest => do
    whenSome previousOpen fun previousOpen =>
      failIf (candle.openEpoch ≤ previousOpen) "children must be ordered oldest-first"
    failIf
      (candle.openEpoch < request.htfOpenEpoch ∨ candle.closeEpoch > request.scanCutoffEpoch)
      "children cannot extend outside the scan cutoff"
    failIf ((candle.openEpoch - request.htfOpenEpoch) % request.proofResolutionSeconds ≠ 0)
      "child open epochs must align to proof resolution"
    let children ← validChildrenFrom request (some candle.openEpoch) rest
    pure (if request.spans candle then candle :: children else children)

def validChildrenByOpen (request : HTFFlipScanRequest) : Except String (List OrderedCandle) :=
  validChildrenFrom request none request.children

structure ScanState where
  contact : Option OrderedCandle
  recross : Option OrderedCandle
  destinationSeenBeforeContact : Bool
  deriving DecidableEq

/-- One round of the scan, with the child of its interval if there is one. -/
def scanStep (request : HTFFlipScanRequest) (state : ScanState) :
    Option OrderedCandle → ScanState
  | none => { state with contact := none, recross := none }
  | some candle =>
    if state.recross.isSome then state
    else
      let contacts := contactsZone request.setup candle
      let recrosses := recrossesHtfOpen request.setup.direction request.htfOpenTicks candle
      if state.contact.isNone then
        if contacts then
          { state with
            contact := some candle
            recross := if recrosses then some candle else state.recross }
        else
          { state with
            destinationSeenBeforeContact := state.destinationSeenBeforeContact || recrosses }
      else if recrosses then { state with recross := some candle }
      else state

def HTFFlipScanRequest.expectedCount (request : HTFFlipScanRequest) : Int :=
  (request.scanCutoffEpoch - request.htfOpenEpoch) / request.proofResolutionSeconds

/-- The open epoch of the interval with this index. -/
def HTFFlipScanRequest.openAt (request : HTFFlipScanRequest) (index : Nat) : Int :=
  request.htfOpenEpoch + index * request.proofResolutionSeconds

def HTFFlipScanRequest.childAt (request : HTFFlipScanRequest) (children : List OrderedCandle)
    (index : Nat) : Option OrderedCandle :=
  children.find? fun candle => candle.openEpoch = request.openAt index

def scanState (request : HTFFlipScanRequest) (children : List OrderedCandle) (rounds : Nat) :
    ScanState :=
  ((List.range rounds).map (request.childAt children)).foldl (scanStep request)
    ⟨none, none, false⟩

/-- The transcript that the scan writes. -/
def scanTranscript (request : HTFFlipScanRequest) (children : List OrderedCandle) :
    HTFFlipProofTranscript :=
  let observedCount : Int := children.length
  let state := scanState request children request.expectedCount.toNat
  { contextMinutes := request.timeframeMinutes
    htfOpenEpoch := request.htfOpenEpoch
    htfOpenTicks := request.htfOpenTicks
    scanCutoffEpoch := request.scanCutoffEpoch
    proofResolutionSeconds := request.proofResolutionSeconds
    coverageStartEpoch := request.htfOpenEpoch
    coverageEndEpoch := request.scanCutoffEpoch
    expectedChildCount := request.expectedCount
    observedChildCount := observedCount
    gapPresent := observedCount ≠ request.expectedCount
    fullLifecycleOrdered := request.fullLifecycleOrdered
    destinationSeenBeforeContact := state.destinationSeenBeforeContact
    contactCandle := state.contact
    recrossCandle := state.recross
    sameChild := sameInterval state.contact state.recross }

def scanHtfFlip (sha256 : ByteArray → String) (request : HTFFlipScanRequest) :
    Except String HTFFlipProof := do
  let children ← validChildrenByOpen request
  let transcript := scanTranscript request children
  transcriptPostInit transcript
  validateHtfFlipTranscript sha256 request.setup transcript

end TradeOps.EntryModels
