import TradeOps.Entry.ArbitratorV3
import TradeOps.EntryV2.Tables
import TradeOps.Lib.JsonText

/-!
# The v3 entry payload

The records of `rd-entry-wire-v3.ts` and the readers of a payload's values. A payload value is what
the strict parser makes of the request. Its strings are texts here: the one unpaired surrogate that
the parser lets through, a high one at the end of a string, is not modelled. Its numbers are
doubles, of which only the integers matter, since every reader of a number asks for one. The
canonical payload, which is only stored as text, is left out.

A reader fails with the message of the first check that fails. Where the source takes over a value
and checks it later in a validator of the record, it is read after the others.
-/

namespace TradeOps.EntryV3

open Checks SortBy Entry

/-! ## Records -/

structure CommonRuleResult where
  ruleId : String
  passed : Bool
  deriving DecidableEq, Repr

structure MarketEvent where
  epoch : Int
  sequence : Int
  tickPriceTicks : Int
  barstateIsConfirmed : Bool
  confirmedBar : Option OrderedCandleV3
  deriving DecidableEq, Repr

structure TradePlan where
  direction : EntryDirectionV3
  entryTicks : Int
  stopTicks : Int
  targetTicks : Int
  deriving DecidableEq, Repr

inductive ExitReason where
  | stopLoss | target | ambiguousSameBarExit
  deriving DecidableEq, Repr

structure ExitEvent where
  eventId : String
  setupId : JsString
  exitReason : ExitReason
  epoch : Int
  sequence : Int
  priceTicks : Int
  deriving DecidableEq, Repr

inductive EventRole where
  | entryDecision | exitFollowup
  deriving DecidableEq, Repr

/-- `ValidatedEntryV3Bundle`; its candidates, evidence and proposal are those of the evaluation. -/
structure Bundle where
  setup : SetupEntryFactsV3
  commonRuleResults : List CommonRuleResult
  evaluation : EntryEvaluationV3
  tradePlan : TradePlan
  deriving DecidableEq, Repr

/-- `ValidatedEntryV3Payload`. -/
structure Observation where
  metadata : EntryV2.ReceiptMetadata
  eventRole : EventRole
  producerSequence : Int
  eventId : String
  isRealtime : Bool
  detectorCodeHash : String
  settingsHash : String
  tickSize : String
  observedAtEpoch : Int
  marketEvent : MarketEvent
  exitEvents : List ExitEvent
  entryBundles : List Bundle
  deriving DecidableEq, Repr

/-! ## Values -/

inductive StrictJson where
  | null
  | bool (value : Bool)
  /-- An integer token, or a token whose value is a safe integer. -/
  | int (value : Int)
  /-- Any other number, as `JSON.stringify` prints it. -/
  | double (text : String)
  | str (value : String)
  | arr (items : List StrictJson)
  | obj (fields : List (String × StrictJson))

abbrev Fields := List (String × StrictJson)

namespace StrictJson

mutual

/-- `plain` keeps the value: no integer token is unsafe. -/
def plain : StrictJson → Bool
  | int value => isSafeInteger value
  | arr items => plainItems items
  | obj fields => plainFields fields
  | _ => true

def plainItems : List StrictJson → Bool
  | [] => true
  | item :: rest => plain item && plainItems rest

def plainFields : Fields → Bool
  | [] => true
  | field :: rest => plain field.2 && plainFields rest

end

/-- The UTF-16 code units that are printed for a byte of UTF-8 text: escapes, and one or two units
for the first byte of a character. -/
def byteUnits (byte : Nat) : Nat :=
  if byte < 0x20 then if byte ∈ [8, 9, 10, 12, 13] then 2 else 6
  else if byte = 0x22 ∨ byte = 0x5c then 2
  else if byte < 0x80 then 1
  else if byte < 0xc0 then 0
  else if byte < 0xf0 then 1
  else 2

/-- The number of UTF-16 code units of a quoted string. -/
def quotedLength (text : String) : Nat :=
  text.toUTF8.data.toList.foldl (fun total byte => total + byteUnits byte.toNat) 2

mutual

/-- `JSON.stringify(value).length`. -/
def serializedLength : StrictJson → Nat
  | null => 4
  | bool value => if value then 4 else 5
  | int value => (toString value).length
  | double text => text.length
  | str value => quotedLength value
  | arr items => 2 + (items.length - 1) + itemsLength items
  | obj fields => 2 + (fields.length - 1) + fieldsLength fields

def itemsLength : List StrictJson → Nat
  | [] => 0
  | item :: rest => serializedLength item + itemsLength rest

def fieldsLength : Fields → Nat
  | [] => 0
  | field :: rest => quotedLength field.1 + 1 + serializedLength field.2 + fieldsLength rest

end

end StrictJson

/-! ## Readers -/

def invalid : String := "ENTRY_V3_INVALID"

/-- A reader of a property, which may be missing. -/
abbrev Reader (α : Type) := Option StrictJson → Except String α

def object : Reader Fields
  | some (.obj fields) => .ok fields
  | _ => .error "ENTRY_V3_OBJECT"

/-- `Array.prototype.join` with the separator of the key lists. -/
def joinNul (values : List String) : String := "\x00".intercalate values

/-- Two lists of names that are the same text once they are sorted and joined. -/
def SameNames (names names' : List String) : Prop :=
  joinNul (sortBy Json.utf16 names) = joinNul (sortBy Json.utf16 names')

-- Names that come in the expected order are not sorted to be compared.
instance (names names' : List String) : Decidable (SameNames names names') :=
  if h : names = names' then .isTrue (h ▸ rfl)
  else inferInstanceAs (Decidable (joinNul _ = joinNul _))

def exactKeys (fields : Fields) (keys : List String) : Except String Unit :=
  failIf (¬SameNames (fields.map (·.1)) keys) "ENTRY_V3_KEYS"

def integer (minimum : Int := 0) : Reader Int
  | some (.int value) =>
    if isSafeInteger value ∧ minimum ≤ value then .ok value else .error invalid
  | _ => .error invalid

def signedInteger : Reader Int
  | some (.int value) => if isSafeInteger value then .ok value else .error invalid
  | _ => .error invalid

/-- `value.trim() !== value`: white space at one of the ends. -/
def padded (chars : List Char) : Bool :=
  chars.head?.any (isTrimSpace ·.toNat) || chars.getLast?.any (isTrimSpace ·.toNat)

def text (maximum : Nat := 256) : Reader String
  | some (.str value) =>
    let chars := value.toList
    let length := (chars.flatMap Json.codeUnits).length
    if length = 0 ∨ length > maximum ∨ padded chars then .error invalid else .ok value
  | _ => .error invalid

/-- `IDENTIFIER`, the pattern `^[\x21-\x5b\x5d-\x7e]+$`. -/
def identifierText (value : String) : Bool :=
  value.toList ≠ [] ∧
    value.toList.all fun c => 0x21 ≤ c.toNat ∧ c.toNat ≤ 0x7e ∧ c.toNat ≠ 0x5c

def identifier : Reader String := fun value => do
  let result ← text 256 value
  if identifierText result then pure result else .error invalid

def digest : Reader String := fun value => do
  let result ← text 64 value
  if sha256Text result ∧ result ≠ zeroSha256 then pure result else .error invalid

def boolean : Reader Bool
  | some (.bool value) => .ok value
  | _ => .error invalid

def values (minimum maximum : Nat) : Reader (List StrictJson)
  | some (.arr items) =>
    if items.length < minimum ∨ items.length > maximum then .error invalid else .ok items
  | _ => .error invalid

/-- Read the items of an array, in order. -/
def eachItem {α : Type} (reader : Reader α) (items : List StrictJson) : Except String (List α) :=
  items.mapM fun item => reader (some item)

def stringValues (maximum : Nat := 32) : Reader (List String) := fun value => do
  let result ← values 0 maximum value
  let result ← eachItem identifier result
  failIf (¬result.Nodup) invalid
  pure result

def nullable {α : Type} (reader : Reader α) : Reader (Option α)
  | some .null => .ok none
  | value => do
    let result ← reader value
    pure (some result)

/-- A member of an enumeration, by its name. -/
def named {α : Type} (name : α → String) (members : List α) : Reader α
  | some (.str value) =>
    match members.find? fun member => name member = value with
    | some member => .ok member
    | none => .error invalid
  | _ => .error invalid

/-- Members of an enumeration, by names that were read as strings. -/
def membersNamed {α : Type} (name : α → String) (members : List α) (texts : List String) :
    Except String (List α) :=
  texts.mapM fun value => named name members (some (.str value))

def models : List EntryModelV3 := [.boc, .dirClose, .htfFlip]
def states : List CandidateStateV3 := [.matched, .blocked, .rejected]
def directions : List EntryDirectionV3 := [.long, .short]
def tiers : List BocTier := [.htfTimed, .discretionary5m]
def fidelities : List CandidateFidelityV3 := [.exact, .calibrated, .discretionary, .unresolved]
def planes : List ProofPlaneV3 :=
  [.confirmed5m, .lowerTimeframeReplay, .realtimeTick, .externalArchivedTick]
def replayabilities : List EvidenceReplayability := [.replayable, .liveExactNonReplayable]
def ambiguityCodes : List AmbiguityCodeV3 :=
  [.shadowSameChildBarOrder, .shadowMissingIntrabarCoverage, .shadowRealtimeOnlyNotReplayable]
def reasons : List SelectionReasonV3 :=
  [.onlyExactTrigger, .earliestExactTrigger, .fallbackToConfirmedClose, .coTriggerSameEvent,
    .coTriggerPriceConflict, .noExactCandidate, .setupInvalidated, .noCandidate]
def actions : List SelectionActionV3 := [.observe, .paperEligible, .shadowOnly, .none]
def cohorts : List LiquidityCohortV3 := [.oneCandle, .twoPlusCandles]

def stateName : CandidateStateV3 → String
  | .matched => "MATCHED"
  | .blocked => "BLOCKED"
  | .rejected => "REJECTED"

def cohortName : LiquidityCohortV3 → String
  | .oneCandle => "ONE_CANDLE"
  | .twoPlusCandles => "TWO_PLUS_CANDLES"

def exitReasonName : ExitReason → String
  | .stopLoss => "STOP_LOSS"
  | .target => "TARGET"
  | .ambiguousSameBarExit => "AMBIGUOUS_SAME_BAR_EXIT"

/-! ### Texts of printable letters

A literal is `String.ofList` of its letters, so the readers below are decided on the letters. -/

/-- Printable ASCII without the backslash. -/
def printable (letter : Char) : Bool :=
  0x21 ≤ letter.toNat ∧ letter.toNat ≤ 0x7e ∧ letter.toNat ≠ 0x5c

theorem not_isTrimSpace {letter : Char} (h : printable letter = true) :
    isTrimSpace letter.toNat = false := by
  simp only [printable, decide_eq_true_eq] at h
  simp only [isTrimSpace, decide_eq_false_iff_not]
  omega

section Letters

variable {letters : List Char} {maximum : Nat}

theorem text_ofList (hne : letters ≠ []) (hlength : letters.length ≤ maximum)
    (h : letters.all printable = true) :
    text maximum (some (.str (String.ofList letters))) = .ok (String.ofList letters) := by
  rw [List.all_eq_true] at h
  have hunits : (letters.flatMap Json.codeUnits).length = letters.length := by
    rw [List.length_flatMap]
    have hone : letters.map (fun letter => (Json.codeUnits letter).length) =
        letters.map fun _ => 1 := by
      apply List.map_congr_left
      intro letter hletter
      have hprintable := h letter hletter
      simp only [printable, decide_eq_true_eq] at hprintable
      rw [Json.codeUnits, if_pos (by omega)]
      rfl
    rw [hone]
    simp
  have hpadded : padded letters = false := by
    rw [padded, Bool.or_eq_false_iff]
    constructor
    · cases hhead : letters.head? with
      | none => rfl
      | some letter => exact not_isTrimSpace (h letter (List.mem_of_mem_head? hhead))
    · cases hlast : letters.getLast? with
      | none => rfl
      | some letter => exact not_isTrimSpace (h letter (List.mem_of_mem_getLast? hlast))
  have hpos : letters.length ≠ 0 := fun hzero => hne (List.length_eq_zero_iff.1 hzero)
  simp only [text, String.toList_ofList, hunits, hpadded]
  rw [if_neg]
  rintro (hzero | hlong | hfalse)
  · exact hpos hzero
  · omega
  · cases hfalse

theorem identifier_ofList (hne : letters ≠ []) (hlength : letters.length ≤ 256)
    (h : letters.all printable = true) :
    identifier (some (.str (String.ofList letters))) = .ok (String.ofList letters) := by
  have hidentifier : identifierText (String.ofList letters) = true := by
    rw [identifierText, String.toList_ofList]
    exact decide_eq_true ⟨hne, h⟩
  rw [identifier, text_ofList hne hlength h, ok_bind_eq, if_pos hidentifier]
  rfl

theorem isLowerHex_printable {letter : Char} (h : isLowerHex letter = true) :
    printable letter = true := by
  simp only [isLowerHex, decide_eq_true_eq] at h
  simp only [printable, decide_eq_true_eq]
  rcases h with ⟨hlow, hhigh⟩ | ⟨hlow, hhigh⟩
  · have h₁ : 48 ≤ letter.toNat := hlow
    have h₂ : letter.toNat ≤ 57 := hhigh
    omega
  · have h₁ : 97 ≤ letter.toNat := hlow
    have h₂ : letter.toNat ≤ 102 := hhigh
    omega

theorem digest_ofList (hlength : letters.length = 64) (hhex : letters.all isLowerHex = true)
    (hzero : letters.any (· ≠ '0') = true) :
    digest (some (.str (String.ofList letters))) = .ok (String.ofList letters) := by
  have hne : letters ≠ [] := by
    rintro rfl
    cases hlength
  have hprintable : letters.all printable = true := by
    rw [List.all_eq_true] at hhex ⊢
    exact fun letter hletter => isLowerHex_printable (hhex letter hletter)
  rw [digest, text_ofList hne hlength.le hprintable, ok_bind_eq,
    if_pos ⟨sha256Text_ofList hlength hhex, ofList_ne_zeroSha256 hzero⟩]
  rfl

end Letters

/-- The spread of an object with one property set. -/
def override (fields : Fields) (name : String) (value : StrictJson) : Fields :=
  if name ∈ fields.map (·.1) then
    fields.map fun field => if field.1 = name then (name, value) else field
  else fields ++ [(name, value)]

end TradeOps.EntryV3
