import TradeOps.Lib.Checks
import TradeOps.Lib.JsParse
import TradeOps.Lib.Patterns

/-!
# Telemetry values

Embeds `telemetry-values-v2.ts`: the readers of counters, identifiers, digests and tickets, and the
fixed decimals with their sum. What a reader lets through is a value of a type that carries the
reader's test, so a record built from these types is one that the readers accept.

A fixed decimal is text with a scale. Its sum is computed exactly in units of the last digit,
printed, and read again; reading is where a sum of nineteen integer digits fails.
-/

namespace TradeOps.Telemetry

open JsString JsValue Patterns

/-- The messages that telemetry code throws. -/
inductive Code where
  | invalid | tooLarge | counterInvalid | identifierInvalid | digestInvalid | ticketInvalid
  | decimalInvalid | boundaryInvalid | coverageInvalid | beforeTracking | canonicalInvalid
  | requestMetaInvalid | storageUnavailable | identityMismatch | receiptInvalid | replayConflict
  | receiptMissing | sequenceInvalid | staleEnvelope | eventSequenceInvalid
  deriving DecidableEq, Repr

/-- What the source calls a reader: a value of the type, or the message of the first failed test. -/
abbrev Reader (α : Type) := JsValue → Except Code α

/-! ## Counters -/

/-- A safe integer with a least value. -/
structure CounterFrom (minimum : Nat) where
  val : Nat
  property : minimum ≤ val ∧ val ≤ maxSafeInteger
  deriving DecidableEq

abbrev Counter := CounterFrom 0

abbrev Instant := CounterFrom 1

theorem zero_counter : 0 ≤ 0 ∧ 0 ≤ maxSafeInteger := by decide

def readCounterV2 (minimum : Nat) : Reader (CounterFrom minimum)
  | .num (.ofNat n) =>
    if h : minimum ≤ n ∧ n ≤ maxSafeInteger then .ok ⟨n, h⟩ else .error .counterInvalid
  | _ => .error .counterInvalid

def CounterFrom.json {minimum : Nat} (n : CounterFrom minimum) : JsValue := .num n.val

@[simp] theorem readCounterV2_json {minimum : Nat} (n : CounterFrom minimum) :
    readCounterV2 minimum n.json = .ok n := by
  change readCounterV2 minimum (.num (.ofNat n.val)) = .ok n
  rw [readCounterV2, dif_pos n.property]

/-! ## Patterns of ASCII characters -/

/-- A text that passes a test. -/
structure Matching (ok : String → Bool) where
  val : String
  property : ok val = true
  deriving DecidableEq

/-- Test a string against a pattern; the patterns match ASCII characters only. -/
def readMatching (ok : String → Bool) (code : Code) : Reader (Matching ok)
  | .str s =>
    match ascii s with
    | some text => if h : ok text = true then .ok ⟨text, h⟩ else .error code
    | none => .error code
  | _ => .error code

def Matching.json {ok : String → Bool} (text : Matching ok) : JsValue := .str (js text.val)

/-- `^[A-Za-z0-9._:-]{1,160}$`. -/
def isIdentifier (text : String) : Bool :=
  1 ≤ text.toList.length ∧ text.toList.length ≤ 160 ∧ text.toList.all identifierChar

/-- `^[0-9a-f]{64}$`, and not zeros only. -/
def isDigest (text : String) : Bool :=
  text.toList.length = 64 ∧ text.toList.all hexChar ∧ ¬ text.toList.all (· = '0')

/-- `^[1-9][0-9]{0,19}$`, and a 64-bit number. -/
def isTicket (text : String) : Bool :=
  text.toList ≠ [] ∧ text.toList.head? ≠ some '0' ∧ text.toList.length ≤ 20 ∧
    text.toList.all Char.isDigit ∧ Nat.ofDigitChars 10 text.toList 0 ≤ 18446744073709551615

abbrev Identifier := Matching isIdentifier

abbrev Digest := Matching isDigest

abbrev Ticket := Matching isTicket

def readIdentifierV2 : Reader Identifier := readMatching isIdentifier .identifierInvalid

def readDigestV2 : Reader Digest := readMatching isDigest .digestInvalid

def readTicketV2 : Reader Ticket := readMatching isTicket .ticketInvalid

theorem readMatching_json {ok : String → Bool} {code : Code} (text : Matching ok)
    (hascii : ∀ ch ∈ text.val.toList, ch.toNat < 128) :
    readMatching ok code text.json = .ok text := by
  rw [Matching.json, readMatching, ascii_js hascii]
  exact dif_pos text.property

theorem Identifier.ascii (id : Identifier) : ∀ ch ∈ id.val.toList, ch.toNat < 128 := by
  intro ch hch
  have hid := id.property
  simp only [isIdentifier, decide_eq_true_eq, List.all_eq_true] at hid
  have hchar := hid.2.2 ch hch
  simp only [identifierChar, decide_eq_true_eq] at hchar
  rcases hchar with h | h | h | rfl | rfl | rfl | rfl
  · exact ascii_of_range (by decide) h
  · exact ascii_of_range (by decide) h
  · exact ascii_of_range (by decide) h
  all_goals decide

theorem Digest.ascii (digest : Digest) : ∀ ch ∈ digest.val.toList, ch.toNat < 128 := by
  intro ch hch
  have hdigest := digest.property
  simp only [isDigest, decide_eq_true_eq, List.all_eq_true] at hdigest
  have hchar := hdigest.2.1 ch hch
  simp only [hexChar, decide_eq_true_eq] at hchar
  rcases hchar with h | h
  · exact ascii_of_range (by decide) h
  · exact ascii_of_range (by decide) h

@[simp] theorem readIdentifierV2_json (id : Identifier) : readIdentifierV2 id.json = .ok id :=
  readMatching_json id id.ascii

@[simp] theorem readDigestV2_json (digest : Digest) : readDigestV2 digest.json = .ok digest :=
  readMatching_json digest digest.ascii

@[simp] theorem readTicketV2_json (ticket : Ticket) : readTicketV2 ticket.json = .ok ticket := by
  refine readMatching_json ticket fun ch hch => ?_
  have hticket := ticket.property
  simp only [isTicket, decide_eq_true_eq, List.all_eq_true] at hticket
  exact ascii_of_isDigit (hticket.2.2.2.1 ch hch)

/-! ## Fixed decimals -/

structure FixedDecimalV2 where
  value : String
  scale : Nat
  deriving DecidableEq, Repr

/-- What the groups of the pattern match. -/
structure FixedParts where
  minus : Bool
  integerPart : List Char
  digits : List Char
  deriving DecidableEq, Repr

/-- `0|[1-9][0-9]{0,17}`, on digits. -/
def isIntegerPart (chars : List Char) : Bool :=
  chars = ['0'] ∨ (chars ≠ [] ∧ chars.head? ≠ some '0' ∧ chars.length ≤ 18)

/-- What follows the integer part: nothing, or a point and digits. -/
def fraction : List Char → Option (List Char)
  | [] => some []
  | '.' :: digits => if digits ≠ [] ∧ digits.all Char.isDigit then some digits else none
  | _ => none

/-- The pattern after the sign. -/
def unsignedParts (minus : Bool) (chars : List Char) : Option FixedParts :=
  if isIntegerPart (chars.takeWhile Char.isDigit) then
    (fraction (chars.dropWhile Char.isDigit)).map fun digits =>
      ⟨minus, chars.takeWhile Char.isDigit, digits⟩
  else none

/-- `^(-)?(0|[1-9][0-9]{0,17})(?:\.([0-9]+))?$`. -/
def fixedParts : List Char → Option FixedParts
  | '-' :: rest => unsignedParts true rest
  | chars => unsignedParts false chars

/-- The tests of `parseFixedV2`. -/
def isFixed (value : String) (scale : Nat) : Bool :=
  scale ≤ 16 && value.toList.length ≤ 36 &&
    match fixedParts value.toList with
    | none => false
    | some parts =>
      (if scale = 0 then parts.digits = [] else parts.digits.length = scale) &&
        !(Nat.ofDigitChars 10 (parts.integerPart ++ parts.digits) 0 = 0 && parts.minus)

/-- The parts put together again are the text itself, so the result is the text. -/
def parseFixedV2 (value : String) (scale : Nat) : Except Code FixedDecimalV2 :=
  if isFixed value scale then .ok ⟨value, scale⟩ else .error .decimalInvalid

/-- A decimal in units of its last digit. -/
def FixedDecimalV2.units (fixed : FixedDecimalV2) : Int :=
  let unsigned := Nat.ofDigitChars 10 ((fixed.value.toList.erase '-').erase '.') 0
  if fixed.value.toList.head? = some '-' then -unsigned else unsigned

def parseFixedObject (value : FixedDecimalV2) (scale : Nat) : Except Code Int :=
  if value.scale ≠ scale then .error .decimalInvalid
  else (parseFixedV2 value.value value.scale).map FixedDecimalV2.units

def padStart (length : Nat) (chars : List Char) : List Char :=
  List.replicate (length - chars.length) '0' ++ chars

/-- The text that `sumFixedV2` gives a total. -/
def fixedText (total : Int) (scale : Nat) : List Char :=
  let absolute := padStart (scale + 1) (Nat.toDigits 10 total.natAbs)
  (if total < 0 then ['-'] else []) ++
    if scale = 0 then absolute
    else absolute.take (absolute.length - scale) ++ '.' :: absolute.drop (absolute.length - scale)

def totalUnits (scale : Nat) : List FixedDecimalV2 → Except Code Int
  | [] => .ok 0
  | value :: rest => do
    let units ← parseFixedObject value scale
    let total ← totalUnits scale rest
    return units + total

def sumFixedV2 (values : List FixedDecimalV2) (scale : Nat) : Except Code FixedDecimalV2 :=
  if scale > 16 then .error .decimalInvalid
  else do
    let total ← totalUnits scale values
    parseFixedV2 (String.ofList (fixedText total scale)) scale

/-! ## What the text of a total is read as -/

section FixedText

variable {total : Int} {scale : Nat}

theorem isDigit_of_mem_padStart {length n : Nat} {ch : Char}
    (h : ch ∈ padStart length (Nat.toDigits 10 n)) : ch.isDigit = true := by
  rcases List.mem_append.1 h with hzero | hdigit
  · rw [(List.mem_replicate.1 hzero).2]
    rfl
  · exact Nat.isDigit_of_mem_toDigits (by decide) (by decide) hdigit

theorem ofDigitChars_padStart (length n : Nat) :
    Nat.ofDigitChars 10 (padStart length (Nat.toDigits 10 n)) 0 = n := by
  rw [padStart, Nat.ofDigitChars_append, Nat.ofDigitChars_replicate_zero, Nat.mul_zero,
    Nat.ofDigitChars_ten_toDigits]

theorem length_padStart (length : Nat) (chars : List Char) :
    (padStart length chars).length = max length chars.length := by
  rw [padStart, List.length_append, List.length_replicate]
  omega

/-- Digits, and a point with more digits unless there are none, are matched part by part. -/
theorem unsignedParts_digits {minus : Bool} {integerPart digits : List Char}
    (hinteger : ∀ ch ∈ integerPart, ch.isDigit = true)
    (hdigits : ∀ ch ∈ digits, ch.isDigit = true) :
    unsignedParts minus (integerPart ++ if digits = [] then [] else '.' :: digits) =
      if isIntegerPart integerPart then some ⟨minus, integerPart, digits⟩ else none := by
  have hsplit : ∀ rest : List Char, rest.head?.all (fun ch => !ch.isDigit) →
      (integerPart ++ rest).takeWhile Char.isDigit = integerPart ∧
        (integerPart ++ rest).dropWhile Char.isDigit = rest := by
    intro rest hrest
    rw [List.takeWhile_append_of_pos hinteger, List.dropWhile_append_of_pos hinteger]
    cases rest with
    | nil => simp
    | cons ch tail =>
      have hch : ch.isDigit = false := by simpa using hrest
      simp [hch]
  by_cases hnil : digits = []
  · obtain ⟨htake, hdrop⟩ := hsplit [] rfl
    rw [if_pos hnil, unsignedParts, htake, hdrop, hnil]
    rfl
  · obtain ⟨htake, hdrop⟩ := hsplit ('.' :: digits) rfl
    have hfraction : fraction ('.' :: digits) = some digits :=
      if_pos ⟨hnil, by simpa using hdigits⟩
    rw [if_neg hnil, unsignedParts, htake, hdrop, hfraction]
    rfl

/-- The integer part of the text of a total. -/
def integerDigits (total : Int) (scale : Nat) : List Char :=
  let absolute := padStart (scale + 1) (Nat.toDigits 10 total.natAbs)
  absolute.take (absolute.length - scale)

/-- The fraction of the text of a total. -/
def fractionDigits (total : Int) (scale : Nat) : List Char :=
  let absolute := padStart (scale + 1) (Nat.toDigits 10 total.natAbs)
  absolute.drop (absolute.length - scale)

theorem length_fractionDigits (total : Int) (scale : Nat) :
    (fractionDigits total scale).length = scale := by
  rw [fractionDigits, List.length_drop, length_padStart]
  omega

theorem fixedText_eq : fixedText total scale =
    (if total < 0 then ['-'] else []) ++
      (integerDigits total scale ++
        if fractionDigits total scale = [] then [] else '.' :: fractionDigits total scale) := by
  by_cases hscale : scale = 0
  · subst hscale
    have hnil : fractionDigits total 0 = [] :=
      List.length_eq_zero_iff.1 (length_fractionDigits total 0)
    rw [fixedText, if_pos rfl, if_pos hnil, List.append_nil, integerDigits]
    simp
  · have hne : fractionDigits total scale ≠ [] := by
      intro hnil
      have := length_fractionDigits total scale
      rw [hnil, List.length_nil] at this
      omega
    rw [fixedText, if_neg hscale, if_neg hne]
    rfl

theorem fixedParts_fixedText : fixedParts (fixedText total scale) =
    if isIntegerPart (integerDigits total scale) then
      some ⟨total < 0, integerDigits total scale, fractionDigits total scale⟩
    else none := by
  have hinteger : ∀ ch ∈ integerDigits total scale, ch.isDigit = true := fun ch hch =>
    isDigit_of_mem_padStart (List.mem_of_mem_take hch)
  have hdigits : ∀ ch ∈ fractionDigits total scale, ch.isDigit = true := fun ch hch =>
    isDigit_of_mem_padStart (List.mem_of_mem_drop hch)
  rw [fixedText_eq]
  by_cases hneg : total < 0
  · rw [if_pos hneg, List.singleton_append, fixedParts, unsignedParts_digits hinteger hdigits]
    simp [hneg]
  · rw [if_neg hneg, List.nil_append]
    have hplain : ∀ chars : List Char, chars.head?.all Char.isDigit →
        fixedParts chars = unsignedParts false chars := by
      intro chars hhead
      rw [fixedParts.eq_def]
      split
      · simp at hhead
      · rfl
    rw [hplain, unsignedParts_digits hinteger hdigits]
    · simp [hneg]
    · cases hcase : integerDigits total scale with
      | nil =>
        have hlength := congrArg List.length hcase
        rw [integerDigits, List.length_take, length_padStart, List.length_nil] at hlength
        omega
      | cons ch tail => simpa using hinteger ch (hcase ▸ List.mem_cons_self)

/-- The integer part fits when the total has at most eighteen integer digits. -/
theorem isIntegerPart_integerDigits :
    isIntegerPart (integerDigits total scale) = true ↔ total.natAbs < 10 ^ (18 + scale) := by
  have hfit : (Nat.toDigits 10 total.natAbs).length ≤ 18 + scale ↔
      total.natAbs < 10 ^ (18 + scale) := Nat.length_toDigits_le_iff (by decide) (by omega)
  have hpos : 0 < (Nat.toDigits 10 total.natAbs).length := Nat.length_toDigits_pos
  by_cases hshort : (Nat.toDigits 10 total.natAbs).length ≤ scale
  · -- only padding comes before the point
    have hzero : integerDigits total scale = ['0'] := by
      rw [integerDigits, length_padStart, padStart,
        show max (scale + 1) (Nat.toDigits 10 total.natAbs).length - scale = 1 by omega,
        List.take_append_of_le_length (by rw [List.length_replicate]; omega),
        show scale + 1 - (Nat.toDigits 10 total.natAbs).length =
          (scale - (Nat.toDigits 10 total.natAbs).length) + 1 by omega, List.replicate_succ]
      rfl
    rw [hzero, ← hfit]
    exact ⟨fun _ => by omega, fun _ => by decide⟩
  · have hdigits : integerDigits total scale =
        (Nat.toDigits 10 total.natAbs).take ((Nat.toDigits 10 total.natAbs).length - scale) := by
      rw [integerDigits, length_padStart, padStart,
        show scale + 1 - (Nat.toDigits 10 total.natAbs).length = 0 by omega,
        show max (scale + 1) (Nat.toDigits 10 total.natAbs).length =
          (Nat.toDigits 10 total.natAbs).length by omega]
      rfl
    by_cases htotal : total.natAbs = 0
    · have hscale : scale = 0 := by
        rw [htotal, Nat.toDigits_zero, List.length_singleton] at hshort
        omega
      rw [hdigits, htotal, hscale, Nat.toDigits_zero]
      exact ⟨fun _ => by decide, fun _ => by decide⟩
    · have hhead : (integerDigits total scale).head? ≠ some '0' := by
        rw [hdigits, List.head?_take, if_neg (by omega)]
        exact toDigits_head (by omega)
      have hlength : (integerDigits total scale).length =
          (Nat.toDigits 10 total.natAbs).length - scale := by
        rw [hdigits, List.length_take]
        omega
      have hne : integerDigits total scale ≠ [] := by
        intro hnil
        rw [hnil, List.length_nil] at hlength
        omega
      have hzero : integerDigits total scale ≠ ['0'] := by
        intro heq
        rw [heq] at hhead
        exact hhead rfl
      rw [isIntegerPart, decide_eq_true_eq, ← hfit]
      constructor
      · rintro (h | ⟨-, -, h⟩)
        · exact absurd h hzero
        · omega
      · intro h
        exact .inr ⟨hne, hhead, by omega⟩

theorem length_fixedText (hscale : scale ≤ 16) (h : total.natAbs < 10 ^ (18 + scale)) :
    (fixedText total scale).length ≤ 36 := by
  have hdigits : (Nat.toDigits 10 total.natAbs).length ≤ 18 + scale :=
    (Nat.length_toDigits_le_iff (by decide) (by omega)).2 h
  rw [fixedText]
  simp only [List.length_append]
  have hsign : (if total < 0 then ['-'] else []).length ≤ 1 := by
    split <;> simp
  by_cases hzero : scale = 0
  · rw [if_pos hzero, length_padStart]
    omega
  · rw [if_neg hzero, List.length_append, List.length_cons, List.length_take, List.length_drop,
      length_padStart]
    omega

/-- A total is read back exactly when it has at most eighteen integer digits. -/
theorem isFixed_fixedText (hscale : scale ≤ 16) :
    isFixed (String.ofList (fixedText total scale)) scale = true ↔
      total.natAbs < 10 ^ (18 + scale) := by
  rw [isFixed, String.toList_ofList, fixedParts_fixedText]
  by_cases hinteger : isIntegerPart (integerDigits total scale) = true
  · have hfit := isIntegerPart_integerDigits.1 hinteger
    have hlength := length_fixedText hscale hfit
    have hdigits : integerDigits total scale ++ fractionDigits total scale =
        padStart (scale + 1) (Nat.toDigits 10 total.natAbs) := List.take_append_drop _ _
    have hunits : Nat.ofDigitChars 10 (integerDigits total scale ++ fractionDigits total scale) 0 =
        total.natAbs := by
      rw [hdigits, ofDigitChars_padStart]
    have hfraction := length_fractionDigits total scale
    have hnil : scale = 0 → fractionDigits total scale = [] := by
      intro h
      rw [h] at hfraction ⊢
      exact List.length_eq_zero_iff.1 hfraction
    rw [if_pos hinteger]
    simp only [hunits, hfraction, hfit, iff_true, Bool.and_eq_true, Bool.not_eq_true',
      Bool.and_eq_false_iff, decide_eq_true_eq, decide_eq_false_iff_not]
    refine ⟨⟨hscale, hlength⟩, ?_, by omega⟩
    by_cases hzero : scale = 0
    · rw [if_pos hzero, decide_eq_true_eq]
      exact hnil hzero
    · simp [hzero]
  · rw [if_neg hinteger]
    have hfit : ¬ total.natAbs < 10 ^ (18 + scale) := fun h =>
      hinteger (isIntegerPart_integerDigits.2 h)
    simp [hfit]

end FixedText

/-! ## The characters of a decimal -/

/-- A character that occurs in decimals. -/
def fixedChar (ch : Char) : Bool := ch.isDigit || ch = '-' || ch = '.'

theorem fixedChar_of_unsignedParts {minus : Bool} {chars : List Char} {parts : FixedParts}
    (h : unsignedParts minus chars = some parts) :
    chars ≠ [] ∧ ∀ ch ∈ chars, fixedChar ch = true := by
  rw [unsignedParts] at h
  split at h
  · rename_i hinteger
    refine ⟨by rintro rfl; simp [isIntegerPart] at hinteger, fun ch hch => ?_⟩
    obtain ⟨digits, hdigits, -⟩ := Option.map_eq_some_iff.1 h
    rw [← List.takeWhile_append_dropWhile (p := Char.isDigit) (l := chars)] at hch
    rcases List.mem_append.1 hch with hmem | hmem
    · have := List.all_eq_true.1 (List.all_takeWhile (p := Char.isDigit) (l := chars)) ch hmem
      simp [fixedChar, this]
    · unfold fraction at hdigits
      split at hdigits
      · simp_all
      · rename_i tail heq
        rw [heq] at hmem
        split at hdigits
        · rename_i hall
          rcases List.mem_cons.1 hmem with rfl | hmem
          · rfl
          · have := List.all_eq_true.1 hall.2 ch hmem
            simp [fixedChar, this]
        · cases hdigits
      · cases hdigits
  · cases h

theorem fixedChar_of_isFixed {value : String} {scale : Nat} (h : isFixed value scale = true) :
    value.toList ≠ [] ∧ ∀ ch ∈ value.toList, fixedChar ch = true := by
  rw [isFixed, Bool.and_eq_true] at h
  cases hparts : fixedParts value.toList with
  | none => simp [hparts] at h
  | some parts =>
    rw [fixedParts.eq_def] at hparts
    split at hparts
    · rename_i rest heq
      rw [heq]
      refine ⟨nofun, fun ch hch => ?_⟩
      rcases List.mem_cons.1 hch with rfl | hmem
      · rfl
      · exact (fixedChar_of_unsignedParts hparts).2 ch hmem
    · exact fixedChar_of_unsignedParts hparts

theorem toNat_of_fixedChar {ch : Char} (h : fixedChar ch = true) :
    32 ≤ ch.toNat ∧ ch.toNat < 127 := by
  simp only [fixedChar, Bool.or_eq_true, decide_eq_true_eq] at h
  rcases h with (hdigit | rfl) | rfl
  · rw [Char.isDigit_iff_toNat] at hdigit
    have : '0'.toNat = 48 := rfl
    have : '9'.toNat = 57 := rfl
    omega
  · decide
  · decide

/-! ## Sums -/

/-- A decimal that passes the tests for a scale. -/
def FixedDecimalV2.ofScale (scale : Nat) (fixed : FixedDecimalV2) : Prop :=
  fixed.scale = scale ∧ isFixed fixed.value scale = true

theorem totalUnits_eq {scale : Nat} {values : List FixedDecimalV2}
    (h : ∀ value ∈ values, value.ofScale scale) :
    totalUnits scale values = .ok (values.map FixedDecimalV2.units).sum := by
  induction values with
  | nil => rfl
  | cons value rest ih =>
    obtain ⟨hscale, hfixed⟩ := h value List.mem_cons_self
    have hobject : parseFixedObject value scale = .ok value.units := by
      rw [parseFixedObject, if_neg (by simpa using hscale), hscale, parseFixedV2, if_pos hfixed,
        Except.map, ← hscale]
    rw [totalUnits, hobject, ih fun v hv => h v (List.mem_cons_of_mem _ hv)]
    rfl

/-- A sum of decimals of one scale has a result exactly when it has at most eighteen integer
digits. -/
theorem sumFixedV2_ok_iff {scale : Nat} {values : List FixedDecimalV2} (hscale : scale ≤ 16)
    (h : ∀ value ∈ values, value.ofScale scale) :
    (∃ result, sumFixedV2 values scale = .ok result) ↔
      (values.map FixedDecimalV2.units).sum.natAbs < 10 ^ (18 + scale) := by
  rw [sumFixedV2, if_neg (by omega), totalUnits_eq h, Checks.ok_bind_eq, parseFixedV2,
    ← isFixed_fixedText hscale]
  split <;> simp_all

end TradeOps.Telemetry
