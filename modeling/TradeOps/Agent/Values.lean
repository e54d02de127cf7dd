import TradeOps.Lib.JsParse
import TradeOps.Lib.Patterns

/-!
# Values of the agent

Embeds `TradeOpsTelemetryValues.mqh` and the text part of `TradeOpsTelemetryStorageCodec.mqh`. A
string of the agent is a list of characters. Its stored texts are lines of ASCII fields; numbers
are printed without leading zeros, and a number is read only in that form.
-/

namespace TradeOps.Agent

open Patterns (identifierChar hexChar)

abbrev Text := List Char

abbrev Bytes := List UInt8

def maxCounter : Nat := 9007199254740991

def counter (value : Nat) (minimum : Nat := 0) : Bool := minimum ≤ value ∧ value ≤ maxCounter

/-- For sixteen digits the order of the texts is the order of the numbers. -/
def counterFromText (text : Text) (minimum : Nat) : Option Nat :=
  if 1 ≤ text.length ∧ text.length ≤ 16 ∧ text.all Char.isDigit ∧
      ¬ (1 < text.length ∧ text.head? = some '0') ∧
      ¬ (text.length = 16 ∧ maxCounter < Nat.ofDigitChars 10 text 0) then
    if counter (Nat.ofDigitChars 10 text 0) minimum then some (Nat.ofDigitChars 10 text 0) else none
  else none

def identifier (value : Text) : Bool :=
  1 ≤ value.length ∧ value.length ≤ 160 ∧ value.all identifierChar

def digest (value : Text) : Bool :=
  value.length = 64 ∧ value.all hexChar ∧ ¬ value.all (· = '0')

def ticket (value : Text) : Bool :=
  1 ≤ value.length ∧ value.length ≤ 20 ∧ value.head? ≠ some '0' ∧ value.all Char.isDigit ∧
    ¬ (value.length = 20 ∧ 18446744073709551615 < Nat.ofDigitChars 10 value 0)

/-- `StringFormat("%I64d")` of a number that is not negative. -/
def localNumber (value : Nat) : Text := Nat.toDigits 10 value

/-! ## Numbers are read back -/

theorem counterFromText_localNumber {value minimum : Nat} (h : counter value minimum = true) :
    counterFromText (localNumber value) minimum = some value := by
  have hbound : value ≤ maxCounter := by
    simp only [counter, decide_eq_true_eq] at h
    exact h.2
  have hlength : (localNumber value).length ≤ 16 := by
    rw [localNumber, Nat.length_toDigits_le_iff (by decide) (by decide)]
    have hmax : maxCounter < 10 ^ 16 := by decide
    omega
  have hdigits : (localNumber value).all Char.isDigit = true := by
    rw [List.all_eq_true]
    intro ch hch
    exact Nat.isDigit_of_mem_toDigits (by decide) (by decide) hch
  have hzero : ¬ (1 < (localNumber value).length ∧ (localNumber value).head? = some '0') := by
    rintro ⟨hlong, hhead⟩
    by_cases hpos : 0 < value
    · exact JsValue.toDigits_head hpos hhead
    · obtain rfl : value = 0 := by omega
      rw [localNumber, Nat.toDigits_zero] at hlong
      simp at hlong
  have hvalue : Nat.ofDigitChars 10 (localNumber value) 0 = value :=
    Nat.ofDigitChars_ten_toDigits
  rw [counterFromText, if_pos, hvalue, if_pos h]
  refine ⟨Nat.length_toDigits_pos, hlength, hdigits, hzero, ?_⟩
  rw [hvalue]
  omega

theorem counter_of_counterFromText {text : Text} {minimum value : Nat}
    (h : counterFromText text minimum = some value) : counter value minimum = true := by
  rw [counterFromText] at h
  split at h
  · split at h
    next hcounter =>
      rw [Option.some.injEq] at h
      rw [← h]
      exact hcounter
    next => contradiction
  · contradiction

theorem localNumber_injective {a b : Nat} (h : localNumber a = localNumber b) : a = b := by
  have hvalue : Nat.ofDigitChars 10 (localNumber a) 0 = Nat.ofDigitChars 10 (localNumber b) 0 := by
    rw [h]
  simpa only [localNumber, Nat.ofDigitChars_ten_toDigits] using hvalue

theorem isDigit_of_mem_localNumber {value : Nat} {ch : Char} (h : ch ∈ localNumber value) :
    ch.isDigit = true :=
  Nat.isDigit_of_mem_toDigits (by decide) (by decide) h

theorem localNumber_ne_nil (value : Nat) : localNumber value ≠ [] :=
  Nat.toDigits_ne_nil

/-! ## Text and bytes -/

/-- The characters of stored texts: a line end, or a printable ASCII character. -/
def storable (ch : Char) : Bool := ch = '\n' ∨ (32 ≤ ch.toNat ∧ ch.toNat ≤ 126)

def payloadMax : Nat := 262144

def toBytes (text : Text) : Bytes := text.map fun ch => UInt8.ofNat ch.toNat

def ofBytes (bytes : Bytes) : Text := bytes.map fun b => Char.ofNat b.toNat

def localBytes (text : Text) : Option Bytes :=
  if 1 ≤ text.length ∧ text.length ≤ payloadMax ∧ text.all storable then some (toBytes text)
  else none

def localText (bytes : Bytes) : Option Text :=
  if 1 ≤ bytes.length ∧ bytes.length ≤ payloadMax ∧ (ofBytes bytes).all storable then
    some (ofBytes bytes)
  else none

theorem ofBytes_toBytes {text : Text} (h : ∀ ch ∈ text, ch.toNat < 128) :
    ofBytes (toBytes text) = text := by
  rw [ofBytes, toBytes, List.map_map]
  conv_rhs => rw [← List.map_id text]
  refine List.map_congr_left fun ch hch => ?_
  have hsmall := h ch hch
  show Char.ofNat (UInt8.ofNat ch.toNat).toNat = ch
  rw [UInt8.toNat_ofNat', Nat.mod_eq_of_lt (by omega)]
  exact Char.ofNat_toNat ch

theorem toBytes_append (a b : Text) : toBytes (a ++ b) = toBytes a ++ toBytes b :=
  List.map_append

theorem length_toBytes (text : Text) : (toBytes text).length = text.length :=
  List.length_map _

theorem storable_ascii {ch : Char} (h : storable ch = true) : ch.toNat < 128 := by
  simp only [storable, decide_eq_true_eq] at h
  rcases h with rfl | h
  · decide
  · omega

/-- Text that can be stored is read back. -/
theorem localText_of_localBytes {text : Text} {bytes : Bytes} (h : localBytes text = some bytes) :
    localText bytes = some text := by
  rw [localBytes] at h
  split at h
  next hok =>
    rw [Option.some.injEq] at h
    subst h
    have hback : ofBytes (toBytes text) = text :=
      ofBytes_toBytes fun ch hch => storable_ascii (List.all_eq_true.mp hok.2.2 ch hch)
    rw [localText, hback, length_toBytes, if_pos hok]
  next => contradiction

/-! ## Lines -/

/-- Every field is followed by a line end; a field is not empty and has none itself. -/
def localLines (fields : List Text) : Option Bytes :=
  if fields.all (fun f => 1 ≤ f.length ∧ '\n' ∉ f) then
    localBytes (fields.flatMap fun f => f ++ ['\n'])
  else none

/-- The fields of a text of lines. -/
def splitLines (bytes : Bytes) : Option (List Text) :=
  match localText bytes with
  | some text => if text.getLast? = some '\n' then some (text.dropLast.splitOn '\n') else none
  | none => none

theorem flatMap_lines {fields : List Text} (h : fields ≠ []) :
    (fields.flatMap fun f => f ++ ['\n']) = ['\n'].intercalate fields ++ ['\n'] := by
  induction fields with
  | nil => exact absurd rfl h
  | cons f rest ih =>
    cases rest with
    | nil => simp [List.intercalate]
    | cons g rest =>
      rw [List.flatMap_cons, ih (List.cons_ne_nil g rest)]
      simp [List.intercalate]

/-- Lines are split where they were joined. -/
theorem splitLines_of_localLines {fields : List Text} {bytes : Bytes} (hfields : fields ≠ [])
    (h : localLines fields = some bytes) : splitLines bytes = some fields := by
  rw [localLines] at h
  split at h
  next hok =>
    rw [flatMap_lines hfields] at h
    have hline : ∀ f ∈ fields, '\n' ∉ f := by
      intro f hf
      have := List.all_eq_true.mp hok f hf
      simp only [decide_eq_true_eq] at this
      exact this.2
    rw [splitLines, localText_of_localBytes h]
    simp only [List.getLast?_append, List.getLast?_singleton, List.dropLast_concat,
      List.splitOn_intercalate '\n' hline hfields]
    rfl
  next => contradiction

end TradeOps.Agent
