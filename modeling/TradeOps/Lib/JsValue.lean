import TradeOps.Lib.SortBy
import Mathlib.Data.List.Lex

/-!
# JavaScript values and their canonical JSON text

The values that `JSON.parse` makes of texts without fractions and exponents. A string is the list of
its UTF-16 code units, so an escape of an unpaired surrogate is a string like any other. The
canonical text has no white space and prints the fields of an object in the order of the code points
of their names; it is a sequence of characters, since an unpaired surrogate is printed as an escape.
-/

/-- A JavaScript string: UTF-16 code units. -/
abbrev JsString := List UInt16

namespace JsString

/-- Equality of strings is decided by their code units. -/
instance lawfulBEq : LawfulBEq JsString := inferInstance

def isHigh (u : UInt16) : Bool := 0xd800 ≤ u.toNat ∧ u.toNat < 0xdc00

def isLow (u : UInt16) : Bool := 0xdc00 ≤ u.toNat ∧ u.toNat < 0xe000

/-- The code point of a surrogate pair. -/
def pair (high low : UInt16) : Nat :=
  0x10000 + (high.toNat - 0xd800) * 0x400 + (low.toNat - 0xdc00)

/-- The code units of a character. -/
def codeUnits (ch : Char) : JsString :=
  if ch.toNat < 0x10000 then [ch.toNat.toUInt16]
  else [(0xd800 + (ch.toNat - 0x10000) / 0x400).toUInt16,
    (0xdc00 + (ch.toNat - 0x10000) % 0x400).toUInt16]

/-- The code units of a text. -/
def ofChars (chars : List Char) : JsString := chars.flatMap codeUnits

/-- A string literal. -/
def js (text : String) : JsString := ofChars text.toList

/-- What iterating over a string yields: surrogate pairs are joined. -/
def codePoints : JsString → List Nat
  | [] => []
  | [u] => [u.toNat]
  | u :: v :: rest =>
    if isHigh u && isLow v then pair u v :: codePoints rest else u.toNat :: codePoints (v :: rest)

/-- The characters of a string of ASCII characters. -/
def ascii (s : JsString) : Option String :=
  if s.all fun u => u.toNat < 128 then some (String.ofList (s.map fun u => Char.ofNat u.toNat))
  else none

theorem ofChars_of_ascii {chars : List Char} (h : ∀ ch ∈ chars, ch.toNat < 128) :
    ofChars chars = chars.map fun ch => ch.toNat.toUInt16 := by
  induction chars with
  | nil => rfl
  | cons ch rest ih =>
    have hch : ch.toNat < 0x10000 := lt_trans (h ch List.mem_cons_self) (by decide)
    rw [ofChars, List.flatMap_cons, List.map_cons]
    have hrest := ih fun c hc => h c (List.mem_cons_of_mem _ hc)
    rw [ofChars] at hrest
    rw [hrest, codeUnits, if_pos hch]
    rfl

theorem length_js_of_ascii {text : String} (h : ∀ ch ∈ text.toList, ch.toNat < 128) :
    (js text).length = text.toList.length := by
  rw [js, ofChars_of_ascii h, List.length_map]

/-- A text of ASCII characters is read back. -/
theorem ascii_js {text : String} (h : ∀ ch ∈ text.toList, ch.toNat < 128) :
    ascii (js text) = some text := by
  have hback : ∀ ch ∈ text.toList, Char.ofNat ch.toNat.toUInt16.toNat = ch := by
    intro ch hch
    have hlt := h ch hch
    rw [show ch.toNat.toUInt16.toNat = ch.toNat by simp; omega]
    exact Char.ofNat_toNat ch
  rw [js, ofChars_of_ascii h, ascii, if_pos]
  · rw [List.map_map, Option.some.injEq]
    rw [show List.map ((fun u : UInt16 => Char.ofNat u.toNat) ∘ fun ch => ch.toNat.toUInt16)
      text.toList = text.toList from (List.map_congr_left hback).trans (List.map_id _)]
    exact String.ofList_toList
  · rw [List.all_map, List.all_eq_true]
    intro ch hch
    have hlt := h ch hch
    simp
    omega

end JsString

/-- A value of canonical JSON; an object is the list of its properties. -/
inductive JsValue where
  | null
  | bool (value : Bool)
  | num (value : Int)
  | str (value : JsString)
  | arr (items : List JsValue)
  | obj (fields : List (JsString × JsValue))

namespace JsValue

open SortBy JsString

/-! ## Text -/

def hexDigit (value : Nat) : Char :=
  if value < 10 then Char.ofNat (48 + value) else Char.ofNat (87 + value)

/-- The escape of a code unit by its number. -/
def unicodeEscape (n : Nat) : List Char :=
  ['\\', 'u', hexDigit (n / 0x1000), hexDigit (n / 0x100 % 16), hexDigit (n / 16 % 16),
    hexDigit (n % 16)]

/-- A code unit that is not part of a surrogate pair, inside a quoted string. -/
def unitText (u : UInt16) : List Char :=
  if u.toNat = 0x22 then ['\\', '"']
  else if u.toNat = 0x5c then ['\\', '\\']
  else if u.toNat = 8 then ['\\', 'b']
  else if u.toNat = 9 then ['\\', 't']
  else if u.toNat = 10 then ['\\', 'n']
  else if u.toNat = 12 then ['\\', 'f']
  else if u.toNat = 13 then ['\\', 'r']
  else if u.toNat < 32 ∨ isHigh u ∨ isLow u then unicodeEscape u.toNat
  else [Char.ofNat u.toNat]

/-- The characters between the quotes of `JSON.stringify` of a string. -/
def unitsText : JsString → List Char
  | [] => []
  | [u] => unitText u
  | u :: v :: rest =>
    if isHigh u && isLow v then Char.ofNat (pair u v) :: unitsText rest
    else unitText u ++ unitsText (v :: rest)

/-- `JSON.stringify` of a string. -/
def quoted (s : JsString) : List Char := '"' :: (unitsText s ++ ['"'])

/-- The parts with commas between them. -/
def commaSeparated : List (List Char) → List Char
  | [] => []
  | [part] => part
  | part :: rest => part ++ ',' :: commaSeparated rest

/-- Fields, already printed, in the order of their names. -/
def sortedFields (fields : List (JsString × List Char)) : List (List Char) :=
  (sortBy (fun f => codePoints f.1) fields).map fun f => quoted f.1 ++ ':' :: f.2

mutual

/-- The canonical text of a value. -/
def text : JsValue → List Char
  | .null => ['n', 'u', 'l', 'l']
  | .bool true => ['t', 'r', 'u', 'e']
  | .bool false => ['f', 'a', 'l', 's', 'e']
  | .num (.ofNat n) => Nat.toDigits 10 n
  | .num (.negSucc n) => '-' :: Nat.toDigits 10 (n + 1)
  | .str s => quoted s
  | .arr items => '[' :: (commaSeparated (itemTexts items) ++ [']'])
  | .obj fields => '\x7b' :: (commaSeparated (sortedFields (fieldTexts fields)) ++ ['\x7d'])

def itemTexts : List JsValue → List (List Char)
  | [] => []
  | item :: rest => text item :: itemTexts rest

def fieldTexts : List (JsString × JsValue) → List (JsString × List Char)
  | [] => []
  | (name, value) :: rest => (name, text value) :: fieldTexts rest

end

theorem itemTexts_eq (items : List JsValue) : itemTexts items = items.map text := by
  induction items with
  | nil => rfl
  | cons item rest ih => rw [itemTexts, ih, List.map_cons]

theorem fieldTexts_eq (fields : List (JsString × JsValue)) :
    fieldTexts fields = fields.map fun f => (f.1, text f.2) := by
  induction fields with
  | nil => rfl
  | cons field rest ih => rw [fieldTexts, ih, List.map_cons]

/-! ## Well-formed values -/

def maxSafeInteger : Nat := 9007199254740991

mutual

/-- Every number is a safe integer. -/
def safe : JsValue → Bool
  | .num n => n.natAbs ≤ maxSafeInteger
  | .arr items => safeItems items
  | .obj fields => safeFields fields
  | _ => true

def safeItems : List JsValue → Bool
  | [] => true
  | item :: rest => safe item && safeItems rest

def safeFields : List (JsString × JsValue) → Bool
  | [] => true
  | (_, value) :: rest => safe value && safeFields rest

end

/-- Names in strictly ascending order of their code points. -/
def namesOrdered (names : List JsString) : Bool :=
  names.IsChain fun a b => codePoints a < codePoints b

mutual

/-- Every object lists its fields in the order in which they are printed. -/
def ordered : JsValue → Bool
  | .arr items => orderedItems items
  | .obj fields => namesOrdered (fields.map Prod.fst) && orderedFields fields
  | _ => true

def orderedItems : List JsValue → Bool
  | [] => true
  | item :: rest => ordered item && orderedItems rest

def orderedFields : List (JsString × JsValue) → Bool
  | [] => true
  | (_, value) :: rest => ordered value && orderedFields rest

end

mutual

/-- How deep a value nests; a leaf has depth zero. -/
def depth : JsValue → Nat
  | .arr items => depthItems items
  | .obj fields => depthFields fields
  | _ => 0

def depthItems : List JsValue → Nat
  | [] => 0
  | item :: rest => max (depth item + 1) (depthItems rest)

def depthFields : List (JsString × JsValue) → Nat
  | [] => 0
  | (_, value) :: rest => max (depth value + 1) (depthFields rest)

end

/-- A value that is printed as it stands and nests at most `d` deep. -/
structure Plain (v : JsValue) (d : Nat) : Prop where
  ordered : v.ordered = true
  safe : v.safe = true
  depth : v.depth ≤ d

section Plain

variable {d : Nat}

theorem Plain.null : Plain .null d := ⟨rfl, rfl, Nat.zero_le d⟩

theorem Plain.bool (value : Bool) : Plain (.bool value) d := ⟨rfl, rfl, Nat.zero_le d⟩

theorem Plain.str (s : JsString) : Plain (.str s) d := ⟨rfl, rfl, Nat.zero_le d⟩

theorem Plain.num {n : Int} (h : n.natAbs ≤ maxSafeInteger) : Plain (.num n) d :=
  ⟨rfl, by simpa [JsValue.safe] using h, Nat.zero_le d⟩

theorem Plain.arr {items : List JsValue} (h : ∀ item ∈ items, item.Plain d) :
    Plain (.arr items) (d + 1) := by
  suffices hitems : orderedItems items = true ∧ safeItems items = true ∧
      depthItems items ≤ d + 1 from ⟨hitems.1, hitems.2.1, hitems.2.2⟩
  induction items with
  | nil => exact ⟨rfl, rfl, Nat.zero_le _⟩
  | cons item rest ih =>
    obtain ⟨hordered, hsafe, hdepth⟩ := ih fun i hi => h i (List.mem_cons_of_mem _ hi)
    have hitem := h item List.mem_cons_self
    have hdeep := hitem.depth
    rw [orderedItems, safeItems, depthItems, hitem.ordered, hitem.safe]
    exact ⟨hordered, hsafe, by omega⟩

theorem Plain.obj {fields : List (JsString × JsValue)}
    (hnames : namesOrdered (fields.map Prod.fst) = true) (h : ∀ f ∈ fields, f.2.Plain d) :
    Plain (.obj fields) (d + 1) := by
  suffices hfields : orderedFields fields = true ∧ safeFields fields = true ∧
      depthFields fields ≤ d + 1 by
    exact ⟨by rw [JsValue.ordered, hnames, hfields.1]; rfl, hfields.2.1, hfields.2.2⟩
  clear hnames
  induction fields with
  | nil => exact ⟨rfl, rfl, Nat.zero_le _⟩
  | cons f rest ih =>
    obtain ⟨hordered, hsafe, hdepth⟩ := ih fun g hg => h g (List.mem_cons_of_mem _ hg)
    have hvalue := h f List.mem_cons_self
    have hdeep := hvalue.depth
    rw [orderedFields, safeFields, depthFields, hvalue.ordered, hvalue.safe]
    exact ⟨hordered, hsafe, by omega⟩

end Plain

theorem namesOrdered_pairwise {names : List JsString} (h : namesOrdered names = true) :
    names.Pairwise fun a b => codePoints a < codePoints b := by
  have htrans : Trans (fun a b : JsString => codePoints a < codePoints b)
      (fun a b : JsString => codePoints a < codePoints b)
      (fun a b : JsString => codePoints a < codePoints b) := ⟨fun hab hbc => lt_trans hab hbc⟩
  rw [namesOrdered, decide_eq_true_iff] at h
  exact List.isChain_iff_pairwise.1 h

/-- A field as it is printed. -/
def fieldText (f : JsString × JsValue) : List Char := quoted f.1 ++ ':' :: text f.2

/-- The fields of an ordered object are printed as they stand. -/
theorem sortedFields_of_ordered {fields : List (JsString × JsValue)}
    (h : namesOrdered (fields.map Prod.fst) = true) :
    sortedFields (fieldTexts fields) = fields.map fieldText := by
  have hsorted : (fieldTexts fields).Pairwise fun a b => codePoints a.1 ≤ codePoints b.1 := by
    have hnames := namesOrdered_pairwise h
    rw [List.pairwise_map] at hnames
    rw [fieldTexts_eq, List.pairwise_map]
    exact hnames.imp fun hlt => hlt.le
  rw [sortedFields, sortBy_of_pairwise _ hsorted, fieldTexts_eq, List.map_map]
  rfl

/-! ## Size -/

mutual

/-- A bound on the bytes of the text: six for a code unit. -/
def size : JsValue → Nat
  | .null => 4
  | .bool _ => 5
  | .num n => (Nat.toDigits 10 n.natAbs).length + 1
  | .str s => 6 * s.length + 2
  | .arr items => sizeItems items + 2
  | .obj fields => sizeFields fields + 2

def sizeItems : List JsValue → Nat
  | [] => 0
  | item :: rest => size item + 1 + sizeItems rest

def sizeFields : List (JsString × JsValue) → Nat
  | [] => 0
  | (name, value) :: rest => 6 * name.length + 3 + size value + 1 + sizeFields rest

end

/-- The bytes of characters in UTF-8. -/
def utf8Bytes (chars : List Char) : Nat := (chars.map Char.utf8Size).sum

theorem utf8ByteSize_ofList_cons (ch : Char) (chars : List Char) :
    (String.ofList (ch :: chars)).utf8ByteSize =
      ch.utf8Size + (String.ofList chars).utf8ByteSize := by
  rw [String.ofList_cons, String.utf8ByteSize_append, String.utf8ByteSize_singleton]

theorem utf8ByteSize_ofList (chars : List Char) :
    (String.ofList chars).utf8ByteSize = utf8Bytes chars := by
  induction chars with
  | nil => rfl
  | cons ch rest ih =>
    rw [utf8ByteSize_ofList_cons, ih, utf8Bytes, utf8Bytes, List.map_cons, List.sum_cons]

theorem utf8Bytes_append (a b : List Char) : utf8Bytes (a ++ b) = utf8Bytes a + utf8Bytes b := by
  rw [utf8Bytes, List.map_append, List.sum_append]
  rfl

theorem utf8Bytes_cons (ch : Char) (chars : List Char) :
    utf8Bytes (ch :: chars) = ch.utf8Size + utf8Bytes chars := by
  rw [utf8Bytes, List.map_cons, List.sum_cons]
  rfl

theorem utf8Bytes_unitText (u : UInt16) : utf8Bytes (unitText u) ≤ 6 := by
  unfold unitText
  repeat' split
  all_goals try decide
  · have hhex : ∀ n < 16, (hexDigit n).utf8Size = 1 := by decide
    have hlt : u.toNat < 65536 := u.toNat_lt
    simp only [unicodeEscape, utf8Bytes, List.map_cons, List.map_nil, List.sum_cons, List.sum_nil]
    rw [hhex _ (by omega), hhex _ (by omega), hhex _ (by omega), hhex _ (by omega)]
    decide
  · have := Char.utf8Size_le_four (Char.ofNat u.toNat)
    simp only [utf8Bytes, List.map_cons, List.map_nil, List.sum_cons, List.sum_nil]
    omega

theorem utf8Bytes_unitsText (s : JsString) : utf8Bytes (unitsText s) ≤ 6 * s.length := by
  induction s using unitsText.induct with
  | case1 => decide
  | case2 u =>
    rw [unitsText]
    exact utf8Bytes_unitText u
  | case3 u v rest h ih =>
    have := Char.utf8Size_le_four (Char.ofNat (pair u v))
    rw [unitsText, if_pos h, utf8Bytes_cons, List.length_cons, List.length_cons]
    omega
  | case4 u v rest h ih =>
    have := utf8Bytes_unitText u
    rw [unitsText, if_neg h, utf8Bytes_append, List.length_cons]
    omega

theorem utf8Bytes_quoted (s : JsString) : utf8Bytes (quoted s) ≤ 6 * s.length + 2 := by
  have hunits := utf8Bytes_unitsText s
  have hquote : '"'.utf8Size = 1 := by decide
  rw [quoted, utf8Bytes_cons, utf8Bytes_append, utf8Bytes_cons, hquote]
  simp only [utf8Bytes, List.map_nil, List.sum_nil] at hunits ⊢
  omega

theorem utf8Bytes_digits {chars : List Char} (h : ∀ ch ∈ chars, ch.isDigit = true) :
    utf8Bytes chars = chars.length := by
  induction chars with
  | nil => rfl
  | cons ch rest ih =>
    have hch : ch.utf8Size = 1 := by
      have hdigit := h ch List.mem_cons_self
      rw [Char.isDigit_iff_toNat] at hdigit
      rw [Char.utf8Size_eq_one_iff, UInt32.le_iff_toNat_le]
      have : '9'.toNat = 57 := rfl
      have : ch.val.toNat = ch.toNat := rfl
      have : (127 : UInt32).toNat = 127 := rfl
      omega
    rw [utf8Bytes_cons, hch, ih fun c hc => h c (List.mem_cons_of_mem _ hc), List.length_cons]
    omega

/-- Commas and parts. -/
theorem utf8Bytes_commaSeparated (parts : List (List Char)) :
    utf8Bytes (commaSeparated parts) ≤ (parts.map fun part => utf8Bytes part + 1).sum := by
  induction parts using commaSeparated.induct with
  | case1 => decide
  | case2 part =>
    simp [commaSeparated]
  | case3 part rest hne ih =>
    have hcomma : ','.utf8Size = 1 := by decide
    rw [commaSeparated.eq_def]
    split
    · simp_all
    · simp_all
    · rename_i heq
      cases heq
      rw [utf8Bytes_append, utf8Bytes_cons, hcomma, List.map_cons, List.sum_cons]
      omega

/-- Sorting does not change how much there is to print. -/
theorem sum_sortedFields (fields : List (JsString × List Char)) :
    ((sortedFields fields).map fun part => utf8Bytes part + 1).sum =
      (fields.map fun f => utf8Bytes (quoted f.1 ++ ':' :: f.2) + 1).sum := by
  rw [sortedFields, List.map_map]
  exact ((sortBy_perm (fun f : JsString × List Char => codePoints f.1) fields).map
    fun f => utf8Bytes (quoted f.1 ++ ':' :: f.2) + 1).sum_nat

mutual

theorem utf8Bytes_text (v : JsValue) : utf8Bytes (text v) ≤ size v := by
  match v with
  | .null => decide
  | .bool true => decide
  | .bool false => decide
  | .num (.ofNat n) =>
    rw [text, size, utf8Bytes_digits fun ch hch =>
      Nat.isDigit_of_mem_toDigits (by decide) (by decide) hch]
    exact Nat.le_succ _
  | .num (.negSucc n) =>
    have hminus : '-'.utf8Size = 1 := by decide
    have habs : (Int.negSucc n).natAbs = n + 1 := rfl
    rw [text, size, utf8Bytes_cons, hminus, habs, utf8Bytes_digits fun ch hch =>
      Nat.isDigit_of_mem_toDigits (by decide) (by decide) hch]
    omega
  | .str s => exact utf8Bytes_quoted s
  | .arr items =>
    have hopen : '['.utf8Size = 1 := by decide
    have hclose : utf8Bytes [']'] = 1 := by decide
    have hitems := utf8Bytes_items items
    have hcommas := utf8Bytes_commaSeparated (itemTexts items)
    rw [text, size, utf8Bytes_cons, utf8Bytes_append, hopen, hclose]
    omega
  | .obj fields =>
    have hopen : '\x7b'.utf8Size = 1 := by decide
    have hclose : utf8Bytes ['\x7d'] = 1 := by decide
    have hfields := utf8Bytes_fields fields
    have hcommas := utf8Bytes_commaSeparated (sortedFields (fieldTexts fields))
    rw [sum_sortedFields] at hcommas
    rw [text, size, utf8Bytes_cons, utf8Bytes_append, hopen, hclose]
    omega

theorem utf8Bytes_items (items : List JsValue) :
    ((itemTexts items).map fun part => utf8Bytes part + 1).sum ≤ sizeItems items := by
  match items with
  | [] => decide
  | item :: rest =>
    have hitem := utf8Bytes_text item
    have hrest := utf8Bytes_items rest
    rw [itemTexts, List.map_cons, List.sum_cons, sizeItems]
    omega

theorem utf8Bytes_fields (fields : List (JsString × JsValue)) :
    ((fieldTexts fields).map fun f => utf8Bytes (quoted f.1 ++ ':' :: f.2) + 1).sum ≤
      sizeFields fields := by
  match fields with
  | [] => decide
  | (name, value) :: rest =>
    have hcolon : ':'.utf8Size = 1 := by decide
    have hname := utf8Bytes_quoted name
    have hvalue := utf8Bytes_text value
    have hrest := utf8Bytes_fields rest
    rw [fieldTexts, List.map_cons, List.sum_cons, sizeFields]
    simp only [utf8Bytes_append, utf8Bytes_cons, hcolon] at hrest ⊢
    omega

end

/-- The text of a value is not longer than its size. -/
theorem utf8ByteSize_text (v : JsValue) : (String.ofList (text v)).utf8ByteSize ≤ size v :=
  (utf8ByteSize_ofList _).trans_le (utf8Bytes_text v)

/-- A text has no more code units than bytes. -/
theorem length_js_le (text : String) : (js text).length ≤ text.utf8ByteSize := by
  have hunits : ∀ ch : Char, (codeUnits ch).length ≤ ch.utf8Size := by
    intro ch
    have hpos := Char.utf8Size_pos ch
    rw [codeUnits]
    split
    · exact hpos
    · rename_i hbig
      have hfour : ch.utf8Size = 4 := by
        rw [Char.utf8Size_eq_four_iff, UInt32.lt_iff_toNat_lt]
        have : ch.val.toNat = ch.toNat := rfl
        have : (0xffff : UInt32).toNat = 0xffff := rfl
        omega
      rw [hfour, List.length_cons, List.length_singleton]
      decide
  have hchars : ∀ chars : List Char, (ofChars chars).length ≤ utf8Bytes chars := by
    intro chars
    induction chars with
    | nil => decide
    | cons ch rest ih =>
      have hch := hunits ch
      rw [ofChars] at ih ⊢
      rw [List.flatMap_cons, List.length_append, utf8Bytes_cons]
      omega
  rw [js, ← String.ofList_toList (s := text), utf8ByteSize_ofList, String.toList_ofList]
  exact hchars _

end JsValue
