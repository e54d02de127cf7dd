import TradeOps.Lib.JsValue

/-!
# `JSON.parse`

A recursive descent over the characters of a text, with fuel for the nesting: the length of a text
is always enough. It yields a document, whose numbers are tokens and whose objects list their fields
as the text does. A document without fractions and exponents is a value: of two fields with one name
the later value stays, in the place of the first. No reader of canonical documents takes another.

The main result is the round trip: the canonical text of a value with safe order is read back as
that value, whatever its strings are.
-/

namespace JsValue

open JsString

/-! ## The parser -/

def isSpace (ch : Char) : Bool := ch = ' ' ∨ ch = '\t' ∨ ch = '\n' ∨ ch = '\r'

def skipSpace (input : List Char) : List Char := input.dropWhile isSpace

def hexValue (ch : Char) : Option Nat :=
  if '0' ≤ ch ∧ ch ≤ '9' then some (ch.toNat - 48)
  else if 'a' ≤ ch ∧ ch ≤ 'f' then some (ch.toNat - 87)
  else if 'A' ≤ ch ∧ ch ≤ 'F' then some (ch.toNat - 55)
  else none

/-- The code unit that four digits stand for. -/
def hexUnit (a b c d : Char) : Option UInt16 := do
  let a ← hexValue a
  let b ← hexValue b
  let c ← hexValue c
  let d ← hexValue d
  return (a * 0x1000 + b * 0x100 + c * 16 + d).toUInt16

/-- The code unit of a short escape. -/
def shortEscape (ch : Char) : Option UInt16 :=
  if ch = '"' then some 0x22
  else if ch = '\\' then some 0x5c
  else if ch = '/' then some 0x2f
  else if ch = 'b' then some 8
  else if ch = 't' then some 9
  else if ch = 'n' then some 10
  else if ch = 'f' then some 12
  else if ch = 'r' then some 13
  else none

/-- A string after its opening quote, with what follows the closing one. -/
def parseString : List Char → Option (JsString × List Char)
  | [] => none
  | '"' :: rest => some ([], rest)
  | '\\' :: 'u' :: a :: b :: c :: d :: rest => do
    let u ← hexUnit a b c d
    let (s, rest') ← parseString rest
    return (u :: s, rest')
  | '\\' :: ch :: rest => do
    let u ← shortEscape ch
    let (s, rest') ← parseString rest
    return (u :: s, rest')
  | ch :: rest =>
    if ch.toNat < 32 then none
    else do
      let (s, rest') ← parseString rest
      return (codeUnits ch ++ s, rest')

/-- `(?:0|[1-9][0-9]*)`. -/
def scanInteger : List Char → Option (List Char × List Char)
  | '0' :: rest => some (['0'], rest)
  | ch :: rest =>
    if '1' ≤ ch ∧ ch ≤ '9' then
      some (ch :: rest.takeWhile Char.isDigit, rest.dropWhile Char.isDigit)
    else none
  | [] => none

/-- `(?:\.[0-9]+)?`. -/
def scanFraction (input : List Char) : List Char × List Char :=
  match input with
  | '.' :: rest =>
    if rest.takeWhile Char.isDigit = [] then ([], input)
    else ('.' :: rest.takeWhile Char.isDigit, rest.dropWhile Char.isDigit)
  | _ => ([], input)

/-- `[+-]?`. -/
def scanSign : List Char → List Char × List Char
  | '+' :: rest => (['+'], rest)
  | '-' :: rest => (['-'], rest)
  | input => ([], input)

/-- `(?:[eE][+-]?[0-9]+)?`. -/
def scanExponent (input : List Char) : List Char × List Char :=
  match input with
  | [] => ([], [])
  | ch :: rest =>
    if ch = 'e' ∨ ch = 'E' then
      let (sign, digits) := scanSign rest
      if digits.takeWhile Char.isDigit = [] then ([], input)
      else (ch :: sign ++ digits.takeWhile Char.isDigit, digits.dropWhile Char.isDigit)
    else ([], input)

/-- `-?`. -/
def scanMinus : List Char → List Char × List Char
  | '-' :: rest => (['-'], rest)
  | input => ([], input)

/-- A number token and what follows it. -/
def scanNumber (input : List Char) : Option (List Char × List Char) := do
  let (minus, rest) := scanMinus input
  let (integer, rest) ← scanInteger rest
  let (fraction, rest) := scanFraction rest
  let (exponent, rest) := scanExponent rest
  return (minus ++ integer ++ fraction ++ exponent, rest)

/-- A token without fraction and exponent. -/
def isIntegerToken (raw : List Char) : Bool :=
  '.' ∉ raw ∧ 'e' ∉ raw ∧ 'E' ∉ raw

/-- What a text spells. -/
inductive Document where
  | null
  | bool (value : Bool)
  | str (value : JsString)
  | num (token : List Char)
  | arr (items : List Document)
  | obj (fields : List (JsString × Document))

mutual

def parseValue : Nat → List Char → Option (Document × List Char)
  | 0, _ => none
  | fuel + 1, input =>
    match skipSpace input with
    | 'n' :: 'u' :: 'l' :: 'l' :: rest => some (.null, rest)
    | 't' :: 'r' :: 'u' :: 'e' :: rest => some (.bool true, rest)
    | 'f' :: 'a' :: 'l' :: 's' :: 'e' :: rest => some (.bool false, rest)
    | '"' :: rest => (parseString rest).map fun (s, rest') => (.str s, rest')
    | '[' :: rest =>
      match skipSpace rest with
      | ']' :: rest' => some (.arr [], rest')
      | rest' => (parseItems fuel rest').map fun (items, rest'') => (.arr items, rest'')
    | '\x7b' :: rest =>
      match skipSpace rest with
      | '\x7d' :: rest' => some (.obj [], rest')
      | rest' => (parseFields fuel rest').map fun (fields, rest'') => (.obj fields, rest'')
    | rest => (scanNumber rest).map fun (token, rest') => (.num token, rest')

/-- One or more items and the closing bracket. -/
def parseItems : Nat → List Char → Option (List Document × List Char)
  | 0, _ => none
  | fuel + 1, input => do
    let (item, rest) ← parseValue fuel input
    match skipSpace rest with
    | ']' :: rest' => some ([item], rest')
    | ',' :: rest' => do
      let (items, rest'') ← parseItems fuel rest'
      return (item :: items, rest'')
    | _ => none

/-- One or more fields and the closing brace. -/
def parseFields : Nat → List Char → Option (List (JsString × Document) × List Char)
  | 0, _ => none
  | fuel + 1, input =>
    match skipSpace input with
    | '"' :: rest => do
      let (name, rest₁) ← parseString rest
      match skipSpace rest₁ with
      | ':' :: rest₂ => do
        let (value, rest₃) ← parseValue fuel rest₂
        match skipSpace rest₃ with
        | '\x7d' :: rest₄ => some ([(name, value)], rest₄)
        | ',' :: rest₄ => do
          let (fields, rest₅) ← parseFields fuel rest₄
          return ((name, value) :: fields, rest₅)
        | _ => none
      | _ => none
    | _ => none

end

/-- `JSON.parse`. -/
def parseDocument (input : List Char) : Option Document := do
  let (document, rest) ← parseValue (input.length + 1) input
  if skipSpace rest = [] then some document else none

/-- The property of an object: the last field with this name. -/
def Document.property (fields : List (JsString × Document)) (name : JsString) : Option Document :=
  (fields.reverse.find? (·.1 = name)).map Prod.snd

/-! ## Documents of integers -/

/-- `object[name] = value`. -/
def setField (fields : List (JsString × JsValue)) (name : JsString) (value : JsValue) :
    List (JsString × JsValue) :=
  if name ∈ fields.map Prod.fst then fields.map fun f => if f.1 = name then (name, value) else f
  else fields ++ [(name, value)]

/-- The properties that a list of fields leaves. -/
def properties (fields : List (JsString × JsValue)) : List (JsString × JsValue) :=
  fields.foldl (fun done f => setField done f.1 f.2) []

/-- The number that an integer token spells. -/
def integerOf (token : List Char) : Option Int :=
  if isIntegerToken token then
    match token with
    | '-' :: digits => some (-Nat.ofDigitChars 10 digits 0)
    | digits => some (Nat.ofDigitChars 10 digits 0)
  else none

mutual

/-- The value of a document without fractions and exponents. -/
def Document.toValue : Document → Option JsValue
  | .null => some .null
  | .bool value => some (.bool value)
  | .str value => some (.str value)
  | .num token => (integerOf token).map .num
  | .arr items => (toItems items).map .arr
  | .obj fields => (toFields fields).map fun fields => .obj (properties fields)

def Document.toItems : List Document → Option (List JsValue)
  | [] => some []
  | item :: rest => do
    let value ← item.toValue
    let values ← toItems rest
    return value :: values

def Document.toFields : List (JsString × Document) → Option (List (JsString × JsValue))
  | [] => some []
  | (name, document) :: rest => do
    let value ← document.toValue
    let fields ← toFields rest
    return (name, value) :: fields

end

/-- `JSON.parse` of a text without fractions and exponents. -/
def parse (input : List Char) : Option JsValue := do
  let document ← parseDocument input
  document.toValue

/-! ## Strings are read back -/

theorem hexValue_hexDigit : ∀ n < 16, hexValue (hexDigit n) = some n := by
  decide

theorem toUInt16_toNat (u : UInt16) : u.toNat.toUInt16 = u := by
  simp

theorem toNat_ofNat {n : Nat} (h : n.isValidChar) : (Char.ofNat n).toNat = n := by
  rw [Char.ofNat, dif_pos h]
  rfl

section Strings

variable {ch : Char} {u v : UInt16} {rest : List Char}

/-- The string that `prepend` makes of what is read after it. -/
def prepend (units : JsString) (p : JsString × List Char) : JsString × List Char :=
  (units ++ p.1, p.2)

theorem parseString_char (hquote : ch ≠ '"') (hslash : ch ≠ '\\') (hlow : 32 ≤ ch.toNat) :
    parseString (ch :: rest) = (parseString rest).map (prepend (codeUnits ch)) := by
  rw [parseString.eq_def]
  split
  · simp_all
  · simp_all
  · simp_all
  · simp_all
  · rename_i ch' rest' _ _ _ heq
    obtain ⟨rfl, rfl⟩ : ch = ch' ∧ rest = rest' := by simpa using heq
    rw [if_neg (by omega)]
    cases parseString rest <;> rfl

theorem parseString_unicodeEscape :
    parseString (unicodeEscape u.toNat ++ rest) = (parseString rest).map (prepend [u]) := by
  have hlt : u.toNat < 65536 := u.toNat_lt
  have hunit : hexUnit (hexDigit (u.toNat / 0x1000)) (hexDigit (u.toNat / 0x100 % 16))
      (hexDigit (u.toNat / 16 % 16)) (hexDigit (u.toNat % 16)) = some u := by
    rw [hexUnit, hexValue_hexDigit _ (by omega), hexValue_hexDigit _ (by omega),
      hexValue_hexDigit _ (by omega), hexValue_hexDigit _ (by omega)]
    simp only [Option.bind_eq_bind, Option.bind_some, Option.pure_def, Option.some.injEq]
    rw [show u.toNat / 0x1000 * 0x1000 + u.toNat / 0x100 % 16 * 0x100 + u.toNat / 16 % 16 * 16 +
      u.toNat % 16 = u.toNat by omega]
    exact toUInt16_toNat u
  rw [unicodeEscape]
  simp only [List.cons_append, List.nil_append]
  rw [parseString, hunit]
  cases parseString rest <;> rfl

theorem parseString_shortEscape (hu : ch ≠ 'u') (h : shortEscape ch = some u) :
    parseString ('\\' :: ch :: rest) = (parseString rest).map (prepend [u]) := by
  rw [parseString.eq_def]
  split
  · simp_all
  · simp_all
  · simp_all
  · rename_i ch' rest' _ heq
    obtain ⟨rfl, rfl⟩ : ch = ch' ∧ rest = rest' := by simpa using heq
    rw [h]
    cases parseString rest <;> rfl
  · rename_i hno heq
    cases heq
    exact (hno _ _ rfl rfl).elim

/-- A code unit outside the surrogates is a character. -/
theorem isValidChar_unit (hhigh : isHigh u = false) (hlow : isLow u = false) :
    u.toNat.isValidChar := by
  have hlt : u.toNat < 65536 := u.toNat_lt
  simp only [isHigh, isLow, decide_eq_false_iff_not, not_and, not_lt] at hhigh hlow
  unfold Nat.isValidChar
  omega

theorem parseString_unitText :
    parseString (unitText u ++ rest) = (parseString rest).map (prepend [u]) := by
  have hunit : ∀ {n : Nat}, u.toNat = n → u = n.toUInt16 := fun h => h ▸ (toUInt16_toNat u).symm
  unfold unitText
  split
  · exact parseString_shortEscape (by decide) (by rw [hunit ‹_›]; rfl)
  split
  · exact parseString_shortEscape (by decide) (by rw [hunit ‹_›]; rfl)
  split
  · exact parseString_shortEscape (by decide) (by rw [hunit ‹_›]; rfl)
  split
  · exact parseString_shortEscape (by decide) (by rw [hunit ‹_›]; rfl)
  split
  · exact parseString_shortEscape (by decide) (by rw [hunit ‹_›]; rfl)
  split
  · exact parseString_shortEscape (by decide) (by rw [hunit ‹_›]; rfl)
  split
  · exact parseString_shortEscape (by decide) (by rw [hunit ‹_›]; rfl)
  split
  · exact parseString_unicodeEscape
  -- a plain character: its number is the code unit
  · rename_i hquote hslash _ _ _ _ _ hplain
    push Not at hplain
    have hvalid := isValidChar_unit (u := u) (by simpa using hplain.2.1) (by simpa using hplain.2.2)
    have hnat : (Char.ofNat u.toNat).toNat = u.toNat := toNat_ofNat hvalid
    have hlt : u.toNat < 65536 := u.toNat_lt
    rw [List.singleton_append, parseString_char]
    · rw [codeUnits, hnat, if_pos hlt, toUInt16_toNat]
    · intro h
      rw [h] at hnat
      exact hquote hnat.symm
    · intro h
      rw [h] at hnat
      exact hslash hnat.symm
    · omega

theorem parseString_pair (hhigh : isHigh u = true) (hlow : isLow v = true) :
    parseString (Char.ofNat (pair u v) :: rest) = (parseString rest).map (prepend [u, v]) := by
  simp only [isHigh, isLow, decide_eq_true_eq] at hhigh hlow
  have hpair : pair u v = 0x10000 + (u.toNat - 0xd800) * 0x400 + (v.toNat - 0xdc00) := rfl
  have hvalid : (pair u v).isValidChar := by
    unfold Nat.isValidChar
    omega
  have hnat : (Char.ofNat (pair u v)).toNat = pair u v := toNat_ofNat hvalid
  have hunits : codeUnits (Char.ofNat (pair u v)) = [u, v] := by
    rw [codeUnits, hnat, if_neg (by omega)]
    rw [show 0xd800 + (pair u v - 0x10000) / 0x400 = u.toNat by omega,
      show 0xdc00 + (pair u v - 0x10000) % 0x400 = v.toNat by omega, toUInt16_toNat,
      toUInt16_toNat]
  rw [parseString_char, hunits]
  · intro h
    rw [h] at hnat
    have : '"'.toNat = 34 := rfl
    omega
  · intro h
    rw [h] at hnat
    have : '\\'.toNat = 92 := rfl
    omega
  · omega

/-- What `JSON.stringify` makes of a string is read back, surrogates paired or not. -/
theorem parseString_unitsText (s : JsString) (rest : List Char) :
    parseString (unitsText s ++ '"' :: rest) = some (s, rest) := by
  induction s using unitsText.induct with
  | case1 => rfl
  | case2 u =>
    rw [unitsText, parseString_unitText]
    rfl
  | case3 u v tail h ih =>
    rw [Bool.and_eq_true] at h
    rw [unitsText, if_pos (by simp [h]), List.cons_append, parseString_pair h.1 h.2, ih]
    rfl
  | case4 u v tail h ih =>
    rw [unitsText, if_neg h, List.append_assoc, parseString_unitText, ih]
    rfl

end Strings

/-! ## Numbers are read back -/

/-- What follows a number does not go on with it. -/
def endsNumber (rest : List Char) : Prop :=
  ∀ ch ∈ rest.head?, ch.isDigit = false ∧ ch ≠ '.' ∧ ch ≠ 'e' ∧ ch ≠ 'E'

theorem toDigits_head {n : Nat} (hn : 0 < n) : (Nat.toDigits 10 n).head? ≠ some '0' := by
  induction n using Nat.strong_induction_on with
  | _ n ih =>
    by_cases hlt : n < 10
    · rw [Nat.toDigits_of_lt_base hlt]
      have : ∀ m < 10, 0 < m → [Nat.digitChar m].head? ≠ some '0' := by decide
      exact this n hlt hn
    · rw [Nat.toDigits_of_base_le (by decide) (by omega)]
      have hhead := ih (n / 10) (by omega) (by omega)
      rw [List.head?_append]
      cases hcase : (Nat.toDigits 10 (n / 10)).head? with
      | none => exact absurd (List.head?_eq_none_iff.1 hcase) Nat.toDigits_ne_nil
      | some ch =>
        rw [hcase] at hhead
        exact hhead

/-- The first digit of a positive number. -/
theorem toDigits_cons {n : Nat} (hn : 0 < n) :
    ∃ ch tail, Nat.toDigits 10 n = ch :: tail ∧ '1' ≤ ch ∧ ch ≤ '9' ∧
      ∀ ch' ∈ tail, ch'.isDigit = true := by
  have hall : ∀ ch ∈ Nat.toDigits 10 n, ch.isDigit = true := fun ch hch =>
    Nat.isDigit_of_mem_toDigits (by decide) (by decide) hch
  cases hdigits : Nat.toDigits 10 n with
  | nil => exact absurd hdigits Nat.toDigits_ne_nil
  | cons ch tail =>
    rw [hdigits] at hall
    have hdigit := hall ch List.mem_cons_self
    have hhead := toDigits_head hn
    rw [hdigits, List.head?_cons] at hhead
    have hzero : ch ≠ '0' := fun heq => hhead (congrArg some heq)
    have hbounds : '1' ≤ ch ∧ ch ≤ '9' := by
      have hval : ch.val.toNat ≠ 48 := fun heq => hzero (Char.ext (UInt32.toNat_inj.mp heq))
      simp only [Char.isDigit, Bool.and_eq_true, decide_eq_true_eq, ge_iff_le,
        UInt32.le_iff_toNat_le] at hdigit
      rw [Char.le_def, Char.le_def, UInt32.le_iff_toNat_le, UInt32.le_iff_toNat_le]
      have hone : ('1' : Char).val.toNat = 49 := rfl
      have hnine : ('9' : Char).val.toNat = 57 := rfl
      have hlow : ('0' : Char).val.toNat = 48 := rfl
      omega
    exact ⟨ch, tail, rfl, hbounds.1, hbounds.2, fun ch' hch' =>
      hall ch' (List.mem_cons_of_mem _ hch')⟩

section Tokens

variable {rest : List Char}

theorem scanInteger_toDigits (n : Nat) (hrest : ∀ ch ∈ rest.head?, ch.isDigit = false) :
    scanInteger (Nat.toDigits 10 n ++ rest) = some (Nat.toDigits 10 n, rest) := by
  by_cases hn : 0 < n
  · obtain ⟨ch, tail, hdigits, hone, hnine, htail⟩ := toDigits_cons hn
    have hstop : rest.takeWhile Char.isDigit = [] ∧ rest.dropWhile Char.isDigit = rest := by
      cases rest with
      | nil => exact ⟨rfl, rfl⟩
      | cons next more =>
        have hnext := hrest next rfl
        simp [hnext]
    rw [hdigits, List.cons_append, scanInteger, if_pos ⟨hone, hnine⟩,
      List.takeWhile_append_of_pos htail, List.dropWhile_append_of_pos htail, hstop.1, hstop.2,
      List.append_nil]
    rintro rfl
    exact absurd hone (by decide)
  · obtain rfl : n = 0 := by omega
    rfl

theorem scanFraction_none (hrest : ∀ ch ∈ rest.head?, ch ≠ '.') :
    scanFraction rest = ([], rest) := by
  unfold scanFraction
  split
  · exact absurd rfl (hrest '.' rfl)
  · rfl

theorem scanExponent_none (hrest : ∀ ch ∈ rest.head?, ch ≠ 'e' ∧ ch ≠ 'E') :
    scanExponent rest = ([], rest) := by
  cases rest with
  | nil => rfl
  | cons ch more =>
    obtain ⟨hlower, hupper⟩ := hrest ch rfl
    rw [scanExponent, if_neg]
    simp [hlower, hupper]

/-- The digits of a number, behind its sign. -/
theorem scanNumber_digits {input : List Char} (minus : List Char) (n : Nat)
    (hrest : endsNumber rest)
    (hminus : scanMinus input = (minus, Nat.toDigits 10 n ++ rest)) :
    scanNumber input = some (minus ++ Nat.toDigits 10 n, rest) := by
  have hinteger := scanInteger_toDigits n fun ch hch => (hrest ch hch).1
  have hfraction := scanFraction_none fun ch hch => (hrest ch hch).2.1
  have hexponent := scanExponent_none fun ch hch => (hrest ch hch).2.2
  simp only [scanNumber, hminus, hinteger, Option.bind_eq_bind, Option.bind_some, hfraction,
    hexponent, List.append_nil, Option.pure_def]

theorem scanNumber_text (n : Int) (hrest : endsNumber rest) :
    scanNumber (text (.num n) ++ rest) = some (text (.num n), rest) := by
  cases n with
  | ofNat n =>
    rw [text]
    apply scanNumber_digits [] n hrest
    unfold scanMinus
    split
    next hminus =>
      have hmem : '-' ∈ Nat.toDigits 10 n := by
        cases hdigits : Nat.toDigits 10 n with
        | nil => exact absurd hdigits Nat.toDigits_ne_nil
        | cons ch tail =>
          rw [hdigits, List.cons_append, List.cons.injEq] at hminus
          rw [hminus.1]
          exact List.mem_cons_self
      exact absurd (Nat.isDigit_of_mem_toDigits (by decide) (by decide) hmem) (by decide)
    next => rfl
  | negSucc n => exact scanNumber_digits ['-'] (n + 1) hrest rfl

end Tokens

theorem integerOf_text (n : Int) : integerOf (text (.num n)) = some n := by
  have hdigit : ∀ (m : Nat) (ch : Char), ch.isDigit = false → ch ∉ Nat.toDigits 10 m := by
    intro m ch hch hmem
    have htrue := Nat.isDigit_of_mem_toDigits (by decide) (by decide) hmem
    rw [hch] at htrue
    contradiction
  cases n with
  | ofNat n =>
    have htoken : isIntegerToken (Nat.toDigits 10 n) = true :=
      decide_eq_true ⟨hdigit _ _ rfl, hdigit _ _ rfl, hdigit _ _ rfl⟩
    rw [text]
    unfold integerOf
    rw [if_pos htoken]
    split
    next digits hdigits =>
      exact absurd (hdigits ▸ List.mem_cons_self) (hdigit n '-' rfl)
    next => rw [Nat.ofDigitChars_ten_toDigits]; rfl
  | negSucc n =>
    have htoken : isIntegerToken ('-' :: Nat.toDigits 10 (n + 1)) = true := by
      apply decide_eq_true
      simp [hdigit (n + 1) '.' rfl, hdigit (n + 1) 'e' rfl, hdigit (n + 1) 'E' rfl]
    rw [text, integerOf, if_pos htoken]
    simp only [Nat.ofDigitChars_ten_toDigits]
    rfl

/-! ## Values are read back -/

theorem skipSpace_cons {ch : Char} {rest : List Char} (h : isSpace ch = false) :
    skipSpace (ch :: rest) = ch :: rest := by
  simp [skipSpace, h]

/-- The characters that the text of a number starts with. -/
def startsNumber (ch : Char) : Bool := ch = '-' ∨ ch.isDigit = true

theorem startsNumber_ne {ch : Char} (h : startsNumber ch = true) :
    isSpace ch = false ∧ ch ≠ 'n' ∧ ch ≠ 't' ∧ ch ≠ 'f' ∧ ch ≠ '"' ∧ ch ≠ '[' ∧ ch ≠ '\x7b' := by
  have key : ∀ other : Char, startsNumber other = false → ch ≠ other := by
    rintro other hother rfl
    exact absurd (h.symm.trans hother) (by decide)
  refine ⟨?_, key _ rfl, key _ rfl, key _ rfl, key _ rfl, key _ rfl, key _ rfl⟩
  have h₁ := key ' ' rfl
  have h₂ := key '\t' rfl
  have h₃ := key '\n' rfl
  have h₄ := key '\r' rfl
  simp [isSpace, h₁, h₂, h₃, h₄]

theorem parseValue_number {fuel : Nat} {ch : Char} {rest : List Char}
    (h : startsNumber ch = true) :
    parseValue (fuel + 1) (ch :: rest) =
      (scanNumber (ch :: rest)).map fun (token, rest') => (.num token, rest') := by
  obtain ⟨hspace, hn, ht, hf, hquote, hbracket, hbrace⟩ := startsNumber_ne h
  rw [parseValue, skipSpace_cons hspace]
  split <;> simp_all

/-- The text of a number starts like one. -/
theorem text_num_head (n : Int) :
    ∃ ch tail, text (.num n) = ch :: tail ∧ startsNumber ch = true := by
  cases n with
  | ofNat n =>
    rw [text]
    cases hdigits : Nat.toDigits 10 n with
    | nil => exact absurd hdigits Nat.toDigits_ne_nil
    | cons ch tail =>
      have hch : ch.isDigit = true :=
        Nat.isDigit_of_mem_toDigits (n := n) (by decide) (by decide) (hdigits ▸ List.mem_cons_self)
      exact ⟨ch, tail, rfl, by simp [startsNumber, hch]⟩
  | negSucc n => exact ⟨'-', Nat.toDigits 10 (n + 1), rfl, rfl⟩

theorem parseValue_num {fuel : Nat} {n : Int} {rest : List Char} (hrest : endsNumber rest) :
    parseValue (fuel + 1) (text (.num n) ++ rest) = some (.num (text (.num n)), rest) := by
  have hscan := scanNumber_text n hrest
  obtain ⟨ch, tail, htext, hch⟩ := text_num_head n
  rw [htext, List.cons_append] at hscan ⊢
  rw [parseValue_number hch, hscan]
  rfl

mutual

/-- The document that the text of a value spells. -/
def Document.ofValue : JsValue → Document
  | .null => .null
  | .bool value => .bool value
  | .num n => .num (text (.num n))
  | .str value => .str value
  | .arr items => .arr (ofItems items)
  | .obj fields => .obj (ofFields fields)

def Document.ofItems : List JsValue → List Document
  | [] => []
  | item :: rest => ofValue item :: ofItems rest

def Document.ofFields : List (JsString × JsValue) → List (JsString × Document)
  | [] => []
  | (name, value) :: rest => (name, ofValue value) :: ofFields rest

end

open Document

theorem properties_eq_self {fields : List (JsString × JsValue)}
    (h : (fields.map Prod.fst).Nodup) : properties fields = fields := by
  have step : ∀ (todo done : List (JsString × JsValue)),
      ((done ++ todo).map Prod.fst).Nodup →
        todo.foldl (fun done f => setField done f.1 f.2) done = done ++ todo := by
    intro todo
    induction todo with
    | nil => simp
    | cons f rest ih =>
      intro done hnodup
      have hfresh : f.1 ∉ done.map Prod.fst := by
        rw [List.map_append, List.nodup_append] at hnodup
        intro hmem
        exact hnodup.2.2 f.1 hmem f.1 (by simp) rfl
      rw [List.foldl_cons, setField, if_neg hfresh, ih]
      · simp
      · simpa using hnodup
  exact step fields [] h

theorem nodup_of_namesOrdered {names : List JsString} (h : namesOrdered names = true) :
    names.Nodup := by
  refine (namesOrdered_pairwise h).imp ?_
  rintro a b hlt rfl
  exact lt_irrefl _ hlt

theorem endsNumber_cons {ch : Char} {rest : List Char}
    (h : ch.isDigit = false ∧ ch ≠ '.' ∧ ch ≠ 'e' ∧ ch ≠ 'E') : endsNumber (ch :: rest) := by
  rintro ch' h'
  cases h'
  exact h

/-- No text starts with a space or a closing bracket. -/
theorem text_head (v : JsValue) :
    ∃ ch tail, text v = ch :: tail ∧ isSpace ch = false ∧ ch ≠ ']' := by
  cases v with
  | null => exact ⟨_, _, rfl, rfl, by decide⟩
  | bool b => cases b <;> exact ⟨_, _, rfl, rfl, by decide⟩
  | num n =>
    obtain ⟨ch, tail, htext, hch⟩ := text_num_head n
    refine ⟨ch, tail, htext, (startsNumber_ne hch).1, ?_⟩
    rintro rfl
    exact absurd hch (by decide)
  | str s => exact ⟨'"', unitsText s ++ ['"'], rfl, rfl, by decide⟩
  | arr items => exact ⟨'[', _, rfl, rfl, by decide⟩
  | obj fields => exact ⟨'\x7b', _, rfl, rfl, by decide⟩

theorem commaSeparated_cons {part : List Char} {parts : List (List Char)} (h : parts ≠ []) :
    commaSeparated (part :: parts) = part ++ ',' :: commaSeparated parts := by
  cases parts with
  | nil => exact absurd rfl h
  | cons => rfl

theorem itemTexts_ne_nil {items : List JsValue} (h : items ≠ []) : itemTexts items ≠ [] := by
  rw [itemTexts_eq]
  simpa using h

section ReadBack

variable {fuel : Nat} {rest : List Char}

/-- An array whose items are read back is read back. -/
theorem parseValue_arr {items : List JsValue}
    (h : items ≠ [] → parseItems fuel (commaSeparated (itemTexts items) ++ ']' :: rest) =
      some (ofItems items, rest)) :
    parseValue (fuel + 1) (text (.arr items) ++ rest) = some (ofValue (.arr items), rest) := by
  rw [text, List.cons_append, List.append_assoc, List.singleton_append, parseValue,
    skipSpace_cons (by decide)]
  cases items with
  | nil => rfl
  | cons item tail =>
    have hitems := h (by simp)
    obtain ⟨ch, chars, htext, hspace, hbracket⟩ := text_head item
    obtain ⟨more, hmore⟩ : ∃ more, commaSeparated (itemTexts (item :: tail)) = ch :: more := by
      rw [itemTexts]
      by_cases htail : itemTexts tail = []
      · rw [htail, commaSeparated, htext]
        exact ⟨_, rfl⟩
      · rw [commaSeparated_cons htail, htext]
        exact ⟨_, rfl⟩
    rw [hmore, List.cons_append] at hitems ⊢
    simp only [skipSpace_cons hspace]
    split
    · simp_all
    · rw [hitems]
      rfl

/-- An object whose fields are read back is read back. -/
theorem parseValue_obj {fields : List (JsString × JsValue)}
    (hnames : namesOrdered (fields.map Prod.fst) = true)
    (h : fields ≠ [] → parseFields fuel (commaSeparated (fields.map fieldText) ++ '\x7d' :: rest) =
      some (ofFields fields, rest)) :
    parseValue (fuel + 1) (text (.obj fields) ++ rest) = some (ofValue (.obj fields), rest) := by
  rw [text, sortedFields_of_ordered hnames, List.cons_append, List.append_assoc,
    List.singleton_append, parseValue, skipSpace_cons (by decide)]
  cases fields with
  | nil => rfl
  | cons f tail =>
    have hfields := h (by simp)
    obtain ⟨more, hmore⟩ :
        ∃ more, commaSeparated ((f :: tail).map fieldText) = '"' :: more := by
      rw [List.map_cons]
      by_cases htail : tail.map fieldText = []
      · rw [htail, commaSeparated, fieldText, quoted]
        exact ⟨_, rfl⟩
      · rw [commaSeparated_cons htail, fieldText, quoted]
        exact ⟨_, rfl⟩
    rw [hmore, List.cons_append] at hfields ⊢
    have hquote : skipSpace ('"' :: (more ++ '\x7d' :: rest)) = '"' :: (more ++ '\x7d' :: rest) :=
      skipSpace_cons (by decide)
    simp only [hquote]
    change (parseFields fuel ('"' :: (more ++ '\x7d' :: rest))).map
      (fun p => (Document.obj p.1, p.2)) = _
    rw [hfields]
    rfl

theorem parseItems_single {item : JsValue}
    (h : parseValue fuel (text item ++ ']' :: rest) = some (ofValue item, ']' :: rest)) :
    parseItems (fuel + 1) (text item ++ ']' :: rest) = some (ofItems [item], rest) := by
  rw [parseItems, h]
  rfl

theorem parseItems_cons {item : JsValue} {items : List JsValue} {more : List Char}
    (h : parseValue fuel (text item ++ ',' :: more) = some (ofValue item, ',' :: more))
    (hmore : parseItems fuel more = some (ofItems items, rest)) :
    parseItems (fuel + 1) (text item ++ ',' :: more) = some (ofItems (item :: items), rest) := by
  rw [parseItems, h, ofItems]
  simp only [Option.bind_eq_bind, Option.bind_some]
  rw [skipSpace_cons (by decide)]
  simp [hmore]

theorem parseFields_single {name : JsString} {value : JsValue}
    (h : parseValue fuel (text value ++ '\x7d' :: rest) = some (ofValue value, '\x7d' :: rest)) :
    parseFields (fuel + 1) (fieldText (name, value) ++ '\x7d' :: rest) =
      some (ofFields [(name, value)], rest) := by
  rw [fieldText, quoted, List.append_assoc, List.cons_append, parseFields,
    skipSpace_cons (by decide)]
  simp only [List.append_assoc, List.cons_append, List.nil_append]
  rw [parseString_unitsText]
  simp only [Option.bind_eq_bind, Option.bind_some]
  rw [skipSpace_cons (by decide)]
  simp only [h, Option.bind_some]
  rw [skipSpace_cons (by decide)]
  rfl

theorem parseFields_cons {name : JsString} {value : JsValue}
    {fields : List (JsString × JsValue)} {more : List Char}
    (h : parseValue fuel (text value ++ ',' :: more) = some (ofValue value, ',' :: more))
    (hmore : parseFields fuel more = some (ofFields fields, rest)) :
    parseFields (fuel + 1) (fieldText (name, value) ++ ',' :: more) =
      some (ofFields ((name, value) :: fields), rest) := by
  rw [ofFields, fieldText, quoted, List.append_assoc, List.cons_append, parseFields,
    skipSpace_cons (by decide)]
  simp only [List.append_assoc, List.cons_append, List.nil_append]
  rw [parseString_unitsText]
  simp only [Option.bind_eq_bind, Option.bind_some]
  rw [skipSpace_cons (by decide)]
  simp only [h, Option.bind_some]
  rw [skipSpace_cons (by decide)]
  simp [hmore]

end ReadBack

mutual

/-- The text of an ordered value is read back, whatever follows it. -/
theorem parseValue_text (v : JsValue) (hv : v.ordered = true) (fuel : Nat)
    (hfuel : (text v).length < fuel) (rest : List Char) (hrest : endsNumber rest) :
    parseValue fuel (text v ++ rest) = some (ofValue v, rest) := by
  obtain ⟨fuel, rfl⟩ : ∃ n, fuel = n + 1 := ⟨fuel - 1, by omega⟩
  match v with
  | .null => rfl
  | .bool true => rfl
  | .bool false => rfl
  | .num n => exact parseValue_num hrest
  | .str s =>
    rw [text, quoted, List.cons_append, List.append_assoc, List.singleton_append, parseValue,
      skipSpace_cons (by decide)]
    simp only [parseString_unitsText]
    rfl
  | .arr items =>
    rw [ordered] at hv
    rw [text, List.length_cons, List.length_append, List.length_singleton] at hfuel
    exact parseValue_arr fun hne => parseItems_text items hne hv fuel (by omega) rest
  | .obj fields =>
    rw [ordered, Bool.and_eq_true] at hv
    rw [text, sortedFields_of_ordered hv.1, List.length_cons, List.length_append,
      List.length_singleton] at hfuel
    exact parseValue_obj hv.1 fun hne => parseFields_text fields hne hv.2 fuel (by omega) rest

theorem parseItems_text (items : List JsValue) (hne : items ≠ [])
    (hitems : orderedItems items = true) (fuel : Nat)
    (hfuel : (commaSeparated (itemTexts items)).length + 1 < fuel) (rest : List Char) :
    parseItems fuel (commaSeparated (itemTexts items) ++ ']' :: rest) =
      some (ofItems items, rest) := by
  obtain ⟨fuel, rfl⟩ : ∃ n, fuel = n + 1 := ⟨fuel - 1, by omega⟩
  match items with
  | [] => exact absurd rfl hne
  | item :: tail =>
    rw [orderedItems, Bool.and_eq_true] at hitems
    rw [itemTexts] at hfuel ⊢
    by_cases htail : tail = []
    · subst htail
      rw [itemTexts, commaSeparated] at hfuel ⊢
      exact parseItems_single
        (parseValue_text item hitems.1 fuel (by omega) _ (endsNumber_cons (by decide)))
    · rw [commaSeparated_cons (itemTexts_ne_nil htail)] at hfuel ⊢
      rw [List.length_append, List.length_cons] at hfuel
      rw [List.append_assoc, List.cons_append]
      exact parseItems_cons
        (parseValue_text item hitems.1 fuel (by omega) _ (endsNumber_cons (by decide)))
        (parseItems_text tail htail hitems.2 fuel (by omega) rest)

theorem parseFields_text (fields : List (JsString × JsValue)) (hne : fields ≠ [])
    (hfields : orderedFields fields = true) (fuel : Nat)
    (hfuel : (commaSeparated (fields.map fieldText)).length + 1 < fuel) (rest : List Char) :
    parseFields fuel (commaSeparated (fields.map fieldText) ++ '\x7d' :: rest) =
      some (ofFields fields, rest) := by
  obtain ⟨fuel, rfl⟩ : ∃ n, fuel = n + 1 := ⟨fuel - 1, by omega⟩
  match fields with
  | [] => exact absurd rfl hne
  | (name, value) :: tail =>
    have hlength : (text value).length + 1 ≤ (fieldText (name, value)).length := by
      rw [fieldText, List.length_append, List.length_cons]
      exact Nat.le_add_left _ _
    rw [orderedFields, Bool.and_eq_true] at hfields
    rw [List.map_cons] at hfuel ⊢
    by_cases htail : tail = []
    · subst htail
      rw [List.map_nil, commaSeparated] at hfuel ⊢
      exact parseFields_single
        (parseValue_text value hfields.1 fuel (by omega) _ (endsNumber_cons (by decide)))
    · rw [commaSeparated_cons (by simpa using htail)] at hfuel ⊢
      rw [List.length_append, List.length_cons] at hfuel
      rw [List.append_assoc, List.cons_append]
      exact parseFields_cons
        (parseValue_text value hfields.1 fuel (by omega) _ (endsNumber_cons (by decide)))
        (parseFields_text tail htail hfields.2 fuel (by omega) rest)

end

/-- Canonical text spells the document of its value. -/
theorem parseDocument_text {v : JsValue} (hv : v.ordered = true) :
    parseDocument (text v) = some (ofValue v) := by
  have hend : endsNumber [] := fun _ hhead => absurd hhead (Option.not_mem_none _)
  have hvalue := parseValue_text v hv ((text v).length + 1) (by omega) [] hend
  rw [List.append_nil] at hvalue
  rw [parseDocument, hvalue]
  rfl

mutual

/-- The document of an ordered value has this value. -/
theorem toValue_ofValue (v : JsValue) (hv : v.ordered = true) :
    (ofValue v).toValue = some v := by
  match v with
  | .null => rfl
  | .bool _ => rfl
  | .num n => rw [ofValue, toValue, integerOf_text, Option.map_some]
  | .str _ => rfl
  | .arr items =>
    rw [ordered] at hv
    rw [ofValue, toValue, toItems_ofItems items hv, Option.map_some]
  | .obj fields =>
    rw [ordered, Bool.and_eq_true] at hv
    rw [ofValue, toValue, toFields_ofFields fields hv.2, Option.map_some,
      properties_eq_self (nodup_of_namesOrdered hv.1)]

theorem toItems_ofItems (items : List JsValue) (hitems : orderedItems items = true) :
    toItems (ofItems items) = some items := by
  match items with
  | [] => rfl
  | item :: rest =>
    rw [orderedItems, Bool.and_eq_true] at hitems
    rw [ofItems, toItems, toValue_ofValue item hitems.1, toItems_ofItems rest hitems.2]
    rfl

theorem toFields_ofFields (fields : List (JsString × JsValue))
    (hfields : orderedFields fields = true) : toFields (ofFields fields) = some fields := by
  match fields with
  | [] => rfl
  | (name, value) :: rest =>
    rw [orderedFields, Bool.and_eq_true] at hfields
    rw [ofFields, toFields, toValue_ofValue value hfields.1, toFields_ofFields rest hfields.2]
    rfl

end

/-- Canonical text is read back. -/
theorem parse_text {v : JsValue} (hv : v.ordered = true) : parse (text v) = some v := by
  rw [parse, parseDocument_text hv]
  exact toValue_ofValue v hv

/-- Ordered values with one text are equal. -/
theorem text_injective {v w : JsValue} (hv : v.ordered = true) (hw : w.ordered = true)
    (h : text v = text w) : v = w := by
  have hparse : some v = some w := by rw [← parse_text hv, ← parse_text hw, h]
  exact Option.some.inj hparse

end JsValue
