import TradeOps.Lib.JsOrder
import TradeOps.Lib.JsText
import TradeOps.Lib.SafeIntegers

/-!
# Canonical JSON in Python

Embeds `validate_canonical_value` and `canonical_json_bytes` of `canonical.py`, with the behaviour
of `json.dumps` under `ensure_ascii=False`, `sort_keys=True` and separators without spaces. A Python
string is the list of its code points, among which there may be surrogates; the keys of a mapping
are strings and distinct.
-/

namespace TradeOps.Canonical

open SafeIntegers SortBy
open JsString (isSurrogate)

/-- A Python string. -/
abbrev PyString := List Nat

/-- A Python object as `validate_canonical_value` looks at it. -/
inductive PyObject where
  | none
  | bool (value : Bool)
  | int (value : Int)
  | str (value : PyString)
  | float
  | list (items : List PyObject)
  | dict (items : List (PyString × PyObject))
  | sequence
  | other (typeName : String)

/-- `CanonicalValue`. -/
inductive CanonicalValue where
  | none
  | bool (value : Bool)
  | int (value : Int)
  | str (value : PyString)
  | list (items : List CanonicalValue)
  | dict (items : List (PyString × CanonicalValue))

/-- `[A-Za-z0-9_.:-]`. -/
def isKeyPoint (n : Nat) : Bool :=
  (65 ≤ n ∧ n ≤ 90) ∨ (97 ≤ n ∧ n ≤ 122) ∨ (48 ≤ n ∧ n ≤ 57) ∨ n = 95 ∨ n = 46 ∨ n = 58 ∨ n = 45

/-- `_KEY_PATTERN.fullmatch`. -/
def matchesKeyPattern (key : PyString) : Bool := key ≠ [] ∧ key.all isKeyPoint

/-- A string of code points without surrogates, as it is printed. -/
def PyString.chars (s : PyString) : List Char := s.map Char.ofNat

mutual

/-- `validate_canonical_value`; an error is the message of the `CanonicalizationError`. -/
def validateCanonicalValue : PyObject → String → Except String CanonicalValue
  | .none, _ => .ok .none
  | .bool value, _ => .ok (.bool value)
  | .str s, location =>
    if 0 ∈ s then .error (location ++ ": U+0000 is outside the PostgreSQL-compatible JSON profile")
    else if s.any isSurrogate then .error (location ++ ": invalid UTF-8 scalar")
    else .ok (.str s)
  | .int n, location =>
    if -maxSafeInteger ≤ n ∧ n ≤ maxSafeInteger then .ok (.int n)
    else .error (location ++ ": integer is outside cross-language range")
  | .float, location =>
    .error (location ++ ": numeric values must be integers or decimal strings")
  | .dict items, location => .dict <$> validateItems items location
  | .sequence, location => .error (location ++ ": arrays must be lists")
  | .list items, location => .list <$> validateElements items location 0
  | .other typeName, location =>
    .error (location ++ ": unsupported canonical type " ++ typeName)

def validateItems :
    List (PyString × PyObject) → String → Except String (List (PyString × CanonicalValue))
  | [], _ => .ok []
  | (key, item) :: rest, location =>
    if matchesKeyPattern key then do
      let value ← validateCanonicalValue item (location ++ "." ++ String.ofList key.chars)
      let values ← validateItems rest location
      return (key, value) :: values
    else .error (location ++ ": object keys must use the ASCII key profile")

def validateElements : List PyObject → String → Nat → Except String (List CanonicalValue)
  | [], _, _ => .ok []
  | item :: rest, location, index => do
    let value ← validateCanonicalValue item (location ++ "[" ++ toString index ++ "]")
    let values ← validateElements rest location (index + 1)
    return value :: values

end

/-- The escape of a code point in a string of `json.dumps`. -/
def escape (n : Nat) : List Char :=
  if n = 0x5c then ['\\', '\\']
  else if n = 0x22 then ['\\', '"']
  else if n = 8 then ['\\', 'b']
  else if n = 12 then ['\\', 'f']
  else if n = 10 then ['\\', 'n']
  else if n = 13 then ['\\', 'r']
  else if n = 9 then ['\\', 't']
  else if n < 32 then JsValue.unicodeEscape n
  else [Char.ofNat n]

def encodeString (s : PyString) : List Char := '"' :: (s.flatMap escape ++ ['"'])

mutual

/-- `json.dumps` with sorted keys and without spaces. -/
def dumps : CanonicalValue → List Char
  | .none => ['n', 'u', 'l', 'l']
  | .bool true => ['t', 'r', 'u', 'e']
  | .bool false => ['f', 'a', 'l', 's', 'e']
  | .int (.ofNat n) => Nat.toDigits 10 n
  | .int (.negSucc n) => '-' :: Nat.toDigits 10 (n + 1)
  | .str s => encodeString s
  | .list items => '[' :: (JsValue.commaSeparated (dumpsElements items) ++ [']'])
  | .dict items =>
    '\x7b' :: (JsValue.commaSeparated ((sortBy Prod.fst (dumpsItems items)).map
      fun item => encodeString item.1 ++ ':' :: item.2) ++ ['\x7d'])

def dumpsElements : List CanonicalValue → List (List Char)
  | [] => []
  | item :: rest => dumps item :: dumpsElements rest

def dumpsItems : List (PyString × CanonicalValue) → List (PyString × List Char)
  | [] => []
  | (key, value) :: rest => (key, dumps value) :: dumpsItems rest

end

def canonicalJsonBytes (value : PyObject) : Except String ByteArray := do
  let checked ← validateCanonicalValue value "$"
  return (String.ofList (dumps checked)).toUTF8

/-! ## What is accepted -/

/-- A value that `validate_canonical_value` accepts at a location. -/
def Accepted (value : PyObject) (location : String) : Prop :=
  ∃ checked, validateCanonicalValue value location = .ok checked

@[simp] theorem accepted_none (location : String) : Accepted .none location :=
  ⟨.none, rfl⟩

@[simp] theorem accepted_bool (value : Bool) (location : String) :
    Accepted (.bool value) location :=
  ⟨.bool value, rfl⟩

@[simp] theorem accepted_int_iff {n : Int} {location : String} :
    Accepted (.int n) location ↔ -maxSafeInteger ≤ n ∧ n ≤ maxSafeInteger := by
  unfold Accepted validateCanonicalValue
  split_ifs with h <;> simp [h]

theorem validateItems_ok_iff {items : List (PyString × PyObject)} {location : String} :
    (∃ checked, validateItems items location = .ok checked) ↔
      ∀ item ∈ items, matchesKeyPattern item.1 = true ∧
        Accepted item.2 (location ++ "." ++ String.ofList item.1.chars) := by
  induction items with
  | nil => simp [validateItems]
  | cons item rest ih =>
    rw [List.forall_mem_cons, ← ih, validateItems]
    split_ifs with hkey
    · unfold Accepted
      cases validateCanonicalValue item.2 (location ++ "." ++ String.ofList item.1.chars) <;>
        cases validateItems rest location <;>
        simp [hkey, bind, Except.bind, pure, Except.pure]
    · simp [hkey]

theorem accepted_dict_iff {items : List (PyString × PyObject)} {location : String} :
    Accepted (.dict items) location ↔
      ∀ item ∈ items, matchesKeyPattern item.1 = true ∧
        Accepted item.2 (location ++ "." ++ String.ofList item.1.chars) := by
  rw [← validateItems_ok_iff, Accepted, validateCanonicalValue]
  cases validateItems items location <;> simp

theorem canonicalJsonBytes_ok_iff {value : PyObject} :
    (∃ bytes, canonicalJsonBytes value = .ok bytes) ↔ Accepted value "$" := by
  unfold canonicalJsonBytes Accepted
  cases validateCanonicalValue value "$" <;> simp [bind, Except.bind, pure, Except.pure]

/-! ## A JSON value as Python reads it -/

open JsString

mutual

def toPy : JsValue → PyObject
  | .null => .none
  | .bool value => .bool value
  | .num n => .int n
  | .str s => .str (codePoints s)
  | .arr items => .list (toPyElements items)
  | .obj fields => .dict (toPyItems fields)

def toPyElements : List JsValue → List PyObject
  | [] => []
  | item :: rest => toPy item :: toPyElements rest

def toPyItems : List (JsString × JsValue) → List (PyString × PyObject)
  | [] => []
  | (name, value) :: rest => (codePoints name, toPy value) :: toPyItems rest

end

end TradeOps.Canonical
