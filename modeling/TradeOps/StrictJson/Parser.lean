import TradeOps.Lib.Checks
import TradeOps.Lib.Doubles
import TradeOps.Lib.JsParse
import Mathlib

/-!
# The strict JSON parser

Embeds `strict-json.ts`: a recursive descent over the decoded text, with a bound on the depth, on
the number of values and on the size of integers. The text is the list of its characters and the
index is what is left of it: every character that the parser looks for is ASCII.

`TextDecoder` is `String.fromUTF8?` with one leading byte order mark dropped; `JSON_NUMBER` is
`JsValue.scanNumber`, whose tokens are integers without `.`, `e` and `E`; `JSON.parse` of a string
token is `JsValue.parseString`; `Number` of a number token is the nearest double. Fuel bounds the
descent, and is never used up (`parseStrictJson_terminates`).
-/

namespace TradeOps.StrictJson

open Checks JsString JsValue

def maxDepth : Nat := 64

def maxNodes : Nat := 20000

inductive StrictJsonError where
  | invalidJson | tooDeep | tooManyValues | duplicateKey | nonFiniteNumber | unsafeInteger
  | invalidUtf8 | outOfFuel
  deriving DecidableEq, Repr

def StrictJsonError.message : StrictJsonError → String
  | .invalidJson => "invalid JSON"
  | .tooDeep => "JSON nesting is too deep"
  | .tooManyValues => "JSON contains too many values"
  | .duplicateKey => "duplicate JSON object key"
  | .nonFiniteNumber => "non-finite JSON number"
  | .unsafeInteger => "unsafe JSON integer"
  | .invalidUtf8 => "invalid UTF-8 JSON"
  | .outOfFuel => "fuel"

/-! ## Numbers -/

/-- A finite number: its sign, which zero has too, and its magnitude. -/
structure JsNumber where
  negative : Bool
  magnitude : ℚ
  deriving DecidableEq

/-- The double nearest to a magnitude, were its exponent not bounded above. -/
def nearestDouble (magnitude : ℚ) : ℚ :=
  if magnitude = 0 then 0
  else
    let exponent : Int := max (Int.log 2 magnitude - 52) (-1074)
    let scaled := magnitude / (2 : ℚ) ^ exponent
    Double.roundHalfEven scaled.num.natAbs scaled.den * (2 : ℚ) ^ exponent

/-- The magnitude that the digits of a token spell. -/
def exactMagnitude (raw : List Char) : ℚ :=
  let isExponent := fun ch : Char => decide (ch = 'e' ∨ ch = 'E')
  let mantissa := (raw.takeWhile (!isExponent ·)).dropWhile (· = '-')
  let exponent := (raw.dropWhile (!isExponent ·)).drop 1
  let integer := mantissa.takeWhile (· ≠ '.')
  let fraction := (mantissa.dropWhile (· ≠ '.')).drop 1
  let power : Int :=
    match exponent with
    | '-' :: digits => -(Nat.ofDigitChars 10 digits 0 : Int)
    | '+' :: digits => Nat.ofDigitChars 10 digits 0
    | digits => Nat.ofDigitChars 10 digits 0
  Nat.ofDigitChars 10 (integer ++ fraction) 0 * (10 : ℚ) ^ (power - fraction.length)

/-- `Number(raw)`, when it is finite. -/
def numberOf (raw : List Char) : Option JsNumber :=
  let magnitude := nearestDouble (exactMagnitude raw)
  if magnitude < 2 ^ 1024 then some ⟨raw.head? = some '-', magnitude⟩ else none

/-- `Number.isSafeInteger`. -/
def isSafeInteger (value : JsNumber) : Bool :=
  value.magnitude.den = 1 ∧ value.magnitude ≤ 9007199254740991

structure StrictJsonNumber where
  raw : List Char
  value : JsNumber
  isIntegerToken : Bool
  deriving DecidableEq

/-! ## Values -/

inductive StrictJsonValue where
  | null
  | bool (value : Bool)
  | str (value : JsString)
  | num (token : StrictJsonNumber)
  | arr (items : List StrictJsonValue)
  | obj (fields : List (JsString × StrictJsonValue))

/-! ## Tokens -/

/-- The characters that may follow a number. -/
def endsToken (ch : Char) : Bool :=
  ch = ',' ∨ ch = ']' ∨ ch = '\x7d' ∨ isSpace ch

def parseNumber (input : List Char) :
    Except StrictJsonError (StrictJsonNumber × List Char) :=
  match scanNumber input with
  | none => .error .invalidJson
  | some (raw, rest) => do
    failIf (∃ ch ∈ rest.head?, endsToken ch = false) .invalidJson
    match numberOf raw with
    | none => .error .nonFiniteNumber
    | some value =>
      failIf (isIntegerToken raw = true ∧ isSafeInteger value = false) .unsafeInteger
      pure (⟨raw, value, isIntegerToken raw⟩, rest)

/-- The loop looks at the code unit after a high surrogate; behind the last one there is none, and
both comparisons with it are false. -/
def hasUnpairedSurrogate : JsString → Bool
  | [] => false
  | [u] => !isHigh u && isLow u
  | u :: v :: rest =>
    if isHigh u then !isLow v || hasUnpairedSurrogate rest
    else isLow u || hasUnpairedSurrogate (v :: rest)

/-- A string token after its opening quote, with its closing quote, and what follows it. -/
def scanString : Bool → List Char → Option (List Char × List Char)
  | _, [] => none
  | escaped, ch :: rest =>
    if escaped = false ∧ ch.toNat < 0x20 then none
    else if escaped = false ∧ ch = '"' then some (['"'], rest)
    else (scanString (escaped = false ∧ ch = '\\') rest).map fun p => (ch :: p.1, p.2)

def parseStringToken (input : List Char) : Except StrictJsonError (JsString × List Char) :=
  match scanString false input with
  | none => .error .invalidJson
  | some (token, rest) =>
    match JsValue.parseString token with
    | some (decoded, []) => do
      failIf (hasUnpairedSurrogate decoded = true) .invalidJson
      pure (decoded, rest)
    | _ => .error .invalidJson

def consumeLiteral (literal : String) (input : List Char) : Option (List Char) :=
  if literal.toList <+: input then some (input.drop literal.toList.length) else none

/-! ## The descent -/

/-- A parsed value, what is left of the text and the values counted so far. -/
structure Parsed where
  value : StrictJsonValue
  rest : List Char
  nodes : Nat

mutual

def parseValue : Nat → Nat → Nat → List Char → Except StrictJsonError Parsed
  | 0, _, _, _ => .error .outOfFuel
  | fuel + 1, depth, nodes, input => do
    failIf (depth > maxDepth) .tooDeep
    failIf (nodes + 1 > maxNodes) .tooManyValues
    match input with
    | '\x7b' :: rest =>
      match skipSpace rest with
      | '\x7d' :: rest' => pure ⟨.obj [], rest', nodes + 1⟩
      | rest' => parseObject fuel (depth + 1) (nodes + 1) [] rest'
    | '[' :: rest =>
      match skipSpace rest with
      | ']' :: rest' => pure ⟨.arr [], rest', nodes + 1⟩
      | rest' => parseArray fuel (depth + 1) (nodes + 1) [] rest'
    | '"' :: rest => do
      let (decoded, rest') ← parseStringToken rest
      pure ⟨.str decoded, rest', nodes + 1⟩
    | _ =>
      match consumeLiteral "true" input with
      | some rest => pure ⟨.bool true, rest, nodes + 1⟩
      | none =>
        match consumeLiteral "false" input with
        | some rest => pure ⟨.bool false, rest, nodes + 1⟩
        | none =>
          match consumeLiteral "null" input with
          | some rest => pure ⟨.null, rest, nodes + 1⟩
          | none => do
            let (token, rest) ← parseNumber input
            pure ⟨.num token, rest, nodes + 1⟩

/-- The loop of `parseArray`, with the items read so far. -/
def parseArray : Nat → Nat → Nat → List StrictJsonValue → List Char →
    Except StrictJsonError Parsed
  | 0, _, _, _, _ => .error .outOfFuel
  | fuel + 1, depth, nodes, items, input => do
    failIf (input = []) .invalidJson
    let item ← parseValue fuel depth nodes input
    match skipSpace item.rest with
    | ']' :: rest => pure ⟨.arr (items ++ [item.value]), rest, item.nodes⟩
    | ',' :: rest => parseArray fuel depth item.nodes (items ++ [item.value]) (skipSpace rest)
    | _ => .error .invalidJson

/-- The loop of `parseObject`, with the fields read so far. -/
def parseObject : Nat → Nat → Nat → List (JsString × StrictJsonValue) → List Char →
    Except StrictJsonError Parsed
  | 0, _, _, _, _ => .error .outOfFuel
  | fuel + 1, depth, nodes, fields, input =>
    match input with
    | '"' :: rest => do
      let (key, rest) ← parseStringToken rest
      failIf (key ∈ fields.map Prod.fst) .duplicateKey
      match skipSpace rest with
      | ':' :: rest => do
        let item ← parseValue fuel depth nodes (skipSpace rest)
        match skipSpace item.rest with
        | '\x7d' :: rest => pure ⟨.obj (fields ++ [(key, item.value)]), rest, item.nodes⟩
        | ',' :: rest =>
          parseObject fuel depth item.nodes (fields ++ [(key, item.value)]) (skipSpace rest)
        | _ => .error .invalidJson
      | _ => .error .invalidJson
    | _ => .error .invalidJson

end

/-- The whole text: a value between white space. -/
def parse (source : List Char) : Except StrictJsonError StrictJsonValue := do
  let parsed ← parseValue (2 * source.length + 2) 0 0 (skipSpace source)
  failIf (skipSpace parsed.rest ≠ []) .invalidJson
  pure parsed.value

/-- `new TextDecoder("utf-8", { fatal: true, ignoreBOM: false }).decode(bytes)`. -/
def decode (bytes : ByteArray) : Option (List Char) :=
  (String.fromUTF8? bytes).map fun text =>
    match text.toList with
    | '\uFEFF' :: rest => rest
    | chars => chars

def parseStrictJson (bytes : ByteArray) : Except StrictJsonError StrictJsonValue :=
  match decode bytes with
  | none => .error .invalidUtf8
  | some source => parse source

end TradeOps.StrictJson
