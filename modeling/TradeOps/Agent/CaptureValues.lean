import TradeOps.Agent.Values
import TradeOps.Lib.Readers

/-!
# Capture values

Embeds `TradeOpsCaptureTypes.mqh` and `TradeOpsCaptureCodec.mqh`, as far as accounts and exposures
go. A value is printed with its keys in order and no white space. A decoder reads that shape and
then compares the text with the print of what it read.

A string is a list of characters: one with an unpaired surrogate fails every check on it, and the
bytes of a string are its UTF-8. `stringLen` counts in UTF-16, as the terminal does.
-/

namespace TradeOps.Agent

open Reader

def captureJsonMax : Nat := 262144

def positionsMax : Nat := 128

def ordersMax : Nat := 128

/-! ## Strings -/

/-- `StringLen`. -/
def stringLen (text : Text) : Nat := (text.map fun ch => if ch.toNat < 0x10000 then 1 else 2).sum

def captureText (s : Text) (max : Nat) : Bool :=
  1 ≤ stringLen s ∧ stringLen s ≤ max ∧ s.all fun ch => 32 ≤ ch.toNat ∧ ch.toNat ≠ 127

/-- `StringToCharArray(..., CP_UTF8)`, without the final zero. -/
def utf8 (text : Text) : Bytes := text.flatMap String.utf8EncodeChar

/-- `CharArrayToString(..., CP_UTF8)`; bytes that are not UTF-8 are not the bytes of any string. -/
def decodeUtf8 (bytes : Bytes) : Option Text :=
  (String.fromUTF8? bytes.toByteArray).map String.toList

def captureUtf8Bytes (text : Text) : Option Bytes :=
  if captureText text captureJsonMax ∧ (utf8 text).length ≤ captureJsonMax then some (utf8 text)
  else none

def captureUtf8Text (bytes : Bytes) : Option Text :=
  if 1 ≤ bytes.length ∧ bytes.length ≤ captureJsonMax then
    match decodeUtf8 bytes with
    | some candidate => if captureUtf8Bytes candidate = some bytes then some candidate else none
    | none => none
  else none

/-! ## Values -/

structure CaptureFixed where
  value : Text
  scale : Nat
  deriving DecidableEq

/-- A number, or the reason why there is none. -/
structure CaptureReading where
  reason : Text
  fixed : CaptureFixed
  deriving DecidableEq

structure CaptureAccount where
  status : Text
  observedAtUtcSeconds : Nat
  observedAtBrokerMsc : Nat
  balance : CaptureReading
  equity : CaptureReading
  marginUsed : CaptureReading
  marginFree : CaptureReading
  marginLevel : CaptureReading
  deriving DecidableEq

structure CapturePosition where
  ticket : Text
  positionId : Text
  symbol : Text
  side : Text
  volume : CaptureFixed
  entryPrice : CaptureReading
  currentPrice : CaptureReading
  sl : CaptureReading
  tp : CaptureReading
  floatingProfit : CaptureReading
  swap : CaptureReading
  deriving DecidableEq

structure CaptureOrder where
  ticket : Text
  symbol : Text
  type : Text
  state : Text
  volumeInitial : CaptureFixed
  volumeCurrent : CaptureFixed
  price : CaptureReading
  stopLimitPrice : CaptureReading
  sl : CaptureReading
  tp : CaptureReading
  deriving DecidableEq

/-- The sizes of the source are the lengths of the lists; a count of `-1` is not known. -/
structure CaptureExposure where
  status : Text
  observedAtUtcSeconds : Nat
  observedAtBrokerMsc : Nat
  positionCount : Int
  orderCount : Int
  positions : List CapturePosition
  orders : List CaptureOrder
  deriving DecidableEq

/-! ## Checks -/

/-- A name of a list; the source looks for it between bars. -/
def captureChoice (value : Text) (choices : List String) : Bool :=
  value ∈ choices.map String.toList

def zeroDigits (value : Text) : Bool :=
  let digits := (if value.head? = some '-' then value.drop 1 else value).filter (· ≠ '.')
  digits ≠ [] ∧ digits.all (· = '0')

def fixedText (value : Text) (scale : Nat) : Bool :=
  let negative := decide (value.head? = some '-')
  let unsigned := if negative then value.drop 1 else value
  let integer := unsigned.takeWhile (· ≠ '.')
  let tail := unsigned.dropWhile (· ≠ '.')
  scale ≤ 16 ∧ 1 ≤ value.length ∧ value.length ≤ 36 ∧ 1 ≤ integer.length ∧ integer.length ≤ 18 ∧
    integer.all Char.isDigit ∧ ¬ (1 < integer.length ∧ integer.head? = some '0') ∧
    (if scale = 0 then tail = []
      else tail.head? = some '.' ∧ (tail.drop 1).length = scale ∧ (tail.drop 1).all Char.isDigit) ∧
    ¬ (negative = true ∧ zeroDigits value)

def captureFixedValid (f : CaptureFixed) (positive : Bool := false) : Bool :=
  fixedText f.value f.scale ∧
    (positive = false ∨ (f.value.head? ≠ some '-' ∧ zeroDigits f.value = false))

def missingReasons : List String := ["READ_FAILED", "NOT_APPLICABLE", "NOT_SET", "UNAVAILABLE"]

def captureReadingValid (r : CaptureReading) (scale : Option Nat := none) : Bool :=
  if r.reason ≠ [] then
    captureChoice r.reason missingReasons ∧ r.fixed.value = [] ∧ r.fixed.scale = 0
  else captureFixedValid r.fixed ∧ ∀ expected ∈ scale, r.fixed.scale = expected

def captureFailed : Text := "CAPTURE_FAILED".toList

def complete : Text := "COMPLETE".toList

def captureAccountValid (a : CaptureAccount) (scale : Nat) : Bool :=
  scale ≤ 16 ∧ counter a.observedAtUtcSeconds 1 ∧ counter a.observedAtBrokerMsc 1 ∧
    captureReadingValid a.balance scale ∧ captureReadingValid a.equity scale ∧
    captureReadingValid a.marginUsed scale ∧ captureReadingValid a.marginFree scale ∧
    captureReadingValid a.marginLevel ∧
    if a.status = captureFailed then
      a.balance.reason ≠ [] ∧ a.equity.reason ≠ [] ∧ a.marginUsed.reason ≠ [] ∧
        a.marginFree.reason ≠ [] ∧ a.marginLevel.reason ≠ []
    else
      a.status = complete ∧ a.balance.reason = [] ∧ a.equity.reason = [] ∧
        a.marginUsed.reason = [] ∧ a.marginFree.reason = [] ∧
        (zeroDigits a.marginUsed.fixed.value = false ∨
          a.marginLevel.reason = "NOT_APPLICABLE".toList)

def capturePositionValid (p : CapturePosition) (scale : Nat) : Bool :=
  ticket p.ticket ∧ ticket p.positionId ∧ captureText p.symbol 64 ∧
    captureChoice p.side ["BUY", "SELL"] ∧ captureFixedValid p.volume true ∧
    captureReadingValid p.entryPrice ∧ captureReadingValid p.currentPrice ∧
    captureReadingValid p.sl ∧ captureReadingValid p.tp ∧
    captureReadingValid p.floatingProfit scale ∧ captureReadingValid p.swap scale

/-- Positive numbers of one scale: the longer text is larger. -/
def captureLessOrEqual (a b : CaptureFixed) : Bool :=
  captureFixedValid a true ∧ captureFixedValid b true ∧ a.scale = b.scale ∧
    (a.value.length < b.value.length ∨ (a.value.length = b.value.length ∧ ¬ b.value < a.value))

def captureOrderValid (o : CaptureOrder) : Bool :=
  ticket o.ticket ∧ captureText o.symbol 64 ∧
    captureChoice o.type
      ["BUY_LIMIT", "SELL_LIMIT", "BUY_STOP", "SELL_STOP", "BUY_STOP_LIMIT", "SELL_STOP_LIMIT"] ∧
    captureChoice o.state
      ["STARTED", "PLACED", "PARTIAL", "REQUEST_ADD", "REQUEST_MODIFY", "REQUEST_CANCEL",
        "UNKNOWN"] ∧
    captureLessOrEqual o.volumeCurrent o.volumeInitial ∧ captureReadingValid o.price ∧
    captureReadingValid o.stopLimitPrice ∧ captureReadingValid o.sl ∧ captureReadingValid o.tp

/-- `-1`, or a counter. -/
def captureCount (count : Int) : Bool := count = -1 ∨ (0 ≤ count ∧ counter count.toNat)

def captureExposureValid (e : CaptureExposure) (scale : Nat) : Bool :=
  scale ≤ 16 ∧ counter e.observedAtUtcSeconds 1 ∧ counter e.observedAtBrokerMsc 1 ∧
    e.positions.length ≤ positionsMax ∧ e.orders.length ≤ ordersMax ∧
    captureCount e.positionCount ∧ captureCount e.orderCount ∧
    if e.status ≠ complete then
      captureChoice e.status ["CAPTURE_FAILED", "LIMIT_EXCEEDED"] ∧ e.positions = [] ∧ e.orders = []
    else
      e.positionCount = e.positions.length ∧ e.orderCount = e.orders.length ∧
        e.positions.all (capturePositionValid · scale) ∧
        e.positions.Pairwise (fun p q => p.ticket ≠ q.ticket ∧ p.positionId ≠ q.positionId) ∧
        e.orders.all captureOrderValid ∧ e.orders.Pairwise (fun o p => o.ticket ≠ p.ticket)

/-! ## Printing -/

def captureQuote (s : Text) : Text :=
  '"' :: (s.flatMap fun ch => if ch = '"' ∨ ch = '\\' then ['\\', ch] else [ch]) ++ ['"']

def nullText : Text := "null".toList

/-- `Tov2CaptureNullableCount`. -/
def captureNullableCount (count : Int) : Text :=
  if count = -1 then nullText else localNumber count.toNat

def captureFixedJson (f : CaptureFixed) : Text :=
  if fixedText f.value f.scale then
    "\x7b\"scale\":".toList ++ localNumber f.scale ++ ",\"value\":\"".toList ++ f.value ++
      "\"\x7d".toList
  else []

def captureReadingJson (r : CaptureReading) : Text :=
  if captureReadingValid r then
    if r.reason ≠ [] then
      "\x7b\"reason\":\"".toList ++ r.reason ++ "\",\"value\":null\x7d".toList
    else "\x7b\"reason\":null,\"value\":".toList ++ captureFixedJson r.fixed ++ "\x7d".toList
  else []

/-- `Tov2CaptureFinish`. -/
def captureFinish (candidate : Text) : Option Text :=
  if (captureUtf8Bytes candidate).isSome then some candidate else none

def captureEncodeAccount (v : CaptureAccount) (scale : Nat) : Option Text :=
  if captureAccountValid v scale then
    captureFinish ("\x7b\"balance\":".toList ++ captureReadingJson v.balance ++
      ",\"equity\":".toList ++ captureReadingJson v.equity ++
      ",\"margin_free\":".toList ++ captureReadingJson v.marginFree ++
      ",\"margin_level\":".toList ++ captureReadingJson v.marginLevel ++
      ",\"margin_used\":".toList ++ captureReadingJson v.marginUsed ++
      ",\"observed_at_broker_msc\":".toList ++ localNumber v.observedAtBrokerMsc ++
      ",\"observed_at_utc_seconds\":".toList ++ localNumber v.observedAtUtcSeconds ++
      ",\"status\":".toList ++ captureQuote v.status ++ "\x7d".toList)
  else none

def captureEncodePosition (v : CapturePosition) (scale : Nat) : Option Text :=
  if capturePositionValid v scale then
    captureFinish ("\x7b\"current_price\":".toList ++ captureReadingJson v.currentPrice ++
      ",\"entry_price\":".toList ++ captureReadingJson v.entryPrice ++
      ",\"floating_profit\":".toList ++ captureReadingJson v.floatingProfit ++
      ",\"position_id\":".toList ++ captureQuote v.positionId ++
      ",\"side\":".toList ++ captureQuote v.side ++ ",\"sl\":".toList ++ captureReadingJson v.sl ++
      ",\"swap\":".toList ++ captureReadingJson v.swap ++
      ",\"symbol\":".toList ++ captureQuote v.symbol ++
      ",\"ticket\":".toList ++ captureQuote v.ticket ++
      ",\"tp\":".toList ++ captureReadingJson v.tp ++
      ",\"volume\":".toList ++ captureFixedJson v.volume ++ "\x7d".toList)
  else none

def captureEncodeOrder (v : CaptureOrder) : Option Text :=
  if captureOrderValid v then
    captureFinish ("\x7b\"price\":".toList ++ captureReadingJson v.price ++
      ",\"sl\":".toList ++ captureReadingJson v.sl ++
      ",\"state\":".toList ++ captureQuote v.state ++
      ",\"stop_limit_price\":".toList ++ captureReadingJson v.stopLimitPrice ++
      ",\"symbol\":".toList ++ captureQuote v.symbol ++
      ",\"ticket\":".toList ++ captureQuote v.ticket ++
      ",\"tp\":".toList ++ captureReadingJson v.tp ++
      ",\"type\":".toList ++ captureQuote v.type ++
      ",\"volume_current\":".toList ++ captureFixedJson v.volumeCurrent ++
      ",\"volume_initial\":".toList ++ captureFixedJson v.volumeInitial ++ "\x7d".toList)
  else none

def captureExposureJson (v : CaptureExposure) (scale : Nat) : Option Text := do
  if captureExposureValid v scale then
    let positions ← v.positions.mapM (captureEncodePosition · scale)
    let orders ← v.orders.mapM captureEncodeOrder
    some ("\x7b\"observed_at_broker_msc\":".toList ++ localNumber v.observedAtBrokerMsc ++
      ",\"observed_at_utc_seconds\":".toList ++ localNumber v.observedAtUtcSeconds ++
      ",\"order_count\":".toList ++ captureNullableCount v.orderCount ++
      ",\"orders\":[".toList ++ [','].intercalate orders ++
      "],\"position_count\":".toList ++ captureNullableCount v.positionCount ++
      ",\"positions\":[".toList ++ [','].intercalate positions ++
      "],\"status\":".toList ++ captureQuote v.status ++ "\x7d".toList)
  else none

def captureEncodeExposure (v : CaptureExposure) (scale : Nat) : Option Text :=
  (captureExposureJson v scale).bind captureFinish

/-! ## Reading -/

/-- `CTov2CaptureReader`, at a place of its text. -/
abbrev CaptureReader (α : Type) := Reader Char α

/-- `Take` where the text has to go on with the token. -/
def pass (token : String) : CaptureReader Unit := take token.toList

/-- The characters up to the closing quote. -/
def quoted : Text → Option (Text × Text)
  | [] => none
  | '"' :: rest => some ([], rest)
  | ['\\'] => none
  | '\\' :: ch :: rest =>
    if ch = '"' ∨ ch = '\\' then (quoted rest).map fun p => (ch :: p.1, p.2) else none
  | ch :: rest => (quoted rest).map fun p => (ch :: p.1, p.2)

def readText (max : Nat := 160) : CaptureReader Text := do
  pass "\""
  let s ← quoted
  guard (captureText s max)
  pure s

def readNumber (minimum : Nat := 0) : CaptureReader Nat := do
  let digits ← span Char.isDigit
  (counterFromText digits minimum : CaptureReader Nat)

def readScale : CaptureReader Nat := do
  let n ← readNumber
  guard (n ≤ 16)
  pure n

def readCount : CaptureReader Int := do
  if ← taken nullText then pure (-1)
  else
    let n ← readNumber
    pure n

def readFixed : CaptureReader CaptureFixed := do
  pass "\x7b\"scale\":"
  let scale ← readScale
  pass ",\"value\":"
  let value ← readText 36
  pass "\x7d"
  guard (captureFixedValid ⟨value, scale⟩)
  pure ⟨value, scale⟩

def readReading : CaptureReader CaptureReading := do
  pass "\x7b\"reason\":"
  if ← taken nullText then
    pass ",\"value\":"
    let fixed ← readFixed
    pass "\x7d"
    pure ⟨[], fixed⟩
  else
    let reason ← readText 16
    pass ",\"value\":null\x7d"
    guard (captureReadingValid ⟨reason, [], 0⟩)
    pure ⟨reason, [], 0⟩

def readAccount : CaptureReader CaptureAccount := do
  pass "\x7b\"balance\":"
  let balance ← readReading
  pass ",\"equity\":"
  let equity ← readReading
  pass ",\"margin_free\":"
  let marginFree ← readReading
  pass ",\"margin_level\":"
  let marginLevel ← readReading
  pass ",\"margin_used\":"
  let marginUsed ← readReading
  pass ",\"observed_at_broker_msc\":"
  let observedAtBrokerMsc ← readNumber
  pass ",\"observed_at_utc_seconds\":"
  let observedAtUtcSeconds ← readNumber
  pass ",\"status\":"
  let status ← readText
  pass "\x7d"
  pure { status, observedAtUtcSeconds, observedAtBrokerMsc, balance, equity, marginUsed, marginFree,
         marginLevel }

def readPosition : CaptureReader CapturePosition := do
  pass "\x7b\"current_price\":"
  let currentPrice ← readReading
  pass ",\"entry_price\":"
  let entryPrice ← readReading
  pass ",\"floating_profit\":"
  let floatingProfit ← readReading
  pass ",\"position_id\":"
  let positionId ← readText
  pass ",\"side\":"
  let side ← readText
  pass ",\"sl\":"
  let sl ← readReading
  pass ",\"swap\":"
  let swap ← readReading
  pass ",\"symbol\":"
  let symbol ← readText 64
  pass ",\"ticket\":"
  let ticket ← readText
  pass ",\"tp\":"
  let tp ← readReading
  pass ",\"volume\":"
  let volume ← readFixed
  pass "\x7d"
  pure { ticket, positionId, symbol, side, volume, entryPrice, currentPrice, sl, tp,
         floatingProfit, swap }

def readOrder : CaptureReader CaptureOrder := do
  pass "\x7b\"price\":"
  let price ← readReading
  pass ",\"sl\":"
  let sl ← readReading
  pass ",\"state\":"
  let state ← readText
  pass ",\"stop_limit_price\":"
  let stopLimitPrice ← readReading
  pass ",\"symbol\":"
  let symbol ← readText 64
  pass ",\"ticket\":"
  let ticket ← readText
  pass ",\"tp\":"
  let tp ← readReading
  pass ",\"type\":"
  let type ← readText
  pass ",\"volume_current\":"
  let volumeCurrent ← readFixed
  pass ",\"volume_initial\":"
  let volumeInitial ← readFixed
  pass "\x7d"
  pure { ticket, symbol, type, state, volumeInitial, volumeCurrent, price, stopLimitPrice, sl, tp }

/-- The loop over the rows of an array, with how many there is room for. -/
def readRows {α : Type} (row : CaptureReader α) : Nat → CaptureReader (List α)
  | 0 => failure
  | room + 1 => do
    let a ← row
    if ← taken [','] then
      let rows ← readRows row room
      pure (a :: rows)
    else pure [a]

/-- The rows of an array up to its bracket. -/
def readArray {α : Type} (row : CaptureReader α) (room : Nat) : CaptureReader (List α) := do
  let input ← get
  if input.head? = some ']' then pure [] else readRows row room

def readExposure : CaptureReader CaptureExposure := do
  pass "\x7b\"observed_at_broker_msc\":"
  let observedAtBrokerMsc ← readNumber 1
  pass ",\"observed_at_utc_seconds\":"
  let observedAtUtcSeconds ← readNumber 1
  pass ",\"order_count\":"
  let orderCount ← readCount
  pass ",\"orders\":["
  let orders ← readArray readOrder ordersMax
  pass "],\"position_count\":"
  let positionCount ← readCount
  pass ",\"positions\":["
  let positions ← readArray readPosition positionsMax
  pass "],\"status\":"
  let status ← readText 16
  pass "\x7d"
  pure { status, observedAtUtcSeconds, observedAtBrokerMsc, positionCount, orderCount, positions,
         orders }

def captureDecodeAccount (canonical : Text) (scale : Nat) : Option CaptureAccount := do
  guard (captureUtf8Bytes canonical).isSome
  let (candidate, rest) ← readAccount.run canonical
  guard (rest = [] ∧ captureEncodeAccount candidate scale = some canonical)
  some candidate

def captureDecodeExposure (canonical : Text) (scale : Nat) : Option CaptureExposure := do
  guard (captureUtf8Bytes canonical).isSome
  let (candidate, rest) ← readExposure.run canonical
  guard (rest = [] ∧ captureEncodeExposure candidate scale = some canonical)
  some candidate

end TradeOps.Agent
