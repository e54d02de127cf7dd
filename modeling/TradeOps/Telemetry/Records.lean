import TradeOps.Telemetry.Schema

/-!
# Telemetry records

The records of `telemetry-wire-v2.ts` with the readers they are declared by. Each record prints as
the object that its reader takes; `readX_json` reads a printed record back, and `X.plain` says that
it prints as it stands.
-/

namespace TradeOps.Telemetry

open JsString JsValue Checks Patterns

/-! ## Alternatives -/

inductive DealReason where
  | client | mobile | web | expert | sl | tp | so | rollover | vmargin | split | corporateAction
  | unknown
  deriving DecidableEq, Repr

instance : Choice DealReason where
  name
    | .client => "CLIENT"
    | .mobile => "MOBILE"
    | .web => "WEB"
    | .expert => "EXPERT"
    | .sl => "SL"
    | .tp => "TP"
    | .so => "SO"
    | .rollover => "ROLLOVER"
    | .vmargin => "VMARGIN"
    | .split => "SPLIT"
    | .corporateAction => "CORPORATE_ACTION"
    | .unknown => "UNKNOWN"
  values := [.client, .mobile, .web, .expert, .sl, .tp, .so, .rollover, .vmargin, .split,
    .corporateAction, .unknown]
  complete := by rintro ⟨⟩ <;> decide
  distinct := by decide +kernel
  ascii := by rintro ⟨⟩ <;> exact ascii_of_all (by decide +kernel)

inductive RecordGap where
  | historyUnavailable | clockDiscontinuity | outboxCorrupt | captureFailed | unsupportedRecord
  deriving DecidableEq, Repr

instance : Choice RecordGap where
  name
    | .historyUnavailable => "HISTORY_UNAVAILABLE"
    | .clockDiscontinuity => "CLOCK_DISCONTINUITY"
    | .outboxCorrupt => "OUTBOX_CORRUPT"
    | .captureFailed => "CAPTURE_FAILED"
    | .unsupportedRecord => "UNSUPPORTED_RECORD"
  values := [.historyUnavailable, .clockDiscontinuity, .outboxCorrupt, .captureFailed,
    .unsupportedRecord]
  complete := by rintro ⟨⟩ <;> decide
  distinct := by decide +kernel
  ascii := by rintro ⟨⟩ <;> exact ascii_of_all (by decide +kernel)

inductive Side where
  | buy | sell
  deriving DecidableEq, Repr

instance : Choice Side where
  name
    | .buy => "BUY"
    | .sell => "SELL"
  values := [.buy, .sell]
  complete := by rintro ⟨⟩ <;> decide
  distinct := by decide +kernel
  ascii := by rintro ⟨⟩ <;> exact ascii_of_all (by decide +kernel)

inductive OrderType where
  | buyLimit | sellLimit | buyStop | sellStop | buyStopLimit | sellStopLimit
  deriving DecidableEq, Repr

instance : Choice OrderType where
  name
    | .buyLimit => "BUY_LIMIT"
    | .sellLimit => "SELL_LIMIT"
    | .buyStop => "BUY_STOP"
    | .sellStop => "SELL_STOP"
    | .buyStopLimit => "BUY_STOP_LIMIT"
    | .sellStopLimit => "SELL_STOP_LIMIT"
  values := [.buyLimit, .sellLimit, .buyStop, .sellStop, .buyStopLimit, .sellStopLimit]
  complete := by rintro ⟨⟩ <;> decide
  distinct := by decide +kernel
  ascii := by rintro ⟨⟩ <;> exact ascii_of_all (by decide +kernel)

inductive OrderState where
  | started | placed | partially | requestAdd | requestModify | requestCancel | unknown
  deriving DecidableEq, Repr

instance : Choice OrderState where
  name
    | .started => "STARTED"
    | .placed => "PLACED"
    | .partially => "PARTIAL"
    | .requestAdd => "REQUEST_ADD"
    | .requestModify => "REQUEST_MODIFY"
    | .requestCancel => "REQUEST_CANCEL"
    | .unknown => "UNKNOWN"
  values := [.started, .placed, .partially, .requestAdd, .requestModify, .requestCancel, .unknown]
  complete := by rintro ⟨⟩ <;> decide
  distinct := by decide +kernel
  ascii := by rintro ⟨⟩ <;> exact ascii_of_all (by decide +kernel)

inductive ExposureStatus where
  | complete | captureFailed | limitExceeded
  deriving DecidableEq, Repr

instance : Choice ExposureStatus where
  name
    | .complete => "COMPLETE"
    | .captureFailed => "CAPTURE_FAILED"
    | .limitExceeded => "LIMIT_EXCEEDED"
  values := [.complete, .captureFailed, .limitExceeded]
  complete := by rintro ⟨⟩ <;> decide
  distinct := by decide +kernel
  ascii := by rintro ⟨⟩ <;> exact ascii_of_all (by decide +kernel)

inductive AccountStatus where
  | complete | captureFailed
  deriving DecidableEq, Repr

instance : Choice AccountStatus where
  name
    | .complete => "COMPLETE"
    | .captureFailed => "CAPTURE_FAILED"
  values := [.complete, .captureFailed]
  complete := by rintro ⟨⟩ <;> decide
  distinct := by decide +kernel
  ascii := by rintro ⟨⟩ <;> exact ascii_of_all (by decide +kernel)

inductive AccountMode where
  | demo | real | contest | unknown
  deriving DecidableEq, Repr

instance : Choice AccountMode where
  name
    | .demo => "DEMO"
    | .real => "REAL"
    | .contest => "CONTEST"
    | .unknown => "UNKNOWN"
  values := [.demo, .real, .contest, .unknown]
  complete := by rintro ⟨⟩ <;> decide
  distinct := by decide +kernel
  ascii := by rintro ⟨⟩ <;> exact ascii_of_all (by decide +kernel)

inductive MarginMode where
  | retailNetting | exchange | retailHedging | unknown
  deriving DecidableEq, Repr

instance : Choice MarginMode where
  name
    | .retailNetting => "RETAIL_NETTING"
    | .exchange => "EXCHANGE"
    | .retailHedging => "RETAIL_HEDGING"
    | .unknown => "UNKNOWN"
  values := [.retailNetting, .exchange, .retailHedging, .unknown]
  complete := by rintro ⟨⟩ <;> decide
  distinct := by decide +kernel
  ascii := by rintro ⟨⟩ <;> exact ascii_of_all (by decide +kernel)

inductive DealType where
  | buy | sell | buyCanceled | sellCanceled | balance | credit | charge | correction | bonus
  | commission | commissionDaily | commissionMonthly | commissionAgentDaily | commissionAgentMonthly
  | interest | dividend | dividendFranked | tax
  deriving DecidableEq, Repr

instance : Choice DealType where
  name
    | .buy => "BUY"
    | .sell => "SELL"
    | .buyCanceled => "BUY_CANCELED"
    | .sellCanceled => "SELL_CANCELED"
    | .balance => "BALANCE"
    | .credit => "CREDIT"
    | .charge => "CHARGE"
    | .correction => "CORRECTION"
    | .bonus => "BONUS"
    | .commission => "COMMISSION"
    | .commissionDaily => "COMMISSION_DAILY"
    | .commissionMonthly => "COMMISSION_MONTHLY"
    | .commissionAgentDaily => "COMMISSION_AGENT_DAILY"
    | .commissionAgentMonthly => "COMMISSION_AGENT_MONTHLY"
    | .interest => "INTEREST"
    | .dividend => "DIVIDEND"
    | .dividendFranked => "DIVIDEND_FRANKED"
    | .tax => "TAX"
  values := [.buy, .sell, .buyCanceled, .sellCanceled, .balance, .credit, .charge, .correction,
    .bonus, .commission, .commissionDaily, .commissionMonthly, .commissionAgentDaily,
    .commissionAgentMonthly, .interest, .dividend, .dividendFranked, .tax]
  complete := by rintro ⟨⟩ <;> decide
  distinct := by decide +kernel
  ascii := by rintro ⟨⟩ <;> exact ascii_of_all (by decide +kernel)

inductive DealEntry where
  | in_ | out | inout | outBy | none_
  deriving DecidableEq, Repr

instance : Choice DealEntry where
  name
    | .in_ => "IN"
    | .out => "OUT"
    | .inout => "INOUT"
    | .outBy => "OUT_BY"
    | .none_ => "NONE"
  values := [.in_, .out, .inout, .outBy, .none_]
  complete := by rintro ⟨⟩ <;> decide
  distinct := by decide +kernel
  ascii := by rintro ⟨⟩ <;> exact ascii_of_all (by decide +kernel)

inductive ProtectionSource where
  | brokerDeal | unavailable
  deriving DecidableEq, Repr

instance : Choice ProtectionSource where
  name
    | .brokerDeal => "BROKER_DEAL"
    | .unavailable => "UNAVAILABLE"
  values := [.brokerDeal, .unavailable]
  complete := by rintro ⟨⟩ <;> decide
  distinct := by decide +kernel
  ascii := by rintro ⟨⟩ <;> exact ascii_of_all (by decide +kernel)

inductive ObservationSource where
  | poll | transactionObservation
  deriving DecidableEq, Repr

instance : Choice ObservationSource where
  name
    | .poll => "POLL"
    | .transactionObservation => "TRANSACTION_OBSERVATION"
  values := [.poll, .transactionObservation]
  complete := by rintro ⟨⟩ <;> decide
  distinct := by decide +kernel
  ascii := by rintro ⟨⟩ <;> exact ascii_of_all (by decide +kernel)

inductive ConnectionState where
  | connected | disconnected | unknown
  deriving DecidableEq, Repr

instance : Choice ConnectionState where
  name
    | .connected => "CONNECTED"
    | .disconnected => "DISCONNECTED"
    | .unknown => "UNKNOWN"
  values := [.connected, .disconnected, .unknown]
  complete := by rintro ⟨⟩ <;> decide
  distinct := by decide +kernel
  ascii := by rintro ⟨⟩ <;> exact ascii_of_all (by decide +kernel)

inductive Permission where
  | allowed | denied | unknown
  deriving DecidableEq, Repr

instance : Choice Permission where
  name
    | .allowed => "ALLOWED"
    | .denied => "DENIED"
    | .unknown => "UNKNOWN"
  values := [.allowed, .denied, .unknown]
  complete := by rintro ⟨⟩ <;> decide
  distinct := by decide +kernel
  ascii := by rintro ⟨⟩ <;> exact ascii_of_all (by decide +kernel)

inductive LastError where
  | historyUnavailable | clockDiscontinuity | outboxCorrupt | captureFailed | unsupportedRecord
  | diskFull | httpError | responseInvalid
  deriving DecidableEq, Repr

instance : Choice LastError where
  name
    | .historyUnavailable => "HISTORY_UNAVAILABLE"
    | .clockDiscontinuity => "CLOCK_DISCONTINUITY"
    | .outboxCorrupt => "OUTBOX_CORRUPT"
    | .captureFailed => "CAPTURE_FAILED"
    | .unsupportedRecord => "UNSUPPORTED_RECORD"
    | .diskFull => "DISK_FULL"
    | .httpError => "HTTP_ERROR"
    | .responseInvalid => "RESPONSE_INVALID"
  values := [.historyUnavailable, .clockDiscontinuity, .outboxCorrupt, .captureFailed,
    .unsupportedRecord, .diskFull, .httpError, .responseInvalid]
  complete := by rintro ⟨⟩ <;> decide
  distinct := by decide +kernel
  ascii := by rintro ⟨⟩ <;> exact ascii_of_all (by decide +kernel)

/-! ## Identity and registration -/

/-- `^\d{4}$`. -/
def isLastFour (text : String) : Bool :=
  text.toList.length = 4 ∧ text.toList.all Char.isDigit

def currencyChar (ch : Char) : Bool := ('A' ≤ ch ∧ ch ≤ 'Z') ∨ ch.isDigit = true

/-- `^[A-Z0-9]{1,12}$`. -/
def isCurrency (text : String) : Bool :=
  1 ≤ text.toList.length ∧ text.toList.length ≤ 12 ∧ text.toList.all currencyChar

abbrev LastFour := Matching isLastFour

abbrev Currency := Matching isCurrency

def readLastFour : Reader LastFour := readMatching isLastFour .invalid

def readCurrency : Reader Currency := readMatching isCurrency .invalid

@[simp] theorem readLastFour_json (text : LastFour) : readLastFour text.json = .ok text := by
  refine readMatching_json text fun ch hch => ?_
  have htext := text.property
  simp only [isLastFour, decide_eq_true_eq, List.all_eq_true] at htext
  exact ascii_of_isDigit (htext.2 ch hch)

@[simp] theorem readCurrency_json (text : Currency) : readCurrency text.json = .ok text := by
  refine readMatching_json text fun ch hch => ?_
  have htext := text.property
  simp only [isCurrency, decide_eq_true_eq, List.all_eq_true] at htext
  have hchar := htext.2.2 ch hch
  simp only [currencyChar, decide_eq_true_eq] at hchar
  rcases hchar with h | h
  · exact ascii_of_range (by decide) h
  · exact ascii_of_isDigit h

structure IdentityV2 where
  accountId : Identifier
  installationId : Identifier
  trackingId : Identifier
  safetyEpoch : Counter
  accountProfileSha256 : Digest
  accountFingerprintSha256 : Digest
  trackingBoundarySha256 : Digest
  deriving DecidableEq

def identityKeys : List String :=
  ["account_fingerprint_sha256", "account_id", "account_profile_sha256", "installation_id",
   "safety_epoch", "tracking_boundary_sha256", "tracking_id"]

def IdentityV2.json (identity : IdentityV2) : JsValue :=
  object identityKeys
    [identity.accountFingerprintSha256.json, identity.accountId.json,
     identity.accountProfileSha256.json, identity.installationId.json, identity.safetyEpoch.json,
     identity.trackingBoundarySha256.json, identity.trackingId.json]

def readIdentityV2 : Reader IdentityV2 := fun value => do
  let [accountFingerprintSha256, accountId, accountProfileSha256, installationId, safetyEpoch,
     trackingBoundarySha256, trackingId] ← exactPlain value identityKeys
    | .error .invalid
  let accountId ← readIdentifierV2 accountId
  let installationId ← readIdentifierV2 installationId
  let trackingId ← readIdentifierV2 trackingId
  let safetyEpoch ← readCounterV2 0 safetyEpoch
  let accountProfileSha256 ← readDigestV2 accountProfileSha256
  let accountFingerprintSha256 ← readDigestV2 accountFingerprintSha256
  let trackingBoundarySha256 ← readDigestV2 trackingBoundarySha256
  return ⟨accountId, installationId, trackingId, safetyEpoch, accountProfileSha256,
    accountFingerprintSha256, trackingBoundarySha256⟩

theorem identityKeys_ordered : namesOrdered (identityKeys.map js) = true := by
  decide +kernel

@[simp] theorem readIdentityV2_json (identity : IdentityV2) :
    readIdentityV2 identity.json = .ok identity := by
  rw [readIdentityV2, IdentityV2.json, exactPlain_object identityKeys_ordered rfl]
  simp

@[simp] theorem IdentityV2.plain (identity : IdentityV2) (d : Nat) :
    identity.json.Plain (d + 1) := by
  refine plain_object identityKeys_ordered rfl ?_
  simp

structure BoundaryV2 where
  trackingId : Identifier
  accountFingerprintSha256 : Digest
  startedAtBrokerMsc : Instant
  initializedAtUtcSeconds : Instant
  excludedBoundaryDealIds : Bounded 1024 Ticket
  deriving DecidableEq

def boundaryKeys : List String :=
  ["account_fingerprint_sha256", "excluded_boundary_deal_ids", "initialized_at_utc_seconds",
   "started_at_broker_msc", "tracking_id"]

def BoundaryV2.json (boundary : BoundaryV2) : JsValue :=
  object boundaryKeys
    [boundary.accountFingerprintSha256.json, boundary.excludedBoundaryDealIds.json Matching.json,
     boundary.initializedAtUtcSeconds.json, boundary.startedAtBrokerMsc.json,
     boundary.trackingId.json]

def readBoundary : Reader BoundaryV2 := fun value => do
  let [accountFingerprintSha256, excludedBoundaryDealIds, initializedAtUtcSeconds,
     startedAtBrokerMsc, trackingId] ← exactPlain value boundaryKeys
    | .error .invalid
  let trackingId ← readIdentifierV2 trackingId
  let accountFingerprintSha256 ← readDigestV2 accountFingerprintSha256
  let startedAtBrokerMsc ← readCounterV2 1 startedAtBrokerMsc
  let initializedAtUtcSeconds ← readCounterV2 1 initializedAtUtcSeconds
  let excludedBoundaryDealIds ← readList readTicketV2 1024 excludedBoundaryDealIds
  return ⟨trackingId, accountFingerprintSha256, startedAtBrokerMsc, initializedAtUtcSeconds,
    excludedBoundaryDealIds⟩

theorem boundaryKeys_ordered : namesOrdered (boundaryKeys.map js) = true := by
  decide +kernel

@[simp] theorem readBoundary_json (boundary : BoundaryV2) :
    readBoundary boundary.json = .ok boundary := by
  rw [readBoundary, BoundaryV2.json, exactPlain_object boundaryKeys_ordered rfl]
  simp

@[simp] theorem BoundaryV2.plain (boundary : BoundaryV2) (d : Nat) :
    boundary.json.Plain (d + 2) := by
  refine plain_object boundaryKeys_ordered rfl ?_
  simp

structure PositionV2 where
  ticket : Ticket
  positionId : Ticket
  symbol : Text 64
  side : Side
  volume : Fixed
  entryPrice : Reading
  currentPrice : Reading
  sl : Reading
  tp : Reading
  floatingProfit : Reading
  swap : Reading
  deriving DecidableEq

def positionKeys : List String :=
  ["current_price", "entry_price", "floating_profit", "position_id", "side", "sl", "swap",
   "symbol", "ticket", "tp", "volume"]

def PositionV2.json (position : PositionV2) : JsValue :=
  object positionKeys
    [position.currentPrice.json, position.entryPrice.json, position.floatingProfit.json,
     position.positionId.json, choiceJson position.side, position.sl.json, position.swap.json,
     position.symbol.json, position.ticket.json, position.tp.json, position.volume.json]

def readPosition : Reader PositionV2 := fun value => do
  let [currentPrice, entryPrice, floatingProfit, positionId, side, sl, swap, symbol, ticket, tp,
     volume] ← exactPlain value positionKeys
    | .error .invalid
  let ticket ← readTicketV2 ticket
  let positionId ← readTicketV2 positionId
  let symbol ← readText 64 symbol
  let side ← readChoice Side side
  let volume ← readFixed volume
  let entryPrice ← readReading entryPrice
  let currentPrice ← readReading currentPrice
  let sl ← readReading sl
  let tp ← readReading tp
  let floatingProfit ← readReading floatingProfit
  let swap ← readReading swap
  return ⟨ticket, positionId, symbol, side, volume, entryPrice, currentPrice, sl, tp,
    floatingProfit, swap⟩

theorem positionKeys_ordered : namesOrdered (positionKeys.map js) = true := by
  decide +kernel

@[simp] theorem readPosition_json (position : PositionV2) :
    readPosition position.json = .ok position := by
  rw [readPosition, PositionV2.json, exactPlain_object positionKeys_ordered rfl]
  simp

@[simp] theorem PositionV2.plain (position : PositionV2) (d : Nat) :
    position.json.Plain (d + 3) := by
  refine plain_object positionKeys_ordered rfl ?_
  simp

structure OrderV2 where
  ticket : Ticket
  symbol : Text 64
  type : OrderType
  state : OrderState
  volumeInitial : Fixed
  volumeCurrent : Fixed
  price : Reading
  stopLimitPrice : Reading
  sl : Reading
  tp : Reading
  deriving DecidableEq

def orderKeys : List String :=
  ["price", "sl", "state", "stop_limit_price", "symbol", "ticket", "tp", "type", "volume_current",
   "volume_initial"]

def OrderV2.json (order : OrderV2) : JsValue :=
  object orderKeys
    [order.price.json, order.sl.json, choiceJson order.state, order.stopLimitPrice.json,
     order.symbol.json, order.ticket.json, order.tp.json, choiceJson order.type,
     order.volumeCurrent.json, order.volumeInitial.json]

def readOrder : Reader OrderV2 := fun value => do
  let [price, sl, state, stopLimitPrice, symbol, ticket, tp, type, volumeCurrent, volumeInitial] ←
    exactPlain value orderKeys
    | .error .invalid
  let ticket ← readTicketV2 ticket
  let symbol ← readText 64 symbol
  let type ← readChoice OrderType type
  let state ← readChoice OrderState state
  let volumeInitial ← readFixed volumeInitial
  let volumeCurrent ← readFixed volumeCurrent
  let price ← readReading price
  let stopLimitPrice ← readReading stopLimitPrice
  let sl ← readReading sl
  let tp ← readReading tp
  return ⟨ticket, symbol, type, state, volumeInitial, volumeCurrent, price, stopLimitPrice, sl, tp⟩

theorem orderKeys_ordered : namesOrdered (orderKeys.map js) = true := by
  decide +kernel

@[simp] theorem readOrder_json (order : OrderV2) : readOrder order.json = .ok order := by
  rw [readOrder, OrderV2.json, exactPlain_object orderKeys_ordered rfl]
  simp

@[simp] theorem OrderV2.plain (order : OrderV2) (d : Nat) : order.json.Plain (d + 3) := by
  refine plain_object orderKeys_ordered rfl ?_
  simp

structure ExposureV2 where
  status : ExposureStatus
  observedAtUtcSeconds : Instant
  observedAtBrokerMsc : Instant
  positionCount : Option Counter
  orderCount : Option Counter
  positions : Bounded 128 PositionV2
  orders : Bounded 128 OrderV2
  deriving DecidableEq

def exposureKeys : List String :=
  ["observed_at_broker_msc", "observed_at_utc_seconds", "order_count", "orders", "position_count",
   "positions", "status"]

def ExposureV2.json (exposure : ExposureV2) : JsValue :=
  object exposureKeys
    [exposure.observedAtBrokerMsc.json, exposure.observedAtUtcSeconds.json,
     nullableJson CounterFrom.json exposure.orderCount, exposure.orders.json OrderV2.json,
     nullableJson CounterFrom.json exposure.positionCount, exposure.positions.json PositionV2.json,
     choiceJson exposure.status]

def readExposure : Reader ExposureV2 := fun value => do
  let [observedAtBrokerMsc, observedAtUtcSeconds, orderCount, orders, positionCount, positions,
     status] ← exactPlain value exposureKeys
    | .error .invalid
  let status ← readChoice ExposureStatus status
  let observedAtUtcSeconds ← readCounterV2 1 observedAtUtcSeconds
  let observedAtBrokerMsc ← readCounterV2 1 observedAtBrokerMsc
  let positionCount ← readNullable (readCounterV2 0) positionCount
  let orderCount ← readNullable (readCounterV2 0) orderCount
  let positions ← readList readPosition 128 positions
  let orders ← readList readOrder 128 orders
  return ⟨status, observedAtUtcSeconds, observedAtBrokerMsc, positionCount, orderCount, positions,
    orders⟩

theorem exposureKeys_ordered : namesOrdered (exposureKeys.map js) = true := by
  decide +kernel

@[simp] theorem readExposure_json (exposure : ExposureV2) :
    readExposure exposure.json = .ok exposure := by
  rw [readExposure, ExposureV2.json, exactPlain_object exposureKeys_ordered rfl]
  simp

@[simp] theorem ExposureV2.plain (exposure : ExposureV2) (d : Nat) :
    exposure.json.Plain (d + 5) := by
  refine plain_object exposureKeys_ordered rfl ?_
  simp

structure DisplayV2 where
  company : Text 96
  server : Text 96
  loginLast4 : LastFour
  currency : Currency
  currencyScale : Counter
  accountMode : AccountMode
  marginMode : MarginMode
  deriving DecidableEq

def displayKeys : List String :=
  ["account_mode", "company", "currency", "currency_scale", "login_last4", "margin_mode", "server"]

def DisplayV2.json (display : DisplayV2) : JsValue :=
  object displayKeys
    [choiceJson display.accountMode, display.company.json, display.currency.json,
     display.currencyScale.json, display.loginLast4.json, choiceJson display.marginMode,
     display.server.json]

def readDisplay : Reader DisplayV2 := fun value => do
  let [accountMode, company, currency, currencyScale, loginLast4, marginMode, server] ←
    exactPlain value displayKeys
    | .error .invalid
  let company ← readText 96 company
  let server ← readText 96 server
  let loginLast4 ← readLastFour loginLast4
  let currency ← readCurrency currency
  let currencyScale ← readCounterV2 0 currencyScale
  let accountMode ← readChoice AccountMode accountMode
  let marginMode ← readChoice MarginMode marginMode
  return ⟨company, server, loginLast4, currency, currencyScale, accountMode, marginMode⟩

theorem displayKeys_ordered : namesOrdered (displayKeys.map js) = true := by
  decide +kernel

@[simp] theorem readDisplay_json (display : DisplayV2) :
    readDisplay display.json = .ok display := by
  rw [readDisplay, DisplayV2.json, exactPlain_object displayKeys_ordered rfl]
  simp

@[simp] theorem DisplayV2.plain (display : DisplayV2) (d : Nat) : display.json.Plain (d + 1) := by
  refine plain_object displayKeys_ordered rfl ?_
  simp

structure RegistrationV2 where
  boundary : BoundaryV2
  display : DisplayV2
  baseline : ExposureV2
  deriving DecidableEq

def registrationKeys : List String :=
  ["baseline", "boundary", "display"]

def RegistrationV2.json (registration : RegistrationV2) : JsValue :=
  object registrationKeys
    [registration.baseline.json, registration.boundary.json, registration.display.json]

def readRegistrationV2 : Reader RegistrationV2 := fun value => do
  let [baseline, boundary, display] ← exactPlain value registrationKeys
    | .error .invalid
  let boundary ← readBoundary boundary
  let display ← readDisplay display
  let baseline ← readExposure baseline
  return ⟨boundary, display, baseline⟩

theorem registrationKeys_ordered : namesOrdered (registrationKeys.map js) = true := by
  decide +kernel

@[simp] theorem readRegistrationV2_json (registration : RegistrationV2) :
    readRegistrationV2 registration.json = .ok registration := by
  rw [readRegistrationV2, RegistrationV2.json, exactPlain_object registrationKeys_ordered rfl]
  simp

@[simp] theorem RegistrationV2.plain (registration : RegistrationV2) (d : Nat) :
    registration.json.Plain (d + 6) := by
  refine plain_object registrationKeys_ordered rfl ?_
  simp

/-! ## Journal -/

structure ReversalSplit where
  closingVolume : Fixed
  openingVolume : Fixed
  deriving DecidableEq

def reversalSplitKeys : List String :=
  ["closing_volume", "opening_volume", "source"]

def ReversalSplit.json (reversalSplit : ReversalSplit) : JsValue :=
  object reversalSplitKeys
    [reversalSplit.closingVolume.json, reversalSplit.openingVolume.json,
     .str (js "RECONSTRUCTED_POSITION_VOLUME")]

def readReversalSplit : Reader ReversalSplit := fun value => do
  let [closingVolume, openingVolume, source] ← exactPlain value reversalSplitKeys
    | .error .invalid
  readConst "RECONSTRUCTED_POSITION_VOLUME" source
  let closingVolume ← readFixed closingVolume
  let openingVolume ← readFixed openingVolume
  return ⟨closingVolume, openingVolume⟩

theorem reversalSplitKeys_ordered : namesOrdered (reversalSplitKeys.map js) = true := by
  decide +kernel

@[simp] theorem readReversalSplit_json (reversalSplit : ReversalSplit) :
    readReversalSplit reversalSplit.json = .ok reversalSplit := by
  rw [readReversalSplit, ReversalSplit.json, exactPlain_object reversalSplitKeys_ordered rfl]
  simp

@[simp] theorem ReversalSplit.plain (reversalSplit : ReversalSplit) (d : Nat) :
    reversalSplit.json.Plain (d + 2) := by
  refine plain_object reversalSplitKeys_ordered rfl ?_
  simp

@[simp] theorem ReversalSplit.json_ne_null (reversalSplit : ReversalSplit) :
    reversalSplit.json ≠ .null := nofun

structure DealV2 where
  dealId : Ticket
  revision : Instant
  previousRecordSha256 : Option Digest
  brokerTimeMsc : Instant
  type : DealType
  entry : DealEntry
  orderId : Option Ticket
  positionId : Option Ticket
  symbol : Option (Text 64)
  volume : Option Fixed
  price : Reading
  profit : Reading
  commission : Reading
  swap : Reading
  fee : Reading
  reason : DealReason
  sl : Reading
  tp : Reading
  protectionSource : ProtectionSource
  reversalSplit : Option ReversalSplit
  deriving DecidableEq

def dealKeys : List String :=
  ["broker_time_msc", "commission", "deal_id", "entry", "fee", "kind", "order_id", "position_id",
   "previous_record_sha256", "price", "profit", "protection_source", "reason", "reversal_split",
   "revision", "sl", "swap", "symbol", "tp", "type", "volume"]

def DealV2.json (deal : DealV2) : JsValue :=
  object dealKeys
    [deal.brokerTimeMsc.json, deal.commission.json, deal.dealId.json, choiceJson deal.entry,
     deal.fee.json, .str (js "DEAL"), nullableJson Matching.json deal.orderId,
     nullableJson Matching.json deal.positionId,
     nullableJson Matching.json deal.previousRecordSha256, deal.price.json, deal.profit.json,
     choiceJson deal.protectionSource, choiceJson deal.reason,
     nullableJson ReversalSplit.json deal.reversalSplit, deal.revision.json, deal.sl.json,
     deal.swap.json, nullableJson Text.json deal.symbol, deal.tp.json, choiceJson deal.type,
     nullableJson Fixed.json deal.volume]

def readDeal : Reader DealV2 := fun value => do
  let [brokerTimeMsc, commission, dealId, entry, fee, kind, orderId, positionId,
     previousRecordSha256, price, profit, protectionSource, reason, reversalSplit, revision, sl,
     swap, symbol, tp, type, volume] ← exactPlain value dealKeys
    | .error .invalid
  readConst "DEAL" kind
  let dealId ← readTicketV2 dealId
  let revision ← readCounterV2 1 revision
  let previousRecordSha256 ← readNullable readDigestV2 previousRecordSha256
  let brokerTimeMsc ← readCounterV2 1 brokerTimeMsc
  let type ← readChoice DealType type
  let entry ← readChoice DealEntry entry
  let orderId ← readNullable readTicketV2 orderId
  let positionId ← readNullable readTicketV2 positionId
  let symbol ← readNullable (readText 64) symbol
  let volume ← readNullable readFixed volume
  let price ← readReading price
  let profit ← readReading profit
  let commission ← readReading commission
  let swap ← readReading swap
  let fee ← readReading fee
  let reason ← readChoice DealReason reason
  let sl ← readReading sl
  let tp ← readReading tp
  let protectionSource ← readChoice ProtectionSource protectionSource
  let reversalSplit ← readNullable readReversalSplit reversalSplit
  return ⟨dealId, revision, previousRecordSha256, brokerTimeMsc, type, entry, orderId, positionId,
    symbol, volume, price, profit, commission, swap, fee, reason, sl, tp, protectionSource,
    reversalSplit⟩

theorem dealKeys_ordered : namesOrdered (dealKeys.map js) = true := by
  decide +kernel

@[simp] theorem readDeal_json (deal : DealV2) : readDeal deal.json = .ok deal := by
  rw [readDeal, DealV2.json, exactPlain_object dealKeys_ordered rfl]
  simp

@[simp] theorem DealV2.plain (deal : DealV2) (d : Nat) : deal.json.Plain (d + 4) := by
  refine plain_object dealKeys_ordered rfl ?_
  simp

structure ProtectionV2 where
  positionId : Ticket
  ticket : Ticket
  symbol : Text 64
  observedAtBrokerMsc : Instant
  sl : Reading
  tp : Reading
  source : ObservationSource
  deriving DecidableEq

def protectionKeys : List String :=
  ["kind", "observed_at_broker_msc", "position_id", "sl", "source", "symbol", "ticket", "tp"]

def ProtectionV2.json (protection : ProtectionV2) : JsValue :=
  object protectionKeys
    [.str (js "PROTECTION_OBSERVATION"), protection.observedAtBrokerMsc.json,
     protection.positionId.json, protection.sl.json, choiceJson protection.source,
     protection.symbol.json, protection.ticket.json, protection.tp.json]

def readProtection : Reader ProtectionV2 := fun value => do
  let [kind, observedAtBrokerMsc, positionId, sl, source, symbol, ticket, tp] ←
    exactPlain value protectionKeys
    | .error .invalid
  readConst "PROTECTION_OBSERVATION" kind
  let positionId ← readTicketV2 positionId
  let ticket ← readTicketV2 ticket
  let symbol ← readText 64 symbol
  let observedAtBrokerMsc ← readCounterV2 1 observedAtBrokerMsc
  let sl ← readReading sl
  let tp ← readReading tp
  let source ← readChoice ObservationSource source
  return ⟨positionId, ticket, symbol, observedAtBrokerMsc, sl, tp, source⟩

theorem protectionKeys_ordered : namesOrdered (protectionKeys.map js) = true := by
  decide +kernel

@[simp] theorem readProtection_json (protection : ProtectionV2) :
    readProtection protection.json = .ok protection := by
  rw [readProtection, ProtectionV2.json, exactPlain_object protectionKeys_ordered rfl]
  simp

@[simp] theorem ProtectionV2.plain (protection : ProtectionV2) (d : Nat) :
    protection.json.Plain (d + 3) := by
  refine plain_object protectionKeys_ordered rfl ?_
  simp

inductive JournalRecord where
  | deal (deal : DealV2)
  | protection (protection : ProtectionV2)
  deriving DecidableEq

def JournalRecord.json : JournalRecord → JsValue
  | .deal record => record.json
  | .protection record => record.json

def readRecord : Reader JournalRecord
  | .obj fields =>
    match field fields "kind" with
    | .str kind =>
      if kind = js "DEAL" then (readDeal (.obj fields)).map .deal
      else (readProtection (.obj fields)).map .protection
    | _ => (readProtection (.obj fields)).map .protection
  | _ => .error .invalid

@[simp] theorem readRecord_json (record : JournalRecord) : readRecord record.json = .ok record := by
  cases record with
  | deal deal =>
    have hread := readDeal_json deal
    rw [JournalRecord.json, DealV2.json, object, readRecord,
      field_object (i := 5) dealKeys_ordered rfl rfl rfl]
    rw [DealV2.json, object] at hread
    simp only [if_true, hread]
    rfl
  | protection protection =>
    have hread := readProtection_json protection
    have hkind : js "PROTECTION_OBSERVATION" ≠ js "DEAL" := by decide +kernel
    rw [JournalRecord.json, ProtectionV2.json, object, readRecord,
      field_object (i := 0) protectionKeys_ordered rfl rfl rfl]
    rw [ProtectionV2.json, object] at hread
    simp only [if_neg hkind, hread]
    rfl

@[simp] theorem JournalRecord.plain (record : JournalRecord) (d : Nat) :
    record.json.Plain (d + 4) := by
  cases record with
  | deal deal => exact deal.plain d
  | protection protection => exact protection.plain (d + 1)

structure JournalEventV2 where
  sequence : Instant
  eventId : Identifier
  observedAtUtcSeconds : Instant
  recordSha256 : Digest
  record : JournalRecord
  deriving DecidableEq

def journalEventKeys : List String :=
  ["event_id", "observed_at_utc_seconds", "record", "record_sha256", "sequence"]

def JournalEventV2.json (journalEvent : JournalEventV2) : JsValue :=
  object journalEventKeys
    [journalEvent.eventId.json, journalEvent.observedAtUtcSeconds.json, journalEvent.record.json,
     journalEvent.recordSha256.json, journalEvent.sequence.json]

def readEvent : Reader JournalEventV2 := fun value => do
  let [eventId, observedAtUtcSeconds, record, recordSha256, sequence] ←
    exactPlain value journalEventKeys
    | .error .invalid
  let sequence ← readCounterV2 1 sequence
  let eventId ← readIdentifierV2 eventId
  let observedAtUtcSeconds ← readCounterV2 1 observedAtUtcSeconds
  let recordSha256 ← readDigestV2 recordSha256
  let record ← readRecord record
  return ⟨sequence, eventId, observedAtUtcSeconds, recordSha256, record⟩

theorem journalEventKeys_ordered : namesOrdered (journalEventKeys.map js) = true := by
  decide +kernel

@[simp] theorem readEvent_json (journalEvent : JournalEventV2) :
    readEvent journalEvent.json = .ok journalEvent := by
  rw [readEvent, JournalEventV2.json, exactPlain_object journalEventKeys_ordered rfl]
  simp

@[simp] theorem JournalEventV2.plain (journalEvent : JournalEventV2) (d : Nat) :
    journalEvent.json.Plain (d + 5) := by
  refine plain_object journalEventKeys_ordered rfl ?_
  simp

/-! ## Requests -/

structure AccountV2 where
  status : AccountStatus
  observedAtUtcSeconds : Instant
  observedAtBrokerMsc : Instant
  balance : Reading
  equity : Reading
  marginUsed : Reading
  marginFree : Reading
  marginLevel : Reading
  deriving DecidableEq

def accountKeys : List String :=
  ["balance", "equity", "margin_free", "margin_level", "margin_used", "observed_at_broker_msc",
   "observed_at_utc_seconds", "status"]

def AccountV2.json (account : AccountV2) : JsValue :=
  object accountKeys
    [account.balance.json, account.equity.json, account.marginFree.json, account.marginLevel.json,
     account.marginUsed.json, account.observedAtBrokerMsc.json, account.observedAtUtcSeconds.json,
     choiceJson account.status]

def readAccount : Reader AccountV2 := fun value => do
  let [balance, equity, marginFree, marginLevel, marginUsed, observedAtBrokerMsc,
     observedAtUtcSeconds, status] ← exactPlain value accountKeys
    | .error .invalid
  let status ← readChoice AccountStatus status
  let observedAtUtcSeconds ← readCounterV2 1 observedAtUtcSeconds
  let observedAtBrokerMsc ← readCounterV2 1 observedAtBrokerMsc
  let balance ← readReading balance
  let equity ← readReading equity
  let marginUsed ← readReading marginUsed
  let marginFree ← readReading marginFree
  let marginLevel ← readReading marginLevel
  return ⟨status, observedAtUtcSeconds, observedAtBrokerMsc, balance, equity, marginUsed,
    marginFree, marginLevel⟩

theorem accountKeys_ordered : namesOrdered (accountKeys.map js) = true := by
  decide +kernel

@[simp] theorem readAccount_json (account : AccountV2) :
    readAccount account.json = .ok account := by
  rw [readAccount, AccountV2.json, exactPlain_object accountKeys_ordered rfl]
  simp

@[simp] theorem AccountV2.plain (account : AccountV2) (d : Nat) : account.json.Plain (d + 3) := by
  refine plain_object accountKeys_ordered rfl ?_
  simp

structure CollectionV2 where
  producedEvents : Counter
  scanFinished : Bool
  scanThroughBrokerMsc : Option Instant
  recordGap : Option RecordGap
  observationGap : Bool
  deriving DecidableEq

def collectionKeys : List String :=
  ["observation_gap", "produced_events", "record_gap", "scan_finished", "scan_through_broker_msc"]

def CollectionV2.json (collection : CollectionV2) : JsValue :=
  object collectionKeys
    [.bool collection.observationGap, collection.producedEvents.json,
     nullableJson choiceJson collection.recordGap, .bool collection.scanFinished,
     nullableJson CounterFrom.json collection.scanThroughBrokerMsc]

def readCollection : Reader CollectionV2 := fun value => do
  let [observationGap, producedEvents, recordGap, scanFinished, scanThroughBrokerMsc] ←
    exactPlain value collectionKeys
    | .error .invalid
  let producedEvents ← readCounterV2 0 producedEvents
  let scanFinished ← readBoolean scanFinished
  let scanThroughBrokerMsc ← readNullable (readCounterV2 1) scanThroughBrokerMsc
  let recordGap ← readNullable (readChoice RecordGap) recordGap
  let observationGap ← readBoolean observationGap
  return ⟨producedEvents, scanFinished, scanThroughBrokerMsc, recordGap, observationGap⟩

theorem collectionKeys_ordered : namesOrdered (collectionKeys.map js) = true := by
  decide +kernel

@[simp] theorem readCollection_json (collection : CollectionV2) :
    readCollection collection.json = .ok collection := by
  rw [readCollection, CollectionV2.json, exactPlain_object collectionKeys_ordered rfl]
  simp

@[simp] theorem CollectionV2.plain (collection : CollectionV2) (d : Nat) :
    collection.json.Plain (d + 1) := by
  refine plain_object collectionKeys_ordered rfl ?_
  simp

structure DiagnosticsV2 where
  eaRelease : Text 64
  reportedSourceSha256 : Option Digest
  reportedManifestSha256 : Option Digest
  terminalBuild : Instant
  sourceSymbol : Text 64
  observedAtUtcSeconds : Instant
  terminalConnectionState : ConnectionState
  accountTradePermission : Permission
  terminalTradePermission : Permission
  algoTradingPermission : Permission
  lastSuccessfulUploadUtcSeconds : Option Instant
  lastAcceptedRequestSequence : Counter
  localUnsentEvents : Counter
  lastError : Option LastError
  deriving DecidableEq

def diagnosticsKeys : List String :=
  ["account_trade_permission", "algo_trading_permission", "ea_release",
   "last_accepted_request_sequence", "last_error", "last_successful_upload_utc_seconds",
   "local_unsent_events", "observed_at_utc_seconds", "reported_manifest_sha256",
   "reported_source_sha256", "source_symbol", "terminal_build", "terminal_connection_state",
   "terminal_trade_permission"]

def DiagnosticsV2.json (diagnostics : DiagnosticsV2) : JsValue :=
  object diagnosticsKeys
    [choiceJson diagnostics.accountTradePermission, choiceJson diagnostics.algoTradingPermission,
     diagnostics.eaRelease.json, diagnostics.lastAcceptedRequestSequence.json,
     nullableJson choiceJson diagnostics.lastError,
     nullableJson CounterFrom.json diagnostics.lastSuccessfulUploadUtcSeconds,
     diagnostics.localUnsentEvents.json, diagnostics.observedAtUtcSeconds.json,
     nullableJson Matching.json diagnostics.reportedManifestSha256,
     nullableJson Matching.json diagnostics.reportedSourceSha256, diagnostics.sourceSymbol.json,
     diagnostics.terminalBuild.json, choiceJson diagnostics.terminalConnectionState,
     choiceJson diagnostics.terminalTradePermission]

def readDiagnostics : Reader DiagnosticsV2 := fun value => do
  let [accountTradePermission, algoTradingPermission, eaRelease, lastAcceptedRequestSequence,
     lastError, lastSuccessfulUploadUtcSeconds, localUnsentEvents, observedAtUtcSeconds,
     reportedManifestSha256, reportedSourceSha256, sourceSymbol, terminalBuild,
     terminalConnectionState, terminalTradePermission] ← exactPlain value diagnosticsKeys
    | .error .invalid
  let eaRelease ← readText 64 eaRelease
  let reportedSourceSha256 ← readNullable readDigestV2 reportedSourceSha256
  let reportedManifestSha256 ← readNullable readDigestV2 reportedManifestSha256
  let terminalBuild ← readCounterV2 1 terminalBuild
  let sourceSymbol ← readText 64 sourceSymbol
  let observedAtUtcSeconds ← readCounterV2 1 observedAtUtcSeconds
  let terminalConnectionState ← readChoice ConnectionState terminalConnectionState
  let accountTradePermission ← readChoice Permission accountTradePermission
  let terminalTradePermission ← readChoice Permission terminalTradePermission
  let algoTradingPermission ← readChoice Permission algoTradingPermission
  let lastSuccessfulUploadUtcSeconds ← readNullable (readCounterV2 1) lastSuccessfulUploadUtcSeconds
  let lastAcceptedRequestSequence ← readCounterV2 0 lastAcceptedRequestSequence
  let localUnsentEvents ← readCounterV2 0 localUnsentEvents
  let lastError ← readNullable (readChoice LastError) lastError
  return ⟨eaRelease, reportedSourceSha256, reportedManifestSha256, terminalBuild, sourceSymbol,
    observedAtUtcSeconds, terminalConnectionState, accountTradePermission, terminalTradePermission,
    algoTradingPermission, lastSuccessfulUploadUtcSeconds, lastAcceptedRequestSequence,
    localUnsentEvents, lastError⟩

theorem diagnosticsKeys_ordered : namesOrdered (diagnosticsKeys.map js) = true := by
  decide +kernel

@[simp] theorem readDiagnostics_json (diagnostics : DiagnosticsV2) :
    readDiagnostics diagnostics.json = .ok diagnostics := by
  rw [readDiagnostics, DiagnosticsV2.json, exactPlain_object diagnosticsKeys_ordered rfl]
  simp

@[simp] theorem DiagnosticsV2.plain (diagnostics : DiagnosticsV2) (d : Nat) :
    diagnostics.json.Plain (d + 1) := by
  refine plain_object diagnosticsKeys_ordered rfl ?_
  simp

structure TelemetryRequestV2 where
  identity : IdentityV2
  registration : RegistrationV2
  requestSequence : Instant
  lastAcknowledgedEventSequence : Counter
  sentAtUtcSeconds : Instant
  account : AccountV2
  exposure : ExposureV2
  collection : CollectionV2
  diagnostics : DiagnosticsV2
  events : Bounded 32 JournalEventV2
  bodySha256 : Digest
  deriving DecidableEq

def telemetryRequestKeys : List String :=
  ["account", "body_sha256", "collection", "diagnostics", "events", "exposure", "identity",
   "last_acknowledged_event_sequence", "registration", "request_sequence", "schema_version",
   "sent_at_utc_seconds"]

def TelemetryRequestV2.json (telemetryRequest : TelemetryRequestV2) : JsValue :=
  object telemetryRequestKeys
    [telemetryRequest.account.json, telemetryRequest.bodySha256.json,
     telemetryRequest.collection.json, telemetryRequest.diagnostics.json,
     telemetryRequest.events.json JournalEventV2.json, telemetryRequest.exposure.json,
     telemetryRequest.identity.json, telemetryRequest.lastAcknowledgedEventSequence.json,
     telemetryRequest.registration.json, telemetryRequest.requestSequence.json,
     .str (js "AgentSyncRequestV2"), telemetryRequest.sentAtUtcSeconds.json]

def readRequest : Reader TelemetryRequestV2 := fun value => do
  let [account, bodySha256, collection, diagnostics, events, exposure, identity,
     lastAcknowledgedEventSequence, registration, requestSequence, schemaVersion,
     sentAtUtcSeconds] ←
    exactPlain value telemetryRequestKeys
    | .error .invalid
  readConst "AgentSyncRequestV2" schemaVersion
  let identity ← readIdentityV2 identity
  let registration ← readRegistrationV2 registration
  let requestSequence ← readCounterV2 1 requestSequence
  let lastAcknowledgedEventSequence ← readCounterV2 0 lastAcknowledgedEventSequence
  let sentAtUtcSeconds ← readCounterV2 1 sentAtUtcSeconds
  let account ← readAccount account
  let exposure ← readExposure exposure
  let collection ← readCollection collection
  let diagnostics ← readDiagnostics diagnostics
  let events ← readList readEvent 32 events
  let bodySha256 ← readDigestV2 bodySha256
  return ⟨identity, registration, requestSequence, lastAcknowledgedEventSequence,
    sentAtUtcSeconds, account, exposure, collection, diagnostics, events, bodySha256⟩

theorem telemetryRequestKeys_ordered : namesOrdered (telemetryRequestKeys.map js) = true := by
  decide +kernel

@[simp] theorem readRequest_json (telemetryRequest : TelemetryRequestV2) :
    readRequest telemetryRequest.json = .ok telemetryRequest := by
  rw [readRequest, TelemetryRequestV2.json, exactPlain_object telemetryRequestKeys_ordered rfl]
  simp

@[simp] theorem TelemetryRequestV2.plain (telemetryRequest : TelemetryRequestV2) (d : Nat) :
    telemetryRequest.json.Plain (d + 7) := by
  refine plain_object telemetryRequestKeys_ordered rfl ?_
  simp

end TradeOps.Telemetry
