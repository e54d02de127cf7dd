import TradeOps.Broker.ExactPrice
import TradeOps.Telemetry.Schema

/-!
# The broker symbol capability

Embeds `broker-symbol-capability-v1.ts`. A capability names a source symbol, a broker symbol and
their tick sizes, and fixes how many broker ticks make up the wick buffer of the source symbol. The
validator computes that number itself, in whole price units, and compares.

The whole validator runs in one `try`, so every failure has the same message. Its numbers are
integers here: another number fails at the reader of its field. A name of `Object.prototype` passes
the test for a source symbol and fails when its policy is compared; here it fails at once.
-/

namespace TradeOps.Broker

open Checks JsString SafeIntegers
open Telemetry (exactPlain field canonicalStringify isDigest)

inductive CapabilityError where
  | invalid
  deriving DecidableEq, Repr

/-- `catch { return invalid(); }`. -/
def caught {ε α : Type} (result : Except ε α) : Except CapabilityError α :=
  result.mapError fun _ => .invalid

inductive SourceSymbol where
  | eurusd | gbpjpy | usdjpy | xauusd | nas100
  deriving DecidableEq, Repr

structure GeometryPolicy where
  buffer : Int
  tolerance : Int
  deriving DecidableEq, Repr

/-- `INERT_GEOMETRY_POLICY`. -/
def SourceSymbol.policy : SourceSymbol → GeometryPolicy
  | .eurusd => ⟨2, 3⟩
  | .gbpjpy => ⟨3, 5⟩
  | .usdjpy => ⟨2, 5⟩
  | .xauusd => ⟨5, 10⟩
  | .nas100 => ⟨10, 20⟩

def SourceSymbol.named : List (String × SourceSymbol) :=
  [("EURUSD", .eurusd), ("GBPJPY", .gbpjpy), ("USDJPY", .usdjpy), ("XAUUSD", .xauusd),
    ("NAS100", .nas100)]

def capabilityKeys : List String :=
  ["schema_version", "capability_sha256", "account_profile_sha256", "source_symbol",
    "broker_symbol", "source_tick_size", "broker_tick_size", "buffer_policy_version",
    "source_buffer_ticks", "broker_buffer_ticks", "divergence_tolerance_source_ticks"]

structure BrokerSymbolCapabilityV1 where
  capabilitySha256 : String
  accountProfileSha256 : String
  sourceSymbol : SourceSymbol
  brokerSymbol : String
  sourceTickSize : String
  brokerTickSize : String
  sourceBufferTicks : Int
  brokerBufferTicks : Int
  divergenceToleranceSourceTicks : Int
  deriving DecidableEq, Repr

/-! ## Readers -/

/-- The text of a string, when it passes a test; the patterns match ASCII characters only. -/
def matching (ok : String → Bool) (value : JsValue) : Except CapabilityError String :=
  match value with
  | .str s =>
    match ascii s with
    | some text => if ok text then .ok text else .error .invalid
    | none => .error .invalid
  | _ => .error .invalid

def constant (name : String) (value : JsValue) : Except CapabilityError String :=
  matching (· = name) value

def digest (value : JsValue) : Except CapabilityError String := matching isDigest value

/-- `[\x21-\x5b\x5d-\x7e]`. -/
def identifierChar (ch : Char) : Bool :=
  0x21 ≤ ch.toNat ∧ ch.toNat ≤ 0x7e ∧ ch ≠ '\\'

def isIdentifier (text : String) : Bool :=
  1 ≤ text.toList.length ∧ text.toList.length ≤ 160 ∧ text.toList.all identifierChar

def identifier (value : JsValue) : Except CapabilityError String := matching isIdentifier value

def tickSizeText (value : JsValue) : Except CapabilityError String :=
  matching (fun text => text.toList.length ≤ 32 && isTickSize text.toList) value

def sourceSymbolOf (value : JsValue) : Except CapabilityError SourceSymbol := do
  let name ← matching (fun _ => true) value
  match SourceSymbol.named.lookup name with
  | some symbol => .ok symbol
  | none => .error .invalid

def positiveSafeInteger (value : JsValue) : Except CapabilityError Int :=
  match value with
  | .num n => if isSafeInteger n ∧ 1 ≤ n then .ok n else .error .invalid
  | _ => .error .invalid

/-- `const { capability_sha256: _digest, ...body } = input`. -/
def capabilityBody (value : JsValue) : JsValue :=
  match value with
  | .obj fields => .obj (fields.filter fun f => f.1 ≠ js "capability_sha256")
  | other => other

/-- `safeBrokerTicks(ceilPriceUnitsToTicks(ticksToPriceUnits(ticks, source), broker))`. -/
def expectedBrokerTicks (ticks sourceTickUnits brokerTickUnits : Int) : Except PriceError Int := do
  let distance ← ticksToPriceUnits ticks sourceTickUnits
  let brokerTicks ← ceilPriceUnitsToTicks distance brokerTickUnits
  safeBrokerTicks brokerTicks

def validateBrokerSymbolCapabilityV1 (sha256Hex : String → String) (value : JsValue) :
    Except CapabilityError BrokerSymbolCapabilityV1 := do
  let [schemaVersion, capabilitySha256, accountProfileSha256, sourceSymbol, brokerSymbol,
      sourceTickSize, brokerTickSize, bufferPolicyVersion, sourceBufferTicks, brokerBufferTicks,
      tolerance] ← caught (exactPlain value capabilityKeys) | .error .invalid
  let _ ← constant "BrokerSymbolCapabilityV1" schemaVersion
  let _ ← constant "rd-entry-wick-buffer-v1" bufferPolicyVersion
  let sourceSymbol ← sourceSymbolOf sourceSymbol
  let capabilitySha256 ← digest capabilitySha256
  let accountProfileSha256 ← digest accountProfileSha256
  let brokerSymbol ← identifier brokerSymbol
  let sourceTickSize ← tickSizeText sourceTickSize
  let brokerTickSize ← tickSizeText brokerTickSize
  let sourceTickUnits ← caught (parseTickSizeToPriceUnits sourceTickSize)
  let brokerTickUnits ← caught (parseTickSizeToPriceUnits brokerTickSize)
  let sourceBufferTicks ← positiveSafeInteger sourceBufferTicks
  let brokerBufferTicks ← positiveSafeInteger brokerBufferTicks
  let tolerance ← positiveSafeInteger tolerance
  let expectedBrokerBuffer ←
    caught (expectedBrokerTicks sourceBufferTicks sourceTickUnits brokerTickUnits)
  failIf (sourceBufferTicks ≠ sourceSymbol.policy.buffer ∨
    tolerance ≠ sourceSymbol.policy.tolerance ∨ brokerBufferTicks ≠ expectedBrokerBuffer) .invalid
  let body ← caught (canonicalStringify (capabilityBody value))
  failIf (sha256Hex body ≠ capabilitySha256) .invalid
  return ⟨capabilitySha256, accountProfileSha256, sourceSymbol, brokerSymbol, sourceTickSize,
    brokerTickSize, sourceBufferTicks, brokerBufferTicks, tolerance⟩

/-! ## What the readers read -/

variable {value : JsValue}

theorem caught_ok_iff {ε α : Type} {result : Except ε α} {a : α} :
    caught result = .ok a ↔ result = .ok a :=
  mapError_ok_iff

/-- The text of a string of ASCII characters is the string. -/
theorem js_of_ascii {s : JsString} {text : String} (h : ascii s = some text) : js text = s := by
  rw [ascii] at h
  split at h
  · rename_i hall
    simp only [List.all_eq_true, decide_eq_true_eq] at hall
    have hcode : ∀ u ∈ s, (Char.ofNat u.toNat).toNat = u.toNat := by
      intro u hu
      have hlt := hall u hu
      have hvalid : u.toNat.isValidChar := by
        left
        omega
      rw [Char.ofNat, dif_pos hvalid]
      rfl
    have hchars : ∀ ch ∈ s.map fun u => Char.ofNat u.toNat, ch.toNat < 128 := by
      intro ch hch
      obtain ⟨u, hu, rfl⟩ := List.mem_map.1 hch
      rw [hcode u hu]
      exact hall u hu
    rw [← Option.some.inj h, js, String.toList_ofList, ofChars_of_ascii hchars, List.map_map]
    refine (List.map_congr_left fun u hu => ?_).trans (List.map_id s)
    simp only [Function.comp_apply, hcode u hu]
    simp
  · cases h

theorem matching_ok {ok : String → Bool} {text : String} (h : matching ok value = .ok text) :
    value = .str (js text) ∧ ok text = true := by
  unfold matching at h
  split at h
  · split at h
    · rename_i hascii
      split at h
      · rename_i hok
        cases h
        exact ⟨by rw [js_of_ascii hascii], hok⟩
      · cases h
    · cases h
  · cases h

theorem positiveSafeInteger_ok {n : Int} (h : positiveSafeInteger value = .ok n) :
    value = .num n ∧ 1 ≤ n ∧ n ≤ maxSafeInteger := by
  unfold positiveSafeInteger at h
  split at h
  · split at h
    · rename_i hsafe
      simp only [isSafeInteger, decide_eq_true_eq] at hsafe
      cases h
      exact ⟨rfl, hsafe.2, hsafe.1.2⟩
    · cases h
  · cases h

/-- The broker ticks of an accepted buffer are the fewest that cover it, and a safe number. -/
theorem expectedBrokerTicks_ok {ticks source broker n : Int}
    (h : expectedBrokerTicks ticks source broker = .ok n) :
    IsLeast {n : Int | ticks * source ≤ n * broker} n ∧ n ≤ maxSafeInteger := by
  rw [expectedBrokerTicks, bind_ok_iff] at h
  obtain ⟨distance, hdistance, h⟩ := h
  simp only [ticksToPriceUnits, then_ok_iff, pure_ok_iff] at hdistance
  obtain ⟨-, -, rfl⟩ := hdistance
  rw [bind_ok_iff] at h
  obtain ⟨brokerTicks, hceil, h⟩ := h
  simp only [safeBrokerTicks, then_ok_iff, failIf_ok_iff, pure_ok_iff] at h
  obtain ⟨-, hsafe, rfl⟩ := h
  exact ⟨(ceilPriceUnitsToTicks_isLeast hceil).2.2, not_lt.1 hsafe⟩

/-- Counting in units does not change which ticks cover a distance. -/
theorem units_cover_iff {source broker : String} {sourceUnits brokerUnits ticks n : Int}
    (hsource : parseTickSizeToPriceUnits source = .ok sourceUnits)
    (hbroker : parseTickSizeToPriceUnits broker = .ok brokerUnits) :
    ticks * sourceUnits ≤ n * brokerUnits ↔ ticks * tickSize source ≤ n * tickSize broker := by
  have hsource := (parseTickSizeToPriceUnits_ok hsource).1
  have hbroker := (parseTickSizeToPriceUnits_ok hbroker).1
  have hscale : (0 : ℚ) < 10 ^ 12 := by positivity
  rw [← Int.cast_le (R := ℚ), Int.cast_mul, Int.cast_mul, hsource, hbroker, ← mul_assoc,
    ← mul_assoc, mul_le_mul_iff_left₀ hscale]

theorem exactPlain_ok {keys : List String} {values : List JsValue}
    (h : exactPlain value keys = .ok values) :
    ∃ fields, value = .obj fields ∧ values = keys.map (field fields) := by
  unfold exactPlain at h
  split at h
  · split at h
    · cases h
      exact ⟨_, rfl, rfl⟩
    · cases h
  · cases h

variable {sha256Hex : String → String} {c : BrokerSymbolCapabilityV1}

/-- The tick sizes and the buffers of an accepted capability are those of its object. -/
theorem validateBrokerSymbolCapabilityV1_fields
    (h : validateBrokerSymbolCapabilityV1 sha256Hex value = .ok c) :
    ∃ fields, value = .obj fields ∧
      field fields "source_tick_size" = .str (js c.sourceTickSize) ∧
      field fields "broker_tick_size" = .str (js c.brokerTickSize) ∧
      field fields "source_buffer_ticks" = .num c.sourceBufferTicks ∧
      field fields "broker_buffer_ticks" = .num c.brokerBufferTicks ∧
      1 ≤ c.brokerBufferTicks ∧
      ∃ sourceUnits brokerUnits,
        parseTickSizeToPriceUnits c.sourceTickSize = .ok sourceUnits ∧
        parseTickSizeToPriceUnits c.brokerTickSize = .ok brokerUnits ∧
        expectedBrokerTicks c.sourceBufferTicks sourceUnits brokerUnits =
          .ok c.brokerBufferTicks := by
  rw [validateBrokerSymbolCapabilityV1, bind_ok_iff] at h
  obtain ⟨values, hvalues, h⟩ := h
  obtain ⟨fields, hfields, rfl⟩ := exactPlain_ok (caught_ok_iff.1 hvalues)
  simp only [capabilityKeys, List.map_cons, List.map_nil, bind_ok_iff, failIf_ok_iff, pure_ok_iff,
    caught_ok_iff] at h
  obtain ⟨-, -, -, -, symbol, -, hash, -, account, -, brokerSymbol, -, source, hsource, broker,
    hbroker, sourceUnits, hsourceUnits, brokerUnits, hbrokerUnits, buffer, hbuffer, brokerBuffer,
    hbrokerBuffer, tolerance, -, expected, hexpected, -, hpolicy, body, -, -, -, rfl⟩ := h
  obtain ⟨-, -, rfl⟩ : buffer = symbol.policy.buffer ∧ tolerance = symbol.policy.tolerance ∧
      brokerBuffer = expected := by
    simpa only [not_or, ne_eq, not_not] using hpolicy
  refine ⟨fields, hfields, (matching_ok hsource).1, (matching_ok hbroker).1,
    (positiveSafeInteger_ok hbuffer).1, (positiveSafeInteger_ok hbrokerBuffer).1,
    (positiveSafeInteger_ok hbrokerBuffer).2.1, sourceUnits, brokerUnits, hsourceUnits,
    hbrokerUnits, hexpected⟩

/-- Tick sizes are read exactly, and an accepted broker buffer is the least number of broker ticks
that covers the source buffer. -/
theorem exact_tick_conversion (sha256Hex : String → String) :
    (∀ value units, parseTickSizeToPriceUnits value = .ok units →
      (units : ℚ) = tickSize value * 10 ^ 12 ∧ 0 < units) ∧
    ∀ value c, validateBrokerSymbolCapabilityV1 sha256Hex value = .ok c →
      (∃ fields, value = .obj fields ∧
        field fields "source_tick_size" = .str (js c.sourceTickSize) ∧
        field fields "broker_tick_size" = .str (js c.brokerTickSize) ∧
        field fields "source_buffer_ticks" = .num c.sourceBufferTicks ∧
        field fields "broker_buffer_ticks" = .num c.brokerBufferTicks) ∧
      0 < tickSize c.sourceTickSize ∧ 0 < tickSize c.brokerTickSize ∧
      IsLeast {n : Int |
        c.sourceBufferTicks * tickSize c.sourceTickSize ≤ n * tickSize c.brokerTickSize}
        c.brokerBufferTicks ∧
      1 ≤ c.brokerBufferTicks ∧ c.brokerBufferTicks ≤ maxSafeInteger := by
  refine ⟨fun _ _ h => parseTickSizeToPriceUnits_ok h, fun value c h => ?_⟩
  obtain ⟨fields, hobj, hsource, hbroker, hbuffer, hbrokerBuffer, hpos, sourceUnits, brokerUnits,
    hsourceUnits, hbrokerUnits, hexpected⟩ := validateBrokerSymbolCapabilityV1_fields h
  have hleast := expectedBrokerTicks_ok hexpected
  refine ⟨⟨fields, hobj, hsource, hbroker, hbuffer, hbrokerBuffer⟩,
    tickSize_pos hsourceUnits, tickSize_pos hbrokerUnits, ?_, hpos, hleast.2⟩
  have hset : {n : Int | c.sourceBufferTicks * sourceUnits ≤ n * brokerUnits} =
      {n : Int |
        c.sourceBufferTicks * tickSize c.sourceTickSize ≤ n * tickSize c.brokerTickSize} :=
    Set.ext fun n => units_cover_iff hsourceUnits hbrokerUnits
  rw [← hset]
  exact hleast.1

def goldDigest : String := "48cefd1be631ff81e1a3756bf3f8e39c3f87db48b070cf1f7768f2de0537970e"

def goldCapability : JsValue :=
  Telemetry.object capabilityKeys
    [.str (js "BrokerSymbolCapabilityV1"),
      .str (js goldDigest),
      .str (js "e3b0c44298fc1c149afbf4c8996fb92427ae41e4649b934ca495991b7852b855"),
      .str (js "XAUUSD"), .str (js "XAUUSD.r"), .str (js "0.01"), .str (js "0.02"),
      .str (js "rd-entry-wick-buffer-v1"), .num 5, .num 3, .num 10]

theorem goldCapability_accepted :
    (validateBrokerSymbolCapabilityV1 (fun _ => goldDigest) goldCapability).map
      (fun c => (c.sourceBufferTicks, c.brokerBufferTicks)) = .ok (5, 3) := by
  rfl

/-- Five ticks of `0.01` are covered by three of `0.02`, and not by two. -/
theorem goldCapability_ticks :
    ∃ c, validateBrokerSymbolCapabilityV1 (fun _ => goldDigest) goldCapability = .ok c ∧
      IsLeast {n : Int | (5 : Int) * tickSize c.sourceTickSize ≤ n * tickSize c.brokerTickSize}
        3 := by
  have haccepted := goldCapability_accepted
  cases hcase : validateBrokerSymbolCapabilityV1 (fun _ => goldDigest) goldCapability with
  | error _ =>
    rw [hcase] at haccepted
    cases haccepted
  | ok c =>
    rw [hcase] at haccepted
    obtain ⟨hsource, hbroker⟩ := Prod.mk.inj (Except.ok.inj haccepted)
    have hleast := ((exact_tick_conversion fun _ => goldDigest).2 _ c hcase).2.2.2.1
    rw [hsource, hbroker] at hleast
    exact ⟨c, rfl, hleast⟩

end TradeOps.Broker
