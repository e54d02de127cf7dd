import TradeOps.Telemetry.Values

/-!
# Readers of telemetry documents

Embeds `telemetry-schema-v2.ts`: the reader combinators, and `canonicalInput`, which takes bytes
only when they are the canonical text of the value they stand for.

An object is read by name, so the order of its properties does not matter; the names are listed in
the order in which they are printed, and `exactPlain` hands out the values in that order. What is
read back of a printed record is the record: `exactPlain_object` carries the object readers,
`canonicalInput_text` the documents.
-/

namespace TradeOps.Telemetry

open JsString JsValue Checks Patterns

/-! ## Leaves -/

def readBoolean : Reader Bool
  | .bool value => .ok value
  | _ => .error .invalid

/-- No control characters, not empty, and not too long. -/
def isText (max : Nat) (s : JsString) : Bool :=
  s.length ≤ max ∧ s ≠ [] ∧ s.all fun u => 32 ≤ u.toNat ∧ u.toNat ≠ 127

structure Text (max : Nat) where
  val : JsString
  property : isText max val = true
  deriving DecidableEq

def readText (max : Nat) : Reader (Text max)
  | .str s => if h : isText max s = true then .ok ⟨s, h⟩ else .error .invalid
  | _ => .error .invalid

def Text.json {max : Nat} (text : Text max) : JsValue := .str text.val

@[simp] theorem readBoolean_json (value : Bool) : readBoolean (.bool value) = .ok value := rfl

@[simp] theorem str_plain (s : JsString) (d : Nat) : (JsValue.str s).Plain d := .str s

@[simp] theorem bool_plain (value : Bool) (d : Nat) : (JsValue.bool value).Plain d := .bool value

@[simp] theorem Matching.plain {ok : String → Bool} (text : Matching ok) (d : Nat) :
    text.json.Plain d :=
  .str _

@[simp] theorem Matching.json_ne_null {ok : String → Bool} (text : Matching ok) :
    text.json ≠ .null := nofun

@[simp] theorem CounterFrom.plain {minimum : Nat} (n : CounterFrom minimum) (d : Nat) :
    n.json.Plain d :=
  .num n.property.2

@[simp] theorem CounterFrom.json_ne_null {minimum : Nat} (n : CounterFrom minimum) :
    n.json ≠ .null := nofun

@[simp] theorem Text.plain {max : Nat} (text : Text max) (d : Nat) : text.json.Plain d :=
  .str _

@[simp] theorem Text.json_ne_null {max : Nat} (text : Text max) : text.json ≠ .null := nofun

@[simp] theorem readText_json {max : Nat} (text : Text max) :
    readText max text.json = .ok text :=
  dif_pos text.property

def readChoice (α : Type) [Choice α] : Reader α
  | .str s =>
    match ascii s with
    | some text =>
      match (Choice.values (α := α)).find? fun a => Choice.name a = text with
      | some a => .ok a
      | none => .error .invalid
    | none => .error .invalid
  | _ => .error .invalid

def choiceJson {α : Type} [Choice α] (a : α) : JsValue := .str (js (Choice.name a))

@[simp] theorem choiceJson_plain {α : Type} [Choice α] (a : α) (d : Nat) : (choiceJson a).Plain d :=
  .str _

@[simp] theorem choiceJson_ne_null {α : Type} [Choice α] (a : α) : choiceJson a ≠ .null := nofun

@[simp] theorem readChoice_json {α : Type} [Choice α] (a : α) :
    readChoice α (choiceJson a) = .ok a := by
  have hfind : (Choice.values (α := α)).find? (fun b => Choice.name b = Choice.name a) =
      some a := by
    cases hcase : (Choice.values (α := α)).find? (fun b => Choice.name b = Choice.name a) with
    | none =>
      have := List.find?_eq_none.1 hcase a (Choice.complete a)
      simp at this
    | some b =>
      have hname : Choice.name b = Choice.name a := by simpa using List.find?_some hcase
      rw [List.inj_on_of_nodup_map Choice.distinct (List.mem_of_find?_eq_some hcase)
        (Choice.complete a) hname]
  rw [choiceJson, readChoice, ascii_js (Choice.ascii a)]
  simp only [hfind]

/-- A `choice` of one text. -/
def readConst (name : String) : Reader Unit
  | .str s => if s = js name then .ok () else .error .invalid
  | _ => .error .invalid

@[simp] theorem readConst_json (name : String) : readConst name (.str (js name)) = .ok () :=
  if_pos rfl

/-! ## Combinators -/

def readNullable {α : Type} (reader : Reader α) : Reader (Option α)
  | .null => .ok none
  | value => (reader value).map some

def nullableJson {α : Type} (json : α → JsValue) : Option α → JsValue
  | none => .null
  | some a => json a

@[simp] theorem nullableJson_plain {α : Type} {json : α → JsValue} {d : Nat}
    (h : ∀ a, (json a).Plain d) (value : Option α) : (nullableJson json value).Plain d := by
  cases value with
  | none => exact .null
  | some a => exact h a

/-- A value is read back when it is there, unless it prints as `null`. -/
@[simp] theorem readNullable_json {α : Type} {reader : Reader α} {json : α → JsValue}
    (h : ∀ a, reader (json a) = .ok a) (hnull : ∀ a, json a ≠ .null) (value : Option α) :
    readNullable reader (nullableJson json value) = .ok value := by
  cases value with
  | none => rfl
  | some a =>
    rw [nullableJson, readNullable.eq_def]
    split
    · exact absurd ‹_› (hnull a)
    · rw [h]
      rfl

/-- A list of at most `max` items. -/
structure Bounded (max : Nat) (α : Type) where
  val : List α
  property : val.length ≤ max
  deriving DecidableEq

def readItems {α : Type} (reader : Reader α) :
    (items : List JsValue) → Except Code { read : List α // read.length = items.length }
  | [] => .ok ⟨[], rfl⟩
  | item :: rest => do
    let a ← reader item
    let read ← readItems reader rest
    return ⟨a :: read.val, by simp [read.property]⟩

def readList {α : Type} (reader : Reader α) (max : Nat) : Reader (Bounded max α)
  | .arr items =>
    if h : items.length ≤ max then
      (readItems reader items).map fun read => ⟨read.val, read.property.trans_le h⟩
    else .error .invalid
  | _ => .error .invalid

def Bounded.json {max : Nat} {α : Type} (json : α → JsValue) (items : Bounded max α) : JsValue :=
  .arr (items.val.map json)

@[simp] theorem Bounded.plain {max : Nat} {α : Type} {json : α → JsValue} {d : Nat}
    (h : ∀ a, (json a).Plain d) (items : Bounded max α) : (items.json json).Plain (d + 1) := by
  refine .arr fun item hitem => ?_
  obtain ⟨a, -, rfl⟩ := List.mem_map.1 hitem
  exact h a

theorem readItems_json {α : Type} {reader : Reader α} {json : α → JsValue}
    (h : ∀ a, reader (json a) = .ok a) (items : List α) :
    ∃ hlength, readItems reader (items.map json) = .ok ⟨items, hlength⟩ := by
  induction items with
  | nil => exact ⟨rfl, rfl⟩
  | cons a rest ih =>
    obtain ⟨hlength, hrest⟩ := ih
    refine ⟨by simp, ?_⟩
    change readItems reader (json a :: rest.map json) = _
    rw [readItems, h, hrest]
    rfl

@[simp] theorem readList_json {α : Type} {reader : Reader α} {json : α → JsValue} {max : Nat}
    (h : ∀ a, reader (json a) = .ok a) (items : Bounded max α) :
    readList reader max (items.json json) = .ok items := by
  obtain ⟨hlength, hread⟩ := readItems_json h items.val
  rw [Bounded.json, readList, dif_pos (by rw [List.length_map]; exact items.property), hread]
  rfl

/-! ## Objects -/

def field (fields : List (JsString × JsValue)) (key : String) : JsValue :=
  match fields.find? fun f => f.1 = js key with
  | some f => f.2
  | none => .null

local instance lawful_jsString : LawfulBEq JsString := inferInstance

/-- The values of an object that has exactly these properties, in the order of the keys. -/
def exactPlain (value : JsValue) (keys : List String) : Except Code (List JsValue) :=
  match value with
  | .obj fields =>
    if fields.length = keys.length ∧ ∀ f ∈ fields, f.1 ∈ keys.map js then
      .ok (keys.map (field fields))
    else .error .invalid
  | _ => .error .invalid

/-- An object with these keys. -/
def object (keys : List String) (values : List JsValue) : JsValue :=
  .obj ((keys.map js).zip values)

theorem field_zip {keys : List String} {values : List JsValue}
    (hnodup : (keys.map js).Nodup) (hlength : keys.length = values.length) :
    keys.map (field ((keys.map js).zip values)) = values := by
  induction keys generalizing values with
  | nil =>
    rw [List.map_nil]
    exact (List.length_eq_zero_iff.1 hlength.symm).symm
  | cons key rest ih =>
    cases values with
    | nil => simp at hlength
    | cons value values =>
      rw [List.map_cons, List.nodup_cons] at hnodup
      rw [List.map_cons, List.map_cons, List.zip_cons_cons]
      have hhead : field ((js key, value) :: (rest.map js).zip values) key = value := by
        simp [field]
      have htail : ∀ k ∈ rest, field ((js key, value) :: (rest.map js).zip values) k =
          field ((rest.map js).zip values) k := by
        intro k hk
        have hne : js key ≠ js k := by
          intro heq
          exact hnodup.1 (heq ▸ List.mem_map_of_mem hk)
        simp [field, hne]
      rw [hhead, List.map_congr_left htail, ih hnodup.2 (by simpa using hlength)]

/-- A printed object gives its values back. -/
theorem exactPlain_object {keys : List String} {values : List JsValue}
    (hnames : namesOrdered (keys.map js) = true) (hlength : keys.length = values.length) :
    exactPlain (object keys values) keys = .ok values := by
  rw [object, exactPlain, if_pos, field_zip (nodup_of_namesOrdered hnames) hlength]
  refine ⟨by simp [hlength], fun f hf => ?_⟩
  exact (List.of_mem_zip hf).1

/-- A printed object has each value under its key. -/
theorem field_object {keys : List String} {values : List JsValue} {i : Nat} {key : String}
    {value : JsValue} (hnames : namesOrdered (keys.map js) = true)
    (hlength : keys.length = values.length) (hkey : keys[i]? = some key)
    (hvalue : values[i]? = some value) : field ((keys.map js).zip values) key = value := by
  have hvalues := field_zip (nodup_of_namesOrdered hnames) hlength
  rw [← hvalues, List.getElem?_map, hkey, Option.map_some, Option.some.injEq] at hvalue
  exact hvalue

theorem plain_object {keys : List String} {values : List JsValue} {d : Nat}
    (hnames : namesOrdered (keys.map js) = true) (hlength : keys.length = values.length)
    (h : ∀ value ∈ values, value.Plain d) : (object keys values).Plain (d + 1) := by
  refine .obj ?_ fun f hf => h f.2 (List.of_mem_zip hf).2
  rw [List.map_fst_zip (by rw [List.length_map]; exact hlength.le)]
  exact hnames

/-- What the keys of an object add to its size. -/
def keysSize (keys : List String) : Nat := (keys.map fun key => 6 * (js key).length + 4).sum

theorem size_object {keys : List String} {values : List JsValue}
    (hlength : keys.length = values.length) :
    (object keys values).size = keysSize keys + (values.map JsValue.size).sum + 2 := by
  suffices h : ∀ values : List JsValue, keys.length = values.length →
      sizeFields ((keys.map js).zip values) = keysSize keys + (values.map JsValue.size).sum by
    rw [object, JsValue.size, h values hlength]
  clear hlength
  induction keys with
  | nil =>
    intro values hlength
    rw [List.length_eq_zero_iff.1 hlength.symm]
    rfl
  | cons key rest ih =>
    intro values hlength
    cases values with
    | nil => simp at hlength
    | cons value values =>
      have hrest := ih values (by simpa using hlength)
      have hkeys : keysSize (key :: rest) = 6 * (js key).length + 4 + keysSize rest := rfl
      rw [List.map_cons, List.zip_cons_cons, sizeFields, hrest, hkeys, List.map_cons,
        List.sum_cons]
      omega

/-! ## Decimals and readings -/

/-- A decimal that `parseFixedV2` accepts. -/
structure Fixed where
  val : FixedDecimalV2
  property : isFixed val.value val.scale = true
  deriving DecidableEq

def fixedKeys : List String := ["scale", "value"]

def Fixed.json (fixed : Fixed) : JsValue :=
  object fixedKeys [.num fixed.val.scale, .str (js fixed.val.value)]

def readFixed : Reader Fixed := fun source => do
  let [scale, value] ← exactPlain source fixedKeys
    | .error .invalid
  let value ← readText 36 value
  let scale ← readCounterV2 0 scale
  match ascii value.val with
  | some text =>
    if h : isFixed text scale.val = true then return ⟨⟨text, scale.val⟩, h⟩
    else .error .decimalInvalid
  | none => .error .decimalInvalid

inductive ReadingReason where
  | readFailed | notApplicable | notSet | unavailable
  deriving DecidableEq, Repr

instance : Choice ReadingReason where
  name
    | .readFailed => "READ_FAILED"
    | .notApplicable => "NOT_APPLICABLE"
    | .notSet => "NOT_SET"
    | .unavailable => "UNAVAILABLE"
  values := [.readFailed, .notApplicable, .notSet, .unavailable]
  complete := by rintro ⟨⟩ <;> decide
  distinct := by decide
  ascii := by rintro ⟨⟩ <;> exact ascii_of_all (by decide)

/-- A decimal, or the reason why there is none. -/
inductive Reading where
  | known (value : Fixed)
  | missing (reason : ReadingReason)
  deriving DecidableEq

def readingKeys : List String := ["reason", "value"]

def Reading.json : Reading → JsValue
  | .known value => object readingKeys [.null, value.json]
  | .missing reason => object readingKeys [choiceJson reason, .null]

def readReading : Reader Reading := fun source => do
  let [reason, value] ← exactPlain source readingKeys
    | .error .invalid
  let value ← readNullable readFixed value
  let reason ← readNullable (readChoice ReadingReason) reason
  match value, reason with
  | some value, none => return .known value
  | none, some reason => return .missing reason
  | _, _ => .error .invalid

theorem fixedKeys_ordered : namesOrdered (fixedKeys.map js) = true := by
  decide

theorem readingKeys_ordered : namesOrdered (readingKeys.map js) = true := by
  decide

@[simp] theorem readFixed_json (fixed : Fixed) : readFixed fixed.json = .ok fixed := by
  obtain ⟨⟨value, scale⟩, hfixed⟩ := fixed
  obtain ⟨hne, hchars⟩ := fixedChar_of_isFixed hfixed
  have hascii : ∀ ch ∈ value.toList, ch.toNat < 128 := fun ch hch =>
    lt_trans (toNat_of_fixedChar (hchars ch hch)).2 (by decide)
  have hbounds : scale ≤ 16 ∧ value.toList.length ≤ 36 := by
    simp only [isFixed, Bool.and_eq_true, decide_eq_true_eq] at hfixed
    exact hfixed.1
  have htext : isText 36 (js value) = true := by
    rw [js, ofChars_of_ascii hascii]
    simp only [isText, List.length_map, List.all_map, List.all_eq_true, decide_eq_true_eq]
    refine ⟨hbounds.2, by simpa using hne, fun ch hch => ?_⟩
    have hrange := toNat_of_fixedChar (hchars ch hch)
    have hunit : ch.toNat.toUInt16.toNat = ch.toNat := by
      simp
      omega
    simp only [Function.comp_apply, hunit, decide_eq_true_eq]
    omega
  have hscale : readCounterV2 0 (.num scale) =
      .ok ⟨scale, Nat.zero_le _, hbounds.1.trans (by decide)⟩ :=
    dif_pos ⟨Nat.zero_le _, hbounds.1.trans (by decide)⟩
  have hread : readText 36 (.str (js value)) = .ok ⟨js value, htext⟩ := dif_pos htext
  rw [readFixed, Fixed.json, exactPlain_object fixedKeys_ordered rfl]
  simp only [ok_bind_eq, hread, hscale, ascii_js hascii]
  exact dif_pos hfixed

@[simp] theorem Fixed.plain (fixed : Fixed) (d : Nat) : fixed.json.Plain (d + 1) := by
  refine plain_object fixedKeys_ordered rfl ?_
  have hfixed := fixed.property
  simp only [isFixed, Bool.and_eq_true, decide_eq_true_eq] at hfixed
  have hscale : ((fixed.val.scale : Int)).natAbs ≤ maxSafeInteger := by
    rw [Int.natAbs_natCast]
    exact hfixed.1.1.trans (by decide)
  simp [Plain.num hscale]

@[simp] theorem Fixed.json_ne_null (fixed : Fixed) : fixed.json ≠ .null := nofun

@[simp] theorem readReading_json (reading : Reading) : readReading reading.json = .ok reading := by
  cases reading with
  | known value =>
    rw [readReading, Reading.json, exactPlain_object readingKeys_ordered rfl]
    have hvalue : readNullable readFixed value.json = .ok (some value) :=
      readNullable_json readFixed_json Fixed.json_ne_null (some value)
    simp only [ok_bind_eq, hvalue]
    rfl
  | missing reason =>
    rw [readReading, Reading.json, exactPlain_object readingKeys_ordered rfl]
    have hreason : readNullable (readChoice ReadingReason) (choiceJson reason) =
        .ok (some reason) :=
      readNullable_json readChoice_json choiceJson_ne_null (some reason)
    simp only [ok_bind_eq, hreason]
    rfl

@[simp] theorem Reading.plain (reading : Reading) (d : Nat) : reading.json.Plain (d + 2) := by
  cases reading with
  | known value => exact plain_object readingKeys_ordered rfl (by simp [Plain.null])
  | missing reason => exact plain_object readingKeys_ordered rfl (by simp [Plain.null])

/-! ## Documents -/

/-- `canonicalStringify`: a number that is not a safe integer has no canonical text. -/
def canonicalStringify (value : JsValue) : Except Code String :=
  if value.safe then .ok (String.ofList value.text) else .error .canonicalInvalid

theorem canonicalStringify_plain {value : JsValue} {d : Nat} (h : value.Plain d) :
    canonicalStringify value = .ok (String.ofList value.text) :=
  if_pos h.safe

/-- The value of a document; its text must be the canonical one. -/
def canonicalInput (bytes : ByteArray) (max : Nat) : Except Code JsValue := do
  failIf (bytes.size = 0) Code.invalid
  failIf (bytes.size > max) Code.tooLarge
  match String.fromUTF8? bytes with
  | none => .error .invalid
  | some raw =>
    match parse raw.toList with
    | none => .error .invalid
    | some value =>
      if value.depth ≤ 16 ∧ canonicalStringify value = .ok raw then .ok value else .error .invalid

/-- Canonical text is taken, up to its size and its depth. -/
theorem canonicalInput_text {value : JsValue} {max : Nat} (hplain : value.Plain 16)
    (hsize : value.size ≤ max) : canonicalInput (String.ofList value.text).toUTF8 max =
      .ok value := by
  have hbytes := utf8ByteSize_text value
  have hpos : 0 < (String.ofList value.text).utf8ByteSize := by
    obtain ⟨ch, tail, htext, -⟩ := text_head value
    rw [htext, utf8ByteSize_ofList_cons]
    have := Char.utf8Size_pos ch
    omega
  have hstring := fromUTF8?_toUTF8 (String.ofList value.text)
  have hcanonical := canonicalStringify_plain hplain
  rw [canonicalInput, String.toUTF8_eq_toByteArray, String.size_toByteArray]
  rw [String.toUTF8_eq_toByteArray] at hstring
  rw [failIf, if_neg (by omega), ok_bind_eq, failIf, if_neg (by omega), ok_bind_eq, hstring]
  simp only [String.toList_ofList, parse_text hplain.ordered]
  rw [if_pos ⟨hplain.depth, hcanonical⟩]

end TradeOps.Telemetry
