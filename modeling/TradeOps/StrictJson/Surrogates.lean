import TradeOps.StrictJson.Exact
import TradeOps.Canonical.Encoders

/-!
# Surrogates in what is accepted

Both checks look for the partner of a high surrogate at the next index. Behind the last code unit
`charCodeAt` is not a number and both comparisons with it are false, so a string passes exactly when
the rest of it is well formed (`wellFormed_iff`). A string of a text ends so exactly when its last
item is an escape of a high surrogate: no character of the text is a surrogate itself.
-/

namespace TradeOps.StrictJson

open Checks JsString JsValue Canonical

/-- The check of `execution-proposal-v1.ts`. -/
def hasOnlyUnicodeScalars : JsString → Bool
  | [] => true
  | [u] => isHigh u || !isLow u
  | u :: v :: rest =>
    if isHigh u then isLow v && hasOnlyUnicodeScalars rest
    else !isLow u && hasOnlyUnicodeScalars (v :: rest)

theorem hasOnlyUnicodeScalars_eq (s : JsString) :
    hasOnlyUnicodeScalars s = !hasUnpairedSurrogate s := by
  fun_induction hasUnpairedSurrogate s with
  | case1 => rfl
  | case2 u => simp [hasOnlyUnicodeScalars]
  | case3 u v rest hhigh ih => simp [hasOnlyUnicodeScalars, hhigh, ih]
  | case4 u v rest hhigh ih => simp [hasOnlyUnicodeScalars, hhigh, ih]

/-- The last code unit is a high surrogate. -/
def endsHigh (s : JsString) : Bool := s.getLast?.any isHigh

theorem not_isHigh_of_isLow {u : UInt16} (h : isLow u = true) : isHigh u = false := by
  simp only [isLow, isHigh, decide_eq_true_eq, decide_eq_false_iff_not] at *
  omega

@[simp] theorem endsHigh_singleton (u : UInt16) : endsHigh [u] = isHigh u := rfl

@[simp] theorem endsHigh_cons_cons (u v : UInt16) (s : JsString) :
    endsHigh (u :: v :: s) = endsHigh (v :: s) := by
  rw [endsHigh, List.getLast?_cons_cons, endsHigh]

/-- A string passes the check when it is well formed, up to a high surrogate at its end. -/
theorem wellFormed_iff {s : JsString} :
    wellFormed s = true ↔ hasUnpairedSurrogate s = false ∧ endsHigh s = false := by
  fun_induction hasUnpairedSurrogate s with
  | case1 => simp [wellFormed, endsHigh]
  | case2 u =>
    cases hhigh : isHigh u
    · simp [wellFormed, hhigh]
    · simp [wellFormed, hhigh]
  | case3 u v rest hhigh ih =>
    cases hlow : isLow v with
    | false => simp [wellFormed, hhigh, hlow]
    | true =>
      have hlast : endsHigh (v :: rest) = endsHigh rest := by
        cases rest with
        | nil => exact not_isHigh_of_isLow hlow
        | cons w rest => exact endsHigh_cons_cons v w rest
      simp [wellFormed, hhigh, hlow, hlast, ih]
  | case4 u v rest hhigh ih => simp [wellFormed, hhigh, ih, and_assoc]

/-! ## Texts -/

/-- The text has a string whose last item is an escape of a high surrogate. The scan is outside a
string, or inside of one whose last item so far is such an escape or not. -/
def endsInHighEscape : Option Bool → List Char → Bool
  | _, [] => false
  | none, '"' :: rest => endsInHighEscape (some false) rest
  | none, _ :: rest => endsInHighEscape none rest
  | some last, '"' :: rest => last || endsInHighEscape none rest
  | some _, '\\' :: 'u' :: a :: b :: c :: d :: rest =>
    endsInHighEscape (some ((hexUnit a b c d).any isHigh)) rest
  | some _, '\\' :: _ :: rest => endsInHighEscape (some false) rest
  | some _, _ :: rest => endsInHighEscape (some false) rest

theorem isHigh_shortEscape {ch : Char} {u : UInt16} (h : shortEscape ch = some u) :
    ch ≠ 'u' ∧ isHigh u = false := by
  unfold shortEscape at h
  split_ifs at h with h₁ h₂ h₃ h₄ h₅ h₆ h₇ h₈ <;> subst_vars <;> cases h <;> decide

/-- No character ends in a high surrogate. -/
theorem endsHigh_codeUnits (ch : Char) (s : JsString) :
    endsHigh (codeUnits ch ++ s) = endsHigh s := by
  have hlast : ∀ u : UInt16, isHigh u = false → endsHigh (u :: s) = endsHigh s := by
    intro u hu
    cases s with
    | nil => exact hu
    | cons v s => exact endsHigh_cons_cons u v s
  unfold codeUnits
  split_ifs with hch
  · apply hlast
    have hvalid : ch.toNat < 0xd800 ∨ 0xdfff < ch.toNat ∧ ch.toNat < 0x110000 := ch.valid
    have hunit : ch.toNat.toUInt16.toNat = ch.toNat := UInt16.toNat_ofNat_of_lt hch
    rw [isHigh, hunit, decide_eq_false_iff_not]
    omega
  · show endsHigh (_ :: _ :: s) = _
    rw [endsHigh_cons_cons]
    apply hlast
    have hlow : 0xdc00 + (ch.toNat - 0x10000) % 0x400 < 2 ^ 16 := by omega
    have hunit : (0xdc00 + (ch.toNat - 0x10000) % 0x400).toUInt16.toNat =
        0xdc00 + (ch.toNat - 0x10000) % 0x400 := UInt16.toNat_ofNat_of_lt hlow
    rw [isHigh, hunit, decide_eq_false_iff_not]
    omega

theorem codeUnits_ne_nil (ch : Char) : codeUnits ch ≠ [] := by
  unfold codeUnits
  split_ifs <;> exact List.cons_ne_nil _ _

/-- Scanning a string to its closing quote tells whether it ends in a high surrogate. -/
theorem endsInHighEscape_body {s : JsString} {body rest : List Char} (h : StringBody s body)
    (last : Bool) : endsInHighEscape (some last) (body ++ '"' :: rest) =
      ((if s = [] then last else endsHigh s) || endsInHighEscape none rest) := by
  have hcons : ∀ (u : UInt16) (s : JsString),
      endsHigh (u :: s) = if s = [] then isHigh u else endsHigh s := by
    intro u s
    cases s with
    | nil => rfl
    | cons v s => exact endsHigh_cons_cons u v s
  induction h generalizing last with
  | nil => rfl
  | @char s body ch hquote hslash hcontrol tail ih =>
    have hscan : endsInHighEscape (some last) (ch :: (body ++ '"' :: rest)) =
        endsInHighEscape (some false) (body ++ '"' :: rest) := by
      simp [endsInHighEscape, hslash]
    have hne : codeUnits ch ++ s ≠ [] := List.append_ne_nil_of_left_ne_nil (codeUnits_ne_nil ch) s
    rw [List.cons_append, hscan, ih, if_neg hne, endsHigh_codeUnits]
    split_ifs with hs
    · rw [hs]
      rfl
    · rfl
  | @short s body ch u hescape tail ih =>
    obtain ⟨hu, hhigh⟩ := isHigh_shortEscape hescape
    have hscan : endsInHighEscape (some last) ('\\' :: ch :: (body ++ '"' :: rest)) =
        endsInHighEscape (some false) (body ++ '"' :: rest) := by
      simp [endsInHighEscape, hu]
    rw [List.cons_append, List.cons_append, hscan, ih, if_neg (List.cons_ne_nil u s), hcons, hhigh]
  | @unicode s body a b c d u hhex tail ih =>
    simp only [List.cons_append, endsInHighEscape]
    rw [ih, hhex, if_neg (List.cons_ne_nil u s), hcons]
    rfl

/-- Outside a string a character that is no quote is passed over. -/
theorem endsInHighEscape_plain {text rest : List Char} (h : '"' ∉ text) :
    endsInHighEscape none (text ++ rest) = endsInHighEscape none rest := by
  induction text with
  | nil => rfl
  | cons ch text ih =>
    have hch : ch ≠ '"' := fun heq => h (heq ▸ List.mem_cons_self)
    have htext : '"' ∉ text := fun hmem => h (List.mem_cons_of_mem _ hmem)
    rw [List.cons_append, ← ih htext]
    simp [endsInHighEscape]

theorem endsInHighEscape_string {s : JsString} {body rest : List Char} (h : StringBody s body) :
    endsInHighEscape none ('"' :: (body ++ '"' :: rest)) =
      (endsHigh s || endsInHighEscape none rest) := by
  have hnil : (if s = [] then false else endsHigh s) = endsHigh s := by
    split_ifs with hs
    · rw [hs]
      rfl
    · rfl
  rw [endsInHighEscape, endsInHighEscape_body h, hnil]

theorem ws_no_quote {ws : List Char} (h : Ws ws) : '"' ∉ ws := by
  intro hmem
  exact absurd (h _ hmem) (by decide)

theorem digits_no_quote {digits : List Char} (h : Digits digits) : '"' ∉ digits := by
  intro hmem
  exact absurd (h _ hmem) (by decide)

theorem number_no_quote {raw : List Char} (h : IsNumber raw) : '"' ∉ raw := by
  obtain ⟨minus, integer, fraction, exponent, hminus, hinteger, hfraction, hexponent, rfl⟩ := h
  simp only [List.mem_append, not_or]
  refine ⟨⟨⟨?_, ?_⟩, ?_⟩, ?_⟩
  · rcases hminus with rfl | rfl <;> decide
  · rcases hinteger with rfl | ⟨ch, digits, hlow, -, hdigits, rfl⟩
    · decide
    · rintro (_ | ⟨_, hmem⟩)
      · exact absurd hlow (by decide)
      · exact digits_no_quote hdigits hmem
  · rcases hfraction with rfl | ⟨digits, -, hdigits, rfl⟩
    · decide
    · rintro (_ | ⟨_, hmem⟩)
      exact digits_no_quote hdigits hmem
  · rcases hexponent with rfl | ⟨ch, sign, digits, he, hsign, -, hdigits, rfl⟩
    · decide
    · rintro (_ | ⟨_, hmem⟩)
      · rcases he with he | he <;> cases he
      · rcases List.mem_append.1 hmem with hs | hd
        · rcases hsign with rfl | rfl | rfl <;> revert hs <;> decide
        · exact digits_no_quote hdigits hd

mutual

/-- The scan of a text of a value finds the strings of the value. -/
theorem endsInHighEscape_spells : ∀ (value : StrictJsonValue) (text rest : List Char),
    Spells value text → endsInHighEscape none (text ++ rest) =
      ((strings value).any endsHigh || endsInHighEscape none rest)
  | .null, text, rest, h => by
    cases h
    exact endsInHighEscape_plain (by decide)
  | .bool true, text, rest, h => by
    cases h
    exact endsInHighEscape_plain (by decide)
  | .bool false, text, rest, h => by
    cases h
    exact endsInHighEscape_plain (by decide)
  | .num token, text, rest, h => by
    obtain ⟨htoken, rfl⟩ := h
    exact endsInHighEscape_plain (number_no_quote htoken.number)
  | .str s, text, rest, h => by
    obtain ⟨body, hbody, rfl⟩ := h
    rw [List.cons_append, List.append_assoc, List.singleton_append, endsInHighEscape_string hbody]
    simp [strings, subvalues, ownStrings]
  | .arr items, text, rest, h => by
    obtain ⟨body, hbody, rfl⟩ := h
    have hitems := endsInHighEscape_items items body (']' :: rest) hbody
    rw [List.cons_append, List.append_assoc, List.singleton_append]
    have hstrings : strings (.arr items) = (subvaluesItems items).flatMap ownStrings := rfl
    rw [hstrings]
    simpa [endsInHighEscape] using hitems
  | .obj fields, text, rest, h => by
    obtain ⟨body, hbody, rfl⟩ := h
    have hfields := endsInHighEscape_fields fields body ('\x7d' :: rest) hbody
    rw [List.cons_append, List.append_assoc, List.singleton_append]
    have hstrings : strings (.obj fields) =
        fields.map Prod.fst ++ (subvaluesFields fields).flatMap ownStrings := rfl
    rw [hstrings, List.any_append, Bool.or_assoc]
    simpa [endsInHighEscape] using hfields

theorem endsInHighEscape_items : ∀ (items : List StrictJsonValue) (body rest : List Char),
    SpellsItems items body → endsInHighEscape none (body ++ rest) =
      (((subvaluesItems items).flatMap ownStrings).any endsHigh || endsInHighEscape none rest)
  | [], body, rest, h => endsInHighEscape_plain (ws_no_quote h)
  | item :: items, body, rest, h => by
    obtain ⟨before, text, after, tail, hbefore, htext, hafter, rfl, htail⟩ := h
    have hitem := endsInHighEscape_spells item text (after ++ (tail ++ rest)) htext
    have hstrings : ((subvaluesItems (item :: items)).flatMap ownStrings).any endsHigh =
        ((strings item).any endsHigh ||
          ((subvaluesItems items).flatMap ownStrings).any endsHigh) := by
      rw [subvaluesItems, List.flatMap_append, List.any_append, strings]
    simp only [List.append_assoc]
    rw [endsInHighEscape_plain (ws_no_quote hbefore), hitem, endsInHighEscape_plain
      (ws_no_quote hafter), hstrings, Bool.or_assoc]
    rcases htail with ⟨rfl, rfl⟩ | ⟨-, more, rfl, hmore⟩
    · rfl
    · rw [List.cons_append, ← endsInHighEscape_items items more rest hmore]
      simp [endsInHighEscape]

theorem endsInHighEscape_fields : ∀ (fields : List (JsString × StrictJsonValue))
    (body rest : List Char), SpellsFields fields body → endsInHighEscape none (body ++ rest) =
      ((fields.map Prod.fst).any endsHigh ||
        (((subvaluesFields fields).flatMap ownStrings).any endsHigh || endsInHighEscape none rest))
  | [], body, rest, h => endsInHighEscape_plain (ws_no_quote h)
  | (name, value) :: fields, body, rest, h => by
    obtain ⟨before, key, colon, between, text, after, tail, hbefore, hkey, hcolon, hbetween, htext,
      hafter, rfl, htail⟩ := h
    have hvalue := endsInHighEscape_spells value text (after ++ (tail ++ rest)) htext
    have hstrings : ((subvaluesFields ((name, value) :: fields)).flatMap ownStrings).any endsHigh =
        ((strings value).any endsHigh ||
          ((subvaluesFields fields).flatMap ownStrings).any endsHigh) := by
      rw [subvaluesFields, List.flatMap_append, List.any_append, strings]
    have hmiddle : ∀ more, endsInHighEscape none (':' :: more) = endsInHighEscape none more := by
      intro more
      simp [endsInHighEscape]
    have hcomma : ∀ more, endsInHighEscape none (',' :: more) = endsInHighEscape none more := by
      intro more
      simp [endsInHighEscape]
    simp only [List.append_assoc, List.cons_append]
    rw [endsInHighEscape_plain (ws_no_quote hbefore), endsInHighEscape_string hkey,
      endsInHighEscape_plain (ws_no_quote hcolon), hmiddle,
      endsInHighEscape_plain (ws_no_quote hbetween), hvalue,
      endsInHighEscape_plain (ws_no_quote hafter), hstrings, List.map_cons, List.any_cons]
    rcases htail with ⟨rfl, rfl⟩ | ⟨-, more, rfl, hmore⟩
    · simp [subvaluesFields]
    · rw [List.cons_append, hcomma, endsInHighEscape_fields fields more rest hmore]
      simp only [Bool.or_assoc, Bool.or_left_comm]

end

/-- The scan of a whole text finds the strings of its value. -/
theorem endsInHighEscape_text {value : StrictJsonValue} {source : List Char}
    (h : SpellsText value source) :
    endsInHighEscape none source = (strings value).any endsHigh := by
  obtain ⟨before, text, after, hbefore, htext, hafter, rfl⟩ := h
  have hend : endsInHighEscape none after = false := by
    have hplain : endsInHighEscape none (after ++ []) = endsInHighEscape none [] :=
      endsInHighEscape_plain (ws_no_quote hafter)
    rwa [List.append_nil] at hplain
  rw [endsInHighEscape_plain (ws_no_quote hbefore), endsInHighEscape_spells value text after htext,
    hend, Bool.or_false]

/-- For the strings of a value: none of them ends in a high surrogate exactly when all of them are
well formed, given that they pass the check. -/
theorem wellFormed_strings_iff {value : StrictJsonValue}
    (h : ∀ s ∈ strings value, hasUnpairedSurrogate s = false) :
    (∀ s ∈ strings value, wellFormed s = true) ↔ (strings value).any endsHigh = false := by
  rw [List.any_eq_false]
  constructor
  · intro hwell s hs
    rw [Bool.not_eq_true]
    exact (wellFormed_iff.1 (hwell s hs)).2
  · intro hlast s hs
    have hends := hlast s hs
    rw [Bool.not_eq_true] at hends
    exact wellFormed_iff.2 ⟨h s hs, hends⟩

/-! ## The parsers -/

/-- What is accepted is the UTF-8 of a text of the value that is returned, which is the only value
of the text, within the limits, and parsing ends on every input. A text of a value none of whose
strings ends in a high surrogate is accepted exactly when the value is within the limits and its
strings are well formed. -/
theorem parseStrictJson_exact (bytes : ByteArray) :
    parseStrictJson bytes ≠ .error .outOfFuel ∧
    (∀ value, parseStrictJson bytes = .ok value → Denotes bytes value ∧ Limits value ∧
      ∀ other, Denotes bytes other → other = value) ∧
    ∀ value, Denotes bytes value → (∀ s ∈ strings value, endsHigh s = false) →
      (parseStrictJson bytes = .ok value ↔
        Limits value ∧ ∀ s ∈ strings value, wellFormed s = true) := by
  refine ⟨parseStrictJson_terminates bytes, ?_, ?_⟩
  · intro value hvalue
    obtain ⟨hdenotes, hlimits, -⟩ := parseStrictJson_ok_iff.1 hvalue
    exact ⟨hdenotes, hlimits, fun other hother => denotes_unique hother hdenotes⟩
  · intro value hdenotes hlast
    rw [parseStrictJson_ok_iff]
    constructor
    · rintro ⟨-, hlimits, hpaired⟩
      exact ⟨hlimits, fun s hs => wellFormed_iff.2 ⟨hpaired s hs, hlast s hs⟩⟩
    · rintro ⟨hlimits, hwell⟩
      exact ⟨hdenotes, hlimits, fun s hs => (wellFormed_iff.1 (hwell s hs)).1⟩

/-- The text `"\ud83d\ude00"`, of a surrogate pair. -/
def surrogatePair : List Char :=
  ['"', '\\', 'u', 'd', '8', '3', 'd', '\\', 'u', 'd', 'e', '0', '0', '"']

theorem surrogatePair_denotes :
    Denotes (utf8 surrogatePair) (.str [0xd83d, 0xde00]) ∧ Limits (.str [0xd83d, 0xde00]) := by
  refine ⟨⟨surrogatePair, ⟨[], surrogatePair, [], nofun, ?_, nofun, rfl⟩, Or.inl rfl⟩,
    by decide, by decide, ?_⟩
  · exact ⟨surrogatePair.tail.dropLast, .unicode (by decide) (.unicode (by decide) .nil), rfl⟩
  · intro inner hinner
    rw [List.mem_singleton.1 hinner]
    exact trivial

theorem surrogatePair_accepted :
    parseStrictJson (utf8 surrogatePair) = .ok (.str [0xd83d, 0xde00]) := by
  obtain ⟨hdenotes, hlimits⟩ := surrogatePair_denotes
  exact ((parseStrictJson_exact _).2.2 _ hdenotes (by decide)).2 ⟨hlimits, by decide⟩

/-- The text `"\udc00"`, of a string that is a low surrogate. -/
def lowSurrogate : List Char := ['"', '\\', 'u', 'd', 'c', '0', '0', '"']

/-- It is within the limits, and refused. -/
theorem lowSurrogate_refused :
    Denotes (utf8 lowSurrogate) (.str [0xdc00]) ∧ Limits (.str [0xdc00]) ∧
      ∀ value, parseStrictJson (utf8 lowSurrogate) ≠ .ok value := by
  have hdenotes : Denotes (utf8 lowSurrogate) (.str [0xdc00]) := by
    refine ⟨lowSurrogate, ⟨[], lowSurrogate, [], nofun, ?_, nofun, rfl⟩, Or.inl rfl⟩
    exact ⟨['\\', 'u', 'd', 'c', '0', '0'], .unicode (by decide) .nil, rfl⟩
  refine ⟨hdenotes, ⟨by decide, by decide, ?_⟩, ?_⟩
  · intro inner hinner
    rw [List.mem_singleton.1 hinner]
    exact trivial
  · intro value hvalue
    obtain ⟨hother, -, hpaired⟩ := parseStrictJson_ok_iff.1 hvalue
    rw [denotes_unique hother hdenotes] at hpaired
    exact absurd (hpaired [0xdc00] List.mem_cons_self) (by decide)

/-- A string of an accepted text is ill formed exactly when the text has a string that ends in an
escape of a high surrogate, and a string that the other check accepts exactly when it ends in a high
surrogate. -/
theorem accepted_strings_wellFormed_iff (bytes : ByteArray) (s : JsString) :
    (∀ source value, decode bytes = some source → parseStrictJson bytes = .ok value →
      ((∀ s ∈ strings value, wellFormed s = true) ↔ endsInHighEscape none source = false)) ∧
    (hasOnlyUnicodeScalars s = true → (wellFormed s = true ↔ endsHigh s = false)) := by
  constructor
  · intro source value hdecode hvalue
    obtain ⟨-, -, hpaired⟩ := parseStrictJson_ok_iff.1 hvalue
    rw [parseStrictJson, hdecode] at hvalue
    rw [endsInHighEscape_text (parse_ok_iff.1 hvalue).1]
    exact wellFormed_strings_iff hpaired
  · intro hs
    rw [hasOnlyUnicodeScalars_eq, Bool.not_eq_true'] at hs
    rw [wellFormed_iff]
    exact and_iff_right hs

theorem surrogatePair_wellFormed :
    (∀ s ∈ strings (.str [0xd83d, 0xde00]), wellFormed s = true) ∧
      wellFormed [0xd83d, 0xde00] = true := by
  obtain ⟨hdenotes, hlimits⟩ := surrogatePair_denotes
  have hparsed := parseStrictJson_ok_iff.2 ⟨hdenotes, hlimits, by decide⟩
  have hdecode : decode (utf8 surrogatePair) = some surrogatePair :=
    decode_eq_some_iff.2 (Or.inr ⟨by decide, rfl⟩)
  obtain ⟨hparsers, hscalars⟩ :=
    accepted_strings_wellFormed_iff (utf8 surrogatePair) [0xd83d, 0xde00]
  exact ⟨(hparsers _ _ hdecode hparsed).2 (by decide), (hscalars (by decide)).2 (by decide)⟩

/-- The text `"\ud800"`, of a string that is a high surrogate. -/
def highSurrogate : List Char := ['"', '\\', 'u', 'd', '8', '0', '0', '"']

/-- Both checks accept it. -/
theorem highSurrogate_accepted :
    parseStrictJson (utf8 highSurrogate) = .ok (.str [0xd800]) ∧
      hasOnlyUnicodeScalars [0xd800] = true ∧ [0xd800] ∈ strings (.str [0xd800]) ∧
      wellFormed [0xd800] = false := by
  refine ⟨parseStrictJson_ok_iff.2 ⟨?_, ⟨by decide, by decide, ?_⟩, ?_⟩, by decide, by decide,
    by decide⟩
  · refine ⟨highSurrogate, ⟨[], highSurrogate, [], nofun, ?_, nofun, rfl⟩, Or.inl rfl⟩
    exact ⟨['\\', 'u', 'd', '8', '0', '0'], .unicode (by decide) .nil, rfl⟩
  · intro inner hinner
    rw [List.mem_singleton.1 hinner]
    exact trivial
  · decide

end TradeOps.StrictJson
