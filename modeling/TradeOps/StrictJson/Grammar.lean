import TradeOps.StrictJson.Parser

/-!
# The grammar of strict JSON texts

Which texts spell a value, by recursion on the value: the productions of the JSON grammar, with the
white space that they allow. A number spells itself, so its token is kept; it has a value only when
that is finite. The two scanners of the parser read exactly the tokens of the grammar
(`parseStringToken_ok_iff`, `scanNumber_append`).
-/

namespace TradeOps.StrictJson

open Checks JsString JsValue

/-! ## Tokens -/

/-- White space. -/
def Ws (text : List Char) : Prop := ∀ ch ∈ text, isSpace ch = true

/-- The characters of a string between its quotes. -/
inductive StringBody : JsString → List Char → Prop
  | nil : StringBody [] []
  | char {s : JsString} {body : List Char} {ch : Char} (hquote : ch ≠ '"') (hslash : ch ≠ '\\')
    (hcontrol : 0x20 ≤ ch.toNat) (tail : StringBody s body) :
    StringBody (codeUnits ch ++ s) (ch :: body)
  | short {s : JsString} {body : List Char} {ch : Char} {u : UInt16}
    (hescape : shortEscape ch = some u) (tail : StringBody s body) :
    StringBody (u :: s) ('\\' :: ch :: body)
  | unicode {s : JsString} {body : List Char} {a b c d : Char} {u : UInt16}
    (hhex : hexUnit a b c d = some u) (tail : StringBody s body) :
    StringBody (u :: s) ('\\' :: 'u' :: a :: b :: c :: d :: body)

def Digits (text : List Char) : Prop := ∀ ch ∈ text, ch.isDigit = true

def IsInteger (text : List Char) : Prop :=
  text = ['0'] ∨ ∃ ch digits, '1' ≤ ch ∧ ch ≤ '9' ∧ Digits digits ∧ text = ch :: digits

def IsFraction (text : List Char) : Prop :=
  text = [] ∨ ∃ digits, digits ≠ [] ∧ Digits digits ∧ text = '.' :: digits

def IsExponent (text : List Char) : Prop :=
  text = [] ∨ ∃ ch sign digits, (ch = 'e' ∨ ch = 'E') ∧ (sign = [] ∨ sign = ['+'] ∨ sign = ['-']) ∧
    digits ≠ [] ∧ Digits digits ∧ text = ch :: (sign ++ digits)

/-- The number production. -/
def IsNumber (text : List Char) : Prop :=
  ∃ minus integer fraction exponent, (minus = [] ∨ minus = ['-']) ∧ IsInteger integer ∧
    IsFraction fraction ∧ IsExponent exponent ∧ text = minus ++ integer ++ fraction ++ exponent

/-- A token that records a number production and its finite value. -/
structure IsToken (token : StrictJsonNumber) : Prop where
  number : IsNumber token.raw
  value_eq : numberOf token.raw = some token.value
  isIntegerToken_eq : token.isIntegerToken = isIntegerToken token.raw

/-! ## Values -/

mutual

/-- The text is one of the value. -/
def Spells : StrictJsonValue → List Char → Prop
  | .null, text => text = "null".toList
  | .bool true, text => text = "true".toList
  | .bool false, text => text = "false".toList
  | .str s, text => ∃ body, StringBody s body ∧ text = '"' :: (body ++ ['"'])
  | .num token, text => IsToken token ∧ text = token.raw
  | .arr items, text => ∃ body, SpellsItems items body ∧ text = '[' :: (body ++ [']'])
  | .obj fields, text => ∃ body, SpellsFields fields body ∧ text = '\x7b' :: (body ++ ['\x7d'])

/-- The text between the brackets of an array. -/
def SpellsItems : List StrictJsonValue → List Char → Prop
  | [], body => Ws body
  | item :: rest, body => ∃ before text after tail, Ws before ∧ Spells item text ∧ Ws after ∧
      body = before ++ (text ++ (after ++ tail)) ∧
      (rest = [] ∧ tail = [] ∨ rest ≠ [] ∧ ∃ more, tail = ',' :: more ∧ SpellsItems rest more)

/-- The text between the braces of an object. -/
def SpellsFields : List (JsString × StrictJsonValue) → List Char → Prop
  | [], body => Ws body
  | (name, value) :: rest, body => ∃ before key colon between text after tail, Ws before ∧
      StringBody name key ∧ Ws colon ∧ Ws between ∧ Spells value text ∧ Ws after ∧
      body = before ++ ('"' :: (key ++ ('"' :: (colon ++ (':' :: (between ++
        (text ++ (after ++ tail)))))))) ∧
      (rest = [] ∧ tail = [] ∨ rest ≠ [] ∧ ∃ more, tail = ',' :: more ∧ SpellsFields rest more)

end

/-- A whole text. -/
def SpellsText (value : StrictJsonValue) (source : List Char) : Prop :=
  ∃ before text after, Ws before ∧ Spells value text ∧ Ws after ∧
    source = before ++ (text ++ after)

mutual

/-- How many containers there are around the deepest value. -/
def depth : StrictJsonValue → Nat
  | .arr items => depthItems items
  | .obj fields => depthFields fields
  | _ => 0

def depthItems : List StrictJsonValue → Nat
  | [] => 0
  | item :: rest => max (depth item + 1) (depthItems rest)

def depthFields : List (JsString × StrictJsonValue) → Nat
  | [] => 0
  | (_, value) :: rest => max (depth value + 1) (depthFields rest)

end

mutual

/-- A value and all the values inside it. -/
def subvalues : StrictJsonValue → List StrictJsonValue
  | .arr items => .arr items :: subvaluesItems items
  | .obj fields => .obj fields :: subvaluesFields fields
  | leaf => [leaf]

def subvaluesItems : List StrictJsonValue → List StrictJsonValue
  | [] => []
  | item :: rest => subvalues item ++ subvaluesItems rest

def subvaluesFields : List (JsString × StrictJsonValue) → List StrictJsonValue
  | [] => []
  | (_, value) :: rest => subvalues value ++ subvaluesFields rest

end

/-- The strings of a value itself: its own text, or its keys. -/
def ownStrings : StrictJsonValue → List JsString
  | .str s => [s]
  | .obj fields => fields.map Prod.fst
  | _ => []

/-- Every string and every key in a value. -/
def strings (value : StrictJsonValue) : List JsString := (subvalues value).flatMap ownStrings

/-- No key is repeated and an integer token is safe. -/
def OwnLimits : StrictJsonValue → Prop
  | .num token => token.isIntegerToken = true → isSafeInteger token.value = true
  | .obj fields => (fields.map Prod.fst).Nodup
  | _ => True

/-- The budgets of the parser, and what holds of every value inside. -/
structure Limits (value : StrictJsonValue) : Prop where
  depth : depth value ≤ maxDepth
  nodes : (subvalues value).length ≤ maxNodes
  own : ∀ inner ∈ subvalues value, OwnLimits inner

/-! ## Strings -/

/-- A string is read to the quote that closes it. -/
theorem parseString_ok_iff {input rest : List Char} {s : JsString} :
    JsValue.parseString input = some (s, rest) ↔
      ∃ body, StringBody s body ∧ input = body ++ '"' :: rest := by
  constructor
  · intro h
    fun_induction JsValue.parseString input generalizing s rest with
    | case1 => cases h
    | case2 rest' =>
      cases h
      exact ⟨[], .nil, rfl⟩
    | case3 a b c d rest' ih =>
      simp only [Option.bind_eq_bind, Option.bind_eq_some_iff, Option.pure_def,
        Option.some.injEq, Prod.mk.injEq, Prod.exists] at h
      obtain ⟨u, hu, s', rest'', hs, rfl, rfl⟩ := h
      obtain ⟨body, hbody, rfl⟩ := ih hs
      exact ⟨_, .unicode hu hbody, rfl⟩
    | case4 ch rest' hne ih =>
      simp only [Option.bind_eq_bind, Option.bind_eq_some_iff, Option.pure_def,
        Option.some.injEq, Prod.mk.injEq, Prod.exists] at h
      obtain ⟨u, hu, s', rest'', hs, rfl, rfl⟩ := h
      obtain ⟨body, hbody, rfl⟩ := ih hs
      exact ⟨_, .short hu hbody, rfl⟩
    | case5 => cases h
    | case6 ch rest' hquote hunicode hslash hcontrol ih =>
      simp only [Option.bind_eq_bind, Option.bind_eq_some_iff, Option.pure_def,
        Option.some.injEq, Prod.mk.injEq, Prod.exists] at h
      obtain ⟨s', rest'', hs, rfl, rfl⟩ := h
      obtain ⟨body, hbody, rfl⟩ := ih hs
      have hne : ch ≠ '\\' := by
        rintro rfl
        cases body with
        | nil => exact hslash _ _ rfl rfl
        | cons next body => exact hslash _ _ rfl rfl
      exact ⟨_, .char hquote hne (Nat.le_of_not_lt hcontrol) hbody, rfl⟩
  · rintro ⟨body, hbody, rfl⟩
    induction hbody with
    | nil => rfl
    | char hquote hslash hcontrol tail ih =>
      rw [List.cons_append, parseString_char hquote hslash hcontrol, ih]
      rfl
    | @short s body ch u hescape tail ih =>
      have hu : ch ≠ 'u' := by
        rintro rfl
        cases hescape
      rw [List.cons_append, List.cons_append, parseString_shortEscape hu hescape, ih]
      rfl
    | unicode hhex tail ih =>
      simp only [List.cons_append, JsValue.parseString, hhex, ih]
      rfl

theorem scanString_plain {ch : Char} {rest : List Char} (hquote : ch ≠ '"') (hslash : ch ≠ '\\')
    (hcontrol : 0x20 ≤ ch.toNat) : scanString false (ch :: rest) =
      (scanString false rest).map fun p => (ch :: p.1, p.2) := by
  simp [scanString, hquote, hslash, Nat.not_lt.2 hcontrol]

/-- A hexadecimal digit is no delimiter of a string. -/
theorem hexValue_plain {ch : Char} {n : Nat} (h : hexValue ch = some n) :
    ch ≠ '"' ∧ ch ≠ '\\' ∧ 0x20 ≤ ch.toNat := by
  have hdigit : '0' ≤ ch ∧ ch ≤ '9' ∨ 'a' ≤ ch ∧ ch ≤ 'f' ∨ 'A' ≤ ch ∧ ch ≤ 'F' := by
    unfold hexValue at h
    split_ifs at h with h₁ h₂ h₃
    · exact Or.inl h₁
    · exact Or.inr (Or.inl h₂)
    · exact Or.inr (Or.inr h₃)
  have hrange : 48 ≤ ch.toNat := by
    rcases hdigit with ⟨hlow, -⟩ | ⟨hlow, -⟩ | ⟨hlow, -⟩
    · exact hlow
    · exact le_trans (by decide) (show 97 ≤ ch.toNat from hlow)
    · exact le_trans (by decide) (show 65 ≤ ch.toNat from hlow)
  refine ⟨?_, ?_, by omega⟩
  · rintro rfl
    exact absurd hrange (by decide)
  · rintro rfl
    exact absurd hdigit (by decide)

theorem hexUnit_plain {a b c d : Char} {u : UInt16} (h : hexUnit a b c d = some u) :
    ∀ ch ∈ [a, b, c, d], ch ≠ '"' ∧ ch ≠ '\\' ∧ 0x20 ≤ ch.toNat := by
  simp only [hexUnit, Option.bind_eq_bind, Option.bind_eq_some_iff] at h
  obtain ⟨na, ha, nb, hb, nc, hc, nd, hd, -⟩ := h
  simp only [List.forall_mem_cons, List.not_mem_nil, false_implies, implies_true, and_true]
  exact ⟨hexValue_plain ha, hexValue_plain hb, hexValue_plain hc, hexValue_plain hd⟩

/-- Scanning stops at the quote that closes the string. -/
theorem scanString_body {s : JsString} {body : List Char} (h : StringBody s body)
    (rest : List Char) : scanString false (body ++ '"' :: rest) = some (body ++ ['"'], rest) := by
  induction h with
  | nil => rfl
  | char hquote hslash hcontrol tail ih =>
    rw [List.cons_append, scanString_plain hquote hslash hcontrol, ih]
    rfl
  | short hescape tail ih => simp [scanString, ih]
  | @unicode s body a b c d u hhex tail ih =>
    have hplain := hexUnit_plain hhex
    simp only [List.forall_mem_cons, List.not_mem_nil, false_implies, implies_true,
      and_true] at hplain
    obtain ⟨ha, hb, hc, hd⟩ := hplain
    have hescape : scanString false ('\\' :: 'u' :: (a :: b :: c :: d :: body ++ '"' :: rest)) =
        (scanString false (a :: b :: c :: d :: body ++ '"' :: rest)).map
          fun p => ('\\' :: 'u' :: p.1, p.2) := by
      simp [scanString]
      rfl
    simp only [List.cons_append] at hescape ⊢
    rw [hescape, scanString_plain ha.1 ha.2.1 ha.2.2, scanString_plain hb.1 hb.2.1 hb.2.2,
      scanString_plain hc.1 hc.2.1 hc.2.2, scanString_plain hd.1 hd.2.1 hd.2.2, ih]
    rfl

/-- What is scanned is followed by what is left. -/
theorem scanString_append {escaped : Bool} {input token rest : List Char}
    (h : scanString escaped input = some (token, rest)) : input = token ++ rest := by
  induction input generalizing escaped token with
  | nil => cases h
  | cons ch input ih =>
    rw [scanString] at h
    split_ifs at h with hcontrol hquote
    · cases h
      rw [hquote.2]
      rfl
    · obtain ⟨⟨token', rest'⟩, hscan, heq⟩ := Option.map_eq_some_iff.1 h
      cases heq
      rw [ih hscan]
      rfl

/-- A string token of the text is one of the grammar without an unpaired surrogate. -/
theorem parseStringToken_ok_iff {input rest : List Char} {s : JsString} :
    parseStringToken input = .ok (s, rest) ↔ hasUnpairedSurrogate s = false ∧
      ∃ body, StringBody s body ∧ input = body ++ '"' :: rest := by
  unfold parseStringToken
  constructor
  · intro h
    split at h
    · cases h
    · rename_i token rest' hscan
      split at h
      · rename_i decoded hparse
        rw [then_ok_iff, failIf_ok_iff, pure_ok_iff, Bool.not_eq_true, Prod.mk.injEq] at h
        obtain ⟨hpaired, rfl, rfl⟩ := h
        obtain ⟨body, hbody, rfl⟩ := parseString_ok_iff.1 hparse
        refine ⟨hpaired, body, hbody, ?_⟩
        rw [scanString_append hscan, List.append_assoc]
        rfl
      · cases h
  · rintro ⟨hpaired, body, hbody, rfl⟩
    have hparse : JsValue.parseString (body ++ ['"']) = some (s, []) :=
      parseString_ok_iff.2 ⟨body, hbody, rfl⟩
    simp only [scanString_body hbody, hparse, hpaired]
    rfl

/-! ## Numbers -/

/-- The first character is not of a kind. -/
def Starts (kind : Char → Bool) (text : List Char) : Prop := ∀ ch ∈ text.head?, kind ch = false

theorem starts_append {kind : Char → Bool} {text rest : List Char}
    (htext : Starts kind text) (hrest : text = [] → Starts kind rest) :
    Starts kind (text ++ rest) := by
  cases text with
  | nil => exact hrest rfl
  | cons ch text => exact htext

/-- Digits are taken up to what follows them. -/
theorem digits_split {digits rest : List Char} (h : Digits digits)
    (hrest : Starts Char.isDigit rest) :
    (digits ++ rest).takeWhile Char.isDigit = digits ∧
      (digits ++ rest).dropWhile Char.isDigit = rest := by
  have htake : rest.takeWhile Char.isDigit = [] := by
    cases rest with
    | nil => rfl
    | cons ch rest => exact List.takeWhile_cons_of_neg (by simpa using hrest ch rfl)
  have hdrop : rest.dropWhile Char.isDigit = rest := by
    cases rest with
    | nil => rfl
    | cons ch rest => exact List.dropWhile_cons_of_neg (by simpa using hrest ch rfl)
  rw [List.takeWhile_append_of_pos h, List.dropWhile_append_of_pos h, htake, hdrop]
  exact ⟨List.append_nil digits, rfl⟩

theorem digits_takeWhile (text : List Char) : Digits (text.takeWhile Char.isDigit) :=
  List.all_eq_true.1 List.all_takeWhile

/-! ### What is scanned is a number -/

theorem scanMinus_sound (input : List Char) :
    ((scanMinus input).1 = [] ∨ (scanMinus input).1 = ['-']) ∧
      input = (scanMinus input).1 ++ (scanMinus input).2 := by
  unfold scanMinus
  split
  · exact ⟨Or.inr rfl, rfl⟩
  · exact ⟨Or.inl rfl, rfl⟩

theorem scanInteger_sound {input integer rest : List Char}
    (h : scanInteger input = some (integer, rest)) :
    IsInteger integer ∧ input = integer ++ rest := by
  unfold scanInteger at h
  split at h
  · cases h
    exact ⟨Or.inl rfl, rfl⟩
  · rename_i ch rest' hzero
    split_ifs at h with hdigit
    cases h
    refine ⟨Or.inr ⟨ch, _, hdigit.1, hdigit.2, digits_takeWhile rest', rfl⟩, ?_⟩
    rw [List.cons_append, List.takeWhile_append_dropWhile]
  · cases h

theorem scanFraction_sound (input : List Char) : IsFraction (scanFraction input).1 ∧
    input = (scanFraction input).1 ++ (scanFraction input).2 := by
  unfold scanFraction
  split
  · rename_i rest
    split_ifs with hnone
    · exact ⟨Or.inl rfl, rfl⟩
    · refine ⟨Or.inr ⟨_, hnone, digits_takeWhile rest, rfl⟩, ?_⟩
      rw [List.cons_append, List.takeWhile_append_dropWhile]
  · exact ⟨Or.inl rfl, rfl⟩

theorem scanSign_sound (input : List Char) :
    ((scanSign input).1 = [] ∨ (scanSign input).1 = ['+'] ∨ (scanSign input).1 = ['-']) ∧
      input = (scanSign input).1 ++ (scanSign input).2 := by
  unfold scanSign
  split
  · exact ⟨Or.inr (Or.inl rfl), rfl⟩
  · exact ⟨Or.inr (Or.inr rfl), rfl⟩
  · exact ⟨Or.inl rfl, rfl⟩

theorem scanExponent_sound (input : List Char) : IsExponent (scanExponent input).1 ∧
    input = (scanExponent input).1 ++ (scanExponent input).2 := by
  unfold scanExponent
  split
  · exact ⟨Or.inl rfl, rfl⟩
  · rename_i ch rest
    obtain ⟨hsign, hrest⟩ := scanSign_sound rest
    split_ifs with he
    · dsimp only
      split_ifs with hnone
      · exact ⟨Or.inl rfl, rfl⟩
      · refine ⟨Or.inr ⟨ch, _, _, he, hsign, hnone, digits_takeWhile _, rfl⟩, ?_⟩
        show ch :: rest = ch :: ((scanSign rest).1 ++ _ ++ _)
        rw [List.append_assoc, List.takeWhile_append_dropWhile, ← hrest]
    · exact ⟨Or.inl rfl, rfl⟩

theorem scanNumber_sound {input raw rest : List Char} (h : scanNumber input = some (raw, rest)) :
    IsNumber raw ∧ input = raw ++ rest := by
  simp only [scanNumber, Option.bind_eq_bind, Option.bind_eq_some_iff, Option.pure_def,
    Option.some.injEq, Prod.mk.injEq, Prod.exists] at h
  obtain ⟨integer, rest₁, hint, rfl, rfl⟩ := h
  obtain ⟨hminus, hinput⟩ := scanMinus_sound input
  obtain ⟨hinteger, hrest⟩ := scanInteger_sound hint
  obtain ⟨hfraction, hrest₁⟩ := scanFraction_sound rest₁
  obtain ⟨hexponent, hrest₂⟩ := scanExponent_sound (scanFraction rest₁).2
  refine ⟨⟨_, _, _, _, hminus, hinteger, hfraction, hexponent, rfl⟩, ?_⟩
  rw [List.append_assoc, ← hrest₂, List.append_assoc, ← hrest₁, List.append_assoc, ← hrest,
    ← hinput]

/-! ### A number is scanned to its end -/

/-- A token ends where the text does, or at a delimiter. -/
def Ends (rest : List Char) : Prop := ∀ ch ∈ rest.head?, endsToken ch = true

theorem isDigit_of_range {ch : Char} (h : '1' ≤ ch ∧ ch ≤ '9') : ch.isDigit = true := by
  have hlow : 49 ≤ ch.toNat := h.1
  have hhigh : ch.toNat ≤ 57 := h.2
  simp only [Char.isDigit, Bool.and_eq_true, decide_eq_true_eq]
  exact ⟨le_trans (show 48 ≤ 49 by decide) hlow, hhigh⟩

theorem scanMinus_append {minus rest : List Char} (h : minus = [] ∨ minus = ['-'])
    (hrest : Starts (· = '-') rest) : scanMinus (minus ++ rest) = (minus, rest) := by
  rcases h with rfl | rfl
  · cases rest with
    | nil => rfl
    | cons ch rest =>
      have hne : ch ≠ '-' := by simpa using hrest ch rfl
      unfold scanMinus
      split
      · rename_i heq
        exact absurd (List.cons.inj heq).1 hne
      · rfl
  · rfl

theorem scanInteger_append {integer rest : List Char} (h : IsInteger integer)
    (hrest : Starts Char.isDigit rest) :
    scanInteger (integer ++ rest) = some (integer, rest) := by
  rcases h with rfl | ⟨ch, digits, hlow, hhigh, hdigits, rfl⟩
  · rfl
  · obtain ⟨htake, hdrop⟩ := digits_split hdigits hrest
    have hne : ch ≠ '0' := by
      rintro rfl
      exact absurd hlow (by decide)
    rw [List.cons_append, scanInteger.eq_def]
    split
    · rename_i heq
      exact absurd (List.cons.inj heq).1 hne
    · rename_i ch' rest' heq
      cases heq
      rw [if_pos ⟨hlow, hhigh⟩, htake, hdrop]
    · rename_i heq
      cases heq

theorem scanFraction_append {fraction rest : List Char} (h : IsFraction fraction)
    (hrest : Starts (fun ch => ch.isDigit || ch = '.') rest) :
    scanFraction (fraction ++ rest) = (fraction, rest) := by
  rcases h with rfl | ⟨digits, hne, hdigits, rfl⟩
  · rw [List.nil_append]
    unfold scanFraction
    split
    · have hdot := hrest '.' rfl
      simp at hdot
    · rfl
  · have hdigit : Starts Char.isDigit rest :=
      fun ch hch => (Bool.or_eq_false_iff.1 (hrest ch hch)).1
    obtain ⟨htake, hdrop⟩ := digits_split hdigits hdigit
    simp only [scanFraction, List.cons_append, htake, hdrop, if_neg hne]

theorem scanSign_append {sign digits : List Char} (h : sign = [] ∨ sign = ['+'] ∨ sign = ['-'])
    (hdigits : Starts (fun ch => ch = '+' || ch = '-') digits) :
    scanSign (sign ++ digits) = (sign, digits) := by
  rcases h with rfl | rfl | rfl
  · rw [List.nil_append]
    unfold scanSign
    split
    · have hplus := hdigits '+' rfl
      simp at hplus
    · have hminus := hdigits '-' rfl
      simp at hminus
    · rfl
  · rfl
  · rfl

theorem scanExponent_append {exponent rest : List Char} (h : IsExponent exponent)
    (hrest : Starts (fun ch => ch.isDigit || ch = 'e' || ch = 'E') rest) :
    scanExponent (exponent ++ rest) = (exponent, rest) := by
  rcases h with rfl | ⟨ch, sign, digits, he, hsign, hne, hdigits, rfl⟩
  · rw [List.nil_append]
    cases rest with
    | nil => rfl
    | cons ch rest =>
      have hch := hrest ch rfl
      simp only [Bool.or_eq_false_iff, decide_eq_false_iff_not] at hch
      simp [scanExponent, hch.1.2, hch.2]
  · have hdigit : Starts Char.isDigit rest := by
      intro ch hch
      have hkind := hrest ch hch
      simp only [Bool.or_eq_false_iff] at hkind
      exact hkind.1.1
    obtain ⟨htake, hdrop⟩ := digits_split hdigits hdigit
    have hstart : Starts (fun ch => ch = '+' || ch = '-') (digits ++ rest) := by
      cases digits with
      | nil => exact absurd rfl hne
      | cons d digits =>
        rintro _ ⟨⟩
        have hd := hdigits d List.mem_cons_self
        by_contra hkind
        simp only [Bool.not_eq_false, Bool.or_eq_true, decide_eq_true_eq] at hkind
        rcases hkind with rfl | rfl
        · exact absurd hd (by decide)
        · exact absurd hd (by decide)
    rw [List.cons_append, List.append_assoc]
    simp only [scanExponent, if_pos he, scanSign_append hsign hstart, htake, hdrop, if_neg hne]
    rfl

theorem Ends.starts {kind : Char → Bool} {rest : List Char} (h : Ends rest)
    (hkind : ∀ ch, endsToken ch = true → kind ch = false) : Starts kind rest :=
  fun ch hch => hkind ch (h ch hch)

theorem endsToken_cases {ch : Char} (h : endsToken ch = true) :
    ch ∈ [',', ']', '\x7d', ' ', '\t', '\n', '\r'] := by
  simp only [endsToken, isSpace, decide_eq_true_eq] at h
  simp only [List.mem_cons, List.not_mem_nil, or_false]
  tauto

theorem scanNumber_append {raw rest : List Char} (h : IsNumber raw) (hrest : Ends rest) :
    scanNumber (raw ++ rest) = some (raw, rest) := by
  obtain ⟨minus, integer, fraction, exponent, hminus, hinteger, hfraction, hexponent, rfl⟩ := h
  have hdelimiter : ∀ kind : Char → Bool,
      [',', ']', '\x7d', ' ', '\t', '\n', '\r'].any kind = false → Starts kind rest := by
    intro kind hkind
    refine hrest.starts fun ch hch => ?_
    simpa using List.any_eq_false.1 hkind ch (endsToken_cases hch)
  have hstart₂ : Starts (fun ch => ch.isDigit || ch = '.') (exponent ++ rest) := by
    apply starts_append
    · rcases hexponent with rfl | ⟨ch, sign, digits, he, -, -, -, rfl⟩
      · nofun
      · rintro _ ⟨⟩
        rcases he with rfl | rfl <;> decide
    · exact fun _ => hdelimiter _ (by decide)
  have hstart₁ : Starts Char.isDigit (fraction ++ (exponent ++ rest)) := by
    apply starts_append
    · rcases hfraction with rfl | ⟨digits, -, -, rfl⟩
      · nofun
      · rintro _ ⟨⟩
        decide
    · intro _ ch hch
      exact (Bool.or_eq_false_iff.1 (hstart₂ ch hch)).1
  have hstart₀ : Starts (· = '-') (integer ++ (fraction ++ (exponent ++ rest))) := by
    apply starts_append
    · rcases hinteger with rfl | ⟨ch, digits, hlow, -, -, rfl⟩
      · rintro _ ⟨⟩
        decide
      · rintro _ ⟨⟩
        by_contra hkind
        simp only [Bool.not_eq_false, decide_eq_true_eq] at hkind
        rw [hkind] at hlow
        exact absurd hlow (by decide)
    · rcases hinteger with rfl | ⟨ch, digits, -, -, -, rfl⟩
      · nofun
      · nofun
  simp only [scanNumber, List.append_assoc, scanMinus_append hminus hstart₀,
    scanInteger_append hinteger hstart₁, Option.bind_eq_bind, Option.bind_some,
    scanFraction_append hfraction hstart₂,
    scanExponent_append hexponent (hdelimiter _ (by decide))]
  rfl

/-- A number token of the text is one of the grammar: finite, safe when it is an integer, and
followed by the end or a delimiter. -/
theorem parseNumber_ok_iff {input rest : List Char} {token : StrictJsonNumber} :
    parseNumber input = .ok (token, rest) ↔ IsToken token ∧ OwnLimits (.num token) ∧
      Ends rest ∧ input = token.raw ++ rest := by
  unfold parseNumber
  constructor
  · intro h
    split at h
    · cases h
    · rename_i raw rest' hscan
      obtain ⟨hnumber, hinput⟩ := scanNumber_sound hscan
      rw [then_ok_iff, failIf_ok_iff] at h
      obtain ⟨hends, h⟩ := h
      split at h
      · cases h
      · rename_i value hvalue
        rw [then_ok_iff, failIf_ok_iff, pure_ok_iff, Prod.mk.injEq] at h
        obtain ⟨hsafe, rfl, rfl⟩ := h
        refine ⟨⟨hnumber, hvalue, rfl⟩, ?_, ?_, hinput⟩
        · intro hinteger
          by_contra hunsafe
          exact hsafe ⟨hinteger, by simpa using hunsafe⟩
        · intro ch hch
          by_contra hother
          exact hends ⟨ch, hch, by simpa using hother⟩
  · rintro ⟨⟨hnumber, hvalue, hinteger⟩, hsafe, hends, rfl⟩
    have hfollow : ¬ ∃ ch ∈ rest.head?, endsToken ch = false := by
      rintro ⟨ch, hch, hother⟩
      rw [hends ch hch] at hother
      cases hother
    have hlimit : ¬ (token.isIntegerToken = true ∧ isSafeInteger token.value = false) := by
      rintro ⟨htoken, hunsafe⟩
      rw [hsafe htoken] at hunsafe
      cases hunsafe
    simp only [scanNumber_append hnumber hends, hvalue, failIf, if_neg hfollow, if_neg hlimit,
      ok_bind_eq, ← hinteger]
    rfl

end TradeOps.StrictJson
