import TradeOps.Lib.JsValue

/-!
# Texts as JavaScript strings

A text of characters and the JavaScript string of it: the code points of the string are the
characters of the text, so different texts are different strings, and a text has no unpaired
surrogate.
-/

namespace JsString

/-- A text where a JavaScript string is expected. -/
scoped instance ofText : Coe String JsString := ⟨js⟩

/-- A code point that UTF-8 does not encode, which only an unpaired surrogate yields. -/
def isSurrogate (n : Nat) : Bool := 0xd800 ≤ n ∧ n < 0xe000

/-- A string without unpaired surrogates. -/
def isScalarText (s : JsString) : Bool := ¬ (codePoints s).any isSurrogate

/-- Strip code units at both ends. -/
def trimBy (space : UInt16 → Bool) (value : JsString) : JsString :=
  ((value.dropWhile space).reverse.dropWhile space).reverse

theorem not_surrogate (ch : Char) :
    ch.toNat < 0xd800 ∨ 0xe000 ≤ ch.toNat ∧ ch.toNat < 0x110000 := by
  rcases ch.valid with hlow | hhigh
  · left
    exact hlow
  · right
    have hgap : 0xdfff < ch.toNat := hhigh.1
    exact ⟨hgap, hhigh.2⟩

theorem toNat_toUInt16 {n : Nat} (h : n < 0x10000) : n.toUInt16.toNat = n := Nat.mod_eq_of_lt h

theorem codePoints_pair {u v : UInt16} {rest : JsString} (hhigh : isHigh u = true)
    (hlow : isLow v = true) : codePoints (u :: v :: rest) = pair u v :: codePoints rest := by
  rw [codePoints, hhigh, hlow]
  rfl

theorem codePoints_unit {u : UInt16} {rest : JsString} (hhigh : isHigh u = false) :
    codePoints (u :: rest) = u.toNat :: codePoints rest := by
  cases rest with
  | nil => rfl
  | cons v rest =>
    rw [codePoints, hhigh]
    rfl

/-- The code points of a text's units are its characters. -/
theorem codePoints_codeUnits (ch : Char) (rest : JsString) :
    codePoints (codeUnits ch ++ rest) = ch.toNat :: codePoints rest := by
  have hscalar := not_surrogate ch
  unfold codeUnits
  by_cases hplane : ch.toNat < 0x10000
  · rw [if_pos hplane]
    have hunit : ch.toNat.toUInt16.toNat = ch.toNat := toNat_toUInt16 hplane
    have hhigh : isHigh ch.toNat.toUInt16 = false := by
      rw [isHigh, hunit, decide_eq_false_iff_not]
      omega
    rw [List.singleton_append, codePoints_unit hhigh, hunit]
  · rw [if_neg hplane]
    have hfirst : 0xd800 + (ch.toNat - 0x10000) / 0x400 < 0x10000 := by omega
    have hsecond : 0xdc00 + (ch.toNat - 0x10000) % 0x400 < 0x10000 := by omega
    have hhighUnit := toNat_toUInt16 hfirst
    have hlowUnit := toNat_toUInt16 hsecond
    generalize (0xd800 + (ch.toNat - 0x10000) / 0x400).toUInt16 = high at hhighUnit ⊢
    generalize (0xdc00 + (ch.toNat - 0x10000) % 0x400).toUInt16 = low at hlowUnit ⊢
    have hhigh : isHigh high = true := by
      rw [isHigh, decide_eq_true_eq]
      omega
    have hlow : isLow low = true := by
      rw [isLow, decide_eq_true_eq]
      omega
    have hpair : pair high low = ch.toNat := by
      unfold pair
      omega
    rw [← hpair]
    exact codePoints_pair hhigh hlow

theorem codePoints_js (text : String) : codePoints (js text) = text.toList.map Char.toNat := by
  unfold js ofChars
  induction text.toList with
  | nil => rfl
  | cons ch rest ih => rw [List.flatMap_cons, codePoints_codeUnits, ih, List.map_cons]

theorem js_injective : Function.Injective js := by
  intro a b h
  have hpoints : a.toList.map Char.toNat = b.toList.map Char.toNat := by
    rw [← codePoints_js, h, codePoints_js]
  exact String.toList_injective (List.map_injective_iff.2 (fun _ _ => Char.toNat_inj.1) hpoints)

@[simp] theorem js_eq_iff {a b : String} : js a = js b ↔ a = b := js_injective.eq_iff

@[simp] theorem js_eq_nil_iff {text : String} : js text = [] ↔ text = "" := by
  rw [← js_eq_iff]
  rfl

/-- A text has no unpaired surrogates. -/
theorem isScalarText_js (text : String) : isScalarText (js text) = true := by
  rw [isScalarText, decide_eq_true_eq, codePoints_js, Bool.not_eq_true, List.any_eq_false]
  intro n hn
  obtain ⟨ch, -, rfl⟩ := List.mem_map.1 hn
  have hscalar := not_surrogate ch
  rw [isSurrogate, decide_eq_true_eq]
  omega

/-- The code points of a text contain zero when the text does. -/
theorem zero_mem_codePoints_js {text : String} :
    0 ∈ codePoints (js text) ↔ '\x00' ∈ text.toList := by
  rw [codePoints_js, List.mem_map]
  constructor
  · rintro ⟨ch, hch, hzero⟩
    rwa [show '\x00' = ch from (Char.toNat_inj.1 hzero).symm]
  · intro h
    exact ⟨'\x00', h, rfl⟩

end JsString
