import TradeOps.Lib.Numerals
import TradeOps.Telemetry.Values
import Mathlib.Data.Rat.Defs
import Mathlib.Algebra.BigOperators.Group.List.Basic
import Mathlib.Algebra.Order.Field.Rat
import Mathlib.Tactic.FieldSimp
import Mathlib.Tactic.Positivity

/-!
# Fixed decimals denote rationals

`parseFixedV2` splits a text into a sign, an integer part and a fraction, and `sumFixedV2` adds in
units of the last digit and prints the total. Here a text denotes the rational that its parts spell.
A text of a scale is the print of its units and of no other number (`eq_fixedText_of_isFixed`), so a
rational has at most one text, and a sum is the text of the exact sum.
-/

namespace TradeOps.Telemetry

open Numerals Checks

/-! ## What a text denotes -/

/-- The number of an integer part and of a fraction behind the point. -/
def FixedParts.toRat (parts : FixedParts) : ℚ :=
  (if parts.minus then -1 else 1) * (Nat.ofDigitChars 10 parts.integerPart 0 +
    Nat.ofDigitChars 10 parts.digits 0 / 10 ^ parts.digits.length)

/-- The rational that a text spells, if it matches the pattern. -/
def textValue (text : String) : Option ℚ := (fixedParts text.toList).map FixedParts.toRat

def FixedDecimalV2.toRat (fixed : FixedDecimalV2) : ℚ := (textValue fixed.value).getD 0

/-- At most eighteen digits before the point, and as many behind it as the scale says. -/
def Representable (scale : Nat) (q : ℚ) : Prop :=
  scale ≤ 16 ∧ ∃ units : Int, units.natAbs < 10 ^ (18 + scale) ∧ q = units / 10 ^ scale

/-- `canonical` of the source: the groups put together again. -/
def FixedParts.canonical (parts : FixedParts) (scale : Nat) : List Char :=
  (if parts.minus then ['-'] else []) ++
    if scale = 0 then parts.integerPart else parts.integerPart ++ '.' :: parts.digits

/-! ## The parts of a text -/

section Parts

variable {chars : List Char} {parts : FixedParts} {text : String} {scale : Nat} {total : Int}

theorem fraction_some {digits : List Char} (h : fraction chars = some digits) :
    IsDigits digits ∧ chars = if digits = [] then [] else '.' :: digits := by
  unfold fraction at h
  split at h
  · cases h
    exact ⟨nofun, rfl⟩
  · split at h
    · rename_i hdigits
      cases h
      rw [if_neg hdigits.1]
      exact ⟨List.all_eq_true.1 hdigits.2, rfl⟩
    · cases h
  · cases h

theorem unsignedParts_some {minus : Bool} (h : unsignedParts minus chars = some parts) :
    parts.minus = minus ∧ isIntegerPart parts.integerPart = true ∧ IsDigits parts.integerPart ∧
      IsDigits parts.digits ∧
      chars = parts.integerPart ++ if parts.digits = [] then [] else '.' :: parts.digits := by
  unfold unsignedParts at h
  split at h
  · rename_i hinteger
    obtain ⟨digits, hfraction, rfl⟩ := Option.map_eq_some_iff.1 h
    obtain ⟨hdigits, hdrop⟩ := fraction_some hfraction
    refine ⟨rfl, hinteger, List.all_eq_true.1 List.all_takeWhile, hdigits, ?_⟩
    rw [← hdrop, List.takeWhile_append_dropWhile]
  · cases h

theorem fixedParts_some (h : fixedParts chars = some parts) :
    isIntegerPart parts.integerPart = true ∧ IsDigits parts.integerPart ∧ IsDigits parts.digits ∧
      chars = (if parts.minus then ['-'] else []) ++
        (parts.integerPart ++ if parts.digits = [] then [] else '.' :: parts.digits) := by
  rw [fixedParts.eq_def] at h
  split at h
  · obtain ⟨hminus, hinteger, hip, hdigits, hchars⟩ := unsignedParts_some h
    refine ⟨hinteger, hip, hdigits, ?_⟩
    rw [hminus, ← hchars]
    rfl
  · obtain ⟨hminus, hinteger, hip, hdigits, hchars⟩ := unsignedParts_some h
    refine ⟨hinteger, hip, hdigits, ?_⟩
    rw [hminus, ← hchars]
    rfl

theorem isFixed_some (h : isFixed text scale = true) :
    scale ≤ 16 ∧ ∃ parts, fixedParts text.toList = some parts ∧ parts.digits.length = scale ∧
      (parts.minus = true → Nat.ofDigitChars 10 (parts.integerPart ++ parts.digits) 0 ≠ 0) := by
  rw [isFixed, Bool.and_eq_true, Bool.and_eq_true, decide_eq_true_eq] at h
  obtain ⟨⟨hscale, -⟩, hparts⟩ := h
  refine ⟨hscale, ?_⟩
  cases hp : fixedParts text.toList with
  | none => simp [hp] at hparts
  | some parts =>
    simp only [hp, Bool.and_eq_true, Bool.not_eq_true', Bool.and_eq_false_iff,
      decide_eq_false_iff_not] at hparts
    obtain ⟨hlength, hzero⟩ := hparts
    refine ⟨parts, rfl, ?_, ?_⟩
    · by_cases hs : scale = 0
      · simp only [hs, if_true, decide_eq_true_eq] at hlength
        rw [hlength, hs, List.length_nil]
      · simpa [hs] using hlength
    · intro hminus
      rcases hzero with hzero | hplus
      · exact hzero
      · rw [hminus] at hplus
        cases hplus

/-- An integer part and a fraction are the digits of their number, padded. -/
theorem padStart_ofDigitChars {integerPart digits : List Char}
    (hinteger : isIntegerPart integerPart = true) (hip : IsDigits integerPart)
    (hdigits : IsDigits digits) :
    padStart (digits.length + 1)
        (Nat.toDigits 10 (Nat.ofDigitChars 10 (integerPart ++ digits) 0)) =
      integerPart ++ digits := by
  have hall : IsDigits (integerPart ++ digits) := hip.append hdigits
  have hpadded : IsDigits (padStart (digits.length + 1)
      (Nat.toDigits 10 (Nat.ofDigitChars 10 (integerPart ++ digits) 0))) :=
    (isDigits_zeros _).append (isDigits_toDigits _)
  refine ofDigitChars_injective hpadded hall ?_ (ofDigitChars_padStart _ _)
  rw [length_padStart, List.length_append]
  rw [isIntegerPart, decide_eq_true_eq] at hinteger
  rcases hinteger with rfl | ⟨hne, hhead, -⟩
  · -- a lone zero counts for nothing
    have hlt : Nat.ofDigitChars 10 (['0'] ++ digits) 0 < 10 ^ (digits.length + 1) :=
      (ofDigitChars_lt hall).trans_eq (by rw [List.length_append, Nat.add_comm]; rfl)
    have hle := (Nat.length_toDigits_le_iff (by decide) (Nat.succ_pos _)).2 hlt
    rw [List.length_singleton]
    omega
  · have hleast : IsLeast (integerPart ++ digits) := by
      refine ⟨fun hnil => hne (List.append_eq_nil_iff.1 hnil).1, fun _ => ?_⟩
      rw [List.head?_append_of_ne_nil _ hne]
      exact hhead
    have hpos : 0 < integerPart.length := List.length_pos_iff.2 hne
    rw [length_toDigits_of_isLeast hall hleast, List.length_append]
    omega

/-- An accepted text is the print of its units. -/
theorem eq_fixedText_of_isFixed (h : isFixed text scale = true) :
    ∃ total : Int, text = String.ofList (fixedText total scale) ∧
      total.natAbs < 10 ^ (18 + scale) := by
  obtain ⟨hscale, parts, hparts, hlength, hzero⟩ := isFixed_some h
  obtain ⟨hinteger, hip, hdigits, hchars⟩ := fixedParts_some hparts
  have hpad := padStart_ofDigitChars hinteger hip hdigits
  rw [hlength] at hpad
  obtain ⟨units, hunits⟩ : ∃ units, units =
      Nat.ofDigitChars 10 (parts.integerPart ++ parts.digits) 0 := ⟨_, rfl⟩
  rw [← hunits] at hpad hzero
  have htext : ∀ total : Int, total.natAbs = units → (total < 0 ↔ parts.minus = true) →
      text = String.ofList (fixedText total scale) := by
    intro total htotal hsign
    have hinteger' : integerDigits total scale = parts.integerPart := by
      rw [integerDigits, htotal, hpad, List.length_append, hlength, Nat.add_sub_cancel,
        List.take_left]
    have hdigits' : fractionDigits total scale = parts.digits := by
      rw [fractionDigits, htotal, hpad, List.length_append, hlength, Nat.add_sub_cancel,
        List.drop_left]
    rw [fixedText_eq, hinteger', hdigits', if_congr hsign rfl rfl, ← hchars, String.ofList_toList]
  obtain ⟨total, htotal⟩ : ∃ total : Int, text = String.ofList (fixedText total scale) := by
    cases hminus : parts.minus with
    | true =>
      have hpos := hzero hminus
      exact ⟨-units, htext _ (by omega) (by simp [hminus]; omega)⟩
    | false => exact ⟨units, htext _ (by omega) (by simp [hminus])⟩
  refine ⟨total, htotal, (isFixed_fixedText hscale).1 ?_⟩
  rw [← htotal]
  exact h

theorem textValue_fixedText (h : total.natAbs < 10 ^ (18 + scale)) :
    textValue (String.ofList (fixedText total scale)) = some ((total : ℚ) / 10 ^ scale) := by
  have hunits : Nat.ofDigitChars 10 (integerDigits total scale ++ fractionDigits total scale) 0 =
      total.natAbs := by
    rw [integerDigits, fractionDigits, List.take_append_drop, ofDigitChars_padStart]
  rw [ofDigitChars_append_zero, length_fractionDigits] at hunits
  have hcast : (10 : ℚ) ^ scale * Nat.ofDigitChars 10 (integerDigits total scale) 0 +
      Nat.ofDigitChars 10 (fractionDigits total scale) 0 = total.natAbs := by
    exact_mod_cast hunits
  have hpos : (10 : ℚ) ^ scale ≠ 0 := by positivity
  rw [textValue, String.toList_ofList, fixedParts_fixedText,
    if_pos (isIntegerPart_integerDigits.2 h), Option.map_some, Option.some.injEq]
  simp only [FixedParts.toRat, length_fractionDigits]
  by_cases hneg : total < 0
  · have habs : (total.natAbs : ℚ) = -total := by
      rw [← Int.cast_natCast, Int.ofNat_natAbs_of_nonpos hneg.le, Int.cast_neg]
    simp only [hneg, decide_true, if_true]
    field_simp
    linarith
  · have habs : (total.natAbs : ℚ) = total := by
      rw [← Int.cast_natCast, Int.natAbs_of_nonneg (not_lt.1 hneg)]
    simp only [hneg, decide_false, Bool.false_eq_true, if_false]
    field_simp
    linarith

theorem isDigits_integerDigits : IsDigits (integerDigits total scale) := fun _ hch =>
  isDigit_of_mem_padStart (List.mem_of_mem_take hch)

theorem isDigits_fractionDigits : IsDigits (fractionDigits total scale) := fun _ hch =>
  isDigit_of_mem_padStart (List.mem_of_mem_drop hch)

/-- There is no sign behind the place of the sign. -/
theorem minus_not_mem : '-' ∉ integerDigits total scale ++
    if fractionDigits total scale = [] then [] else '.' :: fractionDigits total scale := by
  intro hmem
  rcases List.mem_append.1 hmem with hmem | hmem
  · exact absurd (isDigits_integerDigits _ hmem) (by decide)
  · split at hmem
    · cases hmem
    · rcases List.mem_cons.1 hmem with hmem | hmem
      · exact absurd hmem (by decide)
      · exact absurd (isDigits_fractionDigits _ hmem) (by decide)

theorem head_fixedText (h : ¬ total < 0) : (fixedText total scale).head? ≠ some '-' := by
  rw [fixedText_eq, if_neg h, List.nil_append]
  exact fun hhead => minus_not_mem (List.mem_of_head? hhead)

/-- Dropping the sign and the point leaves the digits. -/
theorem units_fixedText :
    (⟨String.ofList (fixedText total scale), scale⟩ : FixedDecimalV2).units = total := by
  have hunits : Nat.ofDigitChars 10 (integerDigits total scale ++ fractionDigits total scale) 0 =
      total.natAbs := by
    rw [integerDigits, fractionDigits, List.take_append_drop, ofDigitChars_padStart]
  have hpoint : (integerDigits total scale ++
      if fractionDigits total scale = [] then [] else '.' :: fractionDigits total scale).erase '.' =
      integerDigits total scale ++ fractionDigits total scale := by
    have hnot : '.' ∉ integerDigits total scale :=
      fun hmem => absurd (isDigits_integerDigits _ hmem) (by decide)
    rw [List.erase_append_right _ hnot]
    by_cases hnil : fractionDigits total scale = []
    · rw [if_pos hnil, hnil]
      rfl
    · rw [if_neg hnil, List.erase_cons_head]
  unfold FixedDecimalV2.units
  by_cases hneg : total < 0
  · simp only [String.toList_ofList, fixedText_eq, if_pos hneg, List.singleton_append,
      List.erase_cons_head, hpoint, hunits, List.head?_cons, if_true]
    omega
  · have hhead : (fixedText total scale).head? ≠ some '-' := head_fixedText hneg
    simp only [String.toList_ofList, if_neg hhead]
    rw [fixedText_eq, if_neg hneg, List.nil_append, List.erase_of_not_mem minus_not_mem, hpoint,
      hunits]
    omega

/-- What an accepted decimal denotes is its units at its scale. -/
theorem toRat_of_isFixed {fixed : FixedDecimalV2} (h : fixed.ofScale scale) :
    textValue fixed.value = some fixed.toRat ∧ fixed.toRat = fixed.units / 10 ^ scale ∧
      Representable scale fixed.toRat := by
  obtain ⟨value, scale'⟩ := fixed
  obtain ⟨hscale, hfixed⟩ := h
  have hle := (isFixed_some hfixed).1
  obtain ⟨total, htext, hfit⟩ := eq_fixedText_of_isFixed hfixed
  dsimp only at hscale htext
  subst hscale htext
  have hvalue := textValue_fixedText hfit
  have hrat : (⟨String.ofList (fixedText total scale'), scale'⟩ : FixedDecimalV2).toRat =
      total / 10 ^ scale' := by
    rw [FixedDecimalV2.toRat, hvalue, Option.getD_some]
  refine ⟨by rw [hvalue, hrat], by rw [hrat, units_fixedText], hle, total, hfit, hrat⟩

theorem parseFixedV2_ok_iff {fixed : FixedDecimalV2} :
    parseFixedV2 text scale = .ok fixed ↔ isFixed text scale = true ∧ fixed = ⟨text, scale⟩ := by
  unfold parseFixedV2
  by_cases h : isFixed text scale = true
  · rw [if_pos h]
    exact ⟨fun heq => ⟨h, (Except.ok.inj heq).symm⟩, fun heq => by rw [heq.2]⟩
  · rw [if_neg h]
    exact ⟨nofun, fun heq => absurd heq.1 h⟩

/-- Every representable rational has one accepted text. -/
theorem existsUnique_text {q : ℚ} (h : Representable scale q) :
    ∃! text, isFixed text scale = true ∧ textValue text = some q := by
  obtain ⟨hscale, total, hfit, rfl⟩ := h
  refine ⟨String.ofList (fixedText total scale),
    ⟨(isFixed_fixedText hscale).2 hfit, textValue_fixedText hfit⟩, ?_⟩
  rintro text ⟨hfixed, hvalue⟩
  obtain ⟨total', rfl, hfit'⟩ := eq_fixedText_of_isFixed hfixed
  rw [textValue_fixedText hfit', Option.some.injEq] at hvalue
  have hpos : (10 : ℚ) ^ scale ≠ 0 := by positivity
  rw [div_left_inj' hpos, Int.cast_inj] at hvalue
  rw [hvalue]

end Parts

/-! ## Sums -/

section Sums

variable {scale : Nat} {values : List FixedDecimalV2}

theorem parseFixedObject_error {value : FixedDecimalV2} (h : ¬ value.ofScale scale) :
    parseFixedObject value scale = .error .decimalInvalid := by
  unfold parseFixedObject
  by_cases hscale : value.scale = scale
  · have hfixed : ¬ isFixed value.value scale = true := fun hfixed => h ⟨hscale, hfixed⟩
    rw [if_neg (by simpa using hscale), hscale, parseFixedV2, if_neg hfixed]
    rfl
  · rw [if_pos hscale]

/-- An operand that is not accepted makes the sum fail, wherever it stands. -/
theorem totalUnits_error (h : ∃ value ∈ values, ¬ value.ofScale scale) :
    totalUnits scale values = .error .decimalInvalid := by
  induction values with
  | nil =>
    obtain ⟨value, hvalue, -⟩ := h
    cases hvalue
  | cons value rest ih =>
    by_cases hvalue : value.ofScale scale
    · have hrest : ∃ value ∈ rest, ¬ value.ofScale scale := by
        obtain ⟨other, hother, hnot⟩ := h
        rcases List.mem_cons.1 hother with rfl | hother
        · exact absurd hvalue hnot
        · exact ⟨other, hother, hnot⟩
      have hunits : parseFixedObject value scale = .ok value.units := by
        rw [parseFixedObject, if_neg (by simpa using hvalue.1), hvalue.1, parseFixedV2,
          if_pos hvalue.2, Except.map, ← hvalue.1]
      rw [totalUnits, hunits, ok_bind_eq, ih hrest]
      rfl
    · rw [totalUnits, parseFixedObject_error hvalue]
      rfl

theorem sum_toRat (h : ∀ value ∈ values, value.ofScale scale) :
    (values.map FixedDecimalV2.toRat).sum =
      ((values.map FixedDecimalV2.units).sum : Int) / 10 ^ scale := by
  induction values with
  | nil => simp
  | cons value rest ih =>
    have hvalue := (toRat_of_isFixed (h value List.mem_cons_self)).2.1
    have hrest := ih fun other hother => h other (List.mem_cons_of_mem _ hother)
    rw [List.map_cons, List.sum_cons, hvalue, hrest, List.map_cons, List.sum_cons, Int.cast_add,
      add_div]

theorem representable_iff (hscale : scale ≤ 16) {total : Int} :
    Representable scale ((total : ℚ) / 10 ^ scale) ↔ total.natAbs < 10 ^ (18 + scale) := by
  have hpos : (10 : ℚ) ^ scale ≠ 0 := by positivity
  constructor
  · rintro ⟨-, units, hfit, heq⟩
    rw [div_left_inj' hpos, Int.cast_inj] at heq
    rw [heq]
    exact hfit
  · intro hfit
    exact ⟨hscale, total, hfit, rfl⟩

theorem sumFixedV2_eq (hscale : scale ≤ 16) (h : ∀ value ∈ values, value.ofScale scale) :
    sumFixedV2 values scale =
      parseFixedV2
        (String.ofList (fixedText (values.map FixedDecimalV2.units).sum scale)) scale := by
  rw [sumFixedV2, if_neg (by omega), totalUnits_eq h, ok_bind_eq]

theorem sumFixedV2_error_iff :
    (∃ code, sumFixedV2 values scale = .error code) ↔
      (∃ value ∈ values, ¬ value.ofScale scale) ∨
        ¬ Representable scale (values.map FixedDecimalV2.toRat).sum := by
  by_cases hscale : scale ≤ 16
  · by_cases hall : ∀ value ∈ values, value.ofScale scale
    · have hnone : ¬ ∃ value ∈ values, ¬ value.ofScale scale := by
        rintro ⟨value, hvalue, hnot⟩
        exact hnot (hall value hvalue)
      rw [sum_toRat hall, representable_iff hscale, or_iff_right hnone, sumFixedV2_eq hscale hall,
        ← isFixed_fixedText hscale, parseFixedV2]
      split <;> simp_all
    · push Not at hall
      refine iff_of_true ⟨.decimalInvalid, ?_⟩ (.inl hall)
      rw [sumFixedV2, if_neg (by omega), totalUnits_error hall]
      rfl
  · refine iff_of_true ⟨.decimalInvalid, ?_⟩ (.inr fun h => hscale h.1)
    rw [sumFixedV2, if_pos (by omega)]

theorem sumFixedV2_perm {values' : List FixedDecimalV2} (h : values.Perm values') :
    sumFixedV2 values scale = sumFixedV2 values' scale := by
  have htotal : totalUnits scale values = totalUnits scale values' := by
    by_cases hall : ∀ value ∈ values, value.ofScale scale
    · have hall' : ∀ value ∈ values', value.ofScale scale :=
        fun value hvalue => hall value (h.mem_iff.2 hvalue)
      rw [totalUnits_eq hall, totalUnits_eq hall', (h.map _).sum_eq]
    · push Not at hall
      obtain ⟨value, hvalue, hnot⟩ := hall
      rw [totalUnits_error ⟨value, hvalue, hnot⟩,
        totalUnits_error ⟨value, h.mem_iff.1 hvalue, hnot⟩]
  unfold sumFixedV2
  rw [htotal]

/-- The result is the text of the exact sum, and a zero has no sign. -/
theorem sumFixedV2_exact {result : FixedDecimalV2} (h : sumFixedV2 values scale = .ok result) :
    result.ofScale scale ∧
      textValue result.value = some (values.map FixedDecimalV2.toRat).sum ∧
      (textValue result.value = some 0 → result.value.toList.head? ≠ some '-') := by
  have hok : ¬ ∃ code, sumFixedV2 values scale = .error code := by
    rintro ⟨code, hcode⟩
    rw [h] at hcode
    cases hcode
  rw [sumFixedV2_error_iff, not_or] at hok
  obtain ⟨hall, hrepresentable⟩ := hok
  push Not at hall hrepresentable
  have hscale := hrepresentable.1
  rw [sumFixedV2_eq hscale hall, parseFixedV2_ok_iff] at h
  obtain ⟨hfixed, rfl⟩ := h
  have hfit := (isFixed_fixedText hscale).1 hfixed
  refine ⟨⟨rfl, hfixed⟩, by rw [textValue_fixedText hfit, sum_toRat hall], fun hzero => ?_⟩
  rw [textValue_fixedText hfit, Option.some.injEq, div_eq_zero_iff] at hzero
  have hpos : (10 : ℚ) ^ scale ≠ 0 := by positivity
  have htotal : (values.map FixedDecimalV2.units).sum = 0 := by
    exact_mod_cast hzero.resolve_right hpos
  rw [htotal, String.toList_ofList]
  exact head_fixedText (by decide)

end Sums

/-- **Fixed decimals are exact.** At every scale, a rational with at most eighteen digits before the
point has exactly one text that `parseFixedV2` accepts, and it accepts no other texts. A sum is the
text of the exact sum of its operands, without a sign when it is zero, in whatever order they
stand; it fails exactly when an operand is not accepted or the sum has too many digits. -/
theorem fixed_decimals_exact (scale : Nat) :
    (∀ q, Representable scale q → ∃! text,
      parseFixedV2 text scale = .ok ⟨text, scale⟩ ∧ textValue text = some q) ∧
    (∀ text fixed, parseFixedV2 text scale = .ok fixed → fixed = ⟨text, scale⟩ ∧
      ∃ q, textValue text = some q ∧ Representable scale q) ∧
    (∀ values result, sumFixedV2 values scale = .ok result → result.ofScale scale ∧
      textValue result.value = some (values.map FixedDecimalV2.toRat).sum ∧
      (textValue result.value = some 0 → result.value.toList.head? ≠ some '-')) ∧
    (∀ values values' : List FixedDecimalV2, values.Perm values' →
      sumFixedV2 values scale = sumFixedV2 values' scale) ∧
    (∀ values, (∃ code, sumFixedV2 values scale = .error code) ↔
      (∃ value ∈ values, ¬ value.ofScale scale) ∨
        ¬ Representable scale (values.map FixedDecimalV2.toRat).sum) := by
  refine ⟨fun q hq => ?_, fun text fixed h => ?_, fun values result h => sumFixedV2_exact h,
    fun values values' h => sumFixedV2_perm h, fun values => sumFixedV2_error_iff⟩
  · simpa [parseFixedV2_ok_iff] using existsUnique_text hq
  · obtain ⟨hfixed, rfl⟩ := parseFixedV2_ok_iff.1 h
    have hscale : (⟨text, scale⟩ : FixedDecimalV2).ofScale scale := ⟨rfl, hfixed⟩
    obtain ⟨hvalue, -, hrepresentable⟩ := toRat_of_isFixed hscale
    exact ⟨rfl, _, hvalue, hrepresentable⟩

end TradeOps.Telemetry
