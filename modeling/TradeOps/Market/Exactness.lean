import TradeOps.Market.Numbers
import TradeOps.StrictJson.Exact

/-!
# Exactness of market numbers

Canonical texts are compared as strings: the longer whole part is larger, whole parts of one length
are ordered as texts are, and so are fractions padded to one length. `market_numbers_exact` puts
this together with the normalisation, for the tokens that the parser produces.
-/

namespace TradeOps.Market

open Checks JsValue Numerals StrictJson

/-! ## Comparison of canonical texts -/

section Comparison

variable {whole fraction whole' fraction' text text' : List Char} {negative floatingToken : Bool}
  {negative' floatingToken' : Bool}

/-- How two rationals are ordered, as the comparison says it. -/
def order (q q' : ℚ) : Int := if q < q' then -1 else if q = q' then 0 else 1

theorem order_of_lt {q q' : ℚ} (h : q < q') : order q q' = -1 := if_pos h

theorem order_of_gt {q q' : ℚ} (h : q' < q) : order q q' = 1 := by
  rw [order, if_neg h.le.not_gt, if_neg h.ne']

theorem order_self (q : ℚ) : order q q = 0 := by
  rw [order, if_neg (lt_irrefl q), if_pos rfl]

theorem order_neg (q q' : ℚ) : order (-q) (-q') = -order q q' := by
  rcases lt_trichotomy q q' with h | rfl | h
  · rw [order_of_lt h, order_of_gt (neg_lt_neg h), neg_neg]
  · rw [order_self, order_self, neg_zero]
  · rw [order_of_gt h, order_of_lt (neg_lt_neg h)]

theorem decimal_padEnd (width : Nat) (whole fraction : List Char) :
    decimal whole (padEnd width fraction) = decimal whole fraction := by
  rw [decimal, padEnd, fraction_zeros, decimal]

theorem isDigits_padEnd (h : IsDigits fraction) (width : Nat) : IsDigits (padEnd width fraction) :=
  h.append (isDigits_zeros _)

theorem length_padEnd {width : Nat} (h : fraction.length ≤ width) :
    (padEnd width fraction).length = width := by
  rw [padEnd, List.length_append, List.length_replicate]
  omega

/-- Magnitudes are ordered as the rationals they spell. -/
theorem compareMagnitudes_eq (hwhole : IsDigits whole) (hwhole' : IsDigits whole')
    (hleast : IsLeast whole) (hleast' : IsLeast whole') (hfraction : IsDigits fraction)
    (hfraction' : IsDigits fraction') :
    compareMagnitudes ⟨negative, whole, fraction⟩ ⟨negative', whole', fraction'⟩ =
      order (decimal whole fraction) (decimal whole' fraction') := by
  unfold compareMagnitudes
  dsimp only
  by_cases hlength : whole.length = whole'.length
  · rw [if_neg (not_not.2 hlength)]
    by_cases hsame : whole = whole'
    · subst hsame
      rw [if_neg (not_not.2 rfl)]
      obtain ⟨width, hwidth⟩ : ∃ width, width = max fraction.length fraction'.length := ⟨_, rfl⟩
      rw [← hwidth, ← decimal_padEnd width, ← decimal_padEnd width whole fraction']
      have hpadded := isDigits_padEnd hfraction width
      have hpadded' := isDigits_padEnd hfraction' width
      have hlen : (padEnd width fraction).length = (padEnd width fraction').length := by
        rw [length_padEnd (by omega), length_padEnd (by omega)]
      by_cases heq : padEnd width fraction = padEnd width fraction'
      · rw [if_pos heq, heq, order_self]
      · rw [if_neg heq]
        by_cases hlt : padEnd width fraction < padEnd width fraction'
        · rw [if_pos hlt, order_of_lt ((decimal_lt_iff hpadded hpadded' hlen).2 hlt)]
        · rw [if_neg hlt, order_of_gt]
          apply (decimal_lt_iff hpadded' hpadded hlen.symm).2
          exact lt_of_not_lt hpadded hpadded' hlen heq hlt
    · rw [if_pos hsame]
      have hless := lt_iff_ofDigitChars_lt hwhole hwhole' hlength
      by_cases hlt : whole < whole'
      · rw [if_pos hlt, order_of_lt (decimal_lt_of_whole_lt hfraction (hless.1 hlt))]
      · rw [if_neg hlt, order_of_gt]
        apply decimal_lt_of_whole_lt hfraction'
        apply (lt_iff_ofDigitChars_lt hwhole' hwhole hlength.symm).1
        exact lt_of_not_lt hwhole hwhole' hlength hsame hlt
  · rw [if_pos hlength]
    by_cases hshort : whole.length < whole'.length
    · rw [if_pos hshort, order_of_lt]
      apply decimal_lt_of_whole_lt hfraction
      exact ofDigitChars_lt_of_length_lt hwhole hwhole' hleast.1 hleast' hshort
    · rw [if_neg hshort, order_of_gt]
      apply decimal_lt_of_whole_lt hfraction'
      exact ofDigitChars_lt_of_length_lt hwhole' hwhole hleast'.1 hleast (by omega)

/-- The tail of a canonical text starts at the point. -/
theorem canonicalTail_point (floatingToken : Bool) (fraction : List Char) :
    (canonicalTail floatingToken fraction).takeWhile (fun ch => decide (ch ≠ '.')) = [] ∧
      (canonicalTail floatingToken fraction).dropWhile (fun ch => decide (ch ≠ '.')) =
        canonicalTail floatingToken fraction := by
  unfold canonicalTail
  split
  · exact ⟨rfl, rfl⟩
  · cases floatingToken <;> exact ⟨rfl, rfl⟩

theorem stripTrailing_canonicalTail (hlast : fraction.getLast? ≠ some '0') :
    stripTrailing ((canonicalTail floatingToken fraction).drop 1) = fraction := by
  unfold canonicalTail
  split
  · rw [List.drop_one, List.tail_cons, stripTrailing, List.rdropWhile_eq_self_iff]
    intro hne hzero
    rw [List.getLast?_eq_some_getLast hne] at hlast
    exact hlast (congrArg some (of_decide_eq_true hzero))
  · rename_i hnil
    rw [not_not.1 hnil]
    cases floatingToken <;> rfl

theorem magnitude_spelled (h : Spelled text negative floatingToken whole fraction) :
    magnitude text =
      ⟨negative && !decide (whole = ['0'] ∧ fraction.length = 0), whole, fraction⟩ := by
  have hsign : decide (text.head? = some '-') = negative := by
    have hhead := h.head?_iff
    cases negative <;> simpa using hhead
  have hunsigned : (if negative then text.drop 1 else text) =
      whole ++ canonicalTail floatingToken fraction := by
    rw [h.text_eq]
    cases negative <;> rfl
  have hpoint : ∀ ch ∈ whole, decide (ch ≠ '.') = true := by
    intro ch hch
    rw [decide_eq_true_eq]
    rintro rfl
    exact point_not_mem h.isInteger hch
  have hwhole : (whole ++ canonicalTail floatingToken fraction).takeWhile
      (fun ch => decide (ch ≠ '.')) = whole := by
    rw [List.takeWhile_append_of_pos hpoint, (canonicalTail_point _ _).1, List.append_nil]
  have hfraction : stripTrailing (((whole ++ canonicalTail floatingToken fraction).dropWhile
      (fun ch => decide (ch ≠ '.'))).drop 1) = fraction := by
    rw [List.dropWhile_append_of_pos hpoint, (canonicalTail_point _ _).2,
      stripTrailing_canonicalTail h.last_fraction]
  have hsignificant : (if whole.dropWhile (fun ch => decide (ch = '0')) = [] then ['0']
      else whole.dropWhile (fun ch => decide (ch = '0'))) = whole := by
    have hleast := h.isLeast_whole
    cases hcase : whole with
    | nil => exact absurd hcase hleast.1
    | cons ch rest =>
      rw [hcase] at hleast
      by_cases hzero : ch = '0'
      · cases rest with
        | nil =>
          rw [hzero]
          rfl
        | cons _ _ => exact absurd (by rw [hzero]; rfl) (hleast.2 (by simp))
      · rw [List.dropWhile_cons_of_neg (by simpa using hzero), if_neg (List.cons_ne_nil _ _)]
  unfold magnitude
  simp only [hsign, hunsigned, hwhole, hfraction, hsignificant]

theorem decimal_eq_zero_iff (hwhole : IsDigits whole) (hleast : IsLeast whole)
    (hfraction : IsDigits fraction) (hlast : fraction.getLast? ≠ some '0') :
    decimal whole fraction = 0 ↔ whole = ['0'] ∧ fraction.length = 0 := by
  have hzero : decimal ['0'] [] = 0 := by
    rw [decimal_nil]
    rfl
  constructor
  · intro heq
    have hleastZero : IsLeast ['0'] := ⟨List.cons_ne_nil _ _, by simp⟩
    have hnoDigits : IsDigits [] := nofun
    obtain ⟨rfl, rfl⟩ := decimal_injective hwhole (isDigits_zeros 1) hleast hleastZero
      hfraction hnoDigits hlast (by simp) (heq.trans hzero.symm)
    exact ⟨rfl, rfl⟩
  · rintro ⟨rfl, hnil⟩
    rw [List.length_eq_zero_iff.1 hnil, hzero]

theorem Spelled.abs_tokenValue (h : Spelled text negative floatingToken whole fraction) :
    |tokenValue text| = decimal whole fraction := by
  rw [h.tokenValue_eq, abs_mul, abs_of_nonneg (decimal_nonneg whole fraction)]
  cases negative <;> simp

/-- A zero is not negative, whatever its sign. -/
theorem Spelled.negative_eq (h : Spelled text negative floatingToken whole fraction) :
    (negative && !decide (whole = ['0'] ∧ fraction.length = 0)) = decide (tokenValue text < 0) := by
  have hzero := decimal_eq_zero_iff h.isDigits_whole h.isLeast_whole h.isDigits_fraction
    h.last_fraction
  have hnonneg := decimal_nonneg whole fraction
  rw [h.tokenValue_eq]
  cases negative with
  | false => simpa using hnonneg
  | true =>
    rw [if_pos rfl, neg_one_mul, Bool.true_and, ← decide_not]
    apply decide_eq_decide.2
    rw [← hzero, neg_lt_zero]
    exact hnonneg.lt_iff_ne'.symm

/-- The comparison of two canonical texts is the order of their rationals. -/
theorem decimalComparison_spelled (h : Spelled text negative floatingToken whole fraction)
    (h' : Spelled text' negative' floatingToken' whole' fraction') :
    decimalComparison text text' = order (tokenValue text) (tokenValue text') := by
  have habs := h.abs_tokenValue
  have habs' := h'.abs_tokenValue
  unfold decimalComparison
  simp only [magnitude_spelled h, magnitude_spelled h', h.negative_eq, h'.negative_eq,
    compareMagnitudes_eq h.isDigits_whole h'.isDigits_whole h.isLeast_whole h'.isLeast_whole
      h.isDigits_fraction h'.isDigits_fraction, ← habs, ← habs']
  by_cases hneg : tokenValue text < 0
  · by_cases hneg' : tokenValue text' < 0
    · simp only [hneg, hneg', decide_true, ne_eq, not_true_eq_false, if_false, if_true,
        abs_of_neg, order_neg, neg_neg]
    · simp only [hneg, hneg', decide_true, decide_false, ne_eq, Bool.true_eq_false,
        not_false_eq_true, if_true]
      exact (order_of_lt (hneg.trans_le (not_lt.1 hneg'))).symm
  · by_cases hneg' : tokenValue text' < 0
    · simp only [hneg, hneg', decide_true, decide_false, ne_eq, Bool.false_eq_true,
        not_false_eq_true, if_true, if_false]
      exact (order_of_gt (hneg'.trans_le (not_lt.1 hneg))).symm
    · simp only [hneg, hneg', decide_false, ne_eq, not_true_eq_false, if_false,
        Bool.false_eq_true, abs_of_nonneg (not_lt.1 hneg), abs_of_nonneg (not_lt.1 hneg')]

end Comparison

/-! ## The tokens of the parser -/

mutual

theorem isToken_of_spells {number : StrictJsonNumber} : ∀ (value : StrictJsonValue)
    (text : List Char), Spells value text → .num number ∈ subvalues value → IsToken number
  | .null, _, _, hmem => by simp [subvalues] at hmem
  | .bool _, _, _, hmem => by simp [subvalues] at hmem
  | .str _, _, _, hmem => by simp [subvalues] at hmem
  | .num token, text, h, hmem => by
    obtain rfl : number = token := by simpa [subvalues] using hmem
    exact h.1
  | .arr items, text, h, hmem => by
    obtain ⟨body, hbody, -⟩ := h
    exact isToken_of_items items body hbody (by simpa [subvalues] using hmem)
  | .obj fields, text, h, hmem => by
    obtain ⟨body, hbody, -⟩ := h
    exact isToken_of_fields fields body hbody (by simpa [subvalues] using hmem)

theorem isToken_of_items {number : StrictJsonNumber} : ∀ (items : List StrictJsonValue)
    (body : List Char), SpellsItems items body → .num number ∈ subvaluesItems items →
      IsToken number
  | [], _, _, hmem => by simp [subvaluesItems] at hmem
  | item :: items, body, h, hmem => by
    obtain ⟨before, text, after, tail, -, htext, -, -, htail⟩ := h
    rcases List.mem_append.1 hmem with hmem | hmem
    · exact isToken_of_spells item text htext hmem
    · rcases htail with ⟨rfl, -⟩ | ⟨-, more, -, hmore⟩
      · simp [subvaluesItems] at hmem
      · exact isToken_of_items items more hmore hmem

theorem isToken_of_fields {number : StrictJsonNumber} :
    ∀ (fields : List (JsString × StrictJsonValue)) (body : List Char), SpellsFields fields body →
      .num number ∈ subvaluesFields fields → IsToken number
  | [], _, _, hmem => by simp [subvaluesFields] at hmem
  | (name, value) :: fields, body, h, hmem => by
    obtain ⟨before, key, colon, between, text, after, tail, -, -, -, -, htext, -, -, htail⟩ := h
    rcases List.mem_append.1 hmem with hmem | hmem
    · exact isToken_of_spells value text htext hmem
    · rcases htail with ⟨rfl, -⟩ | ⟨-, more, -, hmore⟩
      · simp [subvaluesFields] at hmem
      · exact isToken_of_fields fields more hmore hmem

end

/-- A number token that the parser can produce. -/
def Produced (number : StrictJsonNumber) : Prop :=
  ∃ bytes value, parseStrictJson bytes = .ok value ∧ .num number ∈ subvalues value

theorem Produced.isToken {number : StrictJsonNumber} (h : Produced number) : IsToken number := by
  obtain ⟨bytes, value, hvalue, hmem⟩ := h
  obtain ⟨⟨source, ⟨before, text, after, -, htext, -, -⟩, -⟩, -, -⟩ :=
    parseStrictJson_ok_iff.1 hvalue
  exact isToken_of_spells value text htext hmem

/-! ## Exactness -/

section Exactness

variable {maxStringLength : Nat} {number : StrictJsonNumber} {text : List Char}

/-- A decimal text as it is stored: no exponent and no zero too many, except a lone one behind the
point. -/
def IsMarketDecimal (text : List Char) : Prop :=
  ∃ negative floatingToken whole fraction, Spelled text negative floatingToken whole fraction

theorem normalizeMarketNumber_ok (h : IsNumber number.raw)
    (hok : normalizeMarketNumber maxStringLength number = .ok ⟨text⟩) :
    ∃ whole fraction,
      Spelled text (decide (number.raw.head? = some '-')) (!isIntegerToken number.raw)
        whole fraction ∧
      tokenValue text = tokenValue number.raw := by
  have hbind := hok
  rw [normalizeMarketNumber, bind_ok_iff] at hbind
  obtain ⟨placed, hplaced, -⟩ := hbind
  obtain ⟨text', whole, fraction, hspelled, hvalue, hwithin, hbeyond⟩ :=
    normalizeMarketNumber_placed h hplaced
  obtain rfl : text' = text := by
    by_cases hlimits : WithinLimits (tokenValue number.raw)
    · rw [hwithin hlimits, Except.ok.injEq, DecimalValue.mk.injEq] at hok
      exact hok
    · rw [hbeyond hlimits] at hok
      cases hok
  refine ⟨whole, fraction, hspelled, ?_⟩
  rw [hspelled.tokenValue_eq, hvalue, tokenValue]
  simp

end Exactness

/-- **Market numbers are exact.** When the padded digits of a token fit into a string, it has a
canonical text, which denotes the rational of the token, exactly when that rational is within the
limits, and is refused otherwise. Canonical texts are the same exactly when the rationals, the signs
and the kinds of their tokens are, there is no other canonical text with these, and the comparison
of two of them is the order of their rationals. -/
theorem market_numbers_exact (maxStringLength : Nat) :
    (∀ number, Produced number → paddedLength (decimalParts number.raw) ≤ maxStringLength →
      (WithinLimits (tokenValue number.raw) → ∃ text,
        normalizeMarketNumber maxStringLength number = .ok ⟨text⟩ ∧ IsMarketDecimal text ∧
          tokenValue text = tokenValue number.raw) ∧
      (¬ WithinLimits (tokenValue number.raw) →
        normalizeMarketNumber maxStringLength number = .error .observationValidation)) ∧
    (∀ number text, Produced number → normalizeMarketNumber maxStringLength number = .ok ⟨text⟩ →
      ∀ other, IsMarketDecimal other → tokenValue other = tokenValue number.raw →
        (other.head? = some '-' ↔ number.raw.head? = some '-') →
        ('.' ∈ other ↔ number.isIntegerToken = false) → other = text) ∧
    ∀ number number' text text', Produced number → Produced number' →
      normalizeMarketNumber maxStringLength number = .ok ⟨text⟩ →
      normalizeMarketNumber maxStringLength number' = .ok ⟨text'⟩ →
      (text = text' ↔ tokenValue number.raw = tokenValue number'.raw ∧
        (number.raw.head? = some '-' ↔ number'.raw.head? = some '-') ∧
        number.isIntegerToken = number'.isIntegerToken) ∧
      decimalComparison text text' = order (tokenValue number.raw) (tokenValue number'.raw) := by
  refine ⟨fun number hproduced hfits => ?_, ?_, ?_⟩
  · have hnumber := hproduced.isToken.number
    obtain ⟨placed, hplaced⟩ := placePoint_of_fits hfits
    obtain ⟨text, whole, fraction, hspelled, -, hwithin, hbeyond⟩ :=
      normalizeMarketNumber_placed hnumber hplaced
    refine ⟨fun hlimits => ⟨text, hwithin hlimits, ⟨_, _, _, _, hspelled⟩, ?_⟩, hbeyond⟩
    exact (normalizeMarketNumber_ok hnumber (hwithin hlimits)).choose_spec.choose_spec.2
  · rintro number text hproduced hok other ⟨negative, floatingToken, whole', fraction', hother⟩
      hvalue hsign hpoint
    obtain ⟨whole, fraction, hspelled, htext⟩ :=
      normalizeMarketNumber_ok hproduced.isToken.number hok
    rw [hproduced.isToken.isIntegerToken_eq, hother.point_iff] at hpoint
    rw [hother.head?_iff] at hsign
    have hnegative : decide (number.raw.head? = some '-') = negative := by
      cases negative <;> simpa using hsign
    have hfloating : (!isIntegerToken number.raw) = floatingToken := by
      cases floatingToken <;> simpa using hpoint
    rw [hnegative, hfloating] at hspelled
    exact hother.unique hspelled (hvalue.trans htext.symm)
  · intro number number' text text' hproduced hproduced' hok hok'
    obtain ⟨whole, fraction, hspelled, htext⟩ :=
      normalizeMarketNumber_ok hproduced.isToken.number hok
    obtain ⟨whole', fraction', hspelled', htext'⟩ :=
      normalizeMarketNumber_ok hproduced'.isToken.number hok'
    rw [hproduced.isToken.isIntegerToken_eq, hproduced'.isToken.isIntegerToken_eq]
    refine ⟨⟨?_, ?_⟩, ?_⟩
    · rintro rfl
      have hhead := hspelled.head?_iff.symm.trans hspelled'.head?_iff
      have hpoint := hspelled.point_iff.symm.trans hspelled'.point_iff
      rw [decide_eq_true_eq, decide_eq_true_eq] at hhead
      refine ⟨htext.symm.trans htext', hhead, ?_⟩
      simpa using hpoint
    · rintro ⟨hvalue, hhead, hinteger⟩
      rw [← decide_eq_decide.2 hhead, ← hinteger] at hspelled'
      exact hspelled.unique hspelled' (htext.trans (hvalue.trans htext'.symm))
    · rw [decimalComparison_spelled hspelled hspelled', htext, htext']

def zeroToken : StrictJsonNumber := ⟨['0'], ⟨false, 0⟩, true⟩

def zeroPointToken : StrictJsonNumber := ⟨['0', '.', '0'], ⟨false, 0⟩, false⟩

theorem produced_of_isToken {number : StrictJsonNumber} (h : IsToken number)
    (hsafe : number.isIntegerToken = true → isSafeInteger number.value = true) :
    Produced number := by
  refine ⟨utf8 number.raw, .num number, parseStrictJson_ok_iff.2 ⟨?_, ⟨?_, ?_, ?_⟩, ?_⟩, ?_⟩
  · exact ⟨number.raw, ⟨[], number.raw, [], nofun, ⟨h, rfl⟩, nofun, by simp⟩, .inl rfl⟩
  · exact Nat.zero_le _
  · exact Nat.succ_le_succ (Nat.zero_le _)
  · intro inner hinner
    obtain rfl : inner = .num number := by simpa [subvalues] using hinner
    exact hsafe
  · intro s hs
    simp [strings, subvalues, ownStrings] at hs
  · simp [subvalues]

/-- A text of zeros is the number zero. -/
theorem numberOf_zero {raw : List Char} (h : exactMagnitude raw = 0) :
    numberOf raw = some ⟨decide (raw.head? = some '-'), 0⟩ := by
  have hzero : nearestDouble 0 = 0 := if_pos rfl
  unfold numberOf
  dsimp only
  rw [h, hzero, if_pos (by positivity)]

theorem exactMagnitude_zeroTokens :
    exactMagnitude zeroToken.raw = 0 ∧ exactMagnitude zeroPointToken.raw = 0 := by
  constructor
  · have hminus : ([] : List Char) = [] ∨ [] = ['-'] := .inl rfl
    exact (exactMagnitude_number hminus (.inl rfl) (.inl rfl) (.inl rfl)).trans (zero_mul _)
  · exact zero_mul _

theorem produced_zeroTokens : Produced zeroToken ∧ Produced zeroPointToken := by
  refine ⟨produced_of_isToken ⟨?_, numberOf_zero exactMagnitude_zeroTokens.1, rfl⟩ fun _ => ?_,
    produced_of_isToken ⟨?_, numberOf_zero exactMagnitude_zeroTokens.2, rfl⟩ nofun⟩
  · exact ⟨[], ['0'], [], [], .inl rfl, .inl rfl, .inl rfl, .inl rfl, rfl⟩
  · decide
  · exact ⟨[], ['0'], ['.', '0'], [], .inl rfl, .inl rfl,
      .inr ⟨['0'], List.cons_ne_nil _ _, isDigits_zeros 1, rfl⟩, .inl rfl, rfl⟩

/-- `0` and `0.0` denote one rational and have different texts. -/
theorem zeroTokens_differ :
    Produced zeroToken ∧ Produced zeroPointToken ∧
      tokenValue zeroToken.raw = tokenValue zeroPointToken.raw ∧
      normalizeMarketNumber 536870888 zeroToken = .ok ⟨['0']⟩ ∧
      normalizeMarketNumber 536870888 zeroPointToken = .ok ⟨['0', '.', '0']⟩ := by
  refine ⟨produced_zeroTokens.1, produced_zeroTokens.2, ?_, by rfl, by rfl⟩
  rw [tokenValue, tokenValue, exactMagnitude_zeroTokens.1, exactMagnitude_zeroTokens.2, mul_zero,
    mul_zero]

end TradeOps.Market
