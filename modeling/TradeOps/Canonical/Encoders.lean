import TradeOps.Canonical.Python
import TradeOps.Telemetry.Schema

/-!
# The canonical encoders agree

Embeds `canonicalStringify` of the observation edge (`validation.ts`) and `canonical` of
`signal-admission-store-v1.ts`; `canonicalStringify` of the execution edge is
`Telemetry.canonicalStringify`. They order the fields of an object by the code units of the names,
by a comparison of strings, and by the code points of the names; on names of the ASCII key profile
that is one order, and it is the order of the Python keys.
-/

namespace TradeOps.Canonical

open JsString JsValue SortBy

/-- The order of `sort()` and of `<` on strings. -/
def codeUnitValues (s : JsString) : List Nat := s.map UInt16.toNat

/-! ## The observation edge -/

mutual

/-- `canonicalStringify` of `validation.ts`: the keys are sorted and each value is looked up. -/
def observationText : JsValue → List Char
  | .arr items => '[' :: (commaSeparated (observationItems items) ++ [']'])
  | .obj fields =>
    let values := observationFields fields
    '\x7b' :: (commaSeparated ((sortBy codeUnitValues (fields.map Prod.fst)).map fun key =>
      quoted key ++ ':' :: (values.lookup key).getD (text .null)) ++ ['\x7d'])
  | leaf => text leaf

def observationItems : List JsValue → List (List Char)
  | [] => []
  | item :: rest => observationText item :: observationItems rest

def observationFields : List (JsString × JsValue) → List (JsString × List Char)
  | [] => []
  | (name, value) :: rest => (name, observationText value) :: observationFields rest

end

/-! ## The admission store -/

mutual

/-- `canonical` of `signal-admission-store-v1.ts`: the entries are sorted. -/
def admissionText : JsValue → List Char
  | .arr items => '[' :: (commaSeparated (admissionItems items) ++ [']'])
  | .obj fields =>
    '\x7b' :: (commaSeparated ((sortBy (fun entry => codeUnitValues entry.1)
      (admissionFields fields)).map fun entry => quoted entry.1 ++ ':' :: entry.2) ++ ['\x7d'])
  | leaf => text leaf

def admissionItems : List JsValue → List (List Char)
  | [] => []
  | item :: rest => admissionText item :: admissionItems rest

def admissionFields : List (JsString × JsValue) → List (JsString × List Char)
  | [] => []
  | (name, value) :: rest => (name, admissionText value) :: admissionFields rest

end

/-! ## The profile -/

/-- A string without lone surrogates. -/
def wellFormed : JsString → Bool
  | [] => true
  | [u] => !isHigh u && !isLow u
  | u :: v :: rest =>
    if isHigh u && isLow v then wellFormed rest else !isHigh u && !isLow u && wellFormed (v :: rest)

/-- A name of the ASCII key profile. -/
def keyProfile (name : JsString) : Bool := name ≠ [] ∧ name.all fun u => isKeyPoint u.toNat

mutual

/-- Names of the key profile, distinct within an object, safe integers and well-formed strings. -/
def profile : JsValue → Bool
  | .num n => n.natAbs ≤ JsValue.maxSafeInteger
  | .str s => wellFormed s
  | .arr items => profileItems items
  | .obj fields =>
    (fields.map Prod.fst).all keyProfile && ((fields.map Prod.fst).Nodup && profileFields fields)
  | _ => true

def profileItems : List JsValue → Bool
  | [] => true
  | item :: rest => profile item && profileItems rest

def profileFields : List (JsString × JsValue) → Bool
  | [] => true
  | (_, value) :: rest => profile value && profileFields rest

end

mutual

/-- No string of the value contains U+0000. -/
def withoutNul : JsValue → Bool
  | .str s => 0 ∉ s
  | .arr items => withoutNulItems items
  | .obj fields => withoutNulFields fields
  | _ => true

def withoutNulItems : List JsValue → Bool
  | [] => true
  | item :: rest => withoutNul item && withoutNulItems rest

def withoutNulFields : List (JsString × JsValue) → Bool
  | [] => true
  | (_, value) :: rest => withoutNul value && withoutNulFields rest

end

/-! ## Names and strings -/

theorem codePoints_cons {u v : UInt16} {rest : JsString} (h : (isHigh u && isLow v) = false) :
    codePoints (u :: v :: rest) = u.toNat :: codePoints (v :: rest) := by
  rw [codePoints, h]
  rfl

theorem isHigh_of_key {u : UInt16} (h : isKeyPoint u.toNat = true) :
    isHigh u = false ∧ isLow u = false := by
  simp only [isKeyPoint, decide_eq_true_eq] at h
  simp only [isHigh, isLow, decide_eq_false_iff_not]
  omega

/-- The code points of a name of the profile are its code units. -/
theorem codePoints_of_key {name : JsString} (h : (name.all fun u => isKeyPoint u.toNat) = true) :
    codePoints name = codeUnitValues name := by
  induction name with
  | nil => rfl
  | cons u rest ih =>
    rw [List.all_cons, Bool.and_eq_true] at h
    have hu := isHigh_of_key h.1
    cases rest with
    | nil => rfl
    | cons v rest =>
      rw [codePoints_cons (by rw [hu.1]; rfl), ih h.2]
      rfl

theorem codePoints_of_keyProfile {name : JsString} (h : keyProfile name = true) :
    codePoints name = codeUnitValues name := by
  rw [keyProfile, decide_eq_true_eq] at h
  exact codePoints_of_key h.2

theorem codeUnitValues_injective : Function.Injective codeUnitValues := by
  intro s t h
  exact List.map_injective_iff.2 (fun u v huv => UInt16.toNat_inj.1 huv) h

theorem wellFormed_of_key {name : JsString} (h : (name.all fun u => isKeyPoint u.toNat) = true) :
    wellFormed name = true := by
  induction name with
  | nil => rfl
  | cons u rest ih =>
    rw [List.all_cons, Bool.and_eq_true] at h
    have hu := isHigh_of_key h.1
    cases rest with
    | nil => simp [wellFormed, hu.1, hu.2]
    | cons v rest => simp [wellFormed, hu.1, hu.2, ih h.2]

theorem escape_unit {u : UInt16} (hhigh : isHigh u = false) (hlow : isLow u = false) :
    escape u.toNat = unitText u := by
  have hescaped : (u.toNat < 32 ∨ isHigh u = true ∨ isLow u = true) ↔ u.toNat < 32 := by
    rw [hhigh, hlow]
    simp
  unfold escape unitText
  simp only [hescaped]
  generalize u.toNat = n
  by_cases hspecial : n ∈ [0x22, 0x5c, 8, 9, 10, 12, 13]
  · simp only [List.mem_cons, List.not_mem_nil, or_false] at hspecial
    rcases hspecial with rfl | rfl | rfl | rfl | rfl | rfl | rfl <;> rfl
  · simp only [List.mem_cons, List.not_mem_nil, or_false, not_or] at hspecial
    obtain ⟨hquote, hslash, hback, htab, hline, hfeed, hreturn⟩ := hspecial
    simp only [hquote, hslash, hback, htab, hline, hfeed, hreturn, if_false]

theorem le_pair (u v : UInt16) : 0x10000 ≤ pair u v := by
  unfold pair
  omega

/-- A code point beyond the first plane is printed as it is. -/
theorem escape_pair (u v : UInt16) : escape (pair u v) = [Char.ofNat (pair u v)] := by
  have hpair := le_pair u v
  unfold escape
  rw [if_neg (by omega), if_neg (by omega), if_neg (by omega), if_neg (by omega),
    if_neg (by omega), if_neg (by omega), if_neg (by omega), if_neg (by omega)]

/-- A well-formed string is printed alike. -/
theorem flatMap_escape (s : JsString) (h : wellFormed s = true) :
    (codePoints s).flatMap escape = unitsText s := by
  match s with
  | [] => rfl
  | [u] =>
    rw [wellFormed, Bool.and_eq_true, Bool.not_eq_true', Bool.not_eq_true'] at h
    rw [codePoints, unitsText, List.flatMap_singleton, escape_unit h.1 h.2]
  | u :: v :: rest =>
    rw [wellFormed] at h
    by_cases hpair : (isHigh u && isLow v) = true
    · rw [if_pos hpair] at h
      rw [codePoints, unitsText, if_pos hpair, if_pos hpair, List.flatMap_cons,
        flatMap_escape rest h]
      rw [escape_pair]
      rfl
    · rw [if_neg hpair, Bool.and_eq_true, Bool.and_eq_true, Bool.not_eq_true',
        Bool.not_eq_true'] at h
      rw [codePoints, unitsText, if_neg hpair, if_neg hpair, List.flatMap_cons,
        flatMap_escape (v :: rest) h.2, escape_unit h.1.1 h.1.2]

theorem encodeString_codePoints {s : JsString} (h : wellFormed s = true) :
    encodeString (codePoints s) = quoted s := by
  rw [encodeString, flatMap_escape s h, quoted]

/-! ## Fields in one order -/

/-- Names of the profile, distinct. -/
def ProfileNames {α : Type} (fields : List (JsString × α)) : Prop :=
  (∀ f ∈ fields, keyProfile f.1 = true) ∧ (fields.map Prod.fst).Nodup

theorem sortBy_codeUnitValues {α : Type} {fields : List (JsString × α)} (h : ProfileNames fields) :
    sortBy (fun f => codeUnitValues f.1) fields = sortBy (fun f => codePoints f.1) fields := by
  apply sortBy_congr
  intro f hf g hg
  rw [codePoints_of_keyProfile (h.1 f hf), codePoints_of_keyProfile (h.1 g hg)]

theorem lookup_of_mem {α : Type} {fields : List (JsString × α)} {f : JsString × α}
    (hnodup : (fields.map Prod.fst).Nodup) (hf : f ∈ fields) :
    fields.lookup f.1 = some f.2 := by
  induction fields with
  | nil => cases hf
  | cons g rest ih =>
    obtain ⟨key, value⟩ := g
    rw [List.map_cons, List.nodup_cons] at hnodup
    cases hf with
    | head => exact List.lookup_cons_self
    | tail _ hf =>
      have hin : f.1 ∈ rest.map Prod.fst := List.mem_map_of_mem hf
      have hne : f.1 ≠ key := by
        rintro rfl
        exact hnodup.1 hin
      rw [List.lookup_cons, beq_false_of_ne hne]
      exact ih hnodup.2 hf

theorem admission_fields {fields : List (JsString × List Char)} (h : ProfileNames fields) :
    (sortBy (fun entry => codeUnitValues entry.1) fields).map
      (fun entry => quoted entry.1 ++ ':' :: entry.2) = sortedFields fields := by
  rw [sortBy_codeUnitValues h, sortedFields]

theorem observation_fields {fields : List (JsString × List Char)} (h : ProfileNames fields) :
    (sortBy codeUnitValues (fields.map Prod.fst)).map
      (fun key => quoted key ++ ':' :: (fields.lookup key).getD (text .null)) =
      sortedFields fields := by
  rw [sortBy_map, List.map_map, ← admission_fields h]
  apply List.map_congr_left
  intro f hf
  rw [Function.comp_apply, lookup_of_mem h.2 ((mem_sortBy _).1 hf), Option.getD_some]

theorem profileNames_fieldTexts {fields : List (JsString × JsValue)}
    (h : profile (.obj fields) = true) : ProfileNames (fieldTexts fields) := by
  rw [profile, Bool.and_eq_true, Bool.and_eq_true, decide_eq_true_iff, List.all_eq_true] at h
  have hnames : (fieldTexts fields).map Prod.fst = fields.map Prod.fst := by
    rw [fieldTexts_eq, List.map_map]
    rfl
  refine ⟨?_, by rw [hnames]; exact h.2.1⟩
  intro f hf
  apply h.1
  rw [← hnames]
  exact List.mem_map_of_mem hf

/-! ## The encoders of the edges -/

mutual

theorem observationText_eq (v : JsValue) (h : profile v = true) : observationText v = text v := by
  match v with
  | .null => rfl
  | .bool _ => rfl
  | .num _ => rfl
  | .str _ => rfl
  | .arr items =>
    rw [profile] at h
    rw [observationText, text, observationItems_eq items h]
  | .obj fields =>
    have hnames := profileNames_fieldTexts h
    have hfields : fields.map Prod.fst = (fieldTexts fields).map Prod.fst := by
      rw [fieldTexts_eq, List.map_map]
      rfl
    rw [profile, Bool.and_eq_true, Bool.and_eq_true] at h
    rw [observationText, observationFields_eq fields h.2.2, hfields, observation_fields hnames,
      text]

theorem observationItems_eq (items : List JsValue) (h : profileItems items = true) :
    observationItems items = itemTexts items := by
  match items with
  | [] => rfl
  | item :: rest =>
    rw [profileItems, Bool.and_eq_true] at h
    rw [observationItems, itemTexts, observationText_eq item h.1, observationItems_eq rest h.2]

theorem observationFields_eq (fields : List (JsString × JsValue))
    (h : profileFields fields = true) : observationFields fields = fieldTexts fields := by
  match fields with
  | [] => rfl
  | (name, value) :: rest =>
    rw [profileFields, Bool.and_eq_true] at h
    rw [observationFields, fieldTexts, observationText_eq value h.1, observationFields_eq rest h.2]

end

mutual

theorem admissionText_eq (v : JsValue) (h : profile v = true) : admissionText v = text v := by
  match v with
  | .null => rfl
  | .bool _ => rfl
  | .num _ => rfl
  | .str _ => rfl
  | .arr items =>
    rw [profile] at h
    rw [admissionText, text, admissionItems_eq items h]
  | .obj fields =>
    have hnames := profileNames_fieldTexts h
    rw [profile, Bool.and_eq_true, Bool.and_eq_true] at h
    rw [admissionText, text, admissionFields_eq fields h.2.2, admission_fields hnames]

theorem admissionItems_eq (items : List JsValue) (h : profileItems items = true) :
    admissionItems items = itemTexts items := by
  match items with
  | [] => rfl
  | item :: rest =>
    rw [profileItems, Bool.and_eq_true] at h
    rw [admissionItems, itemTexts, admissionText_eq item h.1, admissionItems_eq rest h.2]

theorem admissionFields_eq (fields : List (JsString × JsValue))
    (h : profileFields fields = true) : admissionFields fields = fieldTexts fields := by
  match fields with
  | [] => rfl
  | (name, value) :: rest =>
    rw [profileFields, Bool.and_eq_true] at h
    rw [admissionFields, fieldTexts, admissionText_eq value h.1, admissionFields_eq rest h.2]

end

/-! ## The Python encoder -/

mutual

/-- What the validation of a value of the profile yields. -/
def canonicalOf : JsValue → CanonicalValue
  | .null => .none
  | .bool value => .bool value
  | .num n => .int n
  | .str s => .str (codePoints s)
  | .arr items => .list (canonicalElements items)
  | .obj fields => .dict (canonicalItems fields)

def canonicalElements : List JsValue → List CanonicalValue
  | [] => []
  | item :: rest => canonicalOf item :: canonicalElements rest

def canonicalItems : List (JsString × JsValue) → List (PyString × CanonicalValue)
  | [] => []
  | (name, value) :: rest => (codePoints name, canonicalOf value) :: canonicalItems rest

end

theorem unit_not_surrogate {u : UInt16} (hhigh : isHigh u = false) (hlow : isLow u = false) :
    isSurrogate u.toNat = false := by
  simp only [isHigh, isLow, decide_eq_false_iff_not] at hhigh hlow
  simp only [isSurrogate, decide_eq_false_iff_not]
  omega

theorem pair_not_surrogate (u v : UInt16) : isSurrogate (pair u v) = false := by
  have hpair := le_pair u v
  rw [isSurrogate, decide_eq_false_iff_not]
  omega

theorem eq_zero_of_toNat {u : UInt16} (h : u.toNat = 0) : u = 0 :=
  UInt16.toNat_inj.1 h

/-- A well-formed string has no surrogates among its code points, and U+0000 only if it has the
code unit. -/
theorem codePoints_of_wellFormed (s : JsString) (h : wellFormed s = true) :
    ∀ n ∈ codePoints s, isSurrogate n = false ∧ (n = 0 → 0 ∈ s) := by
  match s with
  | [] => simp [codePoints]
  | [u] =>
    rw [wellFormed, Bool.and_eq_true, Bool.not_eq_true', Bool.not_eq_true'] at h
    intro n hn
    rw [codePoints, List.mem_singleton] at hn
    rw [hn]
    exact ⟨unit_not_surrogate h.1 h.2, fun hzero => by simp [eq_zero_of_toNat hzero]⟩
  | u :: v :: rest =>
    rw [wellFormed] at h
    intro n hn
    by_cases hpair : (isHigh u && isLow v) = true
    · rw [if_pos hpair] at h
      rw [codePoints, if_pos hpair, List.mem_cons] at hn
      obtain heq | hrest := hn
      · rw [heq]
        exact ⟨pair_not_surrogate u v, fun hzero => absurd hzero (by have := le_pair u v; omega)⟩
      · obtain ⟨hsurrogate, hzero⟩ := codePoints_of_wellFormed rest h n hrest
        exact ⟨hsurrogate, fun h0 => by simp [hzero h0]⟩
    · rw [if_neg hpair, Bool.and_eq_true, Bool.and_eq_true, Bool.not_eq_true',
        Bool.not_eq_true'] at h
      rw [codePoints, if_neg hpair, List.mem_cons] at hn
      obtain heq | hrest := hn
      · rw [heq]
        exact ⟨unit_not_surrogate h.1.1 h.1.2, fun hzero => by simp [eq_zero_of_toNat hzero]⟩
      · obtain ⟨hsurrogate, hzero⟩ := codePoints_of_wellFormed (v :: rest) h.2 n hrest
        exact ⟨hsurrogate, fun h0 => List.mem_cons_of_mem _ (hzero h0)⟩

/-- A surrogate is not U+0000, so no pair hides one. -/
theorem zero_mem_codePoints (s : JsString) (h : 0 ∈ s) : 0 ∈ codePoints s := by
  match s with
  | [] => cases h
  | [u] =>
    rw [← List.mem_singleton.1 h]
    exact List.mem_cons_self
  | u :: v :: rest =>
    rw [codePoints]
    split
    · rename_i hpair
      rw [Bool.and_eq_true] at hpair
      rcases List.mem_cons.1 h with rfl | h
      · cases hpair.1
      rcases List.mem_cons.1 h with rfl | h
      · cases hpair.2
      exact List.mem_cons_of_mem _ (zero_mem_codePoints rest h)
    · rcases List.mem_cons.1 h with rfl | h
      · exact List.mem_cons_self
      exact List.mem_cons_of_mem _ (zero_mem_codePoints (v :: rest) h)

theorem matchesKeyPattern_of_keyProfile {name : JsString} (h : keyProfile name = true) :
    matchesKeyPattern (codePoints name) = true := by
  rw [codePoints_of_keyProfile h, codeUnitValues]
  rw [keyProfile, decide_eq_true_eq] at h
  rw [matchesKeyPattern, decide_eq_true_eq]
  exact ⟨by simpa using h.1, by rw [List.all_map]; exact h.2⟩

mutual

/-- A value of the profile without U+0000 passes the validation. -/
theorem validate_toPy (v : JsValue) (h : profile v = true) (hnul : withoutNul v = true)
    (location : String) : validateCanonicalValue (toPy v) location = .ok (canonicalOf v) := by
  match v with
  | .null => rfl
  | .bool _ => rfl
  | .num n =>
    rw [profile, decide_eq_true_eq] at h
    have hrange : -SafeIntegers.maxSafeInteger ≤ n ∧ n ≤ SafeIntegers.maxSafeInteger := by
      unfold SafeIntegers.maxSafeInteger
      unfold JsValue.maxSafeInteger at h
      omega
    rw [toPy, validateCanonicalValue, if_pos hrange, canonicalOf]
  | .str s =>
    rw [profile] at h
    rw [withoutNul, decide_eq_true_eq] at hnul
    have hpoints := codePoints_of_wellFormed s h
    have hzero : 0 ∉ codePoints s := fun hmem => hnul ((hpoints 0 hmem).2 rfl)
    have hscalar : ¬(codePoints s).any isSurrogate = true := by
      rw [Bool.not_eq_true, List.any_eq_false]
      intro n hn
      rw [(hpoints n hn).1]
      exact Bool.false_ne_true
    rw [toPy, validateCanonicalValue, if_neg hzero, if_neg hscalar, canonicalOf]
  | .arr items =>
    rw [profile] at h
    rw [withoutNul] at hnul
    rw [toPy, validateCanonicalValue, validateElements_toPy items h hnul location 0, canonicalOf]
    rfl
  | .obj fields =>
    rw [profile, Bool.and_eq_true, Bool.and_eq_true, List.all_eq_true] at h
    rw [withoutNul] at hnul
    have hnames : ∀ f ∈ fields, keyProfile f.1 = true :=
      fun f hf => h.1 f.1 (List.mem_map_of_mem hf)
    rw [toPy, validateCanonicalValue, validateItems_toPy fields hnames h.2.2 hnul location,
      canonicalOf]
    rfl

theorem validateElements_toPy (items : List JsValue) (h : profileItems items = true)
    (hnul : withoutNulItems items = true) (location : String) (index : Nat) :
    validateElements (toPyElements items) location index = .ok (canonicalElements items) := by
  match items with
  | [] => rfl
  | item :: rest =>
    rw [profileItems, Bool.and_eq_true] at h
    rw [withoutNulItems, Bool.and_eq_true] at hnul
    rw [toPyElements, validateElements, validate_toPy item h.1 hnul.1, Checks.ok_bind_eq,
      validateElements_toPy rest h.2 hnul.2, Checks.ok_bind_eq]
    rfl

theorem validateItems_toPy (fields : List (JsString × JsValue))
    (hnames : ∀ f ∈ fields, keyProfile f.1 = true) (h : profileFields fields = true)
    (hnul : withoutNulFields fields = true) (location : String) :
    validateItems (toPyItems fields) location = .ok (canonicalItems fields) := by
  match fields with
  | [] => rfl
  | (name, value) :: rest =>
    have hkey := matchesKeyPattern_of_keyProfile (hnames (name, value) List.mem_cons_self)
    rw [profileFields, Bool.and_eq_true] at h
    rw [withoutNulFields, Bool.and_eq_true] at hnul
    rw [toPyItems, validateItems, if_pos hkey, validate_toPy value h.1 hnul.1, Checks.ok_bind_eq,
      validateItems_toPy rest (fun f hf => hnames f (List.mem_cons_of_mem _ hf)) h.2 hnul.2,
      Checks.ok_bind_eq]
    rfl

end

/-- The validation stops at a string with U+0000, wherever it is. -/
def RefusesNul {α : Type} (result : Except String α) : Prop :=
  ∃ location, result =
    .error (location ++ ": U+0000 is outside the PostgreSQL-compatible JSON profile")

theorem RefusesNul.bind {α β : Type} {result : Except String α} {next : α → Except String β}
    (h : RefusesNul result) : RefusesNul (result >>= next) := by
  obtain ⟨location, rfl⟩ := h
  exact ⟨location, rfl⟩

theorem RefusesNul.map {α β : Type} {result : Except String α} {f : α → β}
    (h : RefusesNul result) : RefusesNul (f <$> result) := by
  obtain ⟨location, rfl⟩ := h
  exact ⟨location, rfl⟩

mutual

/-- A value of the profile with U+0000 in one of its strings does not. -/
theorem refusesNul_toPy (v : JsValue) (h : profile v = true) (hnul : withoutNul v = false)
    (location : String) : RefusesNul (validateCanonicalValue (toPy v) location) := by
  match v with
  | .null => cases hnul
  | .bool _ => cases hnul
  | .num _ => cases hnul
  | .str s =>
    rw [withoutNul, decide_eq_false_iff_not, not_not] at hnul
    rw [toPy, validateCanonicalValue, if_pos (zero_mem_codePoints s hnul)]
    exact ⟨location, rfl⟩
  | .arr items =>
    rw [profile] at h
    rw [withoutNul] at hnul
    rw [toPy, validateCanonicalValue]
    exact (refusesNul_toPyElements items h hnul location 0).map
  | .obj fields =>
    rw [profile, Bool.and_eq_true, Bool.and_eq_true, List.all_eq_true] at h
    rw [withoutNul] at hnul
    rw [toPy, validateCanonicalValue]
    exact (refusesNul_toPyItems fields (fun f hf => h.1 f.1 (List.mem_map_of_mem hf)) h.2.2 hnul
      location).map

theorem refusesNul_toPyElements (items : List JsValue) (h : profileItems items = true)
    (hnul : withoutNulItems items = false) (location : String) (index : Nat) :
    RefusesNul (validateElements (toPyElements items) location index) := by
  match items with
  | [] => cases hnul
  | item :: rest =>
    rw [profileItems, Bool.and_eq_true] at h
    rw [withoutNulItems] at hnul
    rw [toPyElements, validateElements]
    by_cases hitem : withoutNul item = true
    · rw [hitem, Bool.true_and] at hnul
      rw [validate_toPy item h.1 hitem, Checks.ok_bind_eq]
      exact (refusesNul_toPyElements rest h.2 hnul location (index + 1)).bind
    · exact (refusesNul_toPy item h.1 (Bool.eq_false_of_not_eq_true hitem) _).bind

theorem refusesNul_toPyItems (fields : List (JsString × JsValue))
    (hnames : ∀ f ∈ fields, keyProfile f.1 = true) (h : profileFields fields = true)
    (hnul : withoutNulFields fields = false) (location : String) :
    RefusesNul (validateItems (toPyItems fields) location) := by
  match fields with
  | [] => cases hnul
  | (name, value) :: rest =>
    have hkey := matchesKeyPattern_of_keyProfile (hnames (name, value) List.mem_cons_self)
    rw [profileFields, Bool.and_eq_true] at h
    rw [withoutNulFields] at hnul
    rw [toPyItems, validateItems, if_pos hkey]
    by_cases hvalue : withoutNul value = true
    · rw [hvalue, Bool.true_and] at hnul
      rw [validate_toPy value h.1 hvalue, Checks.ok_bind_eq]
      exact (refusesNul_toPyItems rest (fun f hf => hnames f (List.mem_cons_of_mem _ hf)) h.2 hnul
        location).bind
    · exact (refusesNul_toPy value h.1 (Bool.eq_false_of_not_eq_true hvalue) _).bind

end

mutual

/-- What is validated is printed alike. -/
theorem dumps_canonicalOf (v : JsValue) (h : profile v = true) :
    dumps (canonicalOf v) = text v := by
  match v with
  | .null => rfl
  | .bool true => rfl
  | .bool false => rfl
  | .num (.ofNat _) => rfl
  | .num (.negSucc _) => rfl
  | .str s =>
    rw [profile] at h
    rw [canonicalOf, dumps, text, encodeString_codePoints h]
  | .arr items =>
    rw [profile] at h
    rw [canonicalOf, dumps, text, dumpsElements_canonical items h]
  | .obj fields =>
    have hnames := profileNames_fieldTexts h
    rw [profile, Bool.and_eq_true, Bool.and_eq_true] at h
    rw [canonicalOf, dumps, text, dumpsItems_canonical fields h.2.2, sortBy_map, List.map_map,
      sortedFields]
    congr 3
    apply List.map_congr_left
    intro f hf
    have hkey := hnames.1 f ((mem_sortBy _).1 hf)
    rw [keyProfile, decide_eq_true_eq] at hkey
    rw [Function.comp_apply, encodeString_codePoints (wellFormed_of_key hkey.2)]

theorem dumpsElements_canonical (items : List JsValue) (h : profileItems items = true) :
    dumpsElements (canonicalElements items) = itemTexts items := by
  match items with
  | [] => rfl
  | item :: rest =>
    rw [profileItems, Bool.and_eq_true] at h
    rw [canonicalElements, dumpsElements, itemTexts, dumps_canonicalOf item h.1,
      dumpsElements_canonical rest h.2]

theorem dumpsItems_canonical (fields : List (JsString × JsValue))
    (h : profileFields fields = true) :
    dumpsItems (canonicalItems fields) =
      (fieldTexts fields).map fun f => (codePoints f.1, f.2) := by
  match fields with
  | [] => rfl
  | (name, value) :: rest =>
    rw [profileFields, Bool.and_eq_true] at h
    rw [canonicalItems, dumpsItems, fieldTexts, List.map_cons, dumps_canonicalOf value h.1,
      dumpsItems_canonical rest h.2]

end

/-! ## All encoders -/

mutual

theorem distinct_of_profile (v : JsValue) (h : profile v = true) : v.distinct = true := by
  match v with
  | .null => rfl
  | .bool _ => rfl
  | .num _ => rfl
  | .str _ => rfl
  | .arr items =>
    rw [profile] at h
    rw [distinct]
    exact distinctItems_of_profile items h
  | .obj fields =>
    rw [profile, Bool.and_eq_true, Bool.and_eq_true, decide_eq_true_iff, List.all_eq_true] at h
    have hpoints : (fields.map fun f => codePoints f.1) =
        (fields.map Prod.fst).map codeUnitValues := by
      rw [List.map_map]
      apply List.map_congr_left
      intro f hf
      exact codePoints_of_keyProfile (h.1 f.1 (List.mem_map_of_mem hf))
    rw [distinct, Bool.and_eq_true, decide_eq_true_iff, hpoints]
    exact ⟨h.2.1.map codeUnitValues_injective, distinctFields_of_profile fields h.2.2⟩

theorem distinctItems_of_profile (items : List JsValue) (h : profileItems items = true) :
    distinctItems items = true := by
  match items with
  | [] => rfl
  | item :: rest =>
    rw [profileItems, Bool.and_eq_true] at h
    rw [distinctItems, distinct_of_profile item h.1, distinctItems_of_profile rest h.2]
    rfl

theorem distinctFields_of_profile (fields : List (JsString × JsValue))
    (h : profileFields fields = true) : distinctFields fields = true := by
  match fields with
  | [] => rfl
  | (name, value) :: rest =>
    rw [profileFields, Bool.and_eq_true] at h
    rw [distinctFields, distinct_of_profile value h.1, distinctFields_of_profile rest h.2]
    rfl

end

mutual

theorem safe_of_profile (v : JsValue) (h : profile v = true) : v.safe = true := by
  match v with
  | .null => rfl
  | .bool _ => rfl
  | .num _ => exact h
  | .str _ => rfl
  | .arr items =>
    rw [profile] at h
    rw [safe]
    exact safeItems_of_profile items h
  | .obj fields =>
    rw [profile, Bool.and_eq_true, Bool.and_eq_true] at h
    rw [safe]
    exact safeFields_of_profile fields h.2.2

theorem safeItems_of_profile (items : List JsValue) (h : profileItems items = true) :
    safeItems items = true := by
  match items with
  | [] => rfl
  | item :: rest =>
    rw [profileItems, Bool.and_eq_true] at h
    rw [safeItems, safe_of_profile item h.1, safeItems_of_profile rest h.2]
    rfl

theorem safeFields_of_profile (fields : List (JsString × JsValue))
    (h : profileFields fields = true) : safeFields fields = true := by
  match fields with
  | [] => rfl
  | (name, value) :: rest =>
    rw [profileFields, Bool.and_eq_true] at h
    rw [safeFields, safe_of_profile value h.1, safeFields_of_profile rest h.2]
    rfl

end

/-- The encoders of the execution edge, the observation edge and the admission store give one text
for every value of the profile, and Python gives its bytes when no string contains U+0000 and raises
otherwise; two values have one text exactly when they are the same up to the order of fields; and
the text is read back as the value, up to that order. -/
theorem canonical_encoders_agree (v w : JsValue) (hv : profile v = true) (hw : profile w = true) :
    (Telemetry.canonicalStringify v = .ok (String.ofList (observationText v)) ∧
      admissionText v = observationText v ∧
      (withoutNul v = true →
        canonicalJsonBytes (toPy v) = .ok (String.ofList (observationText v)).toUTF8) ∧
      (withoutNul v = false → RefusesNul (canonicalJsonBytes (toPy v)))) ∧
    (observationText v = observationText w ↔ Same v w) ∧
    (∃ value, parse (observationText v) = some value ∧ Same v value) := by
  have htext := observationText_eq v hv
  have hdistinct := distinct_of_profile v hv
  refine ⟨⟨?_, ?_, ?_, ?_⟩, ?_, ?_⟩
  · rw [htext, Telemetry.canonicalStringify, if_pos (safe_of_profile v hv)]
  · rw [htext, admissionText_eq v hv]
  · intro hnul
    rw [canonicalJsonBytes, validate_toPy v hv hnul, Checks.ok_bind_eq, dumps_canonicalOf v hv,
      htext]
    rfl
  · intro hnul
    exact (refusesNul_toPy v hv hnul "$").bind
  · rw [htext, observationText_eq w hw]
    exact text_eq_iff_same hdistinct (distinct_of_profile w hw)
  · rw [htext]
    exact ⟨inOrder v, parse_text_inOrder hdistinct, same_inOrder v⟩

/-- Two objects that list the same fields in different orders. -/
theorem canonical_encoders_agree_sample :
    observationText (.obj [(js "b", .num 1), (js "a", .str (js "x"))]) =
      observationText (.obj [(js "a", .str (js "x")), (js "b", .num 1)]) := by
  refine (canonical_encoders_agree _ _ (by decide) (by decide)).2.1.2 ?_
  refine ⟨rfl, ⟨_, List.mem_cons_of_mem _ List.mem_cons_self, rfl⟩,
    ⟨_, List.mem_cons_self, rfl⟩, trivial⟩

/-- A well-formed string with U+0000 is printed by the edges and refused by Python. -/
theorem nul_refused_by_python :
    profile (.str [0]) = true ∧
      Telemetry.canonicalStringify (.str [0]) = .ok (String.ofList (observationText (.str [0]))) ∧
      canonicalJsonBytes (toPy (.str [0])) =
        .error "$: U+0000 is outside the PostgreSQL-compatible JSON profile" := by
  refine ⟨by decide, rfl, rfl⟩

end TradeOps.Canonical
