import TradeOps.Lib.JsOrder

/-!
# The image of the canonical text

The canonical texts among all texts: the parser yields values whose objects have no two fields of
one name, so a text is canonical exactly when it is the canonical text of what is read from it.
-/

namespace JsString

/-- The code units of a code point. -/
def ofCodePoint (n : Nat) : JsString :=
  if n < 0x10000 then [n.toUInt16]
  else [(0xd800 + (n - 0x10000) / 0x400).toUInt16, (0xdc00 + (n - 0x10000) % 0x400).toUInt16]

theorem ofCodePoint_unit (u : UInt16) : ofCodePoint u.toNat = [u] := by
  have hlt := u.toNat_lt
  rw [ofCodePoint, if_pos (by omega), JsValue.toUInt16_toNat]

theorem ofCodePoint_pair {u v : UInt16} (hhigh : isHigh u = true) (hlow : isLow v = true) :
    ofCodePoint (pair u v) = [u, v] := by
  have hu := of_decide_eq_true hhigh
  have hv := of_decide_eq_true hlow
  have hfirst : 0xd800 + (pair u v - 0x10000) / 0x400 = u.toNat := by
    unfold pair
    omega
  have hsecond : 0xdc00 + (pair u v - 0x10000) % 0x400 = v.toNat := by
    unfold pair
    omega
  rw [ofCodePoint, if_neg (by unfold pair; omega), hfirst, hsecond, JsValue.toUInt16_toNat,
    JsValue.toUInt16_toNat]

theorem flatMap_codePoints (s : JsString) : (codePoints s).flatMap ofCodePoint = s := by
  match s with
  | [] => rfl
  | [u] => simp [codePoints, ofCodePoint_unit]
  | u :: v :: rest =>
    rw [codePoints]
    by_cases hpair : (isHigh u && isLow v) = true
    · obtain ⟨hhigh, hlow⟩ := Bool.and_eq_true_iff.mp hpair
      rw [if_pos hpair, List.flatMap_cons, ofCodePoint_pair hhigh hlow, flatMap_codePoints rest]
      rfl
    · rw [if_neg hpair, List.flatMap_cons, ofCodePoint_unit, flatMap_codePoints (v :: rest)]
      rfl

theorem codePoints_injective : Function.Injective codePoints := by
  intro s t h
  rw [← flatMap_codePoints s, h, flatMap_codePoints]

end JsString

namespace JsValue

open SortBy JsString

/-! ## What is read has distinct names -/

/-- Fields of which no two have one name, with values of the same kind. -/
def FieldsDistinct (fields : List (JsString × JsValue)) : Prop :=
  (fields.map Prod.fst).Nodup ∧ ∀ f ∈ fields, f.2.distinct = true

theorem distinct_obj_iff {fields : List (JsString × JsValue)} :
    (JsValue.obj fields).distinct = true ↔ FieldsDistinct fields := by
  have hnames : (fields.map fun f => codePoints f.1).Nodup ↔ (fields.map Prod.fst).Nodup := by
    rw [← List.nodup_map_iff codePoints_injective, List.map_map]
    rfl
  rw [distinct, Bool.and_eq_true_iff, decide_eq_true_eq, hnames, distinctFields_iff]
  rfl

theorem FieldsDistinct.setField {fields : List (JsString × JsValue)} (h : FieldsDistinct fields)
    (name : JsString) {value : JsValue} (hvalue : value.distinct = true) :
    FieldsDistinct (setField fields name value) := by
  unfold JsValue.setField
  by_cases hmem : name ∈ fields.map Prod.fst
  · rw [if_pos hmem]
    constructor
    · have hkeep : (fields.map fun f => if f.1 = name then (name, value) else f).map Prod.fst =
          fields.map Prod.fst := by
        rw [List.map_map]
        apply List.map_congr_left
        intro f _
        dsimp only [Function.comp]
        split_ifs with heq
        · exact heq.symm
        · rfl
      rw [hkeep]
      exact h.1
    · intro f hf
      obtain ⟨g, hg, rfl⟩ := List.mem_map.mp hf
      split_ifs
      · exact hvalue
      · exact h.2 g hg
  · rw [if_neg hmem]
    constructor
    · rw [List.map_append, List.nodup_append]
      refine ⟨h.1, List.nodup_singleton _, ?_⟩
      intro a ha b hb hab
      rw [List.map_singleton, List.mem_singleton] at hb
      rw [hab, hb] at ha
      exact hmem ha
    · intro f hf
      rcases List.mem_append.mp hf with hold | hnew
      · exact h.2 f hold
      · rw [List.mem_singleton.mp hnew]
        exact hvalue

theorem fieldsDistinct_foldl {fields done : List (JsString × JsValue)}
    (hfields : ∀ f ∈ fields, f.2.distinct = true) (hdone : FieldsDistinct done) :
    FieldsDistinct (fields.foldl (fun done f => setField done f.1 f.2) done) := by
  induction fields generalizing done with
  | nil => exact hdone
  | cons f rest ih =>
    apply ih (fun g hg => hfields g (List.mem_cons_of_mem _ hg))
    exact hdone.setField f.1 (hfields f List.mem_cons_self)

theorem distinct_properties {fields : List (JsString × JsValue)}
    (h : distinctFields fields = true) : (JsValue.obj (properties fields)).distinct = true := by
  rw [distinct_obj_iff]
  exact fieldsDistinct_foldl (distinctFields_iff.mp h) ⟨List.nodup_nil, nofun⟩

mutual

/-- The value of a document is distinct, whatever its fields are. -/
theorem distinct_of_toValue (document : Document) {v : JsValue}
    (h : document.toValue = some v) : v.distinct = true := by
  match document with
  | .null =>
    cases h
    rfl
  | .bool _ =>
    cases h
    rfl
  | .str _ =>
    cases h
    rfl
  | .num token =>
    obtain ⟨n, -, rfl⟩ := Option.map_eq_some_iff.mp h
    rfl
  | .arr items =>
    obtain ⟨values, hitems, rfl⟩ := Option.map_eq_some_iff.mp h
    exact distinctItems_of_toItems items hitems
  | .obj fields =>
    obtain ⟨values, hfields, rfl⟩ := Option.map_eq_some_iff.mp h
    exact distinct_properties (distinctFields_of_toFields fields hfields)

theorem distinctItems_of_toItems (items : List Document) {values : List JsValue}
    (h : Document.toItems items = some values) : distinctItems values = true := by
  match items with
  | [] =>
    cases h
    rfl
  | item :: rest =>
    obtain ⟨value, hvalue, h⟩ := Option.bind_eq_some_iff.mp h
    obtain ⟨others, hothers, h⟩ := Option.bind_eq_some_iff.mp h
    cases h
    rw [distinctItems, distinct_of_toValue item hvalue, distinctItems_of_toItems rest hothers]
    rfl

theorem distinctFields_of_toFields (fields : List (JsString × Document))
    {values : List (JsString × JsValue)} (h : Document.toFields fields = some values) :
    distinctFields values = true := by
  match fields with
  | [] =>
    cases h
    rfl
  | (name, document) :: rest =>
    obtain ⟨value, hvalue, h⟩ := Option.bind_eq_some_iff.mp h
    obtain ⟨others, hothers, h⟩ := Option.bind_eq_some_iff.mp h
    cases h
    rw [distinctFields, distinct_of_toValue document hvalue,
      distinctFields_of_toFields rest hothers]
    rfl

end

theorem distinct_of_parse {input : List Char} {v : JsValue} (h : parse input = some v) :
    v.distinct = true := by
  obtain ⟨document, -, hvalue⟩ := Option.bind_eq_some_iff.mp h
  exact distinct_of_toValue document hvalue

/-! ## What the order of fields does not change -/

theorem depthFields_eq (fields : List (JsString × JsValue)) :
    depthFields fields = (fields.map fun f => depth f.2 + 1).foldr max 0 := by
  induction fields with
  | nil => rfl
  | cons f rest ih => rw [depthFields, ih, List.map_cons, List.foldr_cons]

theorem depthFields_perm {fields fields' : List (JsString × JsValue)} (h : fields.Perm fields') :
    depthFields fields = depthFields fields' := by
  rw [depthFields_eq, depthFields_eq]
  exact (h.map _).foldr_eq 0

theorem safeFields_iff {fields : List (JsString × JsValue)} :
    safeFields fields = true ↔ ∀ f ∈ fields, f.2.safe = true := by
  induction fields with
  | nil => simp [safeFields]
  | cons f rest ih => simp [safeFields, ih]

mutual

theorem depth_inOrder (v : JsValue) : depth (inOrder v) = depth v := by
  match v with
  | .null => rfl
  | .bool _ => rfl
  | .num _ => rfl
  | .str _ => rfl
  | .arr items =>
    rw [inOrder, depth, depth]
    exact depthItems_inOrder items
  | .obj fields =>
    rw [inOrder, depth, depth, depthFields_perm (sortBy_perm _ _)]
    exact depthFields_inOrder fields

theorem depthItems_inOrder (items : List JsValue) :
    depthItems (inOrderItems items) = depthItems items := by
  match items with
  | [] => rfl
  | item :: rest =>
    rw [inOrderItems, depthItems, depthItems, depth_inOrder item, depthItems_inOrder rest]

theorem depthFields_inOrder (fields : List (JsString × JsValue)) :
    depthFields (inOrderFields fields) = depthFields fields := by
  match fields with
  | [] => rfl
  | (name, value) :: rest =>
    rw [inOrderFields, depthFields, depthFields, depth_inOrder value, depthFields_inOrder rest]

end

mutual

theorem safe_inOrder (v : JsValue) : safe (inOrder v) = safe v := by
  match v with
  | .null => rfl
  | .bool _ => rfl
  | .num _ => rfl
  | .str _ => rfl
  | .arr items =>
    rw [inOrder, safe, safe]
    exact safeItems_inOrder items
  | .obj fields =>
    rw [inOrder, safe, safe, ← safeFields_inOrder fields, Bool.eq_iff_iff, safeFields_iff,
      safeFields_iff]
    simp only [mem_sortBy]

theorem safeItems_inOrder (items : List JsValue) :
    safeItems (inOrderItems items) = safeItems items := by
  match items with
  | [] => rfl
  | item :: rest =>
    rw [inOrderItems, safeItems, safeItems, safe_inOrder item, safeItems_inOrder rest]

theorem safeFields_inOrder (fields : List (JsString × JsValue)) :
    safeFields (inOrderFields fields) = safeFields fields := by
  match fields with
  | [] => rfl
  | (name, value) :: rest =>
    rw [inOrderFields, safeFields, safeFields, safe_inOrder value, safeFields_inOrder rest]

end

end JsValue
