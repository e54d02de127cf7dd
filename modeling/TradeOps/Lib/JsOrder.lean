import TradeOps.Lib.JsParse

/-!
# Values up to the order of their fields

Two values are the same up to the order of fields when they differ only in how their objects list
their properties. Every value whose objects have distinct names has one representative that lists
them in the order in which they are printed (`inOrder`); the text of a value is the text of its
representative, so two values have one text exactly when they are the same, and the text is read
back as the representative.
-/

namespace SortBy

variable {α β κ : Type} [LinearOrder κ]

theorem sortBy_map (key : β → κ) (f : α → β) (l : List α) :
    sortBy key (l.map f) = (sortBy (fun a => key (f a)) l).map f := by
  unfold sortBy
  exact (List.map_insertionSort _ _ f l (by simp)).symm

theorem sortBy_sortBy (key : α → κ) (l : List α) : sortBy key (sortBy key l) = sortBy key l :=
  sortBy_of_pairwise key (sortBy_pairwise key l)

/-- Keys that order the members of a list alike sort it alike. -/
theorem sortBy_congr {κ' : Type} [LinearOrder κ'] {key : α → κ} {key' : α → κ'} {l : List α}
    (h : ∀ a ∈ l, ∀ b ∈ l, key a ≤ key b ↔ key' a ≤ key' b) : sortBy key l = sortBy key' l := by
  have hmap := List.map_insertionSort (fun a b => key a ≤ key b) (fun a b => key' a ≤ key' b) id l
    (by simpa using h)
  simpa [sortBy] using hmap

end SortBy

namespace JsValue

open SortBy JsString

mutual

/-- Every object lists its fields in the order in which they are printed. -/
def inOrder : JsValue → JsValue
  | .arr items => .arr (inOrderItems items)
  | .obj fields => .obj (sortBy (fun f => codePoints f.1) (inOrderFields fields))
  | value => value

def inOrderItems : List JsValue → List JsValue
  | [] => []
  | item :: rest => inOrder item :: inOrderItems rest

def inOrderFields : List (JsString × JsValue) → List (JsString × JsValue)
  | [] => []
  | (name, value) :: rest => (name, inOrder value) :: inOrderFields rest

end

mutual

/-- No object has two fields of one name. -/
def distinct : JsValue → Bool
  | .arr items => distinctItems items
  | .obj fields => (fields.map fun f => codePoints f.1).Nodup && distinctFields fields
  | _ => true

def distinctItems : List JsValue → Bool
  | [] => true
  | item :: rest => distinct item && distinctItems rest

def distinctFields : List (JsString × JsValue) → Bool
  | [] => true
  | (_, value) :: rest => distinct value && distinctFields rest

end

mutual

/-- The values differ only in the order of the fields of their objects. -/
def Same : JsValue → JsValue → Prop
  | .arr items, .arr items' => SameItems items items'
  | .obj fields, .obj fields' => fields.length = fields'.length ∧ SameFields fields fields'
  | value, value' => value = value'

def SameItems : List JsValue → List JsValue → Prop
  | [], [] => True
  | item :: rest, item' :: rest' => Same item item' ∧ SameItems rest rest'
  | _, _ => False

/-- Every field of the first list has its counterpart in the second. -/
def SameFields : List (JsString × JsValue) → List (JsString × JsValue) → Prop
  | [], _ => True
  | (name, value) :: rest, fields' =>
    (∃ value', (name, value') ∈ fields' ∧ Same value value') ∧ SameFields rest fields'

end

theorem inOrderFields_eq (fields : List (JsString × JsValue)) :
    inOrderFields fields = fields.map fun f => (f.1, inOrder f.2) := by
  induction fields with
  | nil => rfl
  | cons f rest ih => rw [inOrderFields, ih, List.map_cons]

theorem distinctFields_iff {fields : List (JsString × JsValue)} :
    distinctFields fields = true ↔ ∀ f ∈ fields, f.2.distinct = true := by
  induction fields with
  | nil => simp [distinctFields]
  | cons f rest ih => simp [distinctFields, ih]

theorem orderedFields_iff {fields : List (JsString × JsValue)} :
    orderedFields fields = true ↔ ∀ f ∈ fields, f.2.ordered = true := by
  induction fields with
  | nil => simp [orderedFields]
  | cons f rest ih => simp [orderedFields, ih]

/-! ## The representative is ordered -/

/-- Distinct names, sorted, ascend. -/
theorem namesOrdered_sortBy {fields : List (JsString × JsValue)}
    (h : (fields.map fun f => codePoints f.1).Nodup) :
    namesOrdered ((sortBy (fun f => codePoints f.1) fields).map Prod.fst) = true := by
  have hnodup : ((sortBy (fun f => codePoints f.1) fields).map fun f => codePoints f.1).Nodup :=
    (((sortBy_perm _ fields).map _).nodup_iff).2 h
  have hsorted := sortBy_pairwise (fun f : JsString × JsValue => codePoints f.1) fields
  rw [namesOrdered, decide_eq_true_iff]
  apply List.Pairwise.isChain
  rw [List.pairwise_map]
  rw [List.Nodup, List.pairwise_map] at hnodup
  exact (hsorted.and hnodup).imp fun h => lt_of_le_of_ne h.1 h.2

mutual

theorem ordered_inOrder (v : JsValue) (h : v.distinct = true) : (inOrder v).ordered = true := by
  match v with
  | .null => rfl
  | .bool _ => rfl
  | .num _ => rfl
  | .str _ => rfl
  | .arr items =>
    rw [distinct] at h
    rw [inOrder, ordered]
    exact orderedItems_inOrder items h
  | .obj fields =>
    rw [distinct, Bool.and_eq_true, decide_eq_true_iff] at h
    have hnames : ((inOrderFields fields).map fun f => codePoints f.1).Nodup := by
      rw [inOrderFields_eq, List.map_map]
      exact h.1
    have hfields := orderedFields_inOrder fields h.2
    rw [orderedFields_iff] at hfields
    rw [inOrder, ordered, Bool.and_eq_true, orderedFields_iff]
    refine ⟨namesOrdered_sortBy hnames, ?_⟩
    intro f hf
    exact hfields f ((mem_sortBy _).1 hf)

theorem orderedItems_inOrder (items : List JsValue) (h : distinctItems items = true) :
    orderedItems (inOrderItems items) = true := by
  match items with
  | [] => rfl
  | item :: rest =>
    rw [distinctItems, Bool.and_eq_true] at h
    rw [inOrderItems, orderedItems, ordered_inOrder item h.1, orderedItems_inOrder rest h.2]
    rfl

theorem orderedFields_inOrder (fields : List (JsString × JsValue))
    (h : distinctFields fields = true) : orderedFields (inOrderFields fields) = true := by
  match fields with
  | [] => rfl
  | (name, value) :: rest =>
    rw [distinctFields, Bool.and_eq_true] at h
    rw [inOrderFields, orderedFields, ordered_inOrder value h.1, orderedFields_inOrder rest h.2]
    rfl

end

/-! ## The representative has the text of the value -/

theorem sortedFields_sortBy (fields : List (JsString × JsValue)) :
    sortedFields (fieldTexts (sortBy (fun f => codePoints f.1) fields)) =
      sortedFields (fieldTexts fields) := by
  rw [sortedFields, sortedFields, fieldTexts_eq, fieldTexts_eq, sortBy_map, sortBy_map,
    sortBy_sortBy]

mutual

theorem text_inOrder (v : JsValue) : text (inOrder v) = text v := by
  match v with
  | .null => rfl
  | .bool _ => rfl
  | .num _ => rfl
  | .str _ => rfl
  | .arr items => rw [inOrder, text, text, itemTexts_inOrder items]
  | .obj fields =>
    rw [inOrder, text, text, sortedFields_sortBy, fieldTexts_inOrder fields]

theorem itemTexts_inOrder (items : List JsValue) :
    itemTexts (inOrderItems items) = itemTexts items := by
  match items with
  | [] => rfl
  | item :: rest =>
    rw [inOrderItems, itemTexts, itemTexts, text_inOrder item, itemTexts_inOrder rest]

theorem fieldTexts_inOrder (fields : List (JsString × JsValue)) :
    fieldTexts (inOrderFields fields) = fieldTexts fields := by
  match fields with
  | [] => rfl
  | (name, value) :: rest =>
    rw [inOrderFields, fieldTexts, fieldTexts, text_inOrder value, fieldTexts_inOrder rest]

end

/-- The text of a value is read back as its representative. -/
theorem parse_text_inOrder {v : JsValue} (h : v.distinct = true) :
    parse (text v) = some (inOrder v) := by
  rw [← text_inOrder v]
  exact parse_text (ordered_inOrder v h)

theorem text_eq_iff {v w : JsValue} (hv : v.distinct = true) (hw : w.distinct = true) :
    text v = text w ↔ inOrder v = inOrder w := by
  refine ⟨?_, ?_⟩
  · intro h
    rw [← text_inOrder v, ← text_inOrder w] at h
    exact text_injective (ordered_inOrder v hv) (ordered_inOrder w hw) h
  · intro h
    rw [← text_inOrder v, ← text_inOrder w, h]

/-! ## Values with one representative are the same -/

mutual

theorem same_of_inOrder_eq (v w : JsValue) (h : inOrder v = inOrder w) : Same v w := by
  match v, w with
  | .null, w => cases w <;> simp_all [inOrder, Same]
  | .bool _, w => cases w <;> simp_all [inOrder, Same]
  | .num _, w => cases w <;> simp_all [inOrder, Same]
  | .str _, w => cases w <;> simp_all [inOrder, Same]
  | .arr items, .arr items' =>
    rw [inOrder, inOrder, JsValue.arr.injEq] at h
    rw [Same]
    exact sameItems_of_inOrder_eq items items' h
  | .arr _, .null => cases h
  | .arr _, .bool _ => cases h
  | .arr _, .num _ => cases h
  | .arr _, .str _ => cases h
  | .arr _, .obj _ => cases h
  | .obj fields, .obj fields' =>
    rw [inOrder, inOrder, JsValue.obj.injEq] at h
    have hsorted := sortBy_perm (fun f => codePoints f.1) (inOrderFields fields')
    rw [← h] at hsorted
    have hperm : (inOrderFields fields).Perm (inOrderFields fields') :=
      (sortBy_perm _ _).symm.trans hsorted
    have hlength := hperm.length_eq
    rw [inOrderFields_eq, inOrderFields_eq, List.length_map, List.length_map] at hlength
    rw [Same]
    exact ⟨hlength, sameFields_of_inOrder fields fields' fun f hf => (hperm.mem_iff).1 hf⟩
  | .obj _, .null => cases h
  | .obj _, .bool _ => cases h
  | .obj _, .num _ => cases h
  | .obj _, .str _ => cases h
  | .obj _, .arr _ => cases h

theorem sameItems_of_inOrder_eq (items items' : List JsValue)
    (h : inOrderItems items = inOrderItems items') : SameItems items items' := by
  match items, items' with
  | [], [] => trivial
  | [], _ :: _ => cases h
  | _ :: _, [] => cases h
  | item :: rest, item' :: rest' =>
    rw [inOrderItems, inOrderItems, List.cons.injEq] at h
    exact ⟨same_of_inOrder_eq item item' h.1, sameItems_of_inOrder_eq rest rest' h.2⟩

theorem sameFields_of_inOrder (fields fields' : List (JsString × JsValue))
    (h : ∀ f ∈ inOrderFields fields, f ∈ inOrderFields fields') : SameFields fields fields' := by
  match fields with
  | [] => trivial
  | (name, value) :: rest =>
    rw [inOrderFields] at h
    have hfirst := h _ List.mem_cons_self
    rw [inOrderFields_eq, List.mem_map] at hfirst
    obtain ⟨⟨name', value'⟩, hmem, heq⟩ := hfirst
    rw [Prod.mk.injEq] at heq
    obtain ⟨rfl, hvalue⟩ := heq
    exact ⟨⟨value', hmem, same_of_inOrder_eq value value' hvalue.symm⟩,
      sameFields_of_inOrder rest fields' fun f hf => h f (List.mem_cons_of_mem _ hf)⟩

end

mutual

theorem inOrder_eq_of_same (v w : JsValue) (hv : v.distinct = true) (hw : w.distinct = true)
    (h : Same v w) : inOrder v = inOrder w := by
  match v, w with
  | .null, w => cases w <;> simp_all [Same]
  | .bool _, w => cases w <;> simp_all [Same]
  | .num _, w => cases w <;> simp_all [Same]
  | .str _, w => cases w <;> simp_all [Same]
  | .arr items, .arr items' =>
    rw [distinct] at hv hw
    rw [Same] at h
    rw [inOrder, inOrder, inOrderItems_eq_of_same items items' hv hw h]
  | .arr _, .null => simp [Same] at h
  | .arr _, .bool _ => simp [Same] at h
  | .arr _, .num _ => simp [Same] at h
  | .arr _, .str _ => simp [Same] at h
  | .arr _, .obj _ => simp [Same] at h
  | .obj fields, .obj fields' =>
    rw [distinct, Bool.and_eq_true, decide_eq_true_iff] at hv hw
    rw [Same] at h
    have hsubset := inOrderFields_subset_of_same fields fields' hv.2 hw.2 h.2
    have hnames : ∀ fs : List (JsString × JsValue), (fs.map fun f => codePoints f.1).Nodup →
        ((inOrderFields fs).map fun f => codePoints f.1).Nodup := by
      intro fs hfs
      rw [inOrderFields_eq, List.map_map]
      exact hfs
    have hlength : (inOrderFields fields').length ≤ (inOrderFields fields).length := by
      rw [inOrderFields_eq, inOrderFields_eq, List.length_map, List.length_map, h.1]
    have hnodup := (hnames fields hv.1).of_map
    have hperm := (List.subperm_of_subset hnodup hsubset).perm_of_length_le hlength
    rw [inOrder, inOrder, JsValue.obj.injEq]
    refine sortBy_eq_of_mem_iff _ hnodup (hnames fields' hw.1).of_map ?_ fun f => hperm.mem_iff
    intro f hf g hg hfg
    exact List.inj_on_of_nodup_map (hnames fields hv.1) hf hg hfg
  | .obj _, .null => simp [Same] at h
  | .obj _, .bool _ => simp [Same] at h
  | .obj _, .num _ => simp [Same] at h
  | .obj _, .str _ => simp [Same] at h
  | .obj _, .arr _ => simp [Same] at h

theorem inOrderItems_eq_of_same (items items' : List JsValue) (hv : distinctItems items = true)
    (hw : distinctItems items' = true) (h : SameItems items items') :
    inOrderItems items = inOrderItems items' := by
  match items, items' with
  | [], [] => rfl
  | [], _ :: _ => exact absurd h id
  | _ :: _, [] => exact absurd h id
  | item :: rest, item' :: rest' =>
    rw [distinctItems, Bool.and_eq_true] at hv hw
    rw [inOrderItems, inOrderItems, inOrder_eq_of_same item item' hv.1 hw.1 h.1,
      inOrderItems_eq_of_same rest rest' hv.2 hw.2 h.2]

theorem inOrderFields_subset_of_same (fields fields' : List (JsString × JsValue))
    (hv : distinctFields fields = true) (hw : distinctFields fields' = true)
    (h : SameFields fields fields') : inOrderFields fields ⊆ inOrderFields fields' := by
  match fields with
  | [] => exact List.nil_subset _
  | (name, value) :: rest =>
    rw [distinctFields, Bool.and_eq_true] at hv
    obtain ⟨⟨value', hmem, hsame⟩, hrest⟩ := h
    have hvalue := inOrder_eq_of_same value value' hv.1 (distinctFields_iff.1 hw _ hmem) hsame
    rw [inOrderFields, List.cons_subset]
    refine ⟨?_, inOrderFields_subset_of_same rest fields' hv.2 hw hrest⟩
    rw [inOrderFields_eq, List.mem_map]
    exact ⟨(name, value'), hmem, by rw [hvalue]⟩

end

/-- Two values have one text exactly when they are the same up to the order of fields. -/
theorem text_eq_iff_same {v w : JsValue} (hv : v.distinct = true) (hw : w.distinct = true) :
    text v = text w ↔ Same v w := by
  rw [text_eq_iff hv hw]
  exact ⟨same_of_inOrder_eq v w, inOrder_eq_of_same v w hv hw⟩

mutual

theorem inOrder_inOrder (v : JsValue) : inOrder (inOrder v) = inOrder v := by
  match v with
  | .null => rfl
  | .bool _ => rfl
  | .num _ => rfl
  | .str _ => rfl
  | .arr items => rw [inOrder, inOrder, inOrderItems_inOrder items]
  | .obj fields =>
    have hcommutes : inOrderFields (sortBy (fun f => codePoints f.1) (inOrderFields fields)) =
        sortBy (fun f => codePoints f.1) (inOrderFields (inOrderFields fields)) := by
      rw [inOrderFields_eq, inOrderFields_eq (inOrderFields fields), sortBy_map]
    rw [inOrder, inOrder, hcommutes, inOrderFields_inOrder fields, sortBy_sortBy]

theorem inOrderItems_inOrder (items : List JsValue) :
    inOrderItems (inOrderItems items) = inOrderItems items := by
  match items with
  | [] => rfl
  | item :: rest =>
    rw [inOrderItems, inOrderItems, inOrder_inOrder item, inOrderItems_inOrder rest]

theorem inOrderFields_inOrder (fields : List (JsString × JsValue)) :
    inOrderFields (inOrderFields fields) = inOrderFields fields := by
  match fields with
  | [] => rfl
  | (name, value) :: rest =>
    rw [inOrderFields, inOrderFields, inOrder_inOrder value, inOrderFields_inOrder rest]

end

/-- What is read back is the same as the value. -/
theorem same_inOrder (v : JsValue) : Same v (inOrder v) :=
  same_of_inOrder_eq v _ (inOrder_inOrder v).symm

end JsValue
