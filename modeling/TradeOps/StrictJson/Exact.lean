import TradeOps.StrictJson.Sound

/-!
# What the strict parser accepts

The converse of `parseValue_reads`: a text of a value within the limits is parsed to it
(`descent_spells`). A string with an unpaired surrogate before its last code unit is refused; behind
the last one the check does not look.
-/

namespace TradeOps.StrictJson

open Checks JsString JsValue

/-! ## A text of a value is parsed to it -/

section Completeness

theorem isNumber_head {raw : List Char} (h : IsNumber raw) :
    ∃ ch tail, raw = ch :: tail ∧ startsNumber ch = true := by
  obtain ⟨minus, integer, fraction, exponent, hminus, hinteger, -, -, rfl⟩ := h
  rcases hminus with rfl | rfl
  · rcases hinteger with rfl | ⟨ch, digits, hlow, hhigh, -, rfl⟩
    · exact ⟨'0', _, rfl, by decide⟩
    · exact ⟨ch, _, rfl, by simp [startsNumber, isDigit_of_range ⟨hlow, hhigh⟩]⟩
  · exact ⟨'-', _, rfl, by decide⟩

/-- A text of a value starts with a character that is neither white space nor a closing bracket. -/
theorem spells_head {value : StrictJsonValue} {text : List Char} (h : Spells value text) :
    ∃ ch tail, text = ch :: tail ∧ isSpace ch = false ∧ ch ≠ ']' := by
  cases value with
  | null => exact ⟨'n', _, h, by decide⟩
  | bool value => cases value <;> exact ⟨_, _, h, by decide⟩
  | str s =>
    obtain ⟨body, -, rfl⟩ := h
    exact ⟨'"', _, rfl, by decide⟩
  | num token =>
    obtain ⟨htoken, rfl⟩ := h
    obtain ⟨ch, tail, hraw, hch⟩ := isNumber_head htoken.number
    refine ⟨ch, tail, hraw, (startsNumber_ne hch).1, ?_⟩
    rintro rfl
    exact absurd hch (by decide)
  | arr items =>
    obtain ⟨body, -, rfl⟩ := h
    exact ⟨'[', _, rfl, by decide⟩
  | obj fields =>
    obtain ⟨body, -, rfl⟩ := h
    exact ⟨'\x7b', _, rfl, by decide⟩

theorem skipSpace_spells {value : StrictJsonValue} {text : List Char} (h : Spells value text)
    (rest : List Char) : skipSpace (text ++ rest) = text ++ rest := by
  obtain ⟨ch, tail, rfl, hspace, -⟩ := spells_head h
  exact skipSpace_cons hspace

/-- What may follow a value: white space and then a delimiter. -/
theorem ends_ws {ws rest : List Char} (hws : Ws ws) (h : Ends rest) : Ends (ws ++ rest) := by
  cases ws with
  | nil => exact h
  | cons ch ws =>
    rintro _ ⟨⟩
    have hch := hws ch List.mem_cons_self
    simp [endsToken, hch]

theorem ends_delimiter {ch : Char} {rest : List Char} (h : endsToken ch = true) :
    Ends (ch :: rest) := by
  rintro _ ⟨⟩
  exact h

variable {fuel deep nodes : Nat}

theorem consumeLiteral_append (literal : String) (rest : List Char) :
    consumeLiteral literal (literal.toList ++ rest) = some rest := by
  rw [consumeLiteral, if_pos (List.prefix_append _ _), List.drop_left]

theorem consumeLiteral_none {literal : String} {first ch : Char} {rest : List Char}
    (hliteral : literal.toList.head? = some first) (h : first ≠ ch) :
    consumeLiteral literal (ch :: rest) = none := by
  rw [consumeLiteral, if_neg]
  rintro ⟨tail, heq⟩
  cases hl : literal.toList with
  | nil =>
    rw [hl] at hliteral
    cases hliteral
  | cons l letters =>
    rw [hl] at hliteral heq
    cases hliteral
    exact h (List.cons.inj heq).1

theorem failIf_of_not {bad : Prop} [Decidable bad] {error : StrictJsonError} (h : ¬ bad) :
    failIf bad error = .ok () :=
  failIf_ok_iff.2 h

/-- A value that is no container and no string is a literal or a number. -/
theorem parseValue_default {ch : Char} {rest : List Char} (hdeep : ¬ deep > maxDepth)
    (hnodes : ¬ nodes + 1 > maxNodes) (hquote : ch ≠ '"') (hbracket : ch ≠ '[')
    (hbrace : ch ≠ '\x7b') :
    parseValue (fuel + 1) deep nodes (ch :: rest) =
      (match consumeLiteral "true" (ch :: rest) with
      | some rest => .ok ⟨.bool true, rest, nodes + 1⟩
      | none => (match consumeLiteral "false" (ch :: rest) with
        | some rest => .ok ⟨.bool false, rest, nodes + 1⟩
        | none => (match consumeLiteral "null" (ch :: rest) with
          | some rest => .ok ⟨.null, rest, nodes + 1⟩
          | none => (parseNumber (ch :: rest)).bind fun p => .ok ⟨.num p.1, p.2, nodes + 1⟩))) := by
  rw [parseValue.eq_def]
  simp only [failIf_of_not hdeep, failIf_of_not hnodes, ok_bind_eq]
  split
  · rename_i heq
    exact absurd (List.cons.inj heq).1 hbrace
  · rename_i heq
    exact absurd (List.cons.inj heq).1 hbracket
  · rename_i heq
    exact absurd (List.cons.inj heq).1 hquote
  · rfl

theorem parseValue_number {ch : Char} {rest rest' : List Char} {token : StrictJsonNumber}
    (hch : startsNumber ch = true) (hdeep : ¬ deep > maxDepth) (hnodes : ¬ nodes + 1 > maxNodes)
    (h : parseNumber (ch :: rest) = .ok (token, rest')) :
    parseValue (fuel + 1) deep nodes (ch :: rest) = .ok ⟨.num token, rest', nodes + 1⟩ := by
  obtain ⟨-, hn, ht, hf, hquote, hbracket, hbrace⟩ := startsNumber_ne hch
  have htrue : consumeLiteral "true" (ch :: rest) = none := consumeLiteral_none rfl (Ne.symm ht)
  have hfalse : consumeLiteral "false" (ch :: rest) = none := consumeLiteral_none rfl (Ne.symm hf)
  have hnull : consumeLiteral "null" (ch :: rest) = none := consumeLiteral_none rfl (Ne.symm hn)
  rw [parseValue_default hdeep hnodes hquote hbracket hbrace]
  simp only [htrue, hfalse, hnull, h]
  rfl

theorem parseValue_null (rest : List Char) (hdeep : ¬ deep > maxDepth)
    (hnodes : ¬ nodes + 1 > maxNodes) :
    parseValue (fuel + 1) deep nodes ("null".toList ++ rest) = .ok ⟨.null, rest, nodes + 1⟩ := by
  have htrue : consumeLiteral "true" ('n' :: ("ull".toList ++ rest)) = none :=
    consumeLiteral_none rfl (show 't' ≠ 'n' by decide)
  have hfalse : consumeLiteral "false" ('n' :: ("ull".toList ++ rest)) = none :=
    consumeLiteral_none rfl (show 'f' ≠ 'n' by decide)
  have hnull : consumeLiteral "null" ('n' :: ("ull".toList ++ rest)) = some rest :=
    consumeLiteral_append "null" rest
  show parseValue (fuel + 1) deep nodes ('n' :: ("ull".toList ++ rest)) = _
  rw [parseValue_default hdeep hnodes (by decide) (by decide) (by decide)]
  simp only [htrue, hfalse, hnull]

theorem parseValue_true (rest : List Char) (hdeep : ¬ deep > maxDepth)
    (hnodes : ¬ nodes + 1 > maxNodes) :
    parseValue (fuel + 1) deep nodes ("true".toList ++ rest) =
      .ok ⟨.bool true, rest, nodes + 1⟩ := by
  have htrue : consumeLiteral "true" ('t' :: ("rue".toList ++ rest)) = some rest :=
    consumeLiteral_append "true" rest
  show parseValue (fuel + 1) deep nodes ('t' :: ("rue".toList ++ rest)) = _
  rw [parseValue_default hdeep hnodes (by decide) (by decide) (by decide)]
  simp only [htrue]

theorem parseValue_false (rest : List Char) (hdeep : ¬ deep > maxDepth)
    (hnodes : ¬ nodes + 1 > maxNodes) :
    parseValue (fuel + 1) deep nodes ("false".toList ++ rest) =
      .ok ⟨.bool false, rest, nodes + 1⟩ := by
  have htrue : consumeLiteral "true" ('f' :: ("alse".toList ++ rest)) = none :=
    consumeLiteral_none rfl (show 't' ≠ 'f' by decide)
  have hfalse : consumeLiteral "false" ('f' :: ("alse".toList ++ rest)) = some rest :=
    consumeLiteral_append "false" rest
  show parseValue (fuel + 1) deep nodes ('f' :: ("alse".toList ++ rest)) = _
  rw [parseValue_default hdeep hnodes (by decide) (by decide) (by decide)]
  simp only [htrue, hfalse]

theorem parseValue_str {s : JsString} {input rest : List Char} (hdeep : ¬ deep > maxDepth)
    (hnodes : ¬ nodes + 1 > maxNodes) (h : parseStringToken input = .ok (s, rest)) :
    parseValue (fuel + 1) deep nodes ('"' :: input) = .ok ⟨.str s, rest, nodes + 1⟩ := by
  rw [parseValue.eq_def]
  simp only [failIf_of_not hdeep, failIf_of_not hnodes, ok_bind_eq, h]
  rfl

theorem parseValue_arr_nil {input rest : List Char} (hdeep : ¬ deep > maxDepth)
    (hnodes : ¬ nodes + 1 > maxNodes) (h : skipSpace input = ']' :: rest) :
    parseValue (fuel + 1) deep nodes ('[' :: input) = .ok ⟨.arr [], rest, nodes + 1⟩ := by
  rw [parseValue.eq_def]
  simp only [failIf_of_not hdeep, failIf_of_not hnodes, ok_bind_eq, h]
  rfl

theorem parseValue_arr {input : List Char} (hdeep : ¬ deep > maxDepth)
    (hnodes : ¬ nodes + 1 > maxNodes) (h : (skipSpace input).head? ≠ some ']') :
    parseValue (fuel + 1) deep nodes ('[' :: input) =
      parseArray fuel (deep + 1) (nodes + 1) [] (skipSpace input) := by
  rw [parseValue.eq_def]
  simp only [failIf_of_not hdeep, failIf_of_not hnodes, ok_bind_eq]
  split
  · rename_i heq
    rw [heq] at h
    exact absurd rfl h
  · rfl

theorem parseValue_obj_nil {input rest : List Char} (hdeep : ¬ deep > maxDepth)
    (hnodes : ¬ nodes + 1 > maxNodes) (h : skipSpace input = '\x7d' :: rest) :
    parseValue (fuel + 1) deep nodes ('\x7b' :: input) = .ok ⟨.obj [], rest, nodes + 1⟩ := by
  rw [parseValue.eq_def]
  simp only [failIf_of_not hdeep, failIf_of_not hnodes, ok_bind_eq, h]
  rfl

theorem parseValue_obj {input : List Char} (hdeep : ¬ deep > maxDepth)
    (hnodes : ¬ nodes + 1 > maxNodes) (h : (skipSpace input).head? ≠ some '\x7d') :
    parseValue (fuel + 1) deep nodes ('\x7b' :: input) =
      parseObject fuel (deep + 1) (nodes + 1) [] (skipSpace input) := by
  rw [parseValue.eq_def]
  simp only [failIf_of_not hdeep, failIf_of_not hnodes, ok_bind_eq]
  split
  · rename_i heq
    rw [heq] at h
    exact absurd rfl h
  · rfl

/-- The budgets that are left suffice for a value. -/
structure Fits (deep nodes : Nat) (value : StrictJsonValue) : Prop where
  depth : deep + depth value ≤ maxDepth
  nodes : nodes + (subvalues value).length ≤ maxNodes
  own : ∀ inner ∈ subvalues value, OwnOk inner

/-- They suffice for the items that follow. -/
structure FitsItems (deep nodes : Nat) (items : List StrictJsonValue) : Prop where
  depth : ∀ item ∈ items, deep + StrictJson.depth item ≤ maxDepth
  nodes : nodes + (subvaluesItems items).length ≤ maxNodes
  own : ∀ inner ∈ subvaluesItems items, OwnOk inner

/-- They suffice for the fields that follow. -/
structure FitsFields (deep nodes : Nat) (fields : List (JsString × StrictJsonValue)) : Prop where
  depth : ∀ field ∈ fields, deep + StrictJson.depth field.2 ≤ maxDepth
  nodes : nodes + (subvaluesFields fields).length ≤ maxNodes
  own : ∀ inner ∈ subvaluesFields fields, OwnOk inner
  paired : ∀ s ∈ fields.map Prod.fst, hasUnpairedSurrogate s = false

theorem length_subvalues_pos (value : StrictJsonValue) : 0 < (subvalues value).length := by
  cases value <;> exact Nat.succ_pos _

theorem Fits.not_deep {value : StrictJsonValue} (h : Fits deep nodes value) :
    ¬ deep > maxDepth := by
  have := h.depth
  omega

theorem Fits.not_many {value : StrictJsonValue} (h : Fits deep nodes value) :
    ¬ nodes + 1 > maxNodes := by
  have := h.nodes
  have := length_subvalues_pos value
  omega

theorem Fits.items {items : List StrictJsonValue} (h : Fits deep nodes (.arr items)) :
    FitsItems (deep + 1) (nodes + 1) items := by
  have hdepth : depthItems items ≤ maxDepth - deep := Nat.le_sub_of_add_le' h.depth
  have hdeep := h.not_deep
  refine ⟨?_, ?_, ?_⟩
  · intro item hitem
    have := depthItems_le_iff.1 hdepth item hitem
    omega
  · have hnodes := h.nodes
    rw [subvalues, List.length_cons] at hnodes
    omega
  · exact fun inner hinner => h.own inner (List.mem_cons_of_mem _ hinner)

theorem Fits.fields {fields : List (JsString × StrictJsonValue)}
    (h : Fits deep nodes (.obj fields)) : FitsFields (deep + 1) (nodes + 1) fields := by
  have hdepth : depthFields fields ≤ maxDepth - deep := Nat.le_sub_of_add_le' h.depth
  have hdeep := h.not_deep
  refine ⟨?_, ?_, ?_, ?_⟩
  · intro field hfield
    have := depthFields_le_iff.1 hdepth field hfield
    omega
  · have hnodes := h.nodes
    rw [subvalues, List.length_cons] at hnodes
    omega
  · exact fun inner hinner => h.own inner (List.mem_cons_of_mem _ hinner)
  · exact (h.own _ List.mem_cons_self).2

theorem FitsItems.head {item : StrictJsonValue} {items : List StrictJsonValue}
    (h : FitsItems deep nodes (item :: items)) : Fits deep nodes item := by
  have hnodes := h.nodes
  rw [subvaluesItems, List.length_append] at hnodes
  exact ⟨h.depth item List.mem_cons_self, by omega,
    fun inner hinner => h.own inner (List.mem_append_left _ hinner)⟩

theorem FitsItems.tail {item : StrictJsonValue} {items : List StrictJsonValue}
    (h : FitsItems deep nodes (item :: items)) :
    FitsItems deep (nodes + (subvalues item).length) items := by
  have hnodes := h.nodes
  rw [subvaluesItems, List.length_append] at hnodes
  exact ⟨fun other hother => h.depth other (List.mem_cons_of_mem _ hother), by omega,
    fun inner hinner => h.own inner (List.mem_append_right _ hinner)⟩

theorem FitsFields.head {name : JsString} {value : StrictJsonValue}
    {fields : List (JsString × StrictJsonValue)}
    (h : FitsFields deep nodes ((name, value) :: fields)) : Fits deep nodes value := by
  have hnodes := h.nodes
  rw [subvaluesFields, List.length_append] at hnodes
  exact ⟨h.depth _ List.mem_cons_self, by omega,
    fun inner hinner => h.own inner (List.mem_append_left _ hinner)⟩

theorem FitsFields.tail {name : JsString} {value : StrictJsonValue}
    {fields : List (JsString × StrictJsonValue)}
    (h : FitsFields deep nodes ((name, value) :: fields)) :
    FitsFields deep (nodes + (subvalues value).length) fields := by
  have hnodes := h.nodes
  rw [subvaluesFields, List.length_append] at hnodes
  exact ⟨fun other hother => h.depth other (List.mem_cons_of_mem _ hother), by omega,
    fun inner hinner => h.own inner (List.mem_append_right _ hinner),
    fun s hs => h.paired s (List.mem_cons_of_mem _ hs)⟩

/-- The descent with some fuel parses the texts that are no longer than it can. -/
structure DescentSpells (fuel : Nat) : Prop where
  value : ∀ deep nodes value text rest, Spells value text → Ends rest → 2 * text.length ≤ fuel →
    Fits deep nodes value → parseValue fuel deep nodes (text ++ rest) =
      .ok ⟨value, rest, nodes + (subvalues value).length⟩
  array : ∀ deep nodes done items body rest, items ≠ [] → SpellsItems items body →
    2 * body.length + 1 ≤ fuel → FitsItems deep nodes items →
    parseArray fuel deep nodes done (skipSpace (body ++ ']' :: rest)) =
      .ok ⟨.arr (done ++ items), rest, nodes + (subvaluesItems items).length⟩
  object : ∀ deep nodes done fields body rest, fields ≠ [] → SpellsFields fields body →
    2 * body.length + 1 ≤ fuel → FitsFields deep nodes fields →
    ((done ++ fields).map Prod.fst).Nodup →
    parseObject fuel deep nodes done (skipSpace (body ++ '\x7d' :: rest)) =
      .ok ⟨.obj (done ++ fields), rest, nodes + (subvaluesFields fields).length⟩

theorem DescentSpells.array_succ (h : DescentSpells fuel) {done items : List StrictJsonValue}
    {body rest : List Char} (hitems : items ≠ []) (hbody : SpellsItems items body)
    (hfuel : 2 * body.length + 1 ≤ fuel + 1) (hfits : FitsItems deep nodes items) :
    parseArray (fuel + 1) deep nodes done (skipSpace (body ++ ']' :: rest)) =
      .ok ⟨.arr (done ++ items), rest, nodes + (subvaluesItems items).length⟩ := by
  cases items with
  | nil => exact absurd rfl hitems
  | cons item items =>
    obtain ⟨before, text, after, tail, hbefore, htext, hafter, rfl, htail⟩ := hbody
    simp only [List.length_append] at hfuel
    have hpos : 0 < text.length := by
      obtain ⟨ch, tail, rfl, -⟩ := spells_head htext
      exact Nat.succ_pos _
    have hne : text ++ (after ++ (tail ++ ']' :: rest)) ≠ [] := by
      rintro heq
      rw [(List.append_eq_nil_iff.1 heq).1] at hpos
      exact absurd hpos (by decide)
    have hitem : Ends (after ++ (tail ++ ']' :: rest)) → parseValue fuel deep nodes
        (text ++ (after ++ (tail ++ ']' :: rest))) =
          .ok ⟨item, after ++ (tail ++ ']' :: rest), nodes + (subvalues item).length⟩ :=
      fun hends => h.value _ _ _ _ _ htext hends (by omega) hfits.head
    simp only [List.append_assoc, skipSpace_append hbefore, skipSpace_spells htext]
    rw [parseArray, failIf_of_not hne, ok_bind_eq]
    rcases htail with ⟨rfl, rfl⟩ | ⟨hmore, more, rfl, hbody⟩
    · rw [hitem (ends_ws hafter (ends_delimiter (by decide))), ok_bind_eq]
      simp only [List.nil_append, skipSpace_append hafter, subvaluesItems, List.append_nil]
      rfl
    · rw [hitem (ends_ws hafter (ends_delimiter (by decide))), ok_bind_eq]
      simp only [List.cons_append, skipSpace_append hafter]
      have hnext := h.array deep (nodes + (subvalues item).length) (done ++ [item]) items more rest
        hmore hbody (by simp only [List.length_cons] at hfuel; omega) hfits.tail
      have hcomma : skipSpace (',' :: (more ++ ']' :: rest)) = ',' :: (more ++ ']' :: rest) := rfl
      simp only [hcomma, hnext, subvaluesItems, List.length_append, List.append_assoc,
        List.singleton_append, Nat.add_assoc]

theorem DescentSpells.object_succ (h : DescentSpells fuel)
    {done fields : List (JsString × StrictJsonValue)} {body rest : List Char}
    (hfields : fields ≠ []) (hbody : SpellsFields fields body)
    (hfuel : 2 * body.length + 1 ≤ fuel + 1) (hfits : FitsFields deep nodes fields)
    (hkeys : ((done ++ fields).map Prod.fst).Nodup) :
    parseObject (fuel + 1) deep nodes done (skipSpace (body ++ '\x7d' :: rest)) =
      .ok ⟨.obj (done ++ fields), rest, nodes + (subvaluesFields fields).length⟩ := by
  cases fields with
  | nil => exact absurd rfl hfields
  | cons field fields =>
    obtain ⟨name, value⟩ := field
    obtain ⟨before, key, colon, between, text, after, tail, hbefore, hkey, hcolon, hbetween, htext,
      hafter, rfl, htail⟩ := hbody
    simp only [List.length_append, List.length_cons] at hfuel
    have hnew : name ∉ done.map Prod.fst := by
      intro hmem
      rw [List.map_append, List.nodup_append] at hkeys
      exact hkeys.2.2 name hmem name List.mem_cons_self rfl
    have htoken : ∀ more, parseStringToken (key ++ '"' :: more) = .ok (name, more) :=
      fun more => parseStringToken_ok_iff.2
        ⟨hfits.paired name List.mem_cons_self, key, hkey, rfl⟩
    have hquote : ∀ more, skipSpace ('"' :: more) = '"' :: more := fun _ => rfl
    have hmiddle : ∀ more, skipSpace (':' :: more) = ':' :: more := fun _ => rfl
    have hitem : Ends (after ++ (tail ++ '\x7d' :: rest)) → parseValue fuel deep nodes
        (text ++ (after ++ (tail ++ '\x7d' :: rest))) =
          .ok ⟨value, after ++ (tail ++ '\x7d' :: rest), nodes + (subvalues value).length⟩ :=
      fun hends => h.value _ _ _ _ _ htext hends (by omega) hfits.head
    simp only [List.append_assoc, List.cons_append, skipSpace_append hbefore, hquote]
    rw [parseObject]
    simp only [htoken, ok_bind_eq, failIf_of_not hnew, skipSpace_append hcolon, hmiddle,
      skipSpace_append hbetween, skipSpace_spells htext]
    rcases htail with ⟨rfl, rfl⟩ | ⟨hmore, more, rfl, hbody⟩
    · rw [hitem (ends_ws hafter (ends_delimiter (by decide))), ok_bind_eq]
      simp only [List.nil_append, skipSpace_append hafter, subvaluesFields, List.append_nil]
      rfl
    · rw [hitem (ends_ws hafter (ends_delimiter (by decide))), ok_bind_eq]
      simp only [List.cons_append, skipSpace_append hafter]
      have hnext := h.object deep (nodes + (subvalues value).length)
        (done ++ [(name, value)]) fields
        more rest hmore hbody (by simp only [List.length_cons] at hfuel; omega) hfits.tail
        (by rwa [List.append_assoc])
      have hcomma : skipSpace (',' :: (more ++ '\x7d' :: rest)) = ',' :: (more ++ '\x7d' :: rest) :=
        rfl
      simp only [hcomma, hnext, subvaluesFields, List.length_append, List.append_assoc,
        List.singleton_append, Nat.add_assoc]

/-- What is between the brackets of an array with items starts with no closing bracket. -/
theorem spellsItems_head {items : List StrictJsonValue} {body : List Char} (hitems : items ≠ [])
    (h : SpellsItems items body) (rest : List Char) :
    (skipSpace (body ++ rest)).head? ≠ some ']' := by
  cases items with
  | nil => exact absurd rfl hitems
  | cons item items =>
    obtain ⟨before, text, after, tail, hbefore, htext, -, rfl, -⟩ := h
    obtain ⟨ch, text', rfl, hspace, hne⟩ := spells_head htext
    simp only [List.append_assoc, skipSpace_append hbefore, List.cons_append,
      skipSpace_cons hspace, List.head?_cons]
    exact fun heq => hne (Option.some.inj heq)

theorem spellsFields_head {fields : List (JsString × StrictJsonValue)} {body : List Char}
    (hfields : fields ≠ []) (h : SpellsFields fields body) (rest : List Char) :
    (skipSpace (body ++ rest)).head? ≠ some '\x7d' := by
  cases fields with
  | nil => exact absurd rfl hfields
  | cons field fields =>
    obtain ⟨before, key, colon, between, text, after, tail, hbefore, -, -, -, -, -, rfl, -⟩ := h
    have hquote : ∀ more, skipSpace ('"' :: more) = '"' :: more := fun _ => rfl
    simp only [List.append_assoc, skipSpace_append hbefore, List.cons_append, hquote,
      List.head?_cons]
    exact fun heq => absurd (Option.some.inj heq) (by decide)

theorem DescentSpells.value_succ (h : DescentSpells fuel) {value : StrictJsonValue}
    {text rest : List Char} (htext : Spells value text) (hends : Ends rest)
    (hfuel : 2 * text.length ≤ fuel + 1) (hfits : Fits deep nodes value) :
    parseValue (fuel + 1) deep nodes (text ++ rest) =
      .ok ⟨value, rest, nodes + (subvalues value).length⟩ := by
  have hdeep := hfits.not_deep
  have hnodes := hfits.not_many
  cases value with
  | null =>
    cases htext
    exact parseValue_null rest hdeep hnodes
  | bool value =>
    cases value with
    | true =>
      cases htext
      exact parseValue_true rest hdeep hnodes
    | false =>
      cases htext
      exact parseValue_false rest hdeep hnodes
  | str s =>
    obtain ⟨body, hbody, rfl⟩ := htext
    rw [List.cons_append, List.append_assoc]
    have hpaired := (hfits.own _ List.mem_cons_self).2 s List.mem_cons_self
    exact parseValue_str hdeep hnodes (parseStringToken_ok_iff.2 ⟨hpaired, body, hbody, rfl⟩)
  | num token =>
    obtain ⟨htoken, rfl⟩ := htext
    obtain ⟨ch, tail, hraw, hch⟩ := isNumber_head htoken.number
    have hlimits := (hfits.own _ List.mem_cons_self).1
    have hnumber := parseNumber_ok_iff.2 ⟨htoken, hlimits, hends, rfl⟩
    rw [hraw, List.cons_append] at hnumber ⊢
    exact parseValue_number hch hdeep hnodes hnumber
  | arr items =>
    obtain ⟨body, hbody, rfl⟩ := htext
    rw [List.cons_append, List.append_assoc, List.singleton_append]
    by_cases hitems : items = []
    · subst hitems
      apply parseValue_arr_nil hdeep hnodes
      rw [skipSpace_append hbody]
      rfl
    · rw [parseValue_arr hdeep hnodes (spellsItems_head hitems hbody _)]
      simp only [List.length_cons, List.length_append] at hfuel
      rw [h.array _ _ [] _ _ _ hitems hbody (by omega) hfits.items]
      simp only [subvalues, List.length_cons, List.nil_append]
      rw [Nat.add_right_comm, Nat.add_assoc]
  | obj fields =>
    obtain ⟨body, hbody, rfl⟩ := htext
    rw [List.cons_append, List.append_assoc, List.singleton_append]
    by_cases hfields : fields = []
    · subst hfields
      apply parseValue_obj_nil hdeep hnodes
      rw [skipSpace_append hbody]
      rfl
    · rw [parseValue_obj hdeep hnodes (spellsFields_head hfields hbody _)]
      simp only [List.length_cons, List.length_append] at hfuel
      have hkeys : (fields.map Prod.fst).Nodup := (hfits.own _ List.mem_cons_self).1
      rw [h.object _ _ [] _ _ _ hfields hbody (by omega) hfits.fields hkeys]
      simp only [subvalues, List.length_cons, List.nil_append]
      rw [Nat.add_right_comm, Nat.add_assoc]

theorem descent_spells (fuel : Nat) : DescentSpells fuel := by
  induction fuel with
  | zero =>
    constructor
    · intro deep nodes value text rest htext _ hfuel _
      obtain ⟨ch, tail, rfl, -⟩ := spells_head htext
      exact absurd hfuel (by simp)
    · intro deep nodes done items body rest _ _ hfuel
      exact absurd hfuel (by omega)
    · intro deep nodes done fields body rest _ _ hfuel
      exact absurd hfuel (by omega)
  | succ fuel ih =>
    exact ⟨fun _ _ _ _ _ => ih.value_succ, fun _ _ _ _ _ _ => ih.array_succ,
      fun _ _ _ _ _ _ => ih.object_succ⟩

end Completeness

/-! ## A text has one value -/

section Unique

/-- The forms of a value, which the first character of a text tells apart. -/
inductive Form where
  | null | true | false | str | num | arr | obj
  deriving DecidableEq

def form : StrictJsonValue → Form
  | .null => .null
  | .bool true => .true
  | .bool false => .false
  | .str _ => .str
  | .num _ => .num
  | .arr _ => .arr
  | .obj _ => .obj

def formOf (ch : Char) : Form :=
  if ch = 'n' then .null
  else if ch = 't' then .true
  else if ch = 'f' then .false
  else if ch = '"' then .str
  else if ch = '[' then .arr
  else if ch = '\x7b' then .obj
  else .num

theorem spells_form {value : StrictJsonValue} {text : List Char} (h : Spells value text) :
    ∃ ch tail, text = ch :: tail ∧ formOf ch = form value := by
  cases value with
  | null => exact ⟨'n', _, h, rfl⟩
  | bool value => cases value <;> exact ⟨_, _, h, rfl⟩
  | str s =>
    obtain ⟨body, -, rfl⟩ := h
    exact ⟨'"', _, rfl, rfl⟩
  | num token =>
    obtain ⟨htoken, rfl⟩ := h
    obtain ⟨ch, tail, hraw, hch⟩ := isNumber_head htoken.number
    obtain ⟨-, hn, ht, hf, hquote, hbracket, hbrace⟩ := startsNumber_ne hch
    refine ⟨ch, tail, hraw, ?_⟩
    simp only [formOf, if_neg hn, if_neg ht, if_neg hf, if_neg hquote, if_neg hbracket,
      if_neg hbrace]
    rfl
  | arr items =>
    obtain ⟨body, -, rfl⟩ := h
    exact ⟨'[', _, rfl, rfl⟩
  | obj fields =>
    obtain ⟨body, -, rfl⟩ := h
    exact ⟨'\x7b', _, rfl, rfl⟩

theorem form_eq {value value' : StrictJsonValue} {text text' rest rest' : List Char}
    (h : Spells value text) (h' : Spells value' text') (heq : text ++ rest = text' ++ rest') :
    form value = form value' := by
  obtain ⟨ch, tail, rfl, hform⟩ := spells_form h
  obtain ⟨ch', tail', rfl, hform'⟩ := spells_form h'
  rw [← hform, ← hform', (List.cons.inj heq).1]

theorem stringBody_unique {s s' : JsString} {body body' rest rest' : List Char}
    (h : StringBody s body) (h' : StringBody s' body')
    (heq : body ++ '"' :: rest = body' ++ '"' :: rest') : s = s' ∧ rest = rest' := by
  have hparse : JsValue.parseString (body ++ '"' :: rest) = some (s, rest) :=
    parseString_ok_iff.2 ⟨body, h, rfl⟩
  have hparse' : JsValue.parseString (body ++ '"' :: rest) = some (s', rest') :=
    parseString_ok_iff.2 ⟨body', h', heq⟩
  rw [hparse] at hparse'
  exact Prod.mk.inj (Option.some.inj hparse')

theorem isToken_unique {token token' : StrictJsonNumber} {rest rest' : List Char}
    (h : IsToken token) (h' : IsToken token') (hends : Ends rest) (hends' : Ends rest')
    (heq : token.raw ++ rest = token'.raw ++ rest') : token = token' ∧ rest = rest' := by
  have hscan := scanNumber_append h.number hends
  have hscan' := scanNumber_append h'.number hends'
  rw [heq, hscan'] at hscan
  obtain ⟨hraw, hrest⟩ := Prod.mk.inj (Option.some.inj hscan)
  have hvalue := h.value_eq
  have hinteger := h.isIntegerToken_eq
  rw [← hraw] at hvalue hinteger
  refine ⟨?_, hrest.symm⟩
  cases token
  cases token'
  rw [StrictJsonNumber.mk.injEq]
  exact ⟨hraw.symm, Option.some.inj (hvalue.symm.trans h'.value_eq),
    hinteger.trans h'.isIntegerToken_eq.symm⟩

/-- The texts up to a length are texts of one value. -/
def OneValue (n : Nat) : Prop :=
  ∀ value value' text text' rest rest', text.length ≤ n → Spells value text →
    Spells value' text' → Ends rest → Ends rest' → text ++ rest = text' ++ rest' →
      value = value' ∧ rest = rest'

theorem OneValue.items {n : Nat} (h : OneValue n) {items items' : List StrictJsonValue}
    {body body' rest rest' : List Char} (hlength : body.length ≤ n)
    (hbody : SpellsItems items body) (hbody' : SpellsItems items' body')
    (heq : body ++ ']' :: rest = body' ++ ']' :: rest') : items = items' ∧ rest = rest' := by
  induction items generalizing items' body body' with
  | nil =>
    have hskip : skipSpace (body ++ ']' :: rest) = ']' :: rest := by
      rw [skipSpace_append hbody]
      rfl
    by_cases hitems : items' = []
    · subst hitems
      rw [heq, skipSpace_append hbody'] at hskip
      exact ⟨rfl, ((List.cons.inj hskip).2).symm⟩
    · have hhead := spellsItems_head hitems hbody' (']' :: rest')
      rw [← heq, hskip] at hhead
      exact absurd rfl hhead
  | cons item items ih =>
    by_cases hitems : items' = []
    · subst hitems
      have hhead := spellsItems_head (List.cons_ne_nil item items) hbody (']' :: rest)
      rw [heq, skipSpace_append hbody'] at hhead
      exact absurd rfl hhead
    · obtain ⟨item', items', rfl⟩ := List.exists_cons_of_ne_nil hitems
      obtain ⟨before, text, after, tail, hbefore, htext, hafter, rfl, htail⟩ := hbody
      obtain ⟨before', text', after', tail', hbefore', htext', hafter', rfl, htail'⟩ := hbody'
      simp only [List.length_append] at hlength
      have hskip := congrArg skipSpace heq
      simp only [List.append_assoc, skipSpace_append hbefore, skipSpace_append hbefore',
        skipSpace_spells htext, skipSpace_spells htext'] at hskip
      have hends : ∀ {rest : List Char} {items : List StrictJsonValue} {tail : List Char},
          (items = [] ∧ tail = [] ∨ items ≠ [] ∧ ∃ more, tail = ',' :: more ∧
            SpellsItems items more) → Ends (tail ++ ']' :: rest) ∧
          skipSpace (tail ++ ']' :: rest) = tail ++ ']' :: rest := by
        rintro rest items tail (⟨-, rfl⟩ | ⟨-, more, rfl, -⟩)
        · exact ⟨ends_delimiter (by decide), rfl⟩
        · exact ⟨ends_delimiter (by decide), rfl⟩
      obtain ⟨rfl, hafters⟩ := h _ _ _ _ _ _ (by omega) htext htext'
        (ends_ws hafter (hends htail).1) (ends_ws hafter' (hends htail').1) hskip
      have htails := congrArg skipSpace hafters
      rw [skipSpace_append hafter, skipSpace_append hafter', (hends htail).2,
        (hends htail').2] at htails
      rcases htail with ⟨rfl, rfl⟩ | ⟨hmore, more, rfl, hbody⟩
      · rcases htail' with ⟨rfl, rfl⟩ | ⟨-, more', rfl, -⟩
        · exact ⟨rfl, (List.cons.inj htails).2⟩
        · exact absurd (List.cons.inj htails).1 (by decide)
      · rcases htail' with ⟨rfl, rfl⟩ | ⟨-, more', rfl, hbody'⟩
        · exact absurd (List.cons.inj htails).1 (by decide)
        · simp only [List.length_cons] at hlength
          obtain ⟨rfl, hrest⟩ := ih (by omega) hbody hbody' (List.cons.inj htails).2
          exact ⟨rfl, hrest⟩

theorem OneValue.fields {n : Nat} (h : OneValue n)
    {fields fields' : List (JsString × StrictJsonValue)} {body body' rest rest' : List Char}
    (hlength : body.length ≤ n) (hbody : SpellsFields fields body)
    (hbody' : SpellsFields fields' body')
    (heq : body ++ '\x7d' :: rest = body' ++ '\x7d' :: rest') :
    fields = fields' ∧ rest = rest' := by
  induction fields generalizing fields' body body' with
  | nil =>
    have hskip : skipSpace (body ++ '\x7d' :: rest) = '\x7d' :: rest := by
      rw [skipSpace_append hbody]
      rfl
    by_cases hfields : fields' = []
    · subst hfields
      rw [heq, skipSpace_append hbody'] at hskip
      exact ⟨rfl, ((List.cons.inj hskip).2).symm⟩
    · have hhead := spellsFields_head hfields hbody' ('\x7d' :: rest')
      rw [← heq, hskip] at hhead
      exact absurd rfl hhead
  | cons field fields ih =>
    by_cases hfields : fields' = []
    · subst hfields
      have hhead := spellsFields_head (List.cons_ne_nil field fields) hbody ('\x7d' :: rest)
      rw [heq, skipSpace_append hbody'] at hhead
      exact absurd rfl hhead
    · obtain ⟨⟨name', value'⟩, fields', rfl⟩ := List.exists_cons_of_ne_nil hfields
      obtain ⟨name, value⟩ := field
      obtain ⟨before, key, colon, between, text, after, tail, hbefore, hkey, hcolon, hbetween,
        htext, hafter, rfl, htail⟩ := hbody
      obtain ⟨before', key', colon', between', text', after', tail', hbefore', hkey', hcolon',
        hbetween', htext', hafter', rfl, htail'⟩ := hbody'
      simp only [List.length_append, List.length_cons] at hlength
      have hquote : ∀ more, skipSpace ('"' :: more) = '"' :: more := fun _ => rfl
      have hmiddle : ∀ more, skipSpace (':' :: more) = ':' :: more := fun _ => rfl
      have hskip := congrArg skipSpace heq
      simp only [List.append_assoc, List.cons_append, skipSpace_append hbefore,
        skipSpace_append hbefore', hquote] at hskip
      obtain ⟨rfl, hcolons⟩ := stringBody_unique hkey hkey' (List.cons.inj hskip).2
      have hmiddles := congrArg skipSpace hcolons
      rw [skipSpace_append hcolon, skipSpace_append hcolon', hmiddle, hmiddle] at hmiddles
      have hvalues := congrArg skipSpace (List.cons.inj hmiddles).2
      rw [skipSpace_append hbetween, skipSpace_append hbetween', skipSpace_spells htext,
        skipSpace_spells htext'] at hvalues
      have hends : ∀ {rest : List Char} {fields : List (JsString × StrictJsonValue)}
          {tail : List Char}, (fields = [] ∧ tail = [] ∨ fields ≠ [] ∧ ∃ more, tail = ',' :: more ∧
            SpellsFields fields more) → Ends (tail ++ '\x7d' :: rest) ∧
          skipSpace (tail ++ '\x7d' :: rest) = tail ++ '\x7d' :: rest := by
        rintro rest fields tail (⟨-, rfl⟩ | ⟨-, more, rfl, -⟩)
        · exact ⟨ends_delimiter (by decide), rfl⟩
        · exact ⟨ends_delimiter (by decide), rfl⟩
      obtain ⟨rfl, hafters⟩ := h _ _ _ _ _ _ (by omega) htext htext'
        (ends_ws hafter (hends htail).1) (ends_ws hafter' (hends htail').1) hvalues
      have htails := congrArg skipSpace hafters
      rw [skipSpace_append hafter, skipSpace_append hafter', (hends htail).2,
        (hends htail').2] at htails
      rcases htail with ⟨rfl, rfl⟩ | ⟨hmore, more, rfl, hbody⟩
      · rcases htail' with ⟨rfl, rfl⟩ | ⟨-, more', rfl, -⟩
        · exact ⟨rfl, (List.cons.inj htails).2⟩
        · exact absurd (List.cons.inj htails).1 (by decide)
      · rcases htail' with ⟨rfl, rfl⟩ | ⟨-, more', rfl, hbody'⟩
        · exact absurd (List.cons.inj htails).1 (by decide)
        · simp only [List.length_cons] at hlength
          obtain ⟨rfl, hrest⟩ := ih (by omega) hbody hbody' (List.cons.inj htails).2
          exact ⟨rfl, hrest⟩

/-- One more character: the forms agree, and so does what is inside. -/
theorem OneValue.succ {n : Nat} (h : OneValue n) : OneValue (n + 1) := by
  intro value value' text text' rest rest' hlength htext htext' hends hends' heq
  have hform := form_eq htext htext' heq
  cases value with
  | null =>
    cases value' with
    | null =>
      cases htext
      cases htext'
      exact ⟨rfl, List.append_cancel_left heq⟩
    | bool value' => cases value' <;> cases hform
    | _ => cases hform
  | bool value =>
    cases value' with
    | bool value' =>
      have hvalue : value = value' := by
        cases value <;> cases value' <;> first
          | rfl
          | cases hform
      subst hvalue
      cases value <;> cases htext <;> cases htext' <;>
        exact ⟨rfl, List.append_cancel_left heq⟩
    | _ => cases value <;> cases hform
  | str s =>
    cases value' with
    | str s' =>
      obtain ⟨body, hbody, rfl⟩ := htext
      obtain ⟨body', hbody', rfl⟩ := htext'
      simp only [List.cons_append, List.append_assoc, List.nil_append] at heq
      obtain ⟨rfl, hrest⟩ := stringBody_unique hbody hbody' (List.cons.inj heq).2
      exact ⟨rfl, hrest⟩
    | bool value' => cases value' <;> cases hform
    | _ => cases hform
  | num token =>
    cases value' with
    | num token' =>
      obtain ⟨htoken, rfl⟩ := htext
      obtain ⟨htoken', rfl⟩ := htext'
      obtain ⟨rfl, hrest⟩ := isToken_unique htoken htoken' hends hends' heq
      exact ⟨rfl, hrest⟩
    | bool value' => cases value' <;> cases hform
    | _ => cases hform
  | arr items =>
    cases value' with
    | arr items' =>
      obtain ⟨body, hbody, rfl⟩ := htext
      obtain ⟨body', hbody', rfl⟩ := htext'
      simp only [List.cons_append, List.append_assoc, List.nil_append] at heq
      simp only [List.length_cons, List.length_append] at hlength
      obtain ⟨rfl, hrest⟩ := h.items (by omega) hbody hbody' (List.cons.inj heq).2
      exact ⟨rfl, hrest⟩
    | bool value' => cases value' <;> cases hform
    | _ => cases hform
  | obj fields =>
    cases value' with
    | obj fields' =>
      obtain ⟨body, hbody, rfl⟩ := htext
      obtain ⟨body', hbody', rfl⟩ := htext'
      simp only [List.cons_append, List.append_assoc, List.nil_append] at heq
      simp only [List.length_cons, List.length_append] at hlength
      obtain ⟨rfl, hrest⟩ := h.fields (by omega) hbody hbody' (List.cons.inj heq).2
      exact ⟨rfl, hrest⟩
    | bool value' => cases value' <;> cases hform
    | _ => cases hform

theorem oneValue (n : Nat) : OneValue n := by
  induction n with
  | zero =>
    intro value value' text text' rest rest' hlength htext
    obtain ⟨ch, tail, rfl, -⟩ := spells_head htext
    exact absurd hlength (by simp)
  | succ n ih => exact ih.succ

end Unique

/-! ## Whole texts and bytes -/

/-- `new TextEncoder().encode`. -/
def utf8 (source : List Char) : ByteArray := (String.ofList source).toByteArray

/-- The bytes are a text of the value in UTF-8, with a byte order mark or without. -/
def Denotes (bytes : ByteArray) (value : StrictJsonValue) : Prop :=
  ∃ source, SpellsText value source ∧ (bytes = utf8 source ∨ bytes = utf8 ('\uFEFF' :: source))

theorem spellsText_head {value : StrictJsonValue} {source : List Char}
    (h : SpellsText value source) : source.head? ≠ some '\uFEFF' := by
  obtain ⟨before, text, after, hbefore, htext, -, rfl⟩ := h
  cases before with
  | nil =>
    obtain ⟨ch, tail, rfl, hform⟩ := spells_form htext
    intro heq
    cases Option.some.inj heq
    cases value with
    | num token =>
      obtain ⟨htoken, hraw⟩ := htext
      obtain ⟨ch, tail', hstart, hch⟩ := isNumber_head htoken.number
      rw [← hraw] at hstart
      cases hstart
      exact absurd hch (by decide)
    | bool value => cases value <;> cases hform
    | _ => cases hform
  | cons ch before =>
    intro heq
    cases Option.some.inj heq
    exact absurd (hbefore _ List.mem_cons_self) (by decide)

theorem decode_eq_some_iff {bytes : ByteArray} {source : List Char} :
    decode bytes = some source ↔ bytes = utf8 ('\uFEFF' :: source) ∨
      source.head? ≠ some '\uFEFF' ∧ bytes = utf8 source := by
  have hdecode : ∀ text : String, String.fromUTF8? text.toByteArray = some text := fun text => by
    rw [String.fromUTF8?, dif_pos text.isValidUTF8]
    rfl
  constructor
  · intro h
    obtain ⟨text, htext, hsource⟩ := Option.map_eq_some_iff.1 h
    have hbytes : bytes = utf8 text.toList := by
      rw [String.fromUTF8?] at htext
      split_ifs at htext with hvalid
      rw [← Option.some.inj htext, utf8, String.ofList_toList]
      rfl
    split at hsource
    · rename_i rest hlist
      rw [← hsource, hbytes, hlist]
      exact Or.inl rfl
    · rename_i hother
      refine Or.inr ⟨?_, by rw [← hsource, hbytes]⟩
      rw [← hsource]
      intro heq
      cases hlist : text.toList with
      | nil =>
        rw [hlist] at heq
        cases heq
      | cons ch rest =>
        rw [hlist] at heq
        cases Option.some.inj heq
        exact hother rest hlist
  · rintro (rfl | ⟨hhead, rfl⟩)
    · rw [decode, utf8, hdecode, Option.map_some, String.toList_ofList]
      rfl
    · rw [decode, utf8, hdecode, Option.map_some, String.toList_ofList]
      split
      · exact absurd rfl hhead
      · rfl

theorem decode_spells {bytes : ByteArray} {value : StrictJsonValue} {source : List Char}
    (htext : SpellsText value source)
    (hbytes : bytes = utf8 source ∨ bytes = utf8 ('\uFEFF' :: source)) :
    decode bytes = some source := by
  apply decode_eq_some_iff.2
  rcases hbytes with hplain | hbom
  · exact Or.inr ⟨spellsText_head htext, hplain⟩
  · exact Or.inl hbom

theorem ends_of_ws {ws : List Char} (h : Ws ws) : Ends ws := by
  have hnil := ends_ws h (show Ends [] by rintro _ ⟨⟩)
  rwa [List.append_nil] at hnil

/-- A text is parsed to a value exactly when it is one of the value, within the limits, and no
string has a surrogate that the check sees to be unpaired. -/
theorem parse_ok_iff {source : List Char} {value : StrictJsonValue} :
    parse source = .ok value ↔ SpellsText value source ∧ Limits value ∧
      ∀ s ∈ strings value, hasUnpairedSurrogate s = false := by
  rw [parse, bind_ok_iff]
  constructor
  · rintro ⟨parsed, hparsed, h⟩
    rw [then_ok_iff, failIf_ok_iff, not_not, pure_ok_iff] at h
    obtain ⟨hrest, rfl⟩ := h
    have hreads := parseValue_reads hparsed
    obtain ⟨text, htext, hinput⟩ := hreads.text
    obtain ⟨before, hbefore, hsource⟩ := skipSpace_split source
    obtain ⟨after, hafter, hsplit⟩ := skipSpace_split parsed.rest
    rw [hrest, List.append_nil] at hsplit
    refine ⟨⟨before, text, after, hbefore, htext, hafter, ?_⟩, ⟨?_, ?_, ?_⟩, ?_⟩
    · rw [hsource, hinput, ← hsplit]
    · exact (Nat.zero_add _).symm.trans_le hreads.depth
    · exact (hreads.nodes_eq.trans (Nat.zero_add _)).symm.trans_le hreads.nodes_le
    · exact fun inner hinner => (hreads.own inner hinner).1
    · intro s hs
      obtain ⟨inner, hinner, hmem⟩ := List.mem_flatMap.1 hs
      exact (hreads.own inner hinner).2 s hmem
  · rintro ⟨⟨before, text, after, hbefore, htext, hafter, rfl⟩, hlimits, hpaired⟩
    have hfits : Fits 0 0 value := by
      refine ⟨(Nat.zero_add _).trans_le hlimits.depth, (Nat.zero_add _).trans_le hlimits.nodes, ?_⟩
      exact fun inner hinner => ⟨hlimits.own inner hinner,
        fun s hs => hpaired s (List.mem_flatMap.2 ⟨inner, hinner, hs⟩)⟩
    have hfuel : 2 * text.length ≤ 2 * (before ++ (text ++ after)).length + 2 := by
      simp only [List.length_append]
      omega
    refine ⟨⟨value, after, 0 + (subvalues value).length⟩, ?_, ?_⟩
    · rw [skipSpace_append hbefore, skipSpace_spells htext]
      exact (descent_spells _).value _ _ _ _ _ htext (ends_of_ws hafter) hfuel hfits
    · rw [then_ok_iff, failIf_ok_iff, not_not]
      exact ⟨skipSpace_ws hafter, rfl⟩

theorem parse_terminates (source : List Char) : parse source ≠ .error .outOfFuel := by
  intro herror
  rw [parse, bind_error_iff] at herror
  rcases herror with herror | ⟨parsed, -, herror⟩
  · have hlength := length_skipSpace_le source
    exact (descent_ends _).value _ _ _ (by omega) herror
  · rw [bind_error_iff, failIf_error_iff] at herror
    rcases herror with ⟨-, herror⟩ | ⟨_, -, herror⟩ <;> cases herror

theorem parseStrictJson_terminates (bytes : ByteArray) :
    parseStrictJson bytes ≠ .error .outOfFuel := by
  unfold parseStrictJson
  split
  · nofun
  · exact parse_terminates _

theorem parseStrictJson_ok_iff {bytes : ByteArray} {value : StrictJsonValue} :
    parseStrictJson bytes = .ok value ↔ Denotes bytes value ∧ Limits value ∧
      ∀ s ∈ strings value, hasUnpairedSurrogate s = false := by
  unfold parseStrictJson
  constructor
  · intro h
    split at h
    · cases h
    · rename_i source hdecode
      obtain ⟨htext, hlimits⟩ := parse_ok_iff.1 h
      refine ⟨⟨source, htext, ?_⟩, hlimits⟩
      rcases decode_eq_some_iff.1 hdecode with hbom | ⟨-, hplain⟩
      · exact Or.inr hbom
      · exact Or.inl hplain
  · rintro ⟨⟨source, htext, hbytes⟩, hlimits⟩
    rw [decode_spells htext hbytes]
    exact parse_ok_iff.2 ⟨htext, hlimits⟩

/-- Bytes denote at most one value. -/
theorem denotes_unique {bytes : ByteArray} {value value' : StrictJsonValue}
    (h : Denotes bytes value) (h' : Denotes bytes value') : value = value' := by
  obtain ⟨source, hspells, hbytes⟩ := h
  obtain ⟨source', hspells', hbytes'⟩ := h'
  have hsource := (decode_spells hspells hbytes).symm.trans (decode_spells hspells' hbytes')
  cases Option.some.inj hsource
  obtain ⟨before, text, after, hbefore, htext, hafter, rfl⟩ := hspells
  obtain ⟨before', text', after', hbefore', htext', hafter', heq⟩ := hspells'
  have hskip := congrArg skipSpace heq
  rw [skipSpace_append hbefore, skipSpace_append hbefore', skipSpace_spells htext,
    skipSpace_spells htext'] at hskip
  exact (oneValue text.length _ _ _ _ _ _ le_rfl htext htext' (ends_of_ws hafter)
    (ends_of_ws hafter') hskip).1

end TradeOps.StrictJson
