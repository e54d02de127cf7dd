import TradeOps.StrictJson.Grammar

/-!
# What the strict parser reads

A text that is parsed is a text of the value, within the limits (`parseValue_reads`), and the fuel
of the descent is never used up (`descent_ends`). Both are one induction on the fuel, with a lemma
for each of the three functions.
-/

namespace TradeOps.StrictJson

open Checks JsString JsValue

/-- What the parser makes sure of about a value by itself. -/
def OwnOk (value : StrictJsonValue) : Prop :=
  OwnLimits value ∧ ∀ s ∈ ownStrings value, hasUnpairedSurrogate s = false

/-! ## White space -/

theorem skipSpace_split (input : List Char) : ∃ ws, Ws ws ∧ input = ws ++ skipSpace input :=
  ⟨input.takeWhile isSpace, List.all_eq_true.1 List.all_takeWhile,
    List.takeWhile_append_dropWhile.symm⟩

theorem skipSpace_append {ws rest : List Char} (h : Ws ws) :
    skipSpace (ws ++ rest) = skipSpace rest :=
  List.dropWhile_append_of_pos h

theorem length_skipSpace_le (input : List Char) : (skipSpace input).length ≤ input.length :=
  (List.dropWhile_suffix _).length_le

theorem skipSpace_ws {ws : List Char} (h : Ws ws) : skipSpace ws = [] := by
  rw [← List.append_nil ws, skipSpace_append h]
  rfl

theorem Ws.append {a b : List Char} (ha : Ws a) (hb : Ws b) : Ws (a ++ b) := by
  intro ch hch
  rcases List.mem_append.1 hch with h | h
  · exact ha ch h
  · exact hb ch h

theorem spellsItems_ws {ws body : List Char} {items : List StrictJsonValue} (hws : Ws ws)
    (h : SpellsItems items body) : SpellsItems items (ws ++ body) := by
  cases items with
  | nil => exact hws.append h
  | cons item items =>
    obtain ⟨before, text, after, tail, hbefore, htext, hafter, rfl, htail⟩ := h
    exact ⟨ws ++ before, text, after, tail, hws.append hbefore, htext, hafter,
      (List.append_assoc ws before _).symm, htail⟩

theorem spellsFields_ws {ws body : List Char} {fields : List (JsString × StrictJsonValue)}
    (hws : Ws ws) (h : SpellsFields fields body) : SpellsFields fields (ws ++ body) := by
  cases fields with
  | nil => exact hws.append h
  | cons field fields =>
    obtain ⟨before, key, colon, between, text, after, tail, hbefore, hkey, hcolon, hbetween, htext,
      hafter, rfl, htail⟩ := h
    exact ⟨ws ++ before, key, colon, between, text, after, tail, hws.append hbefore, hkey, hcolon,
      hbetween, htext, hafter, (List.append_assoc ws before _).symm, htail⟩

/-! ## Depth and contents -/

theorem depthItems_le_iff {items : List StrictJsonValue} {n : Nat} :
    depthItems items ≤ n ↔ ∀ item ∈ items, depth item + 1 ≤ n := by
  induction items with
  | nil => simp [depthItems]
  | cons item rest ih => simp [depthItems, ih]

theorem depthFields_le_iff {fields : List (JsString × StrictJsonValue)} {n : Nat} :
    depthFields fields ≤ n ↔ ∀ field ∈ fields, depth field.2 + 1 ≤ n := by
  induction fields with
  | nil => simp [depthFields]
  | cons field rest ih => simp [depthFields, ih]

/-! ## What is parsed is a text of the value -/

/-- A value was read off the front of the input, within the limits. -/
structure Reads (deep nodes : Nat) (input : List Char) (parsed : Parsed) : Prop where
  text : ∃ text, Spells parsed.value text ∧ input = text ++ parsed.rest
  depth : deep + depth parsed.value ≤ maxDepth
  nodes_eq : parsed.nodes = nodes + (subvalues parsed.value).length
  nodes_le : parsed.nodes ≤ maxNodes
  own : ∀ inner ∈ subvalues parsed.value, OwnOk inner

/-- The items up to the closing bracket were read. -/
structure ReadsItems (deep nodes : Nat) (input : List Char) (items : List StrictJsonValue)
    (rest : List Char) (nodes' : Nat) : Prop where
  nonempty : items ≠ []
  text : ∃ body, SpellsItems items body ∧ input = body ++ ']' :: rest
  depth : ∀ item ∈ items, deep + depth item ≤ maxDepth
  nodes_eq : nodes' = nodes + (subvaluesItems items).length
  nodes_le : nodes' ≤ maxNodes
  own : ∀ inner ∈ subvaluesItems items, OwnOk inner

/-- The fields up to the closing brace were read. -/
structure ReadsFields (deep nodes : Nat) (input : List Char)
    (fields : List (JsString × StrictJsonValue)) (rest : List Char) (nodes' : Nat) : Prop where
  nonempty : fields ≠ []
  text : ∃ body, SpellsFields fields body ∧ input = body ++ '\x7d' :: rest
  depth : ∀ field ∈ fields, deep + depth field.2 ≤ maxDepth
  nodes_eq : nodes' = nodes + (subvaluesFields fields).length
  nodes_le : nodes' ≤ maxNodes
  own : ∀ inner ∈ subvaluesFields fields, OwnOk inner
  paired : ∀ s ∈ fields.map Prod.fst, hasUnpairedSurrogate s = false

section Steps

variable {deep nodes nodes' : Nat} {input rest : List Char} {item : Parsed}

/-- The last item. -/
theorem Reads.last (h : Reads deep nodes input item) (hrest : skipSpace item.rest = ']' :: rest) :
    ReadsItems deep nodes input [item.value] rest item.nodes := by
  obtain ⟨text, htext, rfl⟩ := h.text
  obtain ⟨ws, hws, hsplit⟩ := skipSpace_split item.rest
  refine ⟨List.cons_ne_nil _ _, ⟨text ++ ws, ?_, ?_⟩, ?_, ?_, h.nodes_le, ?_⟩
  · exact ⟨[], text, ws, [], nofun, htext, hws, by simp, Or.inl ⟨rfl, rfl⟩⟩
  · rw [hsplit, hrest, List.append_assoc]
  · simpa using h.depth
  · simpa [subvaluesItems] using h.nodes_eq
  · simpa [subvaluesItems] using h.own

/-- An item in front of others. -/
theorem Reads.more {items : List StrictJsonValue} {rest' : List Char}
    (h : Reads deep nodes input item) (hrest : skipSpace item.rest = ',' :: rest)
    (hmore : ReadsItems deep item.nodes (skipSpace rest) items rest' nodes') :
    ReadsItems deep nodes input (item.value :: items) rest' nodes' := by
  obtain ⟨text, htext, rfl⟩ := h.text
  obtain ⟨ws, hws, hsplit⟩ := skipSpace_split item.rest
  obtain ⟨ws', hws', hsplit'⟩ := skipSpace_split rest
  obtain ⟨body, hbody, hskipped⟩ := hmore.text
  refine ⟨List.cons_ne_nil _ _, ⟨text ++ (ws ++ ',' :: (ws' ++ body)), ?_, ?_⟩, ?_, ?_,
    hmore.nodes_le, ?_⟩
  · exact ⟨[], text, ws, ',' :: (ws' ++ body), nofun, htext, hws, rfl,
      Or.inr ⟨hmore.nonempty, ws' ++ body, rfl, spellsItems_ws hws' hbody⟩⟩
  · rw [hsplit, hrest, hsplit', hskipped]
    simp
  · exact List.forall_mem_cons.2 ⟨h.depth, hmore.depth⟩
  · rw [hmore.nodes_eq, h.nodes_eq, subvaluesItems, List.length_append]
    omega
  · intro inner hinner
    rcases List.mem_append.1 hinner with hi | hi
    · exact h.own inner hi
    · exact hmore.own inner hi

variable {name : JsString} {key colon between : List Char}

/-- The last field. -/
theorem Reads.lastField (h : Reads deep nodes input item) (hkey : StringBody name key)
    (hpaired : hasUnpairedSurrogate name = false) (hcolon : Ws colon) (hbetween : Ws between)
    (hrest : skipSpace item.rest = '\x7d' :: rest) :
    ReadsFields deep nodes ('"' :: (key ++ '"' :: (colon ++ ':' :: (between ++ input))))
      [(name, item.value)] rest item.nodes := by
  obtain ⟨text, htext, rfl⟩ := h.text
  obtain ⟨ws, hws, hsplit⟩ := skipSpace_split item.rest
  refine ⟨List.cons_ne_nil _ _,
    ⟨'"' :: (key ++ '"' :: (colon ++ ':' :: (between ++ (text ++ ws)))), ?_, ?_⟩, ?_, ?_,
    h.nodes_le, ?_, ?_⟩
  · exact ⟨[], key, colon, between, text, ws, [], nofun, hkey, hcolon, hbetween, htext, hws,
      by simp, Or.inl ⟨rfl, rfl⟩⟩
  · rw [hsplit, hrest]
    simp
  · simpa using h.depth
  · simpa [subvaluesFields] using h.nodes_eq
  · simpa [subvaluesFields] using h.own
  · simpa using hpaired

/-- A field in front of others. -/
theorem Reads.moreFields {fields : List (JsString × StrictJsonValue)} {rest' : List Char}
    (h : Reads deep nodes input item) (hkey : StringBody name key)
    (hpaired : hasUnpairedSurrogate name = false) (hcolon : Ws colon) (hbetween : Ws between)
    (hrest : skipSpace item.rest = ',' :: rest)
    (hmore : ReadsFields deep item.nodes (skipSpace rest) fields rest' nodes') :
    ReadsFields deep nodes ('"' :: (key ++ '"' :: (colon ++ ':' :: (between ++ input))))
      ((name, item.value) :: fields) rest' nodes' := by
  obtain ⟨text, htext, rfl⟩ := h.text
  obtain ⟨ws, hws, hsplit⟩ := skipSpace_split item.rest
  obtain ⟨ws', hws', hsplit'⟩ := skipSpace_split rest
  obtain ⟨body, hbody, hskipped⟩ := hmore.text
  refine ⟨List.cons_ne_nil _ _,
    ⟨'"' :: (key ++ '"' :: (colon ++ ':' :: (between ++ (text ++ (ws ++ ',' :: (ws' ++ body)))))),
      ?_, ?_⟩, ?_, ?_, hmore.nodes_le, ?_, ?_⟩
  · exact ⟨[], key, colon, between, text, ws, ',' :: (ws' ++ body), nofun, hkey, hcolon, hbetween,
      htext, hws, rfl, Or.inr ⟨hmore.nonempty, ws' ++ body, rfl, spellsFields_ws hws' hbody⟩⟩
  · rw [hsplit, hrest, hsplit', hskipped]
    simp
  · exact List.forall_mem_cons.2 ⟨h.depth, hmore.depth⟩
  · rw [hmore.nodes_eq, h.nodes_eq, subvaluesFields, List.length_append]
    omega
  · intro inner hinner
    rcases List.mem_append.1 hinner with hi | hi
    · exact h.own inner hi
    · exact hmore.own inner hi
  · exact List.forall_mem_cons.2 ⟨hpaired, hmore.paired⟩

/-- A value without values inside it. -/
theorem reads_leaf {value : StrictJsonValue} {text : List Char} (htext : Spells value text)
    (hdepth : depth value = 0) (hsub : subvalues value = [value]) (hdeep : ¬ deep > maxDepth)
    (hnodes : ¬ nodes + 1 > maxNodes) (hown : OwnOk value) :
    Reads deep nodes (text ++ rest) ⟨value, rest, nodes + 1⟩ := by
  refine ⟨⟨text, htext, rfl⟩, ?_, ?_, Nat.le_of_not_lt hnodes, ?_⟩
  · rw [hdepth]
    omega
  · rw [hsub]
    rfl
  · rw [hsub]
    simpa using hown

/-- An array whose items were read. -/
theorem ReadsItems.reads {items : List StrictJsonValue} {before : List Char} (hbefore : Ws before)
    (h : ReadsItems (deep + 1) (nodes + 1) input items rest nodes') :
    Reads deep nodes ('[' :: (before ++ input)) ⟨.arr items, rest, nodes'⟩ := by
  obtain ⟨body, hbody, rfl⟩ := h.text
  refine ⟨⟨'[' :: (before ++ body ++ [']']), ⟨before ++ body, spellsItems_ws hbefore hbody, rfl⟩,
    by simp⟩, ?_, ?_, h.nodes_le, ?_⟩
  · have hdeep : deep + 1 ≤ maxDepth := by
      obtain ⟨item, hitem⟩ := List.exists_mem_of_ne_nil _ h.nonempty
      have := h.depth item hitem
      omega
    have hitems : depthItems items ≤ maxDepth - deep :=
      depthItems_le_iff.2 fun item hitem => by
        have := h.depth item hitem
        omega
    show deep + depthItems items ≤ maxDepth
    omega
  · rw [h.nodes_eq, subvalues, List.length_cons]
    dsimp only
    omega
  · exact List.forall_mem_cons.2 ⟨⟨trivial, nofun⟩, h.own⟩

/-- An object whose fields were read, and whose keys are distinct. -/
theorem ReadsFields.reads {fields : List (JsString × StrictJsonValue)} {before : List Char}
    (hbefore : Ws before) (h : ReadsFields (deep + 1) (nodes + 1) input fields rest nodes')
    (hkeys : (fields.map Prod.fst).Nodup) :
    Reads deep nodes ('\x7b' :: (before ++ input)) ⟨.obj fields, rest, nodes'⟩ := by
  obtain ⟨body, hbody, rfl⟩ := h.text
  refine ⟨⟨'\x7b' :: (before ++ body ++ ['\x7d']),
    ⟨before ++ body, spellsFields_ws hbefore hbody, rfl⟩, by simp⟩, ?_, ?_, h.nodes_le, ?_⟩
  · have hdeep : deep + 1 ≤ maxDepth := by
      obtain ⟨field, hfield⟩ := List.exists_mem_of_ne_nil _ h.nonempty
      have := h.depth field hfield
      omega
    have hfields : depthFields fields ≤ maxDepth - deep :=
      depthFields_le_iff.2 fun field hfield => by
        have := h.depth field hfield
        omega
    show deep + depthFields fields ≤ maxDepth
    omega
  · rw [h.nodes_eq, subvalues, List.length_cons]
    dsimp only
    omega
  · exact List.forall_mem_cons.2 ⟨⟨hkeys, h.paired⟩, h.own⟩

end Steps

section Soundness

/-- The descent with some fuel reads what it returns. -/
structure DescentReads (fuel : Nat) : Prop where
  value : ∀ deep nodes input parsed, parseValue fuel deep nodes input = .ok parsed →
    Reads deep nodes input parsed
  array : ∀ deep nodes items input parsed, parseArray fuel deep nodes items input = .ok parsed →
    ∃ more, parsed.value = .arr (items ++ more) ∧
      ReadsItems deep nodes input more parsed.rest parsed.nodes
  object : ∀ deep nodes fields input parsed, (fields.map Prod.fst).Nodup →
    parseObject fuel deep nodes fields input = .ok parsed →
    ∃ more, parsed.value = .obj (fields ++ more) ∧ ((fields ++ more).map Prod.fst).Nodup ∧
      ReadsFields deep nodes input more parsed.rest parsed.nodes

variable {fuel : Nat}

theorem DescentReads.array_succ (h : DescentReads fuel) {deep nodes : Nat}
    {items : List StrictJsonValue} {input : List Char} {parsed : Parsed}
    (hparsed : parseArray (fuel + 1) deep nodes items input = .ok parsed) :
    ∃ more, parsed.value = .arr (items ++ more) ∧
      ReadsItems deep nodes input more parsed.rest parsed.nodes := by
  rw [parseArray, then_ok_iff, bind_ok_iff] at hparsed
  obtain ⟨-, item, hitem, hparsed⟩ := hparsed
  have hreads := h.value _ _ _ _ hitem
  split at hparsed
  · rename_i rest hrest
    cases hparsed
    exact ⟨[item.value], rfl, hreads.last hrest⟩
  · rename_i rest hrest
    obtain ⟨more, hvalue, hmore⟩ := h.array _ _ _ _ _ hparsed
    refine ⟨item.value :: more, ?_, hreads.more hrest hmore⟩
    rw [hvalue, List.append_assoc]
    rfl
  · cases hparsed

theorem DescentReads.object_succ (h : DescentReads fuel) {deep nodes : Nat}
    {fields : List (JsString × StrictJsonValue)} {input : List Char} {parsed : Parsed}
    (hkeys : (fields.map Prod.fst).Nodup)
    (hparsed : parseObject (fuel + 1) deep nodes fields input = .ok parsed) :
    ∃ more, parsed.value = .obj (fields ++ more) ∧ ((fields ++ more).map Prod.fst).Nodup ∧
      ReadsFields deep nodes input more parsed.rest parsed.nodes := by
  rw [parseObject.eq_def] at hparsed
  dsimp only at hparsed
  split at hparsed
  · rename_i rest
    rw [bind_ok_iff] at hparsed
    obtain ⟨⟨key, afterKey⟩, htoken, hparsed⟩ := hparsed
    obtain ⟨hpaired, body, hbody, rfl⟩ := parseStringToken_ok_iff.1 htoken
    rw [then_ok_iff, failIf_ok_iff] at hparsed
    obtain ⟨hnew, hparsed⟩ := hparsed
    obtain ⟨colon, hcolon, hsplit⟩ := skipSpace_split afterKey
    have hkeys' : ∀ value, ((fields ++ [(key, value)]).map Prod.fst).Nodup := by
      intro value
      rw [List.map_append, List.nodup_append]
      refine ⟨hkeys, List.nodup_singleton _, ?_⟩
      rintro a ha b hb rfl
      rw [List.map_singleton, List.mem_singleton] at hb
      exact hnew (hb ▸ ha)
    split at hparsed
    · rename_i afterColon hrest
      rw [bind_ok_iff] at hparsed
      obtain ⟨item, hitem, hparsed⟩ := hparsed
      have hreads := h.value _ _ _ _ hitem
      obtain ⟨between, hbetween, hsplit'⟩ := skipSpace_split afterColon
      rw [hsplit, hrest, hsplit']
      split at hparsed
      · rename_i rest' hrest'
        cases hparsed
        exact ⟨[(key, item.value)], rfl, hkeys' _,
          hreads.lastField hbody hpaired hcolon hbetween hrest'⟩
      · rename_i rest' hrest'
        obtain ⟨more, hvalue, hnodup, hmore⟩ := h.object _ _ _ _ _ (hkeys' item.value) hparsed
        rw [List.append_assoc] at hvalue hnodup
        exact ⟨(key, item.value) :: more, hvalue, hnodup,
          hreads.moreFields hbody hpaired hcolon hbetween hrest' hmore⟩
      · cases hparsed
    · cases hparsed
  · cases hparsed

theorem consumeLiteral_eq_some {literal : String} {input rest : List Char}
    (h : consumeLiteral literal input = some rest) : input = literal.toList ++ rest := by
  unfold consumeLiteral at h
  split_ifs at h with hprefix
  obtain ⟨tail, rfl⟩ := hprefix
  rw [List.drop_left] at h
  rw [Option.some.inj h]

theorem DescentReads.value_succ (h : DescentReads fuel) {deep nodes : Nat} {input : List Char}
    {parsed : Parsed} (hparsed : parseValue (fuel + 1) deep nodes input = .ok parsed) :
    Reads deep nodes input parsed := by
  rw [parseValue.eq_def] at hparsed
  dsimp only at hparsed
  rw [then_ok_iff, then_ok_iff, failIf_ok_iff, failIf_ok_iff] at hparsed
  obtain ⟨hdeep, hnodes, hparsed⟩ := hparsed
  split at hparsed
  · rename_i rest
    obtain ⟨ws, hws, hsplit⟩ := skipSpace_split rest
    split at hparsed
    · rename_i rest' hrest
      cases hparsed
      have hleaf : Reads deep nodes ('\x7b' :: (ws ++ ['\x7d']) ++ rest')
          ⟨.obj [], rest', nodes + 1⟩ :=
        reads_leaf ⟨ws, hws, rfl⟩ rfl rfl hdeep hnodes ⟨List.nodup_nil, List.forall_mem_nil _⟩
      rw [hsplit, hrest]
      simpa using hleaf
    · obtain ⟨more, hvalue, hkeys, hmore⟩ := h.object _ _ [] _ _ List.nodup_nil hparsed
      rw [hsplit]
      obtain ⟨value, rest', nodes'⟩ := parsed
      cases hvalue
      exact hmore.reads hws hkeys
  · rename_i rest
    obtain ⟨ws, hws, hsplit⟩ := skipSpace_split rest
    split at hparsed
    · rename_i rest' hrest
      cases hparsed
      have hleaf : Reads deep nodes ('[' :: (ws ++ [']']) ++ rest') ⟨.arr [], rest', nodes + 1⟩ :=
        reads_leaf ⟨ws, hws, rfl⟩ rfl rfl hdeep hnodes ⟨trivial, List.forall_mem_nil _⟩
      rw [hsplit, hrest]
      simpa using hleaf
    · obtain ⟨more, hvalue, hmore⟩ := h.array _ _ _ _ _ hparsed
      rw [hsplit]
      obtain ⟨value, rest', nodes'⟩ := parsed
      cases hvalue
      exact hmore.reads hws
  · rename_i rest
    rw [bind_ok_iff] at hparsed
    obtain ⟨⟨decoded, rest'⟩, htoken, hparsed⟩ := hparsed
    cases hparsed
    obtain ⟨hpaired, body, hbody, rfl⟩ := parseStringToken_ok_iff.1 htoken
    have hleaf : Reads deep nodes ('"' :: (body ++ ['"']) ++ rest')
        ⟨.str decoded, rest', nodes + 1⟩ :=
      reads_leaf ⟨body, hbody, rfl⟩ rfl rfl hdeep hnodes
        ⟨trivial, List.forall_mem_singleton.2 hpaired⟩
    simpa using hleaf
  · split at hparsed
    · rename_i rest htrue
      cases hparsed
      rw [consumeLiteral_eq_some htrue]
      exact reads_leaf rfl rfl rfl hdeep hnodes ⟨trivial, List.forall_mem_nil _⟩
    · split at hparsed
      · rename_i rest hfalse
        cases hparsed
        rw [consumeLiteral_eq_some hfalse]
        exact reads_leaf rfl rfl rfl hdeep hnodes ⟨trivial, List.forall_mem_nil _⟩
      · split at hparsed
        · rename_i rest hnull
          cases hparsed
          rw [consumeLiteral_eq_some hnull]
          exact reads_leaf rfl rfl rfl hdeep hnodes ⟨trivial, List.forall_mem_nil _⟩
        · rw [bind_ok_iff] at hparsed
          obtain ⟨⟨token, rest'⟩, hnumber, hparsed⟩ := hparsed
          cases hparsed
          obtain ⟨htoken, hlimits, -, rfl⟩ := parseNumber_ok_iff.1 hnumber
          exact reads_leaf ⟨htoken, rfl⟩ rfl rfl hdeep hnodes ⟨hlimits, List.forall_mem_nil _⟩

theorem descent_reads (fuel : Nat) : DescentReads fuel := by
  induction fuel with
  | zero =>
    constructor
    · intro deep nodes input parsed h
      rw [parseValue] at h
      cases h
    · intro deep nodes items input parsed h
      rw [parseArray] at h
      cases h
    · intro deep nodes fields input parsed _ h
      rw [parseObject] at h
      cases h
  | succ fuel ih =>
    exact ⟨fun _ _ _ _ => ih.value_succ, fun _ _ _ _ _ => ih.array_succ,
      fun _ _ _ _ _ => ih.object_succ⟩

/-- What is parsed is a text of the value, within the limits. -/
theorem parseValue_reads {deep nodes : Nat} {input : List Char} {parsed : Parsed}
    (h : parseValue fuel deep nodes input = .ok parsed) : Reads deep nodes input parsed :=
  (descent_reads fuel).value _ _ _ _ h

end Soundness

/-! ## Termination -/

section Termination

theorem parseStringToken_fuel (input : List Char) :
    parseStringToken input ≠ .error .outOfFuel := by
  unfold parseStringToken
  intro h
  split at h
  · cases h
  · split at h
    · rw [bind_error_iff, failIf_error_iff] at h
      rcases h with ⟨-, h⟩ | ⟨_, -, h⟩ <;> cases h
    · cases h

theorem parseNumber_fuel (input : List Char) : parseNumber input ≠ .error .outOfFuel := by
  unfold parseNumber
  intro h
  split at h
  · cases h
  · rw [bind_error_iff, failIf_error_iff] at h
    rcases h with ⟨-, h⟩ | ⟨_, -, h⟩
    · cases h
    · split at h
      · cases h
      · rw [bind_error_iff, failIf_error_iff] at h
        rcases h with ⟨-, h⟩ | ⟨_, -, h⟩ <;> cases h

theorem Reads.length_le {deep nodes : Nat} {input : List Char} {parsed : Parsed}
    (h : Reads deep nodes input parsed) : parsed.rest.length ≤ input.length := by
  obtain ⟨text, -, rfl⟩ := h.text
  rw [List.length_append]
  exact Nat.le_add_left _ _

/-- The descent with some fuel ends on the texts that are not too long for it. -/
structure DescentEnds (fuel : Nat) : Prop where
  value : ∀ deep nodes input, 2 * input.length + 1 ≤ fuel →
    parseValue fuel deep nodes input ≠ .error .outOfFuel
  array : ∀ deep nodes items input, 2 * input.length + 2 ≤ fuel →
    parseArray fuel deep nodes items input ≠ .error .outOfFuel
  object : ∀ deep nodes fields input, 2 * input.length + 2 ≤ fuel →
    parseObject fuel deep nodes fields input ≠ .error .outOfFuel

variable {fuel deep nodes : Nat} {input : List Char}

theorem DescentEnds.value_succ (h : DescentEnds fuel) (hfuel : 2 * input.length + 1 ≤ fuel + 1) :
    parseValue (fuel + 1) deep nodes input ≠ .error .outOfFuel := by
  intro herror
  rw [parseValue.eq_def] at herror
  dsimp only at herror
  rw [bind_error_iff, failIf_error_iff] at herror
  rcases herror with ⟨-, herror⟩ | ⟨_, -, herror⟩
  · cases herror
  rw [bind_error_iff, failIf_error_iff] at herror
  rcases herror with ⟨-, herror⟩ | ⟨_, -, herror⟩
  · cases herror
  split at herror
  · rename_i rest
    have hlength := length_skipSpace_le rest
    simp only [List.length_cons] at hfuel
    split at herror
    · cases herror
    · exact h.object _ _ _ _ (by omega) herror
  · rename_i rest
    have hlength := length_skipSpace_le rest
    simp only [List.length_cons] at hfuel
    split at herror
    · cases herror
    · exact h.array _ _ _ _ (by omega) herror
  · rw [bind_error_iff] at herror
    rcases herror with herror | ⟨_, -, herror⟩
    · exact parseStringToken_fuel _ herror
    · cases herror
  · split at herror
    · cases herror
    · split at herror
      · cases herror
      · split at herror
        · cases herror
        · rw [bind_error_iff] at herror
          rcases herror with herror | ⟨_, -, herror⟩
          · exact parseNumber_fuel _ herror
          · cases herror

theorem DescentEnds.array_succ (h : DescentEnds fuel) {items : List StrictJsonValue}
    (hfuel : 2 * input.length + 2 ≤ fuel + 1) :
    parseArray (fuel + 1) deep nodes items input ≠ .error .outOfFuel := by
  intro herror
  rw [parseArray, bind_error_iff, failIf_error_iff] at herror
  rcases herror with ⟨-, herror⟩ | ⟨_, -, herror⟩
  · cases herror
  rw [bind_error_iff] at herror
  rcases herror with herror | ⟨item, hitem, herror⟩
  · exact h.value _ _ _ (by omega) herror
  · have hread := (parseValue_reads hitem).length_le
    have hskip := length_skipSpace_le item.rest
    split at herror
    · cases herror
    · rename_i rest hrest
      rw [hrest, List.length_cons] at hskip
      have hlength := length_skipSpace_le rest
      exact h.array _ _ _ _ (by omega) herror
    · cases herror

theorem DescentEnds.object_succ (h : DescentEnds fuel)
    {fields : List (JsString × StrictJsonValue)} (hfuel : 2 * input.length + 2 ≤ fuel + 1) :
    parseObject (fuel + 1) deep nodes fields input ≠ .error .outOfFuel := by
  intro herror
  rw [parseObject.eq_def] at herror
  dsimp only at herror
  split at herror
  · rename_i rest
    simp only [List.length_cons] at hfuel
    rw [bind_error_iff] at herror
    rcases herror with herror | ⟨⟨key, afterKey⟩, htoken, herror⟩
    · exact parseStringToken_fuel _ herror
    obtain ⟨-, body, -, rfl⟩ := parseStringToken_ok_iff.1 htoken
    simp only [List.length_append, List.length_cons] at hfuel
    rw [bind_error_iff, failIf_error_iff] at herror
    rcases herror with ⟨-, herror⟩ | ⟨_, -, herror⟩
    · cases herror
    have hkey := length_skipSpace_le afterKey
    split at herror
    · rename_i afterColon hcolon
      rw [hcolon, List.length_cons] at hkey
      have hafter := length_skipSpace_le afterColon
      rw [bind_error_iff] at herror
      rcases herror with herror | ⟨item, hitem, herror⟩
      · exact h.value _ _ _ (by omega) herror
      · have hread := (parseValue_reads hitem).length_le
        have hskip := length_skipSpace_le item.rest
        split at herror
        · cases herror
        · rename_i rest' hrest
          rw [hrest, List.length_cons] at hskip
          have hlength := length_skipSpace_le rest'
          exact h.object _ _ _ _ (by omega) herror
        · cases herror
    · cases herror
  · cases herror

theorem descent_ends (fuel : Nat) : DescentEnds fuel := by
  induction fuel with
  | zero =>
    constructor
    · intro deep nodes input hfuel
      exact absurd hfuel (by omega)
    · intro deep nodes items input hfuel
      exact absurd hfuel (by omega)
    · intro deep nodes fields input hfuel
      exact absurd hfuel (by omega)
  | succ fuel ih =>
    exact ⟨fun _ _ _ => ih.value_succ, fun _ _ _ _ => ih.array_succ,
      fun _ _ _ _ => ih.object_succ⟩

end Termination

end TradeOps.StrictJson
