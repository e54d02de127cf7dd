import TradeOps.Entry.ArbitratorV3

/-!
# What the eligible pairs are

The arbitrators collect eligible pairs with maps, groups and sorts. Here the collected list is
described by its members: one pair for each candidate with eligible evidence, which carries the
first such evidence. The description mentions the records only through membership, so the sorted
list does not depend on the order or the multiplicity of the input.
-/

namespace TradeOps.Entry

open Checks Keyed SortBy

/-- A candidate and one of its evidence records that are eligible together. -/
structure IsPair (eligible : EntryCandidateV3 → EntryCandidateEvidenceV3 → Bool)
    (candidates : List EntryCandidateV3) (evidence : List EntryCandidateEvidenceV3)
    (pair : EligiblePair) : Prop where
  candidate_mem : pair.candidate ∈ candidates
  evidence_mem : pair.evidence ∈ evidence
  id_eq : pair.evidence.candidateId = pair.candidate.candidateId
  eligible_eq : eligible pair.candidate pair.evidence = true

/-- An eligible pair that carries the first eligible evidence of its candidate. -/
structure IsChosen (eligible : EntryCandidateV3 → EntryCandidateEvidenceV3 → Bool)
    (candidates : List EntryCandidateV3) (evidence : List EntryCandidateEvidenceV3)
    (pair : EligiblePair) : Prop extends IsPair eligible candidates evidence pair where
  first : ∀ other, IsPair eligible candidates evidence other →
    other.candidate = pair.candidate → evidenceKey pair.evidence ≤ evidenceKey other.evidence

/-- The list holds every chosen pair, and one for each candidate. -/
structure EligibleList (eligible : EntryCandidateV3 → EntryCandidateEvidenceV3 → Bool)
    (candidates : List EntryCandidateV3) (evidence : List EntryCandidateEvidenceV3)
    (pairs : List EligiblePair) : Prop where
  nodup : (pairs.map (·.candidate.candidateId)).Nodup
  mem_iff : ∀ pair, pair ∈ pairs ↔ IsChosen eligible candidates evidence pair

/-- A choice of the first evidence of a group. -/
structure PicksFirst (pick : List EntryCandidateEvidenceV3 → Option EntryCandidateEvidenceV3) :
    Prop where
  isSome : ∀ values, values ≠ [] → ∃ item, pick values = some item
  mem : ∀ values item, pick values = some item → item ∈ values
  le : ∀ values item, pick values = some item →
    ∀ other ∈ values, evidenceKey item ≤ evidenceKey other

theorem picksFirst_sortBy : PicksFirst (fun values => (sortBy evidenceKey values).head?) where
  isSome := by
    intro values hne
    cases hs : sortBy evidenceKey values with
    | nil => exact absurd ((sortBy_eq_nil evidenceKey).1 hs) hne
    | cons item rest => exact ⟨item, rfl⟩
  mem := by
    intro values item h
    exact (mem_sortBy evidenceKey).1 (List.mem_of_mem_head? h)
  le := by
    intro values item h other hother
    obtain ⟨rest, hs⟩ := List.head?_eq_some_iff.1 h
    exact sortBy_head_le evidenceKey hs hother

theorem picksFirst_minBy : PicksFirst (minBy evidenceKey) where
  isSome := by
    intro values hne
    cases hm : minBy evidenceKey values with
    | none => exact absurd ((minBy_eq_none evidenceKey).1 hm) hne
    | some item => exact ⟨item, rfl⟩
  mem := fun _ _ h => minBy_mem evidenceKey h
  le := fun _ _ h _ hother => minBy_le evidenceKey h hother

section Records

variable {eligible : EntryCandidateV3 → EntryCandidateEvidenceV3 → Bool}
  {candidates candidates' : List EntryCandidateV3}
  {evidence evidence' : List EntryCandidateEvidenceV3}

theorem IsPair.congr (hc : ∀ c, c ∈ candidates ↔ c ∈ candidates')
    (he : ∀ e, e ∈ evidence ↔ e ∈ evidence') (pair : EligiblePair) :
    IsPair eligible candidates evidence pair ↔ IsPair eligible candidates' evidence' pair :=
  ⟨fun h => ⟨(hc _).1 h.1, (he _).1 h.2, h.3, h.4⟩, fun h => ⟨(hc _).2 h.1, (he _).2 h.2, h.3, h.4⟩⟩

theorem IsChosen.congr (hc : ∀ c, c ∈ candidates ↔ c ∈ candidates')
    (he : ∀ e, e ∈ evidence ↔ e ∈ evidence') (pair : EligiblePair) :
    IsChosen eligible candidates evidence pair ↔ IsChosen eligible candidates' evidence' pair := by
  have hp : ∀ other, IsPair eligible candidates evidence other ↔
      IsPair eligible candidates' evidence' other := IsPair.congr hc he
  constructor
  · intro h
    exact ⟨(hp pair).1 h.toIsPair, fun other ho => h.first other ((hp other).2 ho)⟩
  · intro h
    exact ⟨(hp pair).2 h.toIsPair, fun other ho => h.first other ((hp other).1 ho)⟩

theorem EligibleList.congr {pairs : List EligiblePair}
    (hc : ∀ c, c ∈ candidates ↔ c ∈ candidates') (he : ∀ e, e ∈ evidence ↔ e ∈ evidence')
    (h : EligibleList eligible candidates evidence pairs) :
    EligibleList eligible candidates' evidence' pairs :=
  ⟨h.nodup, fun pair => (h.mem_iff pair).trans (IsChosen.congr hc he pair)⟩

theorem EligibleList.eq_of_candidateId {pairs : List EligiblePair}
    (h : EligibleList eligible candidates evidence pairs) {p q : EligiblePair} (hp : p ∈ pairs)
    (hq : q ∈ pairs) (hid : p.candidate.candidateId = q.candidate.candidateId) : p = q :=
  List.inj_on_of_nodup_map h.nodup hp hq hid

/-- Two descriptions of the same records sort to the same list. -/
theorem EligibleList.sorted_eq {pairs pairs' : List EligiblePair}
    (h : EligibleList eligible candidates evidence pairs)
    (h' : EligibleList eligible candidates evidence pairs') :
    sortBy pairKey pairs = sortBy pairKey pairs' := by
  refine sortBy_eq_of_mem_iff pairKey h.nodup.of_map h'.nodup.of_map ?_ ?_
  · intro p hp q hq hk
    have hids : p.candidate.candidateId = q.candidate.candidateId :=
      congrArg (fun k => (ofLex k).2) hk
    exact h.eq_of_candidateId hp hq hids
  · intro p
    rw [h.mem_iff, h'.mem_iff]

/-! ## The collecting loop -/

variable {decideEligible : EntryCandidateV3 → EntryCandidateEvidenceV3 → Except String Bool}
  {unknown : EntryCandidateEvidenceV3 → String}

/-- Every evidence record names a candidate. -/
def Known (candidates : List EntryCandidateV3) (evidence : List EntryCandidateEvidenceV3) : Prop :=
  ∀ item ∈ evidence, ∃ c ∈ candidates, c.candidateId = item.candidateId

/-- The evidence that is eligible with the candidate it names. -/
def isEligibleItem (eligible : EntryCandidateV3 → EntryCandidateEvidenceV3 → Bool)
    (candidates : List EntryCandidateV3) (item : EntryCandidateEvidenceV3) : Bool :=
  candidates.any fun c => c.candidateId = item.candidateId ∧ eligible c item

theorem isEligibleItem_eq {c : EntryCandidateV3} {item : EntryCandidateEvidenceV3}
    (hn : KeysNodup (·.candidateId) candidates) (hc : c ∈ candidates)
    (hid : c.candidateId = item.candidateId) :
    isEligibleItem eligible candidates item = eligible c item := by
  unfold isEligibleItem
  rw [Bool.eq_iff_iff, List.any_eq_true]
  constructor
  · rintro ⟨d, hd, h⟩
    simp only [decide_eq_true_eq] at h
    have hdc : d = c := hn.eq_of_key hd hc (h.1.trans hid.symm)
    exact hdc ▸ h.2
  · intro h
    exact ⟨c, hc, by simp [hid, h]⟩

theorem groupEligible_spec (hn : KeysNodup (·.candidateId) candidates)
    (hdecide : ∀ c ∈ candidates, ∀ e ∈ evidence, decideEligible c e = .ok (eligible c e))
    {grouped result : List (String × List EntryCandidateEvidenceV3)}
    {done : List EntryCandidateEvidenceV3} (hg : Groups (·.candidateId) grouped done)
    (h : groupEligible decideEligible unknown candidates evidence grouped = .ok result) :
    Known candidates evidence ∧
      Groups (·.candidateId) result
        (done ++ evidence.filter (isEligibleItem eligible candidates)) := by
  induction evidence generalizing grouped done with
  | nil =>
    simp only [groupEligible, Except.ok.injEq] at h
    exact ⟨by simp [Known], by simpa [← h] using hg⟩
  | cons item rest ih =>
    have hrest : ∀ c ∈ candidates, ∀ e ∈ rest, decideEligible c e = .ok (eligible c e) :=
      fun c hc e he => hdecide c hc e (List.mem_cons_of_mem _ he)
    rw [groupEligible] at h
    split at h
    · cases h
    · rename_i c hl
      obtain ⟨hc, hid⟩ := lookup_some hl
      rw [bind_ok_iff] at h
      obtain ⟨isEligible, hdec, hgo⟩ := h
      rw [hdecide c hc item List.mem_cons_self, Except.ok.injEq] at hdec
      subst hdec
      have hitem : isEligibleItem eligible candidates item = eligible c item :=
        isEligibleItem_eq hn hc hid
      have hknown : ∀ {rest'}, Known candidates rest' → Known candidates (item :: rest') := by
        intro rest' hk
        simpa [Known] using ⟨⟨c, hc, hid⟩, hk⟩
      by_cases hel : eligible c item = true
      · rw [if_pos hel, hid] at hgo
        obtain ⟨hk, hgroups⟩ := ih hrest (hg.push item) hgo
        refine ⟨hknown hk, ?_⟩
        simpa [List.filter_cons, hitem, hel] using hgroups
      · rw [if_neg hel] at hgo
        obtain ⟨hk, hgroups⟩ := ih hrest hg hgo
        refine ⟨hknown hk, ?_⟩
        simpa [List.filter_cons, hitem, hel] using hgroups

theorem groupEligible_exists (hknown : Known candidates evidence)
    (hdecide : ∀ c ∈ candidates, ∀ e ∈ evidence, decideEligible c e = .ok (eligible c e))
    (grouped : List (String × List EntryCandidateEvidenceV3)) :
    ∃ result, groupEligible decideEligible unknown candidates evidence grouped = .ok result := by
  induction evidence generalizing grouped with
  | nil => exact ⟨grouped, rfl⟩
  | cons item rest ih =>
    obtain ⟨c, hc, hid⟩ := hknown item List.mem_cons_self
    rw [groupEligible]
    split
    · rename_i hl
      exact absurd hid (lookup_none.1 hl c hc)
    · rename_i d hl
      have hd := (lookup_some hl).1
      rw [hdecide d hd item List.mem_cons_self]
      exact ih (fun e he => hknown e (List.mem_cons_of_mem _ he))
        (fun c hc e he => hdecide c hc e (List.mem_cons_of_mem _ he)) _

/-! ## The pairs of the groups -/

theorem pairOf_eq_some {pick : List EntryCandidateEvidenceV3 → Option EntryCandidateEvidenceV3}
    {group : String × List EntryCandidateEvidenceV3} {pair : EligiblePair} :
    pairOf pick candidates group = some pair ↔
      lookup (·.candidateId) candidates group.1 = some pair.candidate ∧
        pick group.2 = some pair.evidence := by
  simp only [pairOf, Option.bind_eq_bind, Option.bind_eq_some_iff, Option.some.injEq]
  constructor
  · rintro ⟨c, hc, e, he, rfl⟩
    exact ⟨hc, he⟩
  · rintro ⟨hc, he⟩
    exact ⟨_, hc, _, he, rfl⟩

theorem pairs_ids_sublist
    (pick : List EntryCandidateEvidenceV3 → Option EntryCandidateEvidenceV3)
    (groups : List (String × List EntryCandidateEvidenceV3)) :
    ((groups.filterMap (pairOf pick candidates)).map (·.candidate.candidateId)).Sublist
      (groups.map Prod.fst) := by
  induction groups with
  | nil => simp
  | cons group rest ih =>
    cases hp : pairOf pick candidates group with
    | none =>
      rw [List.filterMap_cons_none hp]
      exact ih.cons _
    | some pair =>
      have hid : pair.candidate.candidateId = group.1 := (lookup_some (pairOf_eq_some.1 hp).1).2
      rw [List.filterMap_cons_some hp, List.map_cons, List.map_cons, hid]
      exact ih.cons_cons _

/-- The pairs of the groups of the eligible evidence are the chosen pairs. -/
theorem eligibleList_of_groups
    {pick : List EntryCandidateEvidenceV3 → Option EntryCandidateEvidenceV3}
    (hpick : PicksFirst pick) (hn : KeysNodup (·.candidateId) candidates)
    (hne : KeysNodup (·.evidenceId) evidence)
    {groups : List (String × List EntryCandidateEvidenceV3)}
    (hg : Groups (·.candidateId) groups
      (evidence.filter (isEligibleItem eligible candidates))) :
    EligibleList eligible candidates evidence (groups.filterMap (pairOf pick candidates)) := by
  -- a member of the group of candidate `c` is an eligible partner of `c`, and the other way round
  have hmem : ∀ g ∈ groups, ∀ c ∈ candidates, c.candidateId = g.1 → ∀ e,
      e ∈ g.2 ↔ IsPair eligible candidates evidence ⟨c, e⟩ := by
    intro g hgm c hc hid e
    rw [hg.mem g hgm e, List.mem_filter]
    constructor
    · rintro ⟨⟨he, hel⟩, hk⟩
      have hce : c.candidateId = e.candidateId := hid.trans hk.symm
      rw [isEligibleItem_eq hn hc hce] at hel
      exact ⟨hc, he, hce.symm, hel⟩
    · rintro ⟨-, he, hk, hel⟩
      have hce : c.candidateId = e.candidateId := hk.symm
      refine ⟨⟨he, ?_⟩, hk.trans hid⟩
      rw [isEligibleItem_eq hn hc hce]
      exact hel
  refine ⟨(pairs_ids_sublist pick groups).nodup hg.nodup, ?_⟩
  intro pair
  rw [List.mem_filterMap]
  constructor
  · rintro ⟨g, hgm, hp⟩
    obtain ⟨hl, hpk⟩ := pairOf_eq_some.1 hp
    obtain ⟨hc, hid⟩ := lookup_some hl
    refine ⟨(hmem g hgm _ hc hid _).1 (hpick.mem _ _ hpk), ?_⟩
    intro other ho hoc
    have hmo : other.evidence ∈ g.2 := (hmem g hgm _ hc hid _).2 (by rw [← hoc]; exact ho)
    exact hpick.le _ _ hpk _ hmo
  · intro hch
    have hitem : pair.evidence ∈ evidence.filter (isEligibleItem eligible candidates) := by
      rw [List.mem_filter, isEligibleItem_eq hn hch.candidate_mem hch.id_eq.symm]
      exact ⟨hch.evidence_mem, hch.eligible_eq⟩
    obtain ⟨g, hgm, hgid⟩ := List.mem_map.1 (hg.cover _ hitem)
    have hid : pair.candidate.candidateId = g.1 := by
      rw [hgid]
      exact hch.id_eq.symm
    obtain ⟨item, hpk⟩ := hpick.isSome g.2 (hg.ne_nil g hgm)
    have hitemPair : IsPair eligible candidates evidence ⟨pair.candidate, item⟩ :=
      (hmem g hgm _ hch.candidate_mem hid _).1 (hpick.mem _ _ hpk)
    -- the picked item and the chosen evidence are both least, hence equal by their ids
    have hle₁ : evidenceKey pair.evidence ≤ evidenceKey item := hch.first _ hitemPair rfl
    have hle₂ : evidenceKey item ≤ evidenceKey pair.evidence :=
      hpick.le _ _ hpk _ ((hmem g hgm _ hch.candidate_mem hid _).2 hch.toIsPair)
    have hids : item.evidenceId = pair.evidence.evidenceId :=
      congrArg (fun k => (ofLex k).2) (le_antisymm hle₂ hle₁)
    have heq : item = pair.evidence := hne.eq_of_key hitemPair.evidence_mem hch.evidence_mem hids
    refine ⟨g, hgm, pairOf_eq_some.2 ⟨?_, heq ▸ hpk⟩⟩
    exact hn.lookup_iff.2 ⟨hch.candidate_mem, hid⟩

/-! ## The collected pairs -/

/-- The records that the collecting loops accept. -/
structure AcceptedRecords (setupId : JsString) (candidates : List EntryCandidateV3)
    (evidence : List EntryCandidateEvidenceV3) : Prop where
  setup : ∀ c ∈ candidates, c.setupId = setupId
  candidates_consistent : Consistent (·.candidateId) candidates
  evidence_consistent : Consistent (·.evidenceId) evidence
  known : Known candidates evidence

/-- `byId` holds every candidate once. -/
structure Indexed (candidates byId : List EntryCandidateV3) : Prop where
  nodup : KeysNodup (·.candidateId) byId
  mem_iff : ∀ c, c ∈ byId ↔ c ∈ candidates

variable {setupId : JsString} {messages : CollectMessages}
  {pick : List EntryCandidateEvidenceV3 → Option EntryCandidateEvidenceV3}

theorem AcceptedRecords.congr (hc : ∀ c, c ∈ candidates ↔ c ∈ candidates')
    (he : ∀ e, e ∈ evidence ↔ e ∈ evidence') (h : AcceptedRecords setupId candidates evidence) :
    AcceptedRecords setupId candidates' evidence' where
  setup := fun c hmem => h.setup c ((hc c).2 hmem)
  candidates_consistent := fun a ha b hb =>
    h.candidates_consistent a ((hc a).2 ha) b ((hc b).2 hb)
  evidence_consistent := fun a ha b hb => h.evidence_consistent a ((he a).2 ha) b ((he b).2 hb)
  known := by
    intro item hitem
    obtain ⟨c, hmem, hid⟩ := h.known item ((he item).2 hitem)
    exact ⟨c, (hc c).1 hmem, hid⟩

/-- What the collecting loops return: the candidates once each, and the sorted chosen pairs. -/
theorem collectPairs_ok (hpick : PicksFirst pick)
    (hdecide : ∀ c ∈ candidates, ∀ e ∈ evidence, decideEligible c e = .ok (eligible c e))
    {byId : List EntryCandidateV3} {sorted : List EligiblePair}
    (h : collectPairs messages decideEligible pick setupId candidates evidence =
      .ok (byId, sorted)) :
    AcceptedRecords setupId candidates evidence ∧ Indexed candidates byId ∧
      ∃ pairs, EligibleList eligible candidates evidence pairs ∧ sorted = sortBy pairKey pairs := by
  unfold collectPairs at h
  rw [bind_ok_iff] at h
  obtain ⟨byId', hindex, h⟩ := h
  rw [bind_ok_iff] at h
  obtain ⟨evidenceById, hindexE, h⟩ := h
  rw [bind_ok_iff] at h
  obtain ⟨grouped, hgrouped, hpure⟩ := h
  rw [pure_ok_iff, Prod.mk.injEq] at hpure
  obtain ⟨rfl, rfl⟩ := hpure
  obtain ⟨hsetup, hn, hmem, hcons⟩ := index_spec hindex
  obtain ⟨-, hnE, hmemE, hconsE⟩ := index_spec hindexE
  have start : Groups (fun e : EntryCandidateEvidenceV3 => e.candidateId) [] [] :=
    ⟨by simp, by simp, by simp, by simp⟩
  have hdecide' : ∀ c ∈ byId', ∀ e ∈ evidenceById, decideEligible c e = .ok (eligible c e) :=
    fun c hc e he => hdecide c ((hmem c).1 hc) e ((hmemE e).1 he)
  obtain ⟨hknown, hgroups⟩ := groupEligible_spec hn hdecide' start hgrouped
  rw [List.nil_append] at hgroups
  have hlist := eligibleList_of_groups hpick hn hnE hgroups
  refine ⟨⟨?_, hcons, hconsE, ?_⟩, ⟨hn, hmem⟩, _, hlist.congr hmem hmemE, rfl⟩
  · intro c hc
    simpa using hsetup c hc
  · intro item hitem
    obtain ⟨c, hc, hid⟩ := hknown item ((hmemE item).2 hitem)
    exact ⟨c, (hmem c).1 hc, hid⟩

theorem collectPairs_exists
    (hdecide : ∀ c ∈ candidates, ∀ e ∈ evidence, decideEligible c e = .ok (eligible c e))
    (h : AcceptedRecords setupId candidates evidence) :
    ∃ collected, collectPairs messages decideEligible pick setupId candidates evidence =
      .ok collected := by
  obtain ⟨byId, hindex⟩ : ∃ byId, index (·.candidateId)
      (fun c => failIf (c.setupId ≠ setupId) messages.setup) messages.candidate candidates =
        .ok byId :=
    index_exists (fun c hc => failIf_ok_iff.2 (not_not.2 (h.setup c hc))) h.candidates_consistent
  obtain ⟨evidenceById, hindexE⟩ : ∃ evidenceById, index (·.evidenceId) (fun _ => .ok ())
      messages.evidence evidence = .ok evidenceById :=
    index_exists (fun _ _ => rfl) h.evidence_consistent
  obtain ⟨-, -, hmem, -⟩ := index_spec hindex
  obtain ⟨-, -, hmemE, -⟩ := index_spec hindexE
  have hknown : Known byId evidenceById := by
    intro item hitem
    obtain ⟨c, hc, hid⟩ := h.known item ((hmemE item).1 hitem)
    exact ⟨c, (hmem c).2 hc, hid⟩
  have hdecide' : ∀ c ∈ byId, ∀ e ∈ evidenceById, decideEligible c e = .ok (eligible c e) :=
    fun c hc e he => hdecide c ((hmem c).1 hc) e ((hmemE e).1 he)
  obtain ⟨grouped, hgrouped⟩ : ∃ grouped, groupEligible decideEligible messages.unknown byId
      evidenceById [] = .ok grouped :=
    groupEligible_exists hknown hdecide' []
  simp only [collectPairs, hindex, hindexE, hgrouped, ok_bind_eq]
  exact ⟨_, rfl⟩

end Records

end TradeOps.Entry
