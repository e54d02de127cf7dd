import TradeOps.EntryModels.Arbitration
import TradeOps.Entry.ParityV3

/-!
# The selections of the two arbitrators

Whether a request is accepted and what is selected depends on the sets of its records only, and
Python, which indexes the same records, selects the same.
-/

namespace TradeOps.EntryModels

open Checks Keyed SortBy

/-! ## Decisions over the same records -/

section Congr

variable {candidates active active' : List EntryCandidate}
  {evidence evidence' : List EntryCandidateEvidence} {triggers triggers' : Triggers}

/-- Two ranks of evidence are equal only for the same identifier. -/
theorem evidenceId_of_rank_eq {a b : EntryCandidateEvidence}
    (h : exactEvidenceRank a = exactEvidenceRank b) : a.evidenceId = b.evidenceId :=
  congrArg (fun rank => (ofLex (ofLex (ofLex (ofLex rank).2).2).2).2) h

theorem CollectedFor.congr {candidate : EntryCandidate}
    (hmem : ∀ item, item ∈ evidence ↔ item ∈ evidence')
    (h : CollectedFor evidence triggers candidate) : CollectedFor evidence' triggers candidate where
  exact := h.exact.congr fun item =>
    ⟨fun hitem => ⟨(hmem item).mp hitem.mem, hitem.owner, hitem.eligible⟩,
      fun hitem => ⟨(hmem item).mpr hitem.mem, hitem.owner, hitem.eligible⟩⟩
  nonExact := h.nonExact.congr fun trigger => by
    unfold IsNonExactTrigger
    simp only [hmem]

/-- Records with the same identifier are the same. -/
structure DistinctKeys (candidates : List EntryCandidate) (evidence : List EntryCandidateEvidence) :
    Prop where
  candidates : Consistent (·.candidateId) candidates
  evidence : Consistent (·.evidenceId) evidence

variable (hkeys : DistinctKeys candidates evidence)
  (hcollected : Collected candidates evidence active triggers)
  (hcollected' : Collected candidates evidence active' triggers')

include hkeys hcollected hcollected'

/-- What is held for a candidate is determined by the evidence. -/
theorem exactEvidence_eq {c : EntryCandidate} (hc : IsActive candidates c) :
    triggers.exactEvidence c.candidateId = triggers'.exactEvidence c.candidateId := by
  refine (hcollected.triggers c hc).exact.unique ?_ (hcollected'.triggers c hc).exact
  intro a b ha hb hrank
  exact hkeys.evidence a ha.mem b hb.mem (evidenceId_of_rank_eq hrank)

theorem exactTrigger_eq {c : EntryCandidate} (hc : IsActive candidates c) :
    exactTrigger triggers.exactEvidence c = exactTrigger triggers'.exactEvidence c := by
  unfold exactTrigger
  rw [exactEvidence_eq hkeys hcollected hcollected' hc]

theorem exactCandidates_eq (hnodup : active.Nodup) (hnodup' : active'.Nodup) :
    exactCandidates active triggers = exactCandidates active' triggers' := by
  have hrank : ∀ c, IsActive candidates c → exactCandidateRank triggers.exactEvidence c =
      exactCandidateRank triggers'.exactEvidence c := by
    intro c hc
    unfold exactCandidateRank
    rw [exactTrigger_eq hkeys hcollected hcollected' hc]
  have hactive : ∀ c ∈ active.filter
      (fun item => (triggers.exactEvidence item.candidateId).isSome), IsActive candidates c :=
    fun c hc => (hcollected.active c).mp (List.mem_of_mem_filter hc)
  unfold exactCandidates
  rw [sortBy_congr fun a ha b hb => by rw [hrank a (hactive a ha), hrank b (hactive b hb)]]
  refine sortBy_eq_of_mem_iff _ (hnodup.filter _) (hnodup'.filter _) ?_ ?_
  · intro a ha b hb hkey
    have hid := congrArg (fun rank => (ofLex (ofLex rank).2).2) hkey
    exact hkeys.candidates a (hactive a ha).1 b (hactive b hb).1 hid
  · intro c
    rw [List.mem_filter, List.mem_filter, hcollected.active, hcollected'.active]
    refine and_congr_right fun hc => ?_
    rw [exactEvidence_eq hkeys hcollected hcollected' hc]

theorem hasEarlierNonExactFlip_eq {close : EntryCandidate} (hclose : IsActive candidates close) :
    hasEarlierNonExactFlip active triggers close =
      hasEarlierNonExactFlip active' triggers' close := by
  rw [Bool.eq_iff_iff, hasEarlierNonExactFlip_iff hcollected,
    hasEarlierNonExactFlip_iff hcollected', exactTrigger_eq hkeys hcollected hcollected' hclose]

theorem earliestModels_eq {first : EntryCandidate} {exact : List EntryCandidate}
    (hfirst : IsActive candidates first) (hexact : ∀ c ∈ exact, IsActive candidates c) :
    earliestModels triggers first exact = earliestModels triggers' first exact := by
  unfold earliestModels
  rw [List.filter_congr fun c hc => ?_]
  rw [exactTrigger_eq hkeys hcollected hcollected' hfirst,
    exactTrigger_eq hkeys hcollected hcollected' (hexact c hc)]

/-- The same records lead to the same decision, however they were ordered and collected. -/
theorem selectCanonicalDecision_eq (hnodup : active.Nodup) (hnodup' : active'.Nodup)
    (invalidated : Bool) :
    selectCanonicalDecision invalidated active (exactCandidates active triggers) triggers =
      selectCanonicalDecision invalidated active'
      (exactCandidates active' triggers') triggers' := by
  have hnil : active = [] ↔ active' = [] := by
    simp only [List.eq_nil_iff_forall_not_mem, hcollected.active, hcollected'.active]
  have hactive : ∀ c ∈ exactCandidates active triggers, IsActive candidates c :=
    fun c hc => ((mem_exactCandidates hcollected).mp hc).1
  rw [← exactCandidates_eq hkeys hcollected hcollected' hnodup hnodup']
  generalize exactCandidates active triggers = exact at hactive
  unfold selectCanonicalDecision
  simp only [hnil]
  cases exact with
  | nil => rfl
  | cons first rest =>
    have hfilter : ((first :: rest).find? (·.model = .dirClose)).filter
          (hasEarlierNonExactFlip active triggers) =
        ((first :: rest).find? (·.model = .dirClose)).filter
          (hasEarlierNonExactFlip active' triggers') := by
      cases hfind : (first :: rest).find? (·.model = .dirClose) with
      | none => rfl
      | some close =>
        rw [Option.filter_some, Option.filter_some, hasEarlierNonExactFlip_eq hkeys hcollected
          hcollected' (hactive close (List.mem_of_find?_eq_some hfind))]
    have hfirst := hactive first List.mem_cons_self
    dsimp only
    rw [hfilter, earliestModels_eq hkeys hcollected hcollected' hfirst hactive,
      exactEvidence_eq hkeys hcollected hcollected' hfirst]
    cases hclose : ((first :: rest).find? (·.model = .dirClose)).filter
        (hasEarlierNonExactFlip active' triggers') with
    | none => rfl
    | some close =>
      have hfind := (Option.filter_eq_some_iff.mp hclose).1
      dsimp only
      rw [exactEvidence_eq hkeys hcollected hcollected'
        (hactive close (List.mem_of_find?_eq_some hfind))]

end Congr

/-! ## Accepted requests -/

section Accepted

variable {sha256 : Json → String} {request : EntryArbitrationRequest}
  {candidates : List EntryCandidate} {evidence : List EntryCandidateEvidence}

/-- What `indexRecords` asks of a candidate. -/
structure CandidateAccepted (sha256 : Json → String) (request : EntryArbitrationRequest)
    (candidate : EntryCandidate) : Prop where
  owner : validateCandidateOwner request.setupId candidate = .ok ()
  digest : validateCandidateDigest sha256 candidate = .ok ()
  observed : candidate.observedAtEpoch ≤ request.evaluatedAtEpoch

/-- What `indexRecords` asks of evidence. -/
structure EvidenceAccepted (sha256 : Json → String) (request : EntryArbitrationRequest)
    (item : EntryCandidateEvidence) : Prop where
  coverage : validateEvidenceCoverage item = .ok ()
  payload : validateEvidencePayload sha256 item = .ok ()
  digest : validateEvidenceDigest sha256 item = .ok ()
  ended : item.coverageEndEpoch ≤ item.observedAtEpoch
  observed : item.observedAtEpoch ≤ request.evaluatedAtEpoch
  known : ∃ candidate ∈ request.candidates, candidate.candidateId = item.candidateId

/-- What is asked of the records of a request, through the members of its lists. -/
structure RecordsAccepted (sha256 : Json → String) (request : EntryArbitrationRequest) : Prop where
  candidates : ∀ candidate ∈ request.candidates, CandidateAccepted sha256 request candidate
  evidence : ∀ item ∈ request.evidence, EvidenceAccepted sha256 request item
  candidateKeys : Consistent (·.candidateId) request.candidates
  evidenceKeys : Consistent (·.evidenceId) request.evidence

/-- The indexed records. -/
structure Indexed (request : EntryArbitrationRequest) (candidates : List EntryCandidate)
    (evidence : List EntryCandidateEvidence) : Prop where
  candidateKeys : KeysNodup (·.candidateId) candidates
  evidenceKeys : KeysNodup (·.evidenceId) evidence
  candidate : ∀ c, c ∈ candidates ↔ c ∈ request.candidates
  evidence : ∀ e, e ∈ evidence ↔ e ∈ request.evidence

theorem indexRecords_ok (h : indexRecords sha256 request = .ok (candidates, evidence)) :
    Indexed request candidates evidence ∧ RecordsAccepted sha256 request := by
  unfold indexRecords at h
  obtain ⟨candidates', hcandidates, h⟩ := bind_ok_iff.mp h
  simp only [then_ok_iff, forAll_ok_iff, failIf_ok_iff, not_lt] at h
  obtain ⟨howner, hdigest, hobserved, h⟩ := h
  obtain ⟨evidence', hevidence, h⟩ := bind_ok_iff.mp h
  simp only [then_ok_iff, forAll_ok_iff, failIf_ok_iff, not_lt, pure_ok_iff] at h
  obtain ⟨hcoverage, hpayload, hidentity, hknown, hresult⟩ := h
  obtain ⟨rfl, rfl⟩ := Prod.mk.inj hresult
  obtain ⟨-, hkeys, hmem, hconsistent⟩ := index_spec hcandidates
  obtain ⟨-, hkeys', hmem', hconsistent'⟩ := index_spec hevidence
  refine ⟨⟨hkeys, hkeys', hmem, hmem'⟩, ?_, ?_, hconsistent, hconsistent'⟩
  · intro candidate hcandidate
    rw [← hmem] at hcandidate
    exact ⟨howner candidate hcandidate, hdigest candidate hcandidate,
      hobserved candidate hcandidate⟩
  · intro item hitem
    rw [← hmem'] at hitem
    obtain ⟨hended, hobservedItem, hunknown⟩ := hknown item hitem
    refine ⟨hcoverage item hitem, hpayload item hitem, hidentity item hitem, hended,
      hobservedItem, ?_⟩
    simp only [not_forall, not_not] at hunknown
    obtain ⟨candidate, hcandidate, hid⟩ := hunknown
    exact ⟨candidate, (hmem candidate).mp hcandidate, hid⟩

theorem indexRecords_exists (h : RecordsAccepted sha256 request) :
    ∃ candidates evidence, indexRecords sha256 request = .ok (candidates, evidence) := by
  obtain ⟨candidates, hcandidates⟩ : ∃ candidates, index (·.candidateId) (fun _ => .ok ())
      (fun candidate => "candidate identity conflict: " ++ candidate.candidateId)
      request.candidates = .ok candidates := index_exists (fun _ _ => rfl) h.candidateKeys
  obtain ⟨evidence, hevidence⟩ : ∃ evidence, index (·.evidenceId) (fun _ => .ok ())
      (fun item => "evidence identity conflict: " ++ item.evidenceId)
      request.evidence = .ok evidence := index_exists (fun _ _ => rfl) h.evidenceKeys
  obtain ⟨-, -, hmem, -⟩ := index_spec hcandidates
  obtain ⟨-, -, hmem', -⟩ := index_spec hevidence
  have hcandidate := fun c hc => h.candidates c ((hmem c).mp hc)
  have hitem := fun e he => h.evidence e ((hmem' e).mp he)
  refine ⟨candidates, evidence, ?_⟩
  unfold indexRecords
  rw [hcandidates, ok_bind_eq]
  simp only [then_ok_iff, forAll_ok_iff, failIf_ok_iff, not_lt]
  refine ⟨fun c hc => (hcandidate c hc).owner, fun c hc => (hcandidate c hc).digest,
    fun c hc => (hcandidate c hc).observed, ?_⟩
  rw [hevidence, ok_bind_eq]
  simp only [then_ok_iff, forAll_ok_iff, failIf_ok_iff, not_lt, pure_ok_iff]
  refine ⟨fun e he => (hitem e he).coverage, fun e he => (hitem e he).payload,
    fun e he => (hitem e he).digest,
    fun e he => ⟨(hitem e he).ended, (hitem e he).observed, ?_⟩, trivial⟩
  intro hunknown
  obtain ⟨candidate, hc, hid⟩ := (hitem e he).known
  exact hunknown candidate ((hmem candidate).mpr hc) hid

end Accepted

/-! ## The selection of a request -/

section Selection

variable {sha256 : Json → String} {request : EntryArbitrationRequest} {result : EntrySelection}

/-- What the scalar checks of a request ask. -/
structure ScalarsAccepted (request : EntryArbitrationRequest) : Prop where
  setupId : requireClosedText request.setupId "setup_id" = .ok ()
  revision : requireNonNegativeInteger request.revision "revision" = .ok ()
  evaluatedAt : requireNonNegativeInteger request.evaluatedAtEpoch "evaluated_at_epoch" = .ok ()

/-- The selection from the active candidates and the collected triggers. -/
def selectionOf (sha256 : Json → String) (request : EntryArbitrationRequest)
    (active : List EntryCandidate) (triggers : Triggers) : EntrySelection :=
  selection sha256 request active
    (selectCanonicalDecision request.setupInvalidated active (exactCandidates active triggers)
      triggers)

/-- The candidates that take part. -/
def activeOf (candidates : List EntryCandidate) : List EntryCandidate :=
  candidates.filter (·.isActive)

theorem arbitrate_ok_iff :
    arbitrateEntryCandidates sha256 request = .ok result ↔
      ScalarsAccepted request ∧ ∃ candidates evidence,
        indexRecords sha256 request = .ok (candidates, evidence) ∧
        result = selectionOf sha256 request (activeOf candidates)
          (triggersOf (activeOf candidates) evidence) := by
  unfold arbitrateEntryCandidates
  rw [then_ok_iff, then_ok_iff, then_ok_iff, bind_ok_iff]
  simp only [Prod.exists, pure_ok_iff]
  constructor
  · rintro ⟨hsetup, hrevision, hevaluated, candidates, evidence, hindex, hresult⟩
    exact ⟨⟨hsetup, hrevision, hevaluated⟩, candidates, evidence, hindex, hresult.symm⟩
  · rintro ⟨⟨hsetup, hrevision, hevaluated⟩, candidates, evidence, hindex, hresult⟩
    exact ⟨hsetup, hrevision, hevaluated, candidates, evidence, hindex, hresult.symm⟩

section Indexed

variable {candidates : List EntryCandidate} {evidence : List EntryCandidateEvidence}

theorem Indexed.mem_activeOf (h : Indexed request candidates evidence) (c : EntryCandidate) :
    c ∈ activeOf candidates ↔ IsActive request.candidates c := by
  unfold activeOf IsActive
  rw [List.mem_filter, h.candidate]

theorem Indexed.activeIds_nodup (h : Indexed request candidates evidence) :
    ((activeOf candidates).map (·.candidateId)).Nodup :=
  h.candidateKeys.sublist (List.filter_sublist.map _)

/-- What is collected from the indexed records is collected from those of the request. -/
theorem Indexed.collected (h : Indexed request candidates evidence) {triggers : Triggers}
    (hfor : ∀ c ∈ activeOf candidates, CollectedFor evidence triggers c) :
    Collected request.candidates request.evidence (activeOf candidates) triggers where
  active := h.mem_activeOf
  triggers c hc := (hfor c ((h.mem_activeOf c).mpr hc)).congr h.evidence

theorem Indexed.collected_triggersOf (h : Indexed request candidates evidence) :
    Collected request.candidates request.evidence (activeOf candidates)
      (triggersOf (activeOf candidates) evidence) :=
  h.collected fun _ hc => collectedFor_triggersOf hc evidence

end Indexed

/-- The same records lead to the same selection, however they were ordered and collected. -/
theorem selectionOf_eq {candidates active active' : List EntryCandidate}
    {evidence : List EntryCandidateEvidence} {triggers triggers' : Triggers}
    (hkeys : DistinctKeys candidates evidence)
    (hcollected : Collected candidates evidence active triggers)
    (hcollected' : Collected candidates evidence active' triggers')
    (hnodup : (active.map (·.candidateId)).Nodup) (hnodup' : (active'.map (·.candidateId)).Nodup) :
    selectionOf sha256 request active triggers = selectionOf sha256 request active' triggers' := by
  have hids : sortBy id (active.map (·.candidateId)) = sortBy id (active'.map (·.candidateId)) := by
    refine sortBy_eq_of_mem_iff id hnodup hnodup' (fun _ _ _ _ heq => heq) fun i => ?_
    simp only [List.mem_map, hcollected.active, hcollected'.active]
  unfold selectionOf selection selectionIdentity
  rw [selectCanonicalDecision_eq hkeys hcollected hcollected' hnodup.of_map hnodup'.of_map, hids]

/-- The two requests have the same records, in any order and number. -/
structure SameRecordSets (request request' : EntryArbitrationRequest) : Prop where
  setupId : request'.setupId = request.setupId
  setupInvalidated : request'.setupInvalidated = request.setupInvalidated
  revision : request'.revision = request.revision
  evaluatedAtEpoch : request'.evaluatedAtEpoch = request.evaluatedAtEpoch
  candidates : ∀ c, c ∈ request'.candidates ↔ c ∈ request.candidates
  evidence : ∀ e, e ∈ request'.evidence ↔ e ∈ request.evidence

theorem RecordsAccepted.congr {request' : EntryArbitrationRequest}
    (hsame : SameRecordSets request request') (h : RecordsAccepted sha256 request) :
    RecordsAccepted sha256 request' where
  candidates c hc := by
    have haccepted := h.candidates c ((hsame.candidates c).mp hc)
    exact ⟨by rw [hsame.setupId]; exact haccepted.owner, haccepted.digest,
      by rw [hsame.evaluatedAtEpoch]; exact haccepted.observed⟩
  evidence e he := by
    have haccepted := h.evidence e ((hsame.evidence e).mp he)
    obtain ⟨c, hc, hid⟩ := haccepted.known
    exact ⟨haccepted.coverage, haccepted.payload, haccepted.digest, haccepted.ended,
      by rw [hsame.evaluatedAtEpoch]; exact haccepted.observed,
      c, (hsame.candidates c).mpr hc, hid⟩
  candidateKeys a ha b hb :=
    h.candidateKeys a ((hsame.candidates a).mp ha) b ((hsame.candidates b).mp hb)
  evidenceKeys a ha b hb :=
    h.evidenceKeys a ((hsame.evidence a).mp ha) b ((hsame.evidence b).mp hb)

theorem SameRecordSets.collected {request' : EntryArbitrationRequest} {active : List EntryCandidate}
    {triggers : Triggers} (hsame : SameRecordSets request request')
    (h : Collected request'.candidates request'.evidence active triggers) :
    Collected request.candidates request.evidence active triggers := by
  have hactive : ∀ c, IsActive request'.candidates c ↔ IsActive request.candidates c :=
    fun c => and_congr_left fun _ => hsame.candidates c
  exact ⟨fun c => (h.active c).trans (hactive c),
    fun c hc => (h.triggers c ((hactive c).mpr hc)).congr hsame.evidence⟩

/-- The order and the number of the records do not matter. -/
theorem arbitrate_congr {request' : EntryArbitrationRequest}
    (hsame : SameRecordSets request request')
    (h : arbitrateEntryCandidates sha256 request = .ok result) :
    arbitrateEntryCandidates sha256 request' = .ok result := by
  obtain ⟨hscalars, candidates, evidence, hindex, rfl⟩ := arbitrate_ok_iff.mp h
  obtain ⟨hindexed, haccepted⟩ := indexRecords_ok hindex
  obtain ⟨candidates', evidence', hindex'⟩ := indexRecords_exists (haccepted.congr hsame)
  have hindexed' := (indexRecords_ok hindex').1
  refine arbitrate_ok_iff.mpr ⟨?_, candidates', evidence', hindex', ?_⟩
  · exact ⟨by rw [hsame.setupId]; exact hscalars.setupId,
      by rw [hsame.revision]; exact hscalars.revision,
      by rw [hsame.evaluatedAtEpoch]; exact hscalars.evaluatedAt⟩
  · rw [selectionOf_eq ⟨haccepted.candidateKeys, haccepted.evidenceKeys⟩
      hindexed.collected_triggersOf (hsame.collected hindexed'.collected_triggersOf)
      hindexed.activeIds_nodup hindexed'.activeIds_nodup]
    unfold selectionOf selection selectionIdentity
    rw [hsame.setupId, hsame.setupInvalidated, hsame.revision, hsame.evaluatedAtEpoch]

end Selection

end TradeOps.EntryModels
