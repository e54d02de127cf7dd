import TradeOps.Telemetry.Repository

/-!
# When an admitted request can be prepared

Between the admission of a new request and its batch the repository derives the response, validates
it, projects the deals and prints the rows. For a request that the wire accepts, everything but one
step succeeds: the four amounts of a deal are bounded one by one, while their sum is read again
under the same bound. A request with a deal whose recorded amounts add up to nineteen integer digits
is accepted by the wire and fails on every attempt.
-/

namespace TradeOps.Telemetry

open JsString JsValue Checks

/-! ## What the wire guarantees -/

section Wire

variable {sha256Hex : String → String} {request : TelemetryRequestV2}

theorem validateEvents_ok {boundary : BoundaryV2} {scale highest result : Nat}
    {ids : List Identifier} {deals : List Ticket} {events : List JournalEventV2}
    (h : validateEvents sha256Hex boundary scale ids deals highest events = .ok result) :
    highest ≤ result ∧ ∀ event ∈ events,
      event.sequence.val ≤ result ∧ validateEvent event boundary scale = .ok () := by
  induction events generalizing ids deals highest with
  | nil =>
    rw [validateEvents, Except.ok.injEq] at h
    exact ⟨h.le, fun _ he => absurd he List.not_mem_nil⟩
  | cons event rest ih =>
    rw [validateEvents, then_ok_iff, then_ok_iff, bind_ok_iff] at h
    obtain ⟨-, hevent, digest, -, h⟩ := h
    rw [then_ok_iff] at h
    obtain ⟨hle, hrest⟩ := ih h.2
    refine ⟨(le_max_left _ _).trans hle, fun e he => ?_⟩
    rcases List.mem_cons.1 he with rfl | he
    · exact ⟨(le_max_right _ _).trans hle, hevent⟩
    · exact hrest e he

/-- What the preparation relies on. -/
structure WireFacts (request : TelemetryRequestV2) : Prop where
  scale : request.registration.display.currencyScale.val ≤ 16
  acknowledged : request.lastAcknowledgedEventSequence.val ≤ request.collection.producedEvents.val
  sequences : ∀ event ∈ request.events.val,
    event.sequence.val ≤ request.collection.producedEvents.val
  scan : request.collection.scanFinished = true → request.collection.scanThroughBrokerMsc ≠ none
  amounts : ∀ event ∈ request.events.val, ∀ deal, event.record = .deal deal →
    ∀ reading ∈ deal.amounts,
      requireScale reading request.registration.display.currencyScale.val = .ok ()

/-- A coverage is derived exactly when the acknowledged events were produced and a finished scan
has a watermark. -/
theorem deriveCoverageV2_ok_iff {collection : CollectionV2} {acknowledged : Counter} :
    (∃ coverage, deriveCoverageV2 true collection acknowledged = .ok coverage) ↔
      acknowledged.val ≤ collection.producedEvents.val ∧
        (collection.scanFinished = true → collection.scanThroughBrokerMsc ≠ none) := by
  simp only [deriveCoverageV2, then_ok_iff, failIf_ok_iff, not_true_eq_false, if_false,
    pure_ok_iff, not_lt, exists_and_left, exists_eq', and_true, not_and]

theorem wireFacts_of_parse {bytes : ByteArray}
    (h : parseTelemetryV2 sha256Hex bytes = .ok request) : WireFacts request := by
  rw [parseTelemetryV2, bind_ok_iff] at h
  obtain ⟨raw, -, h⟩ := h
  rw [bind_ok_iff] at h
  obtain ⟨parsed, -, h⟩ := h
  rw [then_ok_iff, pure_ok_iff] at h
  obtain ⟨hvalid, rfl⟩ := h
  rw [validateRequest, bind_ok_iff] at hvalid
  obtain ⟨boundary, -, hvalid⟩ := hvalid
  simp only [then_ok_iff] at hvalid
  obtain ⟨-, hscale, -, -, -, -, -, hvalid⟩ := hvalid
  rw [bind_ok_iff] at hvalid
  obtain ⟨highest, hevents, hvalid⟩ := hvalid
  simp only [then_ok_iff] at hvalid
  obtain ⟨hproduced, -, -, hvalid⟩ := hvalid
  rw [bind_ok_iff] at hvalid
  obtain ⟨coverage, hcoverage, -⟩ := hvalid
  obtain ⟨hhighest, hevents⟩ := validateEvents_ok hevents
  rw [failIf_ok_iff] at hscale hproduced
  push Not at hscale hproduced
  obtain ⟨-, hscan⟩ := deriveCoverageV2_ok_iff.1 ⟨coverage, hcoverage⟩
  refine ⟨hscale, hhighest.trans hproduced.1, fun event hevent =>
    (hevents event hevent).1.trans hproduced.1, hscan, ?_⟩
  intro event hevent deal hdeal
  have hvalid := (hevents event hevent).2
  rw [validateEvent, hdeal] at hvalid
  simp only [validateDeal, then_ok_iff, forAll_ok_iff] at hvalid
  exact hvalid.2.2.2.1

end Wire

/-! ## The recorded net of a deal -/

/-- The amounts of a deal, when all four are known, add up to at most eighteen integer digits. -/
def netFits (readings : List Reading) (scale : Nat) : Prop :=
  ∀ amounts, knownAmounts readings = some amounts →
    (amounts.map FixedDecimalV2.units).sum.natAbs < 10 ^ (18 + scale)

theorem ofScale_of_knownAmounts {readings : List Reading} {scale : Nat}
    {amounts : List FixedDecimalV2} (h : ∀ reading ∈ readings, requireScale reading scale = .ok ())
    (hknown : knownAmounts readings = some amounts) :
    ∀ amount ∈ amounts, amount.ofScale scale := by
  induction readings generalizing amounts with
  | nil =>
    rw [knownAmounts, Option.some.injEq] at hknown
    rw [← hknown]
    exact fun _ h => absurd h List.not_mem_nil
  | cons reading rest ih =>
    cases reading with
    | missing reason => cases hknown
    | known value =>
      rw [knownAmounts] at hknown
      obtain ⟨others, hothers, rfl⟩ := Option.map_eq_some_iff.1 hknown
      have hscale := h (.known value) List.mem_cons_self
      rw [requireScale, failIf_ok_iff, not_not] at hscale
      intro amount hamount
      rcases List.mem_cons.1 hamount with rfl | hmem
      · exact ⟨hscale, hscale ▸ value.property⟩
      · exact ih (fun r hr => h r (List.mem_cons_of_mem _ hr)) hothers amount hmem

theorem recordedNet_ok_iff {readings : List Reading} {scale : Nat} (hscale : scale ≤ 16)
    (h : ∀ reading ∈ readings, requireScale reading scale = .ok ()) :
    (∃ net, recordedNet readings scale = .ok net) ↔ netFits readings scale := by
  unfold recordedNet netFits
  cases hknown : knownAmounts readings with
  | none => simp
  | some amounts =>
    have hsum := sumFixedV2_ok_iff hscale (ofScale_of_knownAmounts h hknown)
    simp only [Option.some.injEq, forall_eq']
    rw [← hsum]
    cases sumFixedV2 amounts scale <;> simp [Except.map]

/-- The scale of a recorded net is the one it was summed at. -/
theorem recordedNet_scale {readings : List Reading} {scale : Nat} {net : FixedDecimalV2}
    (hscale : scale ≤ 16) (h : recordedNet readings scale = .ok (some net)) : net.scale ≤ 16 := by
  unfold recordedNet at h
  split at h
  · cases h
  · rename_i amounts hknown
    cases hsum : sumFixedV2 amounts scale with
    | error code => simp [hsum, Except.map] at h
    | ok result =>
      obtain rfl : result = net := by simpa [hsum, Except.map] using h
      rw [sumFixedV2, if_neg (by omega), bind_ok_iff] at hsum
      obtain ⟨total, -, hparse⟩ := hsum
      rw [parseFixedV2] at hparse
      split at hparse
      · rw [← Except.ok.inj hparse]
        exact hscale
      · cases hparse

theorem projectDealV2_ok_iff {deal : DealV2} {registration : RegistrationV2} :
    (∃ contribution, projectDealV2 deal registration = .ok contribution) ↔
      ∃ net, recordedNet deal.amounts registration.display.currencyScale.val = .ok net := by
  rw [projectDealV2]
  cases recordedNet deal.amounts registration.display.currencyScale.val with
  | error code => simp [bind, Except.bind]
  | ok net => simp

theorem projectDealV2_net {deal : DealV2} {registration : RegistrationV2}
    {contribution : JournalContributionV2}
    (h : projectDealV2 deal registration = .ok contribution) :
    recordedNet deal.amounts registration.display.currencyScale.val =
      .ok contribution.netRecorded := by
  rw [projectDealV2, bind_ok_iff] at h
  obtain ⟨net, hnet, h⟩ := h
  rw [hnet, ← Except.ok.inj h]

/-! ## Rows -/

theorem contributionKeys_ordered : namesOrdered (contributionKeys.map js) = true := by
  decide +kernel

theorem FixedDecimalV2.plain {fixed : FixedDecimalV2} (h : fixed.scale ≤ 16) (d : Nat) :
    fixed.json.Plain (d + 1) := by
  refine plain_object fixedKeys_ordered rfl ?_
  have hscale : ((fixed.scale : Int)).natAbs ≤ maxSafeInteger := by
    rw [Int.natAbs_natCast]
    exact h.trans (by decide)
  simp [Plain.num hscale]

theorem JournalContributionV2.plain {contribution : JournalContributionV2}
    (h : ∀ net, contribution.netRecorded = some net → net.scale ≤ 16) (d : Nat) :
    contribution.json.Plain (d + 3) := by
  refine plain_object contributionKeys_ordered rfl ?_
  have hnet : (nullableJson FixedDecimalV2.json contribution.netRecorded).Plain (d + 2) := by
    cases hcase : contribution.netRecorded with
    | none => exact .null
    | some net => exact FixedDecimalV2.plain (h net hcase) (d + 1)
  have hreason : (if contribution.netRecorded = none then .str (js "MISSING_BROKER_AMOUNT")
      else .null : JsValue).Plain (d + 2) := by
    split
    · exact .str _
    · exact .null
  simp [hnet, hreason]

theorem draftKeys_ordered : namesOrdered (draftKeys.map js) = true := by
  decide +kernel

/-- The numbers of a row are counters. -/
def EventRow.counted (row : EventRow) : Prop :=
  row.sequence ≤ maxSafeInteger ∧ ∀ revision, row.revision = some revision →
    revision ≤ maxSafeInteger

theorem EventRow.draft_plain {row : EventRow} (h : row.counted) (d : Nat) :
    row.draft.Plain (d + 1) := by
  refine plain_object draftKeys_ordered rfl ?_
  have hsequence : (JsValue.num row.sequence).Plain d := .num h.1
  have hrevision : (nullableJson (fun n : Nat => .num n) row.revision).Plain d := by
    cases hcase : row.revision with
    | none => exact .null
    | some revision => exact .num (h.2 revision hcase)
  simp [hsequence, hrevision]

section Rows

variable {registration : RegistrationV2} {scope : String}

/-- An event has a row exactly when the net of its deal, if it records one, fits. -/
theorem eventRow_ok_iff {event : JournalEventV2}
    (hscale : registration.display.currencyScale.val ≤ 16)
    (hamounts : ∀ deal, event.record = .deal deal → ∀ reading ∈ deal.amounts,
      requireScale reading registration.display.currencyScale.val = .ok ()) :
    (∃ row, eventRow registration scope event = .ok row) ↔
      ∀ deal, event.record = .deal deal →
        netFits deal.amounts registration.display.currencyScale.val := by
  rw [eventRow, canonicalStringify_plain (event.plain 0), ok_bind_eq]
  cases hrecord : event.record with
  | protection record => simp
  | deal deal =>
    have hnet := recordedNet_ok_iff hscale (hamounts deal hrecord)
    simp only [JournalRecord.deal.injEq, forall_eq']
    rw [← hnet, ← projectDealV2_ok_iff]
    constructor
    · rintro ⟨row, hrow⟩
      rw [bind_ok_iff] at hrow
      obtain ⟨contribution, hcontribution, -⟩ := hrow
      exact ⟨contribution, hcontribution⟩
    · rintro ⟨contribution, hcontribution⟩
      have hplain : contribution.json.Plain (0 + 3) := JournalContributionV2.plain
        (fun net hsome => recordedNet_scale hscale (hsome ▸ projectDealV2_net hcontribution)) 0
      rw [hcontribution, ok_bind_eq, canonicalStringify_plain hplain, ok_bind_eq]
      exact ⟨_, rfl⟩

theorem eventRow_counted {event : JournalEventV2} {row : EventRow}
    (h : eventRow registration scope event = .ok row) : row.counted := by
  rw [eventRow, bind_ok_iff] at h
  obtain ⟨eventJson, -, h⟩ := h
  split at h
  · rename_i deal hrecord
    rw [bind_ok_iff] at h
    obtain ⟨contribution, -, h⟩ := h
    rw [bind_ok_iff] at h
    obtain ⟨projectionJson, -, h⟩ := h
    rw [← Except.ok.inj h]
    refine ⟨event.sequence.property.2, fun revision hrevision => ?_⟩
    rw [← Option.some.inj hrevision]
    exact deal.revision.property.2
  · rw [← Except.ok.inj h]
    exact ⟨event.sequence.property.2, nofun⟩

theorem eventRows_ok_iff {events : List JournalEventV2} :
    (∃ rows, eventRows registration scope events = .ok rows) ↔
      ∀ event ∈ events, ∃ row, eventRow registration scope event = .ok row := by
  induction events with
  | nil => simp [eventRows]
  | cons event rest ih =>
    rw [List.forall_mem_cons, ← ih, eventRows]
    simp only [bind_ok_iff, pure_ok_iff]
    constructor
    · rintro ⟨rows, row, hrow, others, hothers, -⟩
      exact ⟨⟨row, hrow⟩, others, hothers⟩
    · rintro ⟨⟨row, hrow⟩, others, hothers⟩
      exact ⟨row :: others, row, hrow, others, hothers, rfl⟩

theorem eventRows_counted {events : List JournalEventV2} {rows : List EventRow}
    (h : eventRows registration scope events = .ok rows) : ∀ row ∈ rows, row.counted := by
  induction events generalizing rows with
  | nil =>
    rw [eventRows, Except.ok.injEq] at h
    rw [← h]
    exact fun _ h => absurd h List.not_mem_nil
  | cons event rest ih =>
    simp only [eventRows, bind_ok_iff, pure_ok_iff] at h
    obtain ⟨row, hrow, others, hothers, rfl⟩ := h
    intro r hr
    rcases List.mem_cons.1 hr with rfl | hr
    · exact eventRow_counted hrow
    · exact ih hothers r hr

end Rows

theorem latestKeys_ordered : namesOrdered (latestKeys.map js) = true := by
  decide +kernel

theorem latestJson_plain (request : TelemetryRequestV2) (coverage : CoverageV2) (d : Nat) :
    (latestJson request coverage).Plain (d + 6) := by
  refine plain_object latestKeys_ordered rfl ?_
  simp

theorem whenComplete_ok {c : Bool} {json : JsValue} {d : Nat} (h : json.Plain d) :
    ∃ text, whenComplete c json = .ok text := by
  unfold whenComplete
  split
  · rw [canonicalStringify_plain h]
    exact ⟨_, rfl⟩
  · exact ⟨none, rfl⟩

/-- The statements can be made exactly when the coverage can be derived and every event has a
row. -/
theorem statementsV2_ok_iff {request : TelemetryRequestV2} {scope response : String}
    {previous : Nat} {ack : Counter} {now : Instant} :
    (∃ batch, statementsV2 request scope previous ack now response = .ok batch) ↔
      (∃ coverage, deriveCoverageV2 true request.collection ack = .ok coverage) ∧
        ∃ rows, eventRows request.registration scope request.events.val = .ok rows := by
  have hbound : ¬ request.events.val.length > 32 := by
    have := request.events.property
    omega
  obtain ⟨accountJson, haccount⟩ :=
    whenComplete_ok (c := request.account.status = .complete) (request.account.plain 0)
  obtain ⟨exposureJson, hexposure⟩ :=
    whenComplete_ok (c := request.exposure.status = .complete) (request.exposure.plain 0)
  constructor
  · rintro ⟨batch, h⟩
    rw [statementsV2, then_ok_iff, bind_ok_iff] at h
    obtain ⟨-, coverage, hcoverage, h⟩ := h
    rw [bind_ok_iff] at h
    obtain ⟨latest, -, h⟩ := h
    rw [bind_ok_iff] at h
    obtain ⟨rows, hrows, -⟩ := h
    exact ⟨⟨coverage, hcoverage⟩, rows, hrows⟩
  · rintro ⟨⟨coverage, hcoverage⟩, rows, hrows⟩
    have hdrafts : (JsValue.arr (rows.map EventRow.draft)).Plain (1 + 1) := by
      refine .arr fun item hitem => ?_
      obtain ⟨row, hrow, rfl⟩ := List.mem_map.1 hitem
      exact EventRow.draft_plain (eventRows_counted hrows row hrow) 0
    rw [statementsV2, failIf, if_neg hbound, ok_bind_eq, hcoverage, ok_bind_eq,
      canonicalStringify_plain (latestJson_plain request coverage 0), ok_bind_eq, hrows, ok_bind_eq,
      canonicalStringify_plain hdrafts, ok_bind_eq, canonicalStringify_identity, ok_bind_eq,
      canonicalStringify_registration, ok_bind_eq, haccount, ok_bind_eq, hexposure, ok_bind_eq]
    exact ⟨_, rfl⟩

/-! ## The preparation of a new request -/

/-- The last event that a stream has. -/
def lastEventOf (state : Option AcceptedStateV2) : Counter :=
  (state.map (·.lastEventSequence)).getD ⟨0, zero_counter⟩

/-- The last request that a stream has accepted. -/
def lastRequestOf (state : Option AcceptedStateV2) : Nat :=
  (state.map (·.lastRequestSequence.val)).getD 0

theorem lastEventOf_val (state : Option AcceptedStateV2) :
    (lastEventOf state).val = (state.map (·.lastEventSequence.val)).getD 0 := by
  cases state <;> rfl

/-- What a new request goes on from. -/
theorem decideAdmissionV2_new {state : Option AcceptedStateV2} {receipt : Option ReceiptMetaV2}
    {request : TelemetryRequestV2} {isFresh : Bool} {ack : Counter}
    (h : decideAdmissionV2 state receipt request isFresh = .new ack) :
    receipt = none ∧ isFresh = true ∧ request.requestSequence.val = lastRequestOf state + 1 ∧
      (∀ s, state = some s → identityKey s.identity = identityKey request.identity) ∧
      proposeEvents (lastEventOf state) (request.events.val.map (·.sequence)) = some ack := by
  unfold decideAdmissionV2 at h
  simp only at h
  split at h
  · cases h
  · rename_i hidentity
    cases receipt with
    | some receipt =>
      simp only at h
      split at h
      · cases h
      split at h
      · cases h
      split at h
      · cases h
      split at h
      · cases h
      split at h <;> cases h
    | none =>
      simp only at h
      split at h
      · cases h
      split at h
      · cases h
      rename_i hsequence
      split at h
      · cases h
      rename_i hfresh
      split at h
      · cases h
      rename_i proposed hproposed
      push Not at hsequence
      refine ⟨rfl, by simpa using hfresh, hsequence.2, ?_, ?_⟩
      · rintro s rfl
        simpa using hidentity
      · rw [← AdmissionV2.new.inj h]
        exact hproposed

/-- A new request that goes on from the stream's last event acknowledges its own last event. -/
theorem expectedAck_of_new {state : Option AcceptedStateV2} {request : TelemetryRequestV2}
    {ack : Counter}
    (hproposed : proposeEvents (lastEventOf state) (request.events.val.map (·.sequence)) = some ack)
    (hlast : request.lastAcknowledgedEventSequence.val = (lastEventOf state).val) :
    ack.val = request.expectedAck := by
  obtain ⟨hsequences, hack⟩ := proposeEvents_some hproposed
  rw [List.map_map, List.length_map] at hsequences
  rw [List.length_map] at hack
  unfold TelemetryRequestV2.expectedAck
  cases hcase : request.events.val.getLast? with
  | none =>
    rw [List.getLast?_eq_none_iff.1 hcase, List.length_nil] at hack
    simp only
    omega
  | some event =>
    -- the last sequence of the range is the number of events past the start
    have hlength : 0 < request.events.val.length := by
      rw [List.length_pos_iff]
      intro hnil
      rw [hnil] at hcase
      cases hcase
    have hevent := congrArg List.getLast? hsequences
    rw [List.getLast?_map, hcase, Option.map_some, List.getLast?_range', if_neg (by omega),
      Option.some.injEq] at hevent
    simp only [Function.comp_apply] at hevent
    simp only
    omega

/-- A new request is prepared exactly when it goes on from the stream's last event and the nets of
its deals fit. -/
theorem prepareCommit_ok_iff {env : Env} (hsha : ∀ text, isDigest (env.sha256Hex text) = true)
    {request : TelemetryRequestV2} (hwire : WireFacts request) {state : Option AcceptedStateV2}
    {ack : Counter} {now : Instant}
    (hproposed :
      proposeEvents (lastEventOf state) (request.events.val.map (·.sequence)) = some ack) :
    (∃ batch, prepareCommit env state request ack now = .ok batch) ↔
      request.lastAcknowledgedEventSequence.val = (lastEventOf state).val ∧
        ∀ event ∈ request.events.val, ∀ deal, event.record = .deal deal →
          netFits deal.amounts request.registration.display.currencyScale.val := by
  have hrows : ∀ event ∈ request.events.val,
      (∃ row, eventRow request.registration (scopeV2 env request) event = .ok row) ↔
        ∀ deal, event.record = .deal deal →
          netFits deal.amounts request.registration.display.currencyScale.val :=
    fun event hevent => eventRow_ok_iff hwire.scale (hwire.amounts event hevent)
  rw [prepareCommit, ← lastEventOf_val]
  constructor
  · rintro ⟨batch, h⟩
    rw [then_ok_iff, failIf_ok_iff, not_not, bind_ok_iff] at h
    obtain ⟨hlast, response, -, h⟩ := h
    rw [bind_ok_iff] at h
    obtain ⟨valid, -, h⟩ := h
    obtain ⟨-, hok⟩ := statementsV2_ok_iff.1 ⟨batch, h⟩
    exact ⟨hlast, fun event hevent => (hrows event hevent).1 (eventRows_ok_iff.1 hok event hevent)⟩
  · rintro ⟨hlast, hfits⟩
    have hack := expectedAck_of_new hproposed hlast
    have hproduced : ack.val ≤ request.collection.producedEvents.val := by
      rw [hack, TelemetryRequestV2.expectedAck]
      split
      · rename_i event hevent
        exact hwire.sequences event (List.mem_of_getLast? hevent)
      · exact hwire.acknowledged
    obtain ⟨coverage, hcoverage⟩ := deriveCoverageV2_ok_iff.2 ⟨hproduced, hwire.scan⟩
    have hresponse : responseBytesV2 env.sha256Hex request ack now =
        .ok ((responseBody request ack now coverage).text env.sha256Hex) :=
      responseBytesV2_ok_iff.2 ⟨hack, coverage, hcoverage, rfl⟩
    have hvalid := validateResponseV2_made hsha hresponse
    have hok : ∃ rows, eventRows request.registration (scopeV2 env request) request.events.val =
        .ok rows :=
      eventRows_ok_iff.2 fun event hevent => (hrows event hevent).2 (hfits event hevent)
    rw [failIf, if_neg (not_not.2 hlast), ok_bind_eq, hresponse, ok_bind_eq, hvalid, ok_bind_eq]
    exact statementsV2_ok_iff.2 ⟨⟨coverage, hcoverage⟩, hok⟩

/-- **Preparation.** A request that the wire accepts and the admission takes as new is prepared
exactly when it acknowledges the stream's last event and every deal whose four amounts are known has
a net of at most eighteen integer digits. -/
theorem newRequest_prepared_iff (env : Env)
    (hsha : ∀ text, isDigest (env.sha256Hex text) = true) (bytes : ByteArray)
    (request : TelemetryRequestV2) (hparse : parseTelemetryV2 env.sha256Hex bytes = .ok request)
    (state : Option AcceptedStateV2) (receipt : Option ReceiptMetaV2) (isFresh : Bool)
    (ack : Counter) (hnew : decideAdmissionV2 state receipt request isFresh = .new ack)
    (now : Instant) :
    (∃ batch, prepareCommit env state request ack now = .ok batch) ↔
      request.lastAcknowledgedEventSequence.val = (lastEventOf state).val ∧
        ∀ event ∈ request.events.val, ∀ deal, event.record = .deal deal →
          netFits deal.amounts request.registration.display.currencyScale.val := by
  obtain ⟨-, -, -, -, hproposed⟩ := decideAdmissionV2_new hnew
  exact prepareCommit_ok_iff hsha (wireFacts_of_parse hparse) hproposed

/-! ## A request that cannot be prepared -/

/-- A request is read back from its text when it is valid and not too large. -/
theorem parseTelemetryV2_text {sha256Hex : String → String} {request : TelemetryRequestV2}
    (hsize : request.json.size ≤ 256 * 1024)
    (hvalid : validateRequest sha256Hex request request.json = .ok ()) :
    parseTelemetryV2 sha256Hex (String.ofList request.json.text).toUTF8 = .ok request := by
  rw [parseTelemetryV2, canonicalInput_text (request.plain 9) hsize, ok_bind_eq, readRequest_json,
    ok_bind_eq, hvalid]
  rfl

theorem plain_envelope {keys : List String} {values : List JsValue} {d : Nat}
    (hnames : namesOrdered (keys.map js) = true) (hlength : keys.length = values.length)
    (h : ∀ value ∈ values, value.Plain d) : (envelope (object keys values)).Plain (d + 1) := by
  have hplain := plain_object hnames hlength h
  rw [object] at hplain
  have hsub : ((((keys.map js).zip values).filter fun f => f.1 ≠ js "body_sha256").map
      Prod.fst).Sublist (keys.map js) := by
    have hfst : ((keys.map js).zip values).map Prod.fst = keys.map js :=
      List.map_fst_zip (by rw [List.length_map]; exact hlength.le)
    conv_rhs => rw [← hfst]
    exact List.filter_sublist.map _
  refine .obj ?_ fun f hf => h f.2 (List.of_mem_zip (List.mem_of_mem_filter hf)).2
  have hpairs := (namesOrdered_pairwise hnames).sublist hsub
  rw [namesOrdered, decide_eq_true_iff]
  exact hpairs.isChain

theorem envelope_plain (request : TelemetryRequestV2) (d : Nat) :
    (envelope request.json).Plain (d + 7) := by
  refine plain_envelope telemetryRequestKeys_ordered rfl ?_
  simp

namespace Sample

def digest (text : String) (h : isDigest text = true := by decide +kernel) : Digest := ⟨text, h⟩

def instant (n : Nat) (h : 1 ≤ n ∧ n ≤ maxSafeInteger := by decide) : Instant := ⟨n, h⟩

def counter (n : Nat) (h : 0 ≤ n ∧ n ≤ maxSafeInteger := by decide) : Counter := ⟨n, h⟩

def identifier (text : String) (h : isIdentifier text = true := by decide +kernel) : Identifier :=
  ⟨text, h⟩

def text {max : Nat} (t : String) (h : isText max (js t) = true := by decide +kernel) : Text max :=
  ⟨js t, h⟩

def amount (value : String) (h : isFixed value 2 = true := by decide +kernel) : Reading :=
  .known ⟨⟨value, 2⟩, h⟩

def boundary : BoundaryV2 where
  trackingId := identifier "synthetic-tracking"
  accountFingerprintSha256 :=
    digest "bbbbbbbbbbbbbbbbbbbbbbbbbbbbbbbbbbbbbbbbbbbbbbbbbbbbbbbbbbbbbbbb"
  startedAtBrokerMsc := instant 1800000000000
  initializedAtUtcSeconds := instant 1800000000
  excludedBoundaryDealIds := ⟨[], by decide⟩

def identity : IdentityV2 where
  accountId := identifier "synthetic-account"
  installationId := identifier "synthetic-installation"
  trackingId := identifier "synthetic-tracking"
  safetyEpoch := counter 7
  accountProfileSha256 :=
    digest "aaaaaaaaaaaaaaaaaaaaaaaaaaaaaaaaaaaaaaaaaaaaaaaaaaaaaaaaaaaaaaaa"
  accountFingerprintSha256 :=
    digest "bbbbbbbbbbbbbbbbbbbbbbbbbbbbbbbbbbbbbbbbbbbbbbbbbbbbbbbbbbbbbbbb"
  trackingBoundarySha256 :=
    digest "d44d100c6c5e0c657976c49a3e50bc1b2a5862584b6e16e7a1e2f5dffc947716"

/-- An account without positions and orders. -/
def exposure (at_ : Instant) (atBroker : Instant) : ExposureV2 where
  status := .complete
  observedAtUtcSeconds := at_
  observedAtBrokerMsc := atBroker
  positionCount := some (counter 0 zero_counter)
  orderCount := some (counter 0 zero_counter)
  positions := ⟨[], by decide⟩
  orders := ⟨[], by decide⟩

def registration : RegistrationV2 where
  boundary := boundary
  display :=
    { company := text "Synthetic Broker"
      server := text "Synthetic-Demo"
      loginLast4 := ⟨"0001", by decide +kernel⟩
      currency := ⟨"USD", by decide +kernel⟩
      currencyScale := counter 2
      accountMode := .demo
      marginMode := .retailHedging }
  baseline := exposure (instant 1800000000) (instant 1800000000000)

/-- Two amounts of eighteen digits that add up to nineteen. -/
def deal : DealV2 where
  dealId := ⟨"1", by decide +kernel⟩
  revision := instant 1
  previousRecordSha256 := none
  brokerTimeMsc := instant 1800000005000
  type := .balance
  entry := .none_
  orderId := none
  positionId := none
  symbol := none
  volume := none
  price := .missing .unavailable
  profit := amount "900000000000000000.00"
  commission := amount "900000000000000000.00"
  swap := amount "0.00"
  fee := amount "0.00"
  reason := .client
  sl := .missing .unavailable
  tp := .missing .unavailable
  protectionSource := .brokerDeal
  reversalSplit := none

def event : JournalEventV2 where
  sequence := instant 1
  eventId := identifier "event-1"
  observedAtUtcSeconds := instant 1800000010
  recordSha256 := digest "88171e5f96f93e8f888c2f68feeb400d6408c5acf1278fbbe6a6c8283d3111cf"
  record := .deal deal

def request : TelemetryRequestV2 where
  identity := identity
  registration := registration
  requestSequence := instant 1
  lastAcknowledgedEventSequence := counter 0 zero_counter
  sentAtUtcSeconds := instant 1800000010
  account :=
    { status := .complete
      observedAtUtcSeconds := instant 1800000010
      observedAtBrokerMsc := instant 1800000010000
      balance := amount "10000.00"
      equity := amount "10000.00"
      marginUsed := amount "0.00"
      marginFree := amount "10000.00"
      marginLevel := .missing .notApplicable }
  exposure := exposure (instant 1800000010) (instant 1800000010000)
  collection :=
    { producedEvents := counter 1
      scanFinished := true
      scanThroughBrokerMsc := some (instant 1800000010000)
      recordGap := none
      observationGap := false }
  diagnostics :=
    { eaRelease := text "synthetic-v2"
      reportedSourceSha256 := none
      reportedManifestSha256 := none
      terminalBuild := instant 6140
      sourceSymbol := text "EURUSD"
      observedAtUtcSeconds := instant 1800000010
      terminalConnectionState := .connected
      accountTradePermission := .denied
      terminalTradePermission := .denied
      algoTradingPermission := .denied
      lastSuccessfulUploadUtcSeconds := none
      lastAcceptedRequestSequence := counter 0 zero_counter
      localUnsentEvents := counter 1
      lastError := none }
  events := ⟨[event], by decide⟩
  bodySha256 := digest "d27af377ba79f8a079fa04dc31e4ff0b8e37825e9a7640db59bcfc72013d9091"

/-- SHA-256 of the texts of this request. -/
def sha256Hex (text : String) : String :=
  if text = String.ofList (JournalRecord.deal deal).json.text then
    "88171e5f96f93e8f888c2f68feeb400d6408c5acf1278fbbe6a6c8283d3111cf"
  else if text = String.ofList boundary.json.text then
    "d44d100c6c5e0c657976c49a3e50bc1b2a5862584b6e16e7a1e2f5dffc947716"
  else if text = String.ofList (envelope request.json).text then
    "d27af377ba79f8a079fa04dc31e4ff0b8e37825e9a7640db59bcfc72013d9091"
  else if text = identityKey identity then
    "ddec927a94a6623ac0f06fd6fb61d489570fb18ad33686a44a12fd7d65c00b5b"
  else "3f62ebcb54210e54ba92e8e8de3dd3efdc11687f024a7b7b02cb605b3c3e9329"

theorem sha256Hex_digest (text : String) : isDigest (sha256Hex text) = true := by
  unfold sha256Hex
  split_ifs <;> decide +kernel

/-- The number of fields of an object. -/
def fieldCount : JsValue → Nat
  | .obj fields => fields.length
  | _ => 0

/-- Two objects with different numbers of fields have different texts. -/
theorem text_ne {v w : JsValue} {d e : Nat} (hv : v.Plain d) (hw : w.Plain e)
    (h : fieldCount v ≠ fieldCount w) : String.ofList v.text ≠ String.ofList w.text := by
  intro htext
  exact h (congrArg fieldCount
    (text_injective hv.ordered hw.ordered (String.ofList_injective htext)))

theorem fieldCount_object {keys : List String} {values : List JsValue}
    (h : keys.length = values.length) : fieldCount (object keys values) = keys.length := by
  rw [object, fieldCount, List.length_zip, List.length_map, h, min_self]

theorem fieldCount_deal : fieldCount (JournalRecord.deal deal).json = 21 :=
  fieldCount_object rfl

theorem fieldCount_boundary : fieldCount boundary.json = 5 :=
  fieldCount_object rfl

theorem fieldCount_envelope : fieldCount (envelope request.json) = 11 := by
  decide +kernel

theorem sha256Hex_boundary : sha256Hex (String.ofList boundary.json.text) =
    "d44d100c6c5e0c657976c49a3e50bc1b2a5862584b6e16e7a1e2f5dffc947716" := by
  have hdeal := text_ne (boundary.plain 0) (JournalRecord.plain (.deal deal) 0)
    (by rw [fieldCount_boundary, fieldCount_deal]; decide)
  rw [sha256Hex, if_neg hdeal, if_pos rfl]

theorem sha256Hex_envelope : sha256Hex (String.ofList (envelope request.json).text) =
    "d27af377ba79f8a079fa04dc31e4ff0b8e37825e9a7640db59bcfc72013d9091" := by
  have hdeal := text_ne (envelope_plain request 0) (JournalRecord.plain (.deal deal) 0)
    (by rw [fieldCount_envelope, fieldCount_deal]; decide)
  have hboundary := text_ne (envelope_plain request 0) (boundary.plain 0)
    (by rw [fieldCount_envelope, fieldCount_boundary]; decide)
  rw [sha256Hex, if_neg hdeal, if_neg hboundary, if_pos rfl]

theorem request_valid : validateRequest sha256Hex request request.json = .ok () := by
  have hboundary : makeBoundaryV2 request.registration.boundary = .ok boundary := rfl
  rw [validateRequest, hboundary, ok_bind_eq]
  rw [then_ok_iff, failIf_ok_iff]
  refine ⟨by rintro (h | h | h) <;> exact h rfl, ?_⟩
  rw [then_ok_iff, failIf_ok_iff]
  refine ⟨by decide, ?_⟩
  simp only [then_ok_iff]
  refine ⟨by decide, by decide, by decide +kernel, by decide +kernel, by decide +kernel, ?_⟩
  have hevents : validateEvents sha256Hex boundary request.registration.display.currencyScale.val
      [] [] request.lastAcknowledgedEventSequence.val request.events.val = .ok 1 := by
    have hdigest : digestOf sha256Hex event.record.json = .ok event.recordSha256.val := by
      rw [digestOf, canonicalStringify_plain (event.record.plain 0)]
      exact congrArg Except.ok (if_pos rfl)
    rw [show request.events.val = [event] from rfl, validateEvents, then_ok_iff, then_ok_iff,
      hdigest]
    refine ⟨by decide +kernel, by decide +kernel, ?_⟩
    rw [ok_bind_eq, then_ok_iff, failIf_ok_iff]
    exact ⟨fun h => h rfl, rfl⟩
  have hboundaryDigest : digestOf sha256Hex request.registration.boundary.json =
      .ok request.identity.trackingBoundarySha256.val := by
    rw [digestOf, canonicalStringify_plain (BoundaryV2.plain _ 0)]
    exact congrArg Except.ok sha256Hex_boundary
  have hbodyDigest : digestOf sha256Hex (envelope request.json) = .ok request.bodySha256.val := by
    rw [digestOf, canonicalStringify_plain (envelope_plain request 0)]
    exact congrArg Except.ok sha256Hex_envelope
  refine bind_ok_iff.2 ⟨1, hevents, ?_⟩
  simp only [then_ok_iff]
  refine ⟨by decide +kernel, by decide +kernel, by decide +kernel, ?_⟩
  refine bind_ok_iff.2 ⟨_, rfl, ?_⟩
  rw [hboundaryDigest, hbodyDigest]
  simp only [ok_bind_eq, then_ok_iff, failIf_ok_iff]
  exact ⟨fun h => h rfl, fun h => h rfl⟩

theorem request_new : decideAdmissionV2 none none request true = .new (counter 1) := by
  decide +kernel

def env : Env := ⟨sha256Hex, fun _ => true⟩

theorem env_sha256Hex : env.sha256Hex = sha256Hex := by
  simp only [env]

theorem env_digest (text : String) : isDigest (env.sha256Hex text) = true := by
  rw [env_sha256Hex]
  exact sha256Hex_digest text

theorem request_parsed :
    parseTelemetryV2 env.sha256Hex (String.ofList request.json.text).toUTF8 = .ok request := by
  rw [env_sha256Hex]
  exact parseTelemetryV2_text (by decide +kernel) request_valid

/-- Preparing the sample fails when its deal is projected. -/
theorem request_failed :
    prepareCommit env none request (counter 1) (instant 1800000010) =
      .error .decimalInvalid := by
  obtain ⟨coverage, hcoverage⟩ :
      ∃ coverage, deriveCoverageV2 true request.collection (counter 1) = .ok coverage :=
    ⟨_, rfl⟩
  have hresponse : responseBytesV2 sha256Hex request (counter 1) (instant 1800000010) =
      .ok ((responseBody request (counter 1) (instant 1800000010) coverage).text sha256Hex) :=
    responseBytesV2_ok_iff.2 ⟨rfl, coverage, hcoverage, rfl⟩
  have hvalid := validateResponseV2_made sha256Hex_digest hresponse
  have hproject : projectDealV2 deal registration = .error .decimalInvalid := by
    decide +kernel
  have hrows : ∀ scope, eventRows registration scope request.events.val =
      .error .decimalInvalid := by
    intro scope
    rw [show request.events.val = [event] from rfl, eventRows, eventRow,
      canonicalStringify_plain (event.plain 0), ok_bind_eq]
    change (projectDealV2 deal registration >>= _) >>= _ = _
    rw [hproject]
    rfl
  rw [prepareCommit, env_sha256Hex, failIf, if_neg (fun h => h rfl), ok_bind_eq, hresponse,
    ok_bind_eq, hvalid, ok_bind_eq, statementsV2, failIf, if_neg (by decide), ok_bind_eq]
  rw [hcoverage, ok_bind_eq, canonicalStringify_plain (latestJson_plain _ _ 0), ok_bind_eq]
  change (eventRows registration _ request.events.val >>= _) = _
  rw [hrows]
  rfl

end Sample

/-- The wire accepts a deal whose amounts add up to nineteen integer digits, the admission takes
its request as new, and the preparation throws. -/
theorem sampleRequest_poisons_stream :
    parseTelemetryV2 Sample.env.sha256Hex (String.ofList Sample.request.json.text).toUTF8 =
        .ok Sample.request ∧
      decideAdmissionV2 none none Sample.request true = .new (Sample.counter 1) ∧
      prepareCommit Sample.env none Sample.request (Sample.counter 1)
        (Sample.instant 1800000010) = .error .decimalInvalid :=
  ⟨Sample.request_parsed, Sample.request_new, Sample.request_failed⟩

theorem newRequest_prepared_iff_sample :
    ¬ ∃ batch, prepareCommit Sample.env none Sample.request
      (Sample.counter 1) (Sample.instant 1800000010) = .ok batch := by
  rw [newRequest_prepared_iff Sample.env Sample.env_digest
    (String.ofList Sample.request.json.text).toUTF8 Sample.request Sample.request_parsed none none
    true (Sample.counter 1) Sample.request_new (Sample.instant 1800000010)]
  rintro ⟨-, hfits⟩
  have hamounts : knownAmounts Sample.deal.amounts =
      some [⟨"900000000000000000.00", 2⟩, ⟨"900000000000000000.00", 2⟩, ⟨"0.00", 2⟩,
        ⟨"0.00", 2⟩] := by
    decide +kernel
  have hnet := hfits Sample.event List.mem_cons_self Sample.deal rfl _ hamounts
  revert hnet
  decide +kernel

end TradeOps.Telemetry
