import TradeOps.Heartbeat.Staleness

/-!
# Agent and server stay in step

The agent throws its payload away when it is told that the timestamp is invalid, and builds another
one for the same sequence. That is safe as long as no copy of the old payload can be accepted any
more. In every run in which only dead payloads are answered stale, the agent is one sequence ahead
of the server, or it holds the payload that the server accepted.
-/

namespace TradeOps.Heartbeat

variable {sha256Hex : String → String} {account : String} {bodyDigest : Payload → String}
  {server server' : Server} {request : AgentSyncRequest} {event : Event} {nowEpoch : Int}
  {payload : Payload}

/-! ## The invariant -/

variable {world world' : World}

/-- What the server keeps for the account. -/
def World.kept (world : World) (account : String) : Storage := world.server.coordinators account

/-- The copies on the network and in the server. -/
structure Copies (account : String) (world : World) : Prop where
  sent : ∀ connection payload, (connection, payload) ∈ world.sent →
    connection < world.nextConnection ∧ payload.accountId = account ∧
      1 ≤ payload.requestSequence ∧ payload.requestSequence ≤ world.journal.requestSequence
  unique : ∀ connection payload payload', (connection, payload) ∈ world.sent →
    (connection, payload') ∈ world.sent → payload = payload'
  handlers : ∀ handler ∈ world.server.handlers, ∃ payload,
    (handler.connection, payload) ∈ world.sent ∧
      handler.request = parseAgentSyncRequest payload handler.nowEpoch ∧
      handler.nowEpoch ≤ world.server.nowEpoch
  answered : ∀ connection response, response.settles → Answers world.server connection response →
    connection < world.nextConnection

/-- The agent's own state. -/
structure Journalled (account : String) (world : World) : Prop where
  memory : ∀ state, world.memory = some state → state = world.journal
  positive : 1 ≤ world.journal.requestSequence
  pending : ∀ payload, world.journal.pendingPayload = some payload →
    payload.requestSequence = world.journal.requestSequence ∧ payload.accountId = account
  waiting : ∀ connection, world.waiting = some connection → ∃ payload,
    (connection, payload) ∈ world.sent ∧ world.journal.pendingPayload = some payload

/-- The agent is one sequence ahead, or it holds the payload that the server accepted. -/
def InStep (account : String) (world : World) : Prop :=
  world.journal.requestSequence = lastSequence (world.kept account) + 1 ∨
    (world.journal.requestSequence = lastSequence (world.kept account) ∧
      ∃ payload, world.journal.pendingPayload = some payload ∧
        (loadCoordinatorSyncState (world.kept account)).lastAcceptedRequestDigest =
          some payload.bodySha256)

/-- `InStep`, and what keeps it: payloads that were replaced or answered stale are dead, and an
answer 200 is to a sequence that the server has accepted. -/
structure Agreement (account : String) (world : World) : Prop where
  copies : Copies account world
  journalled : Journalled account world
  inStep : InStep account world
  superseded : ∀ connection payload, (connection, payload) ∈ world.sent →
    payload.requestSequence = world.journal.requestSequence →
      world.journal.pendingPayload ≠ some payload → Dead world.server payload
  refused : ∀ connection payload, (connection, payload) ∈ world.sent →
    Answers world.server connection .timestampInvalid →
      Dead world.server payload ∧ (world.journal.pendingPayload = some payload →
        world.journal.requestSequence = lastSequence (world.kept account) + 1)
  acknowledged : ∀ connection payload bytes, (connection, payload) ∈ world.sent →
    Answers world.server connection (.ok bytes) →
      payload.requestSequence ≤ lastSequence (world.kept account)

theorem agreement_initial (account : String) (nowEpoch : Int) :
    Agreement account (World.initial nowEpoch) := by
  have hanswers : ∀ connection response,
      ¬Answers (World.initial nowEpoch).server connection response := by
    intro connection response h
    obtain ⟨answer, hmem, -⟩ | ⟨handler, hmem, -⟩ := h <;> cases hmem
  refine ⟨⟨?_, ?_, ?_, ?_⟩, ⟨?_, ?_, ?_, ?_⟩, .inl rfl, ?_, ?_, ?_⟩
  · intro connection payload hmem
    cases hmem
  · intro connection payload payload' hmem
    cases hmem
  · intro handler hmem
    cases hmem
  · intro connection response _ h
    exact absurd h (hanswers connection response)
  · intro state h
    cases h
  · exact le_refl (1 : Int)
  · intro payload h
    cases h
  · intro connection h
    cases h
  · intro connection payload hmem
    cases hmem
  · intro connection payload hmem
    cases hmem
  · intro connection payload bytes hmem
    cases hmem

/-! ## Steps of the server -/

/-- The condition on the coordinator's step: a stale request that is not a resend of the last
accepted one is dated before the clock of its call, and no copy of it that was parsed as fresh waits
for the coordinator. -/
def TimelyRefusal (server : Server) (handler : Handler) : Prop :=
  handler.request.freshness = .stale →
    handler.request.requestSequence ≠
      lastSequence (server.coordinators handler.request.accountId) →
    handler.request.sentAtEpoch < handler.nowEpoch ∧
      ∀ other ∈ server.handlers, other.coordinated = none →
        { other.request with freshness := .stale } = handler.request →
          other.request.freshness = .stale

instance (server : Server) (handler : Handler) : Decidable (TimelyRefusal server handler) := by
  unfold TimelyRefusal
  infer_instance

theorem Copies.passes (h : Copies account world)
    (hpasses : Passes world.server server' event) (hdelivers : world.delivers event = true) :
    Copies account { world with server := server' } where
  sent := h.sent
  unique := h.unique
  handlers := by
    intro handler hmem
    obtain hold | ⟨connection, payload, hevent, heq⟩ := hpasses.handlers handler hmem
    · obtain ⟨payload, hsent, hrequest, hclock⟩ := h.handlers handler hold
      exact ⟨payload, hsent, hrequest, hclock.trans hpasses.clock⟩
    · rw [hevent, World.delivers, decide_eq_true_eq] at hdelivers
      rw [heq]
      exact ⟨payload, hdelivers, rfl, hpasses.clock⟩
  answered := by
    intro connection response hsettles hanswer
    exact h.answered connection response hsettles
      (hpasses.answers connection response hsettles hanswer)

theorem Agreement.passes (h : Agreement account world)
    (hpasses : Passes world.server server' event) (hdelivers : world.delivers event = true) :
    Agreement account { world with server := server' } := by
  have hstorage : World.kept { world with server := server' } account =
      world.kept account := congrFun hpasses.coordinators account
  refine ⟨h.copies.passes hpasses hdelivers, ?_, ?_, ?_, ?_, ?_⟩
  · exact ⟨h.journalled.memory, h.journalled.positive, h.journalled.pending, h.journalled.waiting⟩
  · rw [InStep, hstorage]
    exact h.inStep
  · intro connection payload hsent hsequence hpending
    exact (h.superseded connection payload hsent hsequence hpending).passes hpasses
  · intro connection payload hsent hanswer
    obtain ⟨hdead, hahead⟩ := h.refused connection payload hsent
      (hpasses.answers connection .timestampInvalid rfl hanswer)
    rw [hstorage]
    exact ⟨hdead.passes hpasses, hahead⟩
  · intro connection payload bytes hsent hanswer
    rw [hstorage]
    exact h.acknowledged connection payload bytes hsent
      (hpasses.answers connection (.ok bytes) rfl hanswer)

/-- What the response of a settled call says of the coordinator's outcome. -/
theorem readOutcome_response {outcome : Outcome} {coordinated : Coordinated}
    (h : readOutcome sha256Hex request outcome = some coordinated) :
    (coordinated.response = .timestampInvalid → outcome = .rejected .staleTimestamp) ∧
      (∀ bytes, coordinated.response = .ok bytes → ∃ replayed, outcome = .ok replayed bytes) := by
  cases outcome with
  | ok replayed bytes =>
    simp only [readOutcome, Option.bind_eq_bind, Option.bind_eq_some_iff, Option.pure_def,
      Option.some.injEq] at h
    obtain ⟨serverSequence, -, rfl⟩ := h
    refine ⟨?_, ?_⟩
    · intro h
      cases h
    · intro bytes' h
      cases h
      exact ⟨replayed, rfl⟩
  | rejected code =>
    simp only [readOutcome, Option.some.injEq] at h
    rw [← h]
    cases code
    all_goals
      refine ⟨?_, ?_⟩
      · intro h
        first | rfl | cases h
      · intro bytes h
        cases h
  | thrown => cases h

section Coordinate

variable {handler : Handler} {returned : Bool}

theorem Copies.coordinate (h : Copies account world) (hmem : handler ∈ world.server.handlers) :
    Copies account { world with server := world.server.coordinate sha256Hex handler returned } := by
  obtain ⟨-, hclock, hhandlers, hanswers⟩ :=
    coordinate_effect sha256Hex world.server handler returned
  refine ⟨h.sent, h.unique, ?_, ?_⟩
  · intro other hother
    show ∃ payload, _ ∧ _ ∧ _ ≤ (world.server.coordinate sha256Hex handler returned).nowEpoch
    rw [hclock]
    obtain hold | ⟨coordinated, heq⟩ := hhandlers other hother
    · exact h.handlers other hold
    · rw [heq]
      exact h.handlers handler hmem
  · intro connection response hsettles hanswer
    obtain hold | ⟨hconnection, -⟩ := hanswers connection response hsettles hanswer
    · exact h.answered connection response hsettles hold
    · obtain ⟨payload, hsent, -⟩ := h.handlers handler hmem
      rw [hconnection]
      exact (h.sent _ _ hsent).1

/-- Only the pending payload is accepted, and only while it is alive. -/
theorem Agreement.accepts (h : Agreement account world) (hmem : handler ∈ world.server.handlers)
    (hnone : handler.coordinated = none) {payload : Payload}
    (hsent : (handler.connection, payload) ∈ world.sent)
    (hrequest : handler.request = parseAgentSyncRequest payload handler.nowEpoch)
    {body : ResponseBody}
    (haccepts : Accepts (world.kept account) handler.request handler.nowEpoch body) :
    world.journal.pendingPayload = some payload ∧
      world.journal.requestSequence = lastSequence (world.kept account) + 1 ∧
      ¬Dead world.server payload := by
  have hsequence : handler.request.requestSequence = payload.requestSequence := by
    rw [hrequest]
    rfl
  have halive : ¬Dead world.server payload := by
    intro hdead
    have hstale := hdead.copies handler hmem hnone hrequest
    rw [haccepts.fresh] at hstale
    cases hstale
  have hle := (h.copies.sent _ _ hsent).2.2.2
  have hnext := haccepts.next
  rw [hsequence] at hnext
  have hahead : world.journal.requestSequence = lastSequence (world.kept account) + 1 := by
    obtain hahead | ⟨hlast, -⟩ := h.inStep
    · exact hahead
    · omega
  refine ⟨?_, hahead, halive⟩
  by_contra hpending
  exact halive (h.superseded _ _ hsent (by omega) hpending)

/-- A payload that the coordinator answers stale in time is dead. -/
theorem dead_of_timelyRefusal {payload : Payload}
    (hrequest : handler.request = parseAgentSyncRequest payload handler.nowEpoch)
    (hclock : handler.nowEpoch ≤ server.nowEpoch) (htimely : TimelyRefusal server handler)
    (hstale : handler.request.freshness = .stale)
    (hne : handler.request.requestSequence ≠
      lastSequence (server.coordinators handler.request.accountId)) : Dead server payload := by
  obtain ⟨hpast, hcopies⟩ := htimely hstale hne
  refine ⟨?_, ?_⟩
  · rw [hrequest] at hstale hpast
    exact lt_of_lt_of_le (old_of_stale hstale hpast) hclock
  · intro other hmem hnone hother
    apply hcopies other hmem hnone
    rw [hrequest] at hstale ⊢
    rw [hother]
    unfold parseAgentSyncRequest at hstale ⊢
    dsimp only at hstale ⊢
    rw [hstale]

theorem Agreement.coordinate (h : Agreement account world) (hmem : handler ∈ world.server.handlers)
    (hnone : handler.coordinated = none) (htimely : TimelyRefusal world.server handler) :
    Agreement account
      { world with server := world.server.coordinate sha256Hex handler returned } := by
  obtain ⟨hcoordinators, -, -, hanswers⟩ :=
    coordinate_effect sha256Hex world.server handler returned
  obtain ⟨payload, hsent, hrequest, hbefore⟩ := h.copies.handlers handler hmem
  have haccount : handler.request.accountId = account := by
    rw [hrequest]
    exact (h.copies.sent _ _ hsent).2.1
  have hsequence : handler.request.requestSequence = payload.requestSequence := by
    rw [hrequest]
    rfl
  rw [haccount] at hcoordinators hanswers
  have hkept : World.kept { world with
      server := world.server.coordinate sha256Hex handler returned } account =
      (coordinateAgentSync sha256Hex (world.kept account) handler.request handler.nowEpoch).2 := by
    show (world.server.coordinate sha256Hex handler returned).coordinators account = _
    rw [hcoordinators, Function.update_self]
    rfl
  refine ⟨h.copies.coordinate hmem, ⟨h.journalled.memory, h.journalled.positive,
    h.journalled.pending, h.journalled.waiting⟩, ?_, ?_, ?_, ?_⟩
  · rw [InStep, hkept]
    obtain ⟨body, haccepts, hresult⟩ | ⟨outcome, -, hresult⟩ :=
      coordinate_cases sha256Hex (world.kept account) handler.request handler.nowEpoch
    · obtain ⟨hpending, hahead, -⟩ := h.accepts hmem hnone hsent hrequest haccepts
      rw [hresult, lastSequence_accept]
      refine .inr ⟨by rw [haccepts.next]; exact hahead, payload, hpending, ?_⟩
      rw [load_accept, acceptedState, hrequest]
      rfl
    · rw [hresult]
      exact h.inStep
  · intro connection payload' hsent' hsequence' hpending
    exact (h.superseded connection payload' hsent' hsequence' hpending).coordinate handler returned
  · intro connection payload' hsent' hanswer
    rw [hkept]
    obtain hold | ⟨hconnection, coordinated, hread, hresponse⟩ :=
      hanswers connection .timestampInvalid rfl hanswer
    · obtain ⟨hdead, hahead⟩ := h.refused connection payload' hsent' hold
      refine ⟨hdead.coordinate handler returned, ?_⟩
      intro hpending'
      obtain ⟨body, haccepts, hresult⟩ | ⟨outcome, -, hresult⟩ :=
        coordinate_cases sha256Hex (world.kept account) handler.request handler.nowEpoch
      · obtain ⟨hpending, -, halive⟩ := h.accepts hmem hnone hsent hrequest haccepts
        have hsame : payload' = payload := by
          rw [← Option.some.injEq, ← hpending, ← hpending']
        rw [hsame] at hdead
        exact absurd hdead halive
      · rw [hresult]
        exact hahead hpending'
    · rw [hconnection] at hsent'
      have hsame : payload' = payload := h.copies.unique _ _ _ hsent' hsent
      have houtcome := (readOutcome_response hread).1 hresponse
      have hpositive : 1 ≤ handler.request.requestSequence := by
        rw [hsequence]
        exact (h.copies.sent _ _ hsent).2.2.1
      obtain ⟨hstale, hne⟩ := coordinate_stale hpositive houtcome
      have hdead := dead_of_timelyRefusal hrequest hbefore htimely hstale
        (by rw [haccount]; exact hne)
      rw [hsame]
      refine ⟨hdead.coordinate handler returned, ?_⟩
      intro hpending
      obtain ⟨hpayload, -⟩ := h.journalled.pending payload hpending
      have hunchanged : (coordinateAgentSync sha256Hex (world.kept account) handler.request
          handler.nowEpoch).2 = world.kept account := by
        apply coordinate_unchanged
        intro bytes hok
        have hrejected : (coordinateAgentSync sha256Hex (world.kept account) handler.request
          handler.nowEpoch).1 = .rejected .staleTimestamp := houtcome
        rw [hok] at hrejected
        cases hrejected
      rw [hunchanged]
      obtain hahead | ⟨hlast, -⟩ := h.inStep
      · exact hahead
      · have hne' : handler.request.requestSequence ≠ lastSequence (world.kept account) := hne
        exact absurd (by rw [hsequence, hpayload]; exact hlast) hne'
  · intro connection payload' bytes hsent' hanswer
    rw [hkept]
    obtain hold | ⟨hconnection, coordinated, hread, hresponse⟩ :=
      hanswers connection (.ok bytes) rfl hanswer
    · exact (h.acknowledged connection payload' bytes hsent' hold).trans lastSequence_le_coordinate
    · rw [hconnection] at hsent'
      have hsame : payload' = payload := h.copies.unique _ _ _ hsent' hsent
      obtain ⟨replayed, houtcome⟩ := (readOutcome_response hread).2 bytes hresponse
      have hok : (coordinateAgentSync sha256Hex (world.kept account) handler.request
        handler.nowEpoch).1 = .ok replayed bytes := houtcome
      rw [lastSequence_of_ok hok, hsequence, hsame]

end Coordinate

/-! ## Steps of the agent -/

theorem save_cases (bodyDigest : Payload → String) (world : World) (state : AgentState)
    (saved : Bool) :
    world.save bodyDigest state saved = world ∨
      world.save bodyDigest state saved =
        { world with journal := state, memory := some state } := by
  unfold World.save
  split
  · exact .inr rfl
  · exact .inl rfl

theorem Journalled.idle (h : Journalled account world) :
    Journalled account { world with waiting := none } :=
  ⟨h.memory, h.positive, h.pending, (fun _ hw => nomatch hw)⟩

theorem Agreement.idle (h : Agreement account world) :
    Agreement account { world with waiting := none } :=
  ⟨⟨h.copies.sent, h.copies.unique, h.copies.handlers, h.copies.answered⟩, h.journalled.idle,
    h.inStep, h.superseded, h.refused, h.acknowledged⟩

theorem Agreement.start (h : Agreement account world) :
    Agreement account { world with memory := some world.journal } where
  copies := ⟨h.copies.sent, h.copies.unique, h.copies.handlers, h.copies.answered⟩
  journalled :=
    ⟨fun _ hm => (Option.some.inj hm).symm, h.journalled.positive, h.journalled.pending,
      h.journalled.waiting⟩
  inStep := h.inStep
  superseded := h.superseded
  refused := h.refused
  acknowledged := h.acknowledged

theorem Agreement.crash (h : Agreement account world) :
    Agreement account { world with memory := none, waiting := none } where
  copies := ⟨h.copies.sent, h.copies.unique, h.copies.handlers, h.copies.answered⟩
  journalled :=
    ⟨(fun _ hm => nomatch hm), h.journalled.positive, h.journalled.pending,
    (fun _ hw => nomatch hw)⟩
  inStep := h.inStep
  superseded := h.superseded
  refused := h.refused
  acknowledged := h.acknowledged

/-- With nothing pending the agent is one sequence ahead. -/
theorem Agreement.ahead (h : Agreement account world)
    (hnone : world.journal.pendingPayload = none) :
    world.journal.requestSequence = lastSequence (world.kept account) + 1 := by
  obtain hahead | ⟨-, payload, hpending, -⟩ := h.inStep
  · exact hahead
  · rw [hnone] at hpending
    cases hpending

/-- A new payload for the same sequence. -/
theorem Agreement.build (h : Agreement account world) (hwaiting : world.waiting = none)
    (hnone : world.journal.pendingPayload = none) (snapshot : Snapshot) :
    let state := { world.journal with
      pendingPayload := some (buildHeartbeatRequest account bodyDigest world.journal snapshot) }
    Agreement account { world with journal := state, memory := some state } := by
  intro state
  refine ⟨⟨h.copies.sent, h.copies.unique, h.copies.handlers, h.copies.answered⟩, ?_,
    .inl (h.ahead hnone), ?_, ?_, h.acknowledged⟩
  · refine ⟨fun _ hm => (Option.some.inj hm).symm, h.journalled.positive, ?_, ?_⟩
    · intro payload hpending
      rw [← Option.some.inj hpending]
      exact ⟨rfl, rfl⟩
    · intro connection hconnection
      have hsome : world.waiting = some connection := hconnection
      rw [hwaiting] at hsome
      cases hsome
  · intro connection payload hsent hsequence _
    apply h.superseded connection payload hsent hsequence
    rw [hnone]
    exact fun hs => nomatch hs
  · intro connection payload hsent hanswer
    exact ⟨(h.refused connection payload hsent hanswer).1, fun _ => h.ahead hnone⟩

/-- The pending payload goes out on a new connection. -/
theorem Agreement.post (h : Agreement account world) {payload : Payload}
    (hpending : world.journal.pendingPayload = some payload) :
    Agreement account { world with
      waiting := some world.nextConnection
      nextConnection := world.nextConnection + 1
      sent := (world.nextConnection, payload) :: world.sent } := by
  obtain ⟨hsequence, haccount⟩ := h.journalled.pending payload hpending
  have hunanswered : ∀ response, response.settles →
      ¬Answers world.server world.nextConnection response := by
    intro response hsettles hanswer
    exact absurd (h.copies.answered _ _ hsettles hanswer) (lt_irrefl _)
  refine ⟨⟨?_, ?_, ?_, ?_⟩, ?_, h.inStep, ?_, ?_, ?_⟩
  · intro connection copy hmem
    obtain heq | hold := List.mem_cons.1 hmem
    · cases heq
      exact ⟨Nat.lt_succ_self _, haccount, by rw [hsequence]; exact h.journalled.positive,
        le_of_eq hsequence⟩
    · obtain ⟨hlt, hrest⟩ := h.copies.sent connection copy hold
      exact ⟨Nat.lt_succ_of_lt hlt, hrest⟩
  · intro connection copy copy' hmem hmem'
    obtain heq | hold := List.mem_cons.1 hmem
    · obtain heq' | hold' := List.mem_cons.1 hmem'
      · cases heq
        cases heq'
        rfl
      · cases heq
        exact absurd (h.copies.sent _ _ hold').1 (lt_irrefl _)
    · obtain heq' | hold' := List.mem_cons.1 hmem'
      · cases heq'
        exact absurd (h.copies.sent _ _ hold).1 (lt_irrefl _)
      · exact h.copies.unique connection copy copy' hold hold'
  · intro handler hmem
    obtain ⟨copy, hsent, hrest⟩ := h.copies.handlers handler hmem
    exact ⟨copy, List.mem_cons_of_mem _ hsent, hrest⟩
  · intro connection response hsettles hanswer
    exact Nat.lt_succ_of_lt (h.copies.answered connection response hsettles hanswer)
  · refine ⟨h.journalled.memory, h.journalled.positive, h.journalled.pending, ?_⟩
    intro connection hconnection
    rw [← Option.some.inj hconnection]
    exact ⟨payload, List.mem_cons_self, hpending⟩
  · intro connection copy hmem hcopy hne
    obtain heq | hold := List.mem_cons.1 hmem
    · cases heq
      exact absurd hpending hne
    · exact h.superseded connection copy hold hcopy hne
  · intro connection copy hmem hanswer
    obtain heq | hold := List.mem_cons.1 hmem
    · cases heq
      exact absurd hanswer (hunanswered _ rfl)
    · exact h.refused connection copy hold hanswer
  · intro connection copy bytes hmem hanswer
    obtain heq | hold := List.mem_cons.1 hmem
    · cases heq
      exact absurd hanswer (hunanswered _ rfl)
    · exact h.acknowledged connection copy bytes hold hanswer

/-- The payload is thrown away after a stale answer on its connection. -/
theorem Agreement.reset (h : Agreement account world) {connection : Nat} {payload : Payload}
    (hsent : (connection, payload) ∈ world.sent)
    (hpending : world.journal.pendingPayload = some payload)
    (hanswer : Answers world.server connection .timestampInvalid)
    (hwaiting : world.waiting = none) :
    let state := { world.journal with pendingPayload := none }
    Agreement account { world with journal := state, memory := some state } := by
  intro state
  obtain ⟨hdead, hahead⟩ := h.refused connection payload hsent hanswer
  refine ⟨⟨h.copies.sent, h.copies.unique, h.copies.handlers, h.copies.answered⟩, ?_,
    .inl (hahead hpending), ?_, ?_, h.acknowledged⟩
  · refine ⟨fun _ hm => (Option.some.inj hm).symm, h.journalled.positive,
      (fun _ hp => nomatch hp), ?_⟩
    intro other hother
    have hsome : world.waiting = some other := hother
    rw [hwaiting] at hsome
    cases hsome
  · intro other copy hmem hsequence _
    by_cases hcopy : world.journal.pendingPayload = some copy
    · rw [hpending, Option.some.injEq] at hcopy
      rw [← hcopy]
      exact hdead
    · exact h.superseded other copy hmem hsequence hcopy
  · intro other copy hmem hstale
    exact ⟨(h.refused other copy hmem hstale).1, fun hp => nomatch hp⟩

/-- The agent goes on to the next sequence after an answer 200 on its connection. -/
theorem Agreement.advance (h : Agreement account world) {connection : Nat} {payload : Payload}
    {bytes : String} (hsent : (connection, payload) ∈ world.sent)
    (hpending : world.journal.pendingPayload = some payload)
    (hanswer : Answers world.server connection (.ok bytes)) (hwaiting : world.waiting = none)
    (serverSequence : Int) :
    let state : AgentState := ⟨world.journal.requestSequence + 1, serverSequence, none⟩
    Agreement account { world with journal := state, memory := some state } := by
  intro state
  obtain ⟨hsequence, -⟩ := h.journalled.pending payload hpending
  have haccepted := h.acknowledged connection payload bytes hsent hanswer
  have hlast : world.journal.requestSequence = lastSequence (world.kept account) := by
    obtain hahead | ⟨hlast, -⟩ := h.inStep
    · omega
    · exact hlast
  have hpositive := h.journalled.positive
  refine ⟨⟨?_, h.copies.unique, h.copies.handlers, h.copies.answered⟩, ?_, ?_, ?_, ?_,
    h.acknowledged⟩
  · intro other copy hmem
    obtain ⟨hlt, hcopy, hfirst, hle⟩ := h.copies.sent other copy hmem
    refine ⟨hlt, hcopy, hfirst, ?_⟩
    show _ ≤ world.journal.requestSequence + 1
    omega
  · refine ⟨fun _ hm => (Option.some.inj hm).symm, ?_, (fun _ hp => nomatch hp), ?_⟩
    · show 1 ≤ world.journal.requestSequence + 1
      omega
    · intro other hother
      have hsome : world.waiting = some other := hother
      rw [hwaiting] at hsome
      cases hsome
  · refine .inl ?_
    show world.journal.requestSequence + 1 = lastSequence (world.kept account) + 1
    rw [hlast]
  · intro other copy hmem hcopy _
    have hle := (h.copies.sent other copy hmem).2.2.2
    have hcopy' : copy.requestSequence = world.journal.requestSequence + 1 := hcopy
    omega
  · intro other copy hmem hstale
    exact ⟨(h.refused other copy hmem hstale).1, fun hp => nomatch hp⟩

theorem Agreement.handleResponse (h : Agreement account world) {response : Option Response}
    {connection : Nat} {payload : Payload} {saved : Bool}
    (hsent : (connection, payload) ∈ world.sent)
    (hpending : world.journal.pendingPayload = some payload) (hwaiting : world.waiting = none)
    (hanswer : ∀ r, response = some r → Answers world.server connection r) :
    Agreement account
      (world.handleResponse sha256Hex bodyDigest world.journal response saved) := by
  unfold World.handleResponse
  split
  · obtain heq | heq := save_cases bodyDigest world
      { world.journal with pendingPayload := none } saved
    · rw [heq]
      exact h
    · rw [heq]
      exact h.reset hsent hpending (hanswer _ rfl) hwaiting
  · split
    · next serverSequence _ =>
      obtain heq | heq := save_cases bodyDigest world
        ⟨world.journal.requestSequence + 1, serverSequence, none⟩ saved
      · rw [heq]
        exact h
      · rw [heq]
        exact h.advance hsent hpending (hanswer _ rfl) hwaiting serverSequence
    · exact h
  · exact h

/-! ## Runs -/

/-- The condition on a step. -/
def Timely (world : World) : Step → Prop
  | .server (.coordinate handler _) => TimelyRefusal world.server handler
  | _ => True

variable {action : Step} {steps : List Step}

theorem Agreement.step (h : Agreement account world) (htimely : Timely world action)
    (hstep : world.step sha256Hex account bodyDigest action = some world') :
    Agreement account world' := by
  cases action with
  | start =>
    rw [World.step, Option.ite_none_right_eq_some, Option.some.injEq] at hstep
    rw [← hstep.2]
    exact h.start
  | crash =>
    rw [World.step, Option.some.injEq] at hstep
    rw [← hstep]
    exact h.crash
  | build snapshot saved =>
    simp only [World.step, Option.bind_eq_bind, Option.bind_eq_some_iff, Option.guard_eq_some',
      Option.pure_def, Option.some.injEq] at hstep
    obtain ⟨state, hmemory, _, ⟨hwaiting, hnone⟩, hworld⟩ := hstep
    rw [h.journalled.memory state hmemory] at hnone hworld
    rw [← hworld]
    obtain heq | heq := save_cases bodyDigest world { world.journal with
      pendingPayload := some (buildHeartbeatRequest account bodyDigest world.journal snapshot) }
      saved
    · rw [heq]
      exact h
    · rw [heq]
      exact h.build hwaiting hnone snapshot
  | post =>
    simp only [World.step, Option.bind_eq_bind, Option.bind_eq_some_iff, Option.guard_eq_some',
      Option.pure_def, Option.some.injEq] at hstep
    obtain ⟨state, hmemory, payload, hpending, _, -, hworld⟩ := hstep
    rw [h.journalled.memory state hmemory] at hpending
    rw [← hworld]
    exact h.post hpending
  | receive response saved =>
    simp only [World.step, Option.bind_eq_bind, Option.bind_eq_some_iff, Option.guard_eq_some',
      Option.pure_def, Option.some.injEq] at hstep
    obtain ⟨state, hmemory, connection, hconnection, _, hanswer, hworld⟩ := hstep
    rw [h.journalled.memory state hmemory] at hworld
    obtain ⟨payload, hsent, hpending⟩ := h.journalled.waiting connection hconnection
    rw [← hworld]
    refine h.idle.handleResponse hsent hpending rfl ?_
    intro r hr
    rw [hr, Option.all_some, List.any_eq_true] at hanswer
    obtain ⟨answer, hmem, heq⟩ := hanswer
    exact .inl ⟨answer, hmem, of_decide_eq_true heq⟩
  | server event =>
    simp only [World.step, Option.bind_eq_bind, Option.bind_eq_some_iff, Option.guard_eq_some',
      Option.pure_def, Option.some.injEq] at hstep
    obtain ⟨_, hdelivers, server', hserver, hworld⟩ := hstep
    rw [← hworld]
    obtain hpasses | ⟨handler, returned, hevent, hmem, hnone, heq⟩ := server_step_cases hserver
    · exact h.passes hpasses hdelivers
    · rw [heq]
      rw [hevent] at htimely
      exact h.coordinate hmem hnone htimely

/-- Every step of the run meets the condition in the state it is taken in. -/
def TimelyRun (sha256Hex : String → String) (account : String) (bodyDigest : Payload → String) :
    World → List Step → Prop
  | _, [] => True
  | world, step :: steps =>
    Timely world step ∧ ∀ world', world.step sha256Hex account bodyDigest step = some world' →
      TimelyRun sha256Hex account bodyDigest world' steps

instance (world : World) (step : Step) : Decidable (Timely world step) := by
  unfold Timely
  split <;> infer_instance

instance decidableTimelyRun :
    (world : World) → (steps : List Step) →
      Decidable (TimelyRun sha256Hex account bodyDigest world steps)
  | _, [] => .isTrue trivial
  | world, step :: steps =>
    match hstep : world.step sha256Hex account bodyDigest step with
    | none =>
      decidable_of_iff (Timely world step)
        ⟨fun h => ⟨h, fun _ hnext => by rw [hstep] at hnext; cases hnext⟩, fun h => h.1⟩
    | some next =>
      have := decidableTimelyRun next steps
      decidable_of_iff (Timely world step ∧ TimelyRun sha256Hex account bodyDigest next steps)
        ⟨fun h => ⟨h.1, fun _ hnext => by rw [hstep] at hnext; cases hnext; exact h.2⟩,
          fun h => ⟨h.1, h.2 next hstep⟩⟩

theorem Agreement.run (h : Agreement account world)
    (htimely : TimelyRun sha256Hex account bodyDigest world steps)
    (hrun : world.run sha256Hex account bodyDigest steps = some world') :
    Agreement account world' := by
  induction steps generalizing world with
  | nil =>
    rw [World.run, List.foldlM_nil, Option.pure_def, Option.some.injEq] at hrun
    rw [← hrun]
    exact h
  | cons step steps ih =>
    rw [World.run, List.foldlM_cons, Option.bind_eq_bind, Option.bind_eq_some_iff] at hrun
    obtain ⟨next, hstep, hrest⟩ := hrun
    exact ih (h.step htimely.1 hstep) (htimely.2 next hstep) hrest

/-- If the server has accepted a sequence last, the agent's journal is at the next one, or at that
one with no payload other than the accepted one. -/
def Agreed (account : String) (world : World) : Prop :=
  ∀ last, (loadCoordinatorSyncState (world.kept account)).lastAcceptedRequestSequence = some last →
    world.journal.requestSequence = last + 1 ∨
      (world.journal.requestSequence = last ∧
        ∀ payload, world.journal.pendingPayload = some payload →
          (loadCoordinatorSyncState (world.kept account)).lastAcceptedRequestDigest =
            some payload.bodySha256)

/-- No payload that the agent holds is answered with a replay conflict. -/
def NoConflict (sha256Hex : String → String) (account : String) (world : World) : Prop :=
  ∀ payload, (world.journal.pendingPayload = some payload ∨
      ∃ state, world.memory = some state ∧ state.pendingPayload = some payload) →
    ∀ parsedAt nowEpoch, (coordinateAgentSync sha256Hex (world.kept account)
      (parseAgentSyncRequest payload parsedAt) nowEpoch).1 ≠ .rejected .replayConflict

theorem Agreement.agreed (h : Agreement account world) : Agreed account world := by
  intro last hlast
  have hsequence : lastSequence (world.kept account) = last := by
    rw [lastSequence, hlast]
    rfl
  obtain hahead | ⟨hsame, accepted, hpending, hdigest⟩ := h.inStep
  · exact .inl (by rw [hahead, hsequence])
  · refine .inr ⟨by rw [hsame, hsequence], ?_⟩
    intro payload hpayload
    rw [hpending, Option.some.injEq] at hpayload
    rw [← hpayload]
    exact hdigest

theorem Agreement.noConflict (h : Agreement account world) :
    NoConflict sha256Hex account world := by
  intro payload hheld parsedAt nowEpoch hconflict
  have hpending : world.journal.pendingPayload = some payload := by
    obtain hjournal | ⟨state, hmemory, hstate⟩ := hheld
    · exact hjournal
    · rw [← h.journalled.memory state hmemory]
      exact hstate
  obtain ⟨hlast, hdigest⟩ := coordinate_conflict hconflict
  obtain ⟨hsequence, -⟩ := h.journalled.pending payload hpending
  obtain hahead | ⟨-, hsame⟩ := h.agreed _ hlast
  · have hpayload : world.journal.requestSequence = payload.requestSequence + 1 := hahead
    omega
  · exact hdigest (hsame payload hpending)

/-- In every run whose refusals are timely, with crashes, failed saves, and loss, delay and
duplication on the network, agent and server stay in step and the agent never holds a payload that
the server answers with a replay conflict. -/
theorem agent_and_server_agree (sha256Hex : String → String) (account : String)
    (bodyDigest : Payload → String) (nowEpoch : Int) (steps : List Step) (world : World)
    (hrun : (World.initial nowEpoch).run sha256Hex account bodyDigest steps = some world)
    (htimely : TimelyRun sha256Hex account bodyDigest (World.initial nowEpoch) steps) :
    Agreed account world ∧ NoConflict sha256Hex account world := by
  have h := (agreement_initial account nowEpoch).run htimely hrun
  exact ⟨h.agreed, h.noConflict⟩

namespace Sample

def snapshot (sentAtEpoch : Int) : Snapshot := ⟨identity, sentAtEpoch, summary, 4000, "XAUUSD"⟩

/-- Bodies of different dates have different digests. -/
def dateDigest (body : Payload) : String :=
  String.ofList (List.replicate 64 (if body.sentAtEpoch = 200 then 'a' else 'b'))

def responseDigest (_ : String) : String := String.ofList (List.replicate 64 'c')

/-- The first payload, with the date that the agent's clock gives. -/
def heartbeatAt (sentAtEpoch : Int) : Payload :=
  buildHeartbeatRequest "account" dateDigest .first (snapshot sentAtEpoch)

def copyParsedAt (sentAtEpoch nowEpoch : Int) : Handler :=
  ⟨0, parseAgentSyncRequest (heartbeatAt sentAtEpoch) nowEpoch, nowEpoch, none⟩

/-- A payload is answered stale and the answer reaches the agent. -/
def resetRun (sentAtEpoch nowEpoch : Int) : List Step :=
  [.start, .build (snapshot sentAtEpoch) true, .post,
  .server (.receive 0 (heartbeatAt sentAtEpoch)),
    .server (.coordinate (copyParsedAt sentAtEpoch nowEpoch) true),
    .server (.write { copyParsedAt sentAtEpoch nowEpoch with
      coordinated := some ⟨.rejected .staleTimestamp, none, .timestampInvalid⟩ } .committed),
    .receive (some .timestampInvalid) true]

/-- The agent's clock is ahead: a late copy of the payload it has thrown away is accepted, and the
agent builds another one. -/
def divergingRun : List Step :=
  resetRun 200 100 ++ ([.server (.tick 100), .server (.receive 0 (heartbeatAt 200)),
    .server (.coordinate (copyParsedAt 200 200) false), .build (snapshot 205) true] : List Step)

/-- The agent's clock is behind: the late copy is refused and the new payload is accepted. -/
def agreeingRun : List Step :=
  resetRun 200 300 ++ ([.server (.receive 0 (heartbeatAt 200)),
    .server (.coordinate (copyParsedAt 200 300) false), .build (snapshot 300) true, .post,
    .server (.receive 1 (heartbeatAt 300)),
    .server (.coordinate { copyParsedAt 300 300 with connection := 1 } false)] : List Step)

end Sample

/-- A timely run in which a payload is replaced and the new one accepted. -/
theorem agreeing_sample :
    ∃ world, (World.initial 300).run Sample.responseDigest "account" Sample.dateDigest
        Sample.agreeingRun = some world ∧
      Agreed "account" world ∧ NoConflict Sample.responseDigest "account" world := by
  have hsome : ((World.initial 300).run Sample.responseDigest "account" Sample.dateDigest
      Sample.agreeingRun).isSome := by decide
  obtain ⟨world, hrun⟩ := Option.isSome_iff_exists.1 hsome
  exact ⟨world, hrun, agent_and_server_agree Sample.responseDigest "account" Sample.dateDigest 300
    Sample.agreeingRun world hrun (by decide)⟩

/-- The server has accepted the first payload and the agent holds another one for its sequence,
which the server answers with a replay conflict. -/
theorem agent_and_server_diverge :
    ∃ world, (World.initial 100).run Sample.responseDigest "account" Sample.dateDigest
        Sample.divergingRun = some world ∧
      ¬Agreed "account" world ∧ ¬NoConflict Sample.responseDigest "account" world := by
  have hrun : ((World.initial 100).run Sample.responseDigest "account" Sample.dateDigest
      Sample.divergingRun).any (fun world =>
        world.journal.requestSequence = 1 ∧
          world.journal.pendingPayload = some (Sample.heartbeatAt 205) ∧
          (loadCoordinatorSyncState (world.kept "account")).lastAcceptedRequestSequence = some 1 ∧
          (loadCoordinatorSyncState (world.kept "account")).lastAcceptedRequestDigest ≠
            some (Sample.heartbeatAt 205).bodySha256 ∧
          (coordinateAgentSync Sample.responseDigest (world.kept "account")
            (parseAgentSyncRequest (Sample.heartbeatAt 205) 205) 205).1 =
              .rejected .replayConflict) = true := by
    decide
  obtain ⟨world, hworld, hcheck⟩ := (Option.any_eq_true _ _).1 hrun
  obtain ⟨hsequence, hpending, hlast, hdigest, hconflict⟩ := of_decide_eq_true hcheck
  refine ⟨world, hworld, ?_, ?_⟩
  · intro hagreed
    obtain hahead | ⟨-, hsame⟩ := hagreed 1 hlast
    · omega
    · exact hdigest (hsame _ hpending)
  · intro hnone
    exact hnone _ (.inl hpending) 205 205 hconflict

end TradeOps.Heartbeat
