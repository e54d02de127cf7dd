import TradeOps.Heartbeat.Agent

/-!
# Stale answers

What the coordinator's outcomes say of the stored state, what a step of the server can do, and the
payloads that no step can accept any more: `Dead` payloads are older than the clock allows and no
copy of them that was parsed as fresh still waits for the coordinator.
-/

namespace TradeOps.Heartbeat

variable {sha256Hex : String → String} {server server' : Server} {storage : Storage}
  {request : AgentSyncRequest} {event : Event} {nowEpoch : Int}

/-! ## What the coordinator's answers say -/

theorem lastSequence_accept (body : ResponseBody) :
    lastSequence (storage.accept sha256Hex request body) = request.requestSequence := rfl

theorem lastSequence_le_coordinate :
    lastSequence storage ≤
      lastSequence (coordinateAgentSync sha256Hex storage request nowEpoch).2 := by
  obtain ⟨body, haccepts, h⟩ | ⟨outcome, -, h⟩ :=
    coordinate_cases sha256Hex storage request nowEpoch
  · rw [h, lastSequence_accept, haccepts.next]
    omega
  · rw [h]

/-- Everything that a refusal can be. -/
theorem refusal_cases {state : SyncState} {outcome : Outcome}
    (h : state.refusal request = some outcome) :
    outcome = .rejected .identityMismatch ∨ outcome = .rejected .sequenceInvalid ∨
      (outcome = .rejected .staleTimestamp ∧ request.freshness = .stale ∧
        state.lastAcceptedRequestSequence ≠ some request.requestSequence) ∨
      (outcome = state.replay request ∧
        state.lastAcceptedRequestSequence = some request.requestSequence) := by
  unfold SyncState.refusal at h
  cases hlast : state.lastAcceptedRequestSequence with
  | none =>
    rw [hlast] at h
    dsimp only at h
    split at h
    · next hstale =>
      rw [Option.some.injEq] at h
      exact .inr (.inr (.inl ⟨h.symm, hstale, nofun⟩))
    · rw [Option.ite_none_right_eq_some, Option.some.injEq] at h
      exact .inr (.inl h.2.symm)
  | some last =>
    rw [hlast] at h
    dsimp only at h
    split at h
    · exact .inl (Option.some.inj h).symm
    · split at h
      · next hsame => exact .inr (.inr (.inr ⟨(Option.some.inj h).symm, by rw [hsame]⟩))
      · next hne =>
        split at h
        · next hstale =>
          refine .inr (.inr (.inl ⟨(Option.some.inj h).symm, hstale, ?_⟩))
          intro hsame
          exact hne (Option.some.inj hsame).symm
        · rw [Option.ite_none_right_eq_some, Option.some.injEq] at h
          exact .inr (.inl h.2.symm)

/-- Everything that the answer to a resend can be. -/
theorem replay_cases (state : SyncState) (request : AgentSyncRequest) :
    (state.replay request = .rejected .replayConflict ∧
        state.lastAcceptedRequestDigest ≠ some request.bodySha256) ∨
      state.replay request = .rejected .sequenceInvalid ∨
      ∃ bytes, state.replay request = .ok true bytes := by
  unfold SyncState.replay
  split
  · next hdigest => exact .inl ⟨rfl, hdigest⟩
  · split
    · next bytes digest _ _ =>
      split
      · exact .inr (.inr ⟨bytes, rfl⟩)
      · exact .inr (.inl rfl)
    · exact .inr (.inl rfl)

/-- An outcome that is no acceptance and no throw comes from a refusal. -/
theorem refusal_of_coordinate {outcome : Outcome}
    (h : (coordinateAgentSync sha256Hex storage request nowEpoch).1 = outcome)
    (hthrown : outcome ≠ .thrown) (haccepted : ∀ bytes, outcome ≠ .ok false bytes) :
    (loadCoordinatorSyncState storage).refusal request = some outcome := by
  unfold coordinateAgentSync at h
  dsimp only at h
  split at h
  · next hrefusal => rw [hrefusal, ← h]
  · split at h
    · exact absurd h.symm hthrown
    · exact absurd h.symm (haccepted _)

/-- An answer that is not a refusal is to the request that is accepted last. -/
theorem lastSequence_of_ok {replayed : Bool} {bytes : String}
    (h : (coordinateAgentSync sha256Hex storage request nowEpoch).1 = .ok replayed bytes) :
    lastSequence (coordinateAgentSync sha256Hex storage request nowEpoch).2 =
      request.requestSequence := by
  obtain ⟨body, -, hcall⟩ | ⟨outcome, hother, hcall⟩ :=
    coordinate_cases sha256Hex storage request nowEpoch
  · rw [hcall, lastSequence_accept]
  · have houtcome : outcome = .ok replayed bytes := by rw [← h, hcall]
    rw [hcall]
    show lastSequence storage = _
    obtain hne | hne | ⟨hne, -⟩ | ⟨-, hlast⟩ :=
      refusal_cases (refusal_of_coordinate h nofun (by rw [← houtcome]; exact hother))
    · cases hne
    · cases hne
    · cases hne
    · rw [lastSequence, hlast]
      rfl

/-- A stale answer: the request is stale, and it is not the one accepted last. -/
theorem coordinate_stale (hpositive : 1 ≤ request.requestSequence)
    (h : (coordinateAgentSync sha256Hex storage request nowEpoch).1 = .rejected .staleTimestamp) :
    request.freshness = .stale ∧ request.requestSequence ≠ lastSequence storage := by
  obtain hne | hne | ⟨-, hstale, hlast⟩ | ⟨hreplay, -⟩ :=
    refusal_cases (refusal_of_coordinate h nofun nofun)
  · cases hne
  · cases hne
  · refine ⟨hstale, ?_⟩
    intro hsame
    cases hstored : (loadCoordinatorSyncState storage).lastAcceptedRequestSequence with
    | none =>
      rw [lastSequence, hstored] at hsame
      have hzero : request.requestSequence = 0 := hsame
      omega
    | some last =>
      rw [lastSequence, hstored] at hsame
      rw [hstored, hsame] at hlast
      exact hlast rfl
  · obtain ⟨hne, -⟩ | hne | ⟨bytes, hne⟩ := replay_cases (loadCoordinatorSyncState storage) request
    all_goals
      rw [hne] at hreplay
      cases hreplay

/-- A replay conflict: the sequence is the one accepted last, with another digest. -/
theorem coordinate_conflict
    (h : (coordinateAgentSync sha256Hex storage request nowEpoch).1 = .rejected .replayConflict) :
    (loadCoordinatorSyncState storage).lastAcceptedRequestSequence = some request.requestSequence ∧
      (loadCoordinatorSyncState storage).lastAcceptedRequestDigest ≠ some request.bodySha256 := by
  obtain hne | hne | ⟨hne, -⟩ | ⟨hreplay, hlast⟩ :=
    refusal_cases (refusal_of_coordinate h nofun nofun)
  · cases hne
  · cases hne
  · cases hne
  · obtain ⟨-, hdigest⟩ | hne | ⟨bytes, hne⟩ :=
      replay_cases (loadCoordinatorSyncState storage) request
    · exact ⟨hlast, hdigest⟩
    · rw [hne] at hreplay
      cases hreplay
    · rw [hne] at hreplay
      cases hreplay

/-! ## What a step of the server does -/

/-- The answers that the agent acts on. -/
def Response.settles : Response → Bool
  | .ok _ => true
  | .timestampInvalid => true
  | _ => false

/-- The response was given on the connection, or a call there is about to give it. -/
def Answers (server : Server) (connection : Nat) (response : Response) : Prop :=
  (∃ answer ∈ server.answers, answer.connection = connection ∧ answer.response = response) ∨
    ∃ handler ∈ server.handlers, handler.connection = connection ∧
      ∃ coordinated, handler.coordinated = some coordinated ∧ coordinated.response = response

/-- A call that has parsed its body and not reached the coordinator. -/
def freshHandler (server : Server) (connection : Nat) (payload : Payload) : Handler :=
  ⟨connection, parseAgentSyncRequest payload server.nowEpoch, server.nowEpoch, none⟩

/-- A step that is not the coordinator's: the clock goes on, a copy may be parsed, and no new
settling answer appears. -/
structure Passes (server server' : Server) (event : Event) : Prop where
  coordinators : server'.coordinators = server.coordinators
  clock : server.nowEpoch ≤ server'.nowEpoch
  handlers : ∀ handler ∈ server'.handlers, handler ∈ server.handlers ∨
    ∃ connection payload, event = .receive connection payload ∧
      handler = freshHandler server connection payload
  answers : ∀ connection response, response.settles → Answers server' connection response →
    Answers server connection response

/-- Fewer calls and one more answer that settles nothing. -/
theorem Passes.of_erase {handler : Handler} {answers : List Answer} {db : Database}
    (hanswers : ∀ answer ∈ answers, answer ∈ server.answers ∨
      (answer.response.settles → Answers server answer.connection answer.response)) :
    Passes server { server with db, handlers := server.handlers.erase handler, answers } event where
  coordinators := rfl
  clock := le_rfl
  handlers := fun _ hm => .inl (List.mem_of_mem_erase hm)
  answers := by
    intro connection response hsettles h
    obtain ⟨answer, hmem, hconnection, hresponse⟩ | ⟨other, hmem, h⟩ := h
    · obtain hold | hnew := hanswers answer hmem
      · exact .inl ⟨answer, hold, hconnection, hresponse⟩
      · rw [hconnection, hresponse] at hnew
        exact hnew hsettles
    · exact .inr ⟨other, List.mem_of_mem_erase hmem, h⟩

/-- Everything that a step of the server can do. -/
theorem server_step_cases (h : server.step sha256Hex event = some server') :
    Passes server server' event ∨
      ∃ handler returned, event = .coordinate handler returned ∧ handler ∈ server.handlers ∧
        handler.coordinated = none ∧ server' = server.coordinate sha256Hex handler returned := by
  cases event with
  | tick seconds =>
    rw [Server.step, Option.some.injEq] at h
    rw [← h]
    have hclock : server.nowEpoch ≤ server.nowEpoch + seconds := by omega
    exact .inl ⟨rfl, hclock, fun _ hm => .inl hm, fun _ _ _ ha => ha⟩
  | receive connection payload =>
    rw [Server.step, Option.some.injEq] at h
    rw [← h]
    refine .inl ⟨rfl, le_rfl, ?_, ?_⟩
    · intro handler hmem
      obtain heq | hold := List.mem_cons.1 hmem
      · exact .inr ⟨connection, payload, rfl, heq⟩
      · exact .inl hold
    · intro c response _ ha
      obtain ha | ⟨handler, hmem, hc, coordinated, hcoordinated, hresponse⟩ := ha
      · exact .inl ha
      · obtain heq | hold := List.mem_cons.1 hmem
        · rw [heq] at hcoordinated
          cases hcoordinated
        · exact .inr ⟨handler, hold, hc, coordinated, hcoordinated, hresponse⟩
  | refuseBody connection =>
    rw [Server.step, Option.some.injEq] at h
    rw [← h]
    refine .inl ⟨rfl, le_rfl, fun _ hm => .inl hm, ?_⟩
    intro c response hsettles ha
    obtain ⟨answer, hmem, hc, hresponse⟩ | ha := ha
    · obtain heq | hold := List.mem_cons.1 hmem
      · rw [← hresponse, heq] at hsettles
        cases hsettles
      · exact .inl ⟨answer, hold, hc, hresponse⟩
    · exact .inr ha
  | unavailable handler =>
    rw [Server.step, Option.ite_none_right_eq_some, Option.some.injEq] at h
    rw [← h.2]
    refine .inl (Passes.of_erase ?_)
    intro answer hmem
    obtain heq | hold := List.mem_cons.1 hmem
    · refine .inr ?_
      intro hsettles
      rw [heq] at hsettles
      cases hsettles
    · exact .inl hold
  | coordinate handler returned =>
    rw [Server.step, Option.ite_none_right_eq_some, Option.some.injEq] at h
    exact .inr ⟨handler, returned, rfl, h.1.1, h.1.2, h.2.symm⟩
  | write handler written =>
    unfold Server.step at h
    dsimp only at h
    split at h
    · next coordinated hcoordinated =>
      rw [Option.ite_none_right_eq_some, Option.some.injEq] at h
      rw [← h.2]
      refine .inl (Passes.of_erase ?_)
      intro answer hmem
      obtain heq | hold := List.mem_cons.1 hmem
      · refine .inr ?_
        intro hsettles
        rw [heq] at hsettles ⊢
        cases written with
        | committed => exact .inr ⟨handler, h.1, rfl, coordinated, hcoordinated, rfl⟩
        | failed => cases hsettles
        | committedUnreported => cases hsettles
      · exact .inl hold
    · cases h
  | abandon handler =>
    rw [Server.step, Option.ite_none_right_eq_some, Option.some.injEq] at h
    rw [← h.2]
    exact .inl (Passes.of_erase fun _ hm => .inl hm)

/-- What the coordinator's step changes. -/
theorem coordinate_effect (sha256Hex : String → String) (server : Server) (handler : Handler)
    (returned : Bool) :
    let result := coordinateAgentSync sha256Hex (server.coordinators handler.request.accountId)
      handler.request handler.nowEpoch
    let next := server.coordinate sha256Hex handler returned
    next.coordinators =
        Function.update server.coordinators handler.request.accountId result.2 ∧
      next.nowEpoch = server.nowEpoch ∧
      (∀ other ∈ next.handlers, other ∈ server.handlers ∨
        ∃ coordinated, other = { handler with coordinated := some coordinated }) ∧
      (∀ connection response, response.settles → Answers next connection response →
        Answers server connection response ∨ (connection = handler.connection ∧
          ∃ coordinated, readOutcome sha256Hex handler.request result.1 = some coordinated ∧
            coordinated.response = response)) := by
  intro result next
  by_cases hread : ∃ coordinated,
      (if returned then readOutcome sha256Hex handler.request result.1 else none) = some coordinated
  · obtain ⟨coordinated, hread⟩ := hread
    have hnext : next = { server with
        coordinators := Function.update server.coordinators handler.request.accountId result.2
        handlers := { handler with coordinated := some coordinated } ::
          server.handlers.erase handler } := by
      show server.coordinate sha256Hex handler returned = _
      unfold Server.coordinate
      dsimp only
      rw [hread]
    have houtcome : readOutcome sha256Hex handler.request result.1 = some coordinated := by
      cases returned with
      | true => exact hread
      | false => cases hread
    rw [hnext]
    refine ⟨rfl, rfl, ?_, ?_⟩
    · intro other hmem
      obtain heq | hold := List.mem_cons.1 hmem
      · exact .inr ⟨coordinated, heq⟩
      · exact .inl (List.mem_of_mem_erase hold)
    · intro connection response _ ha
      obtain ha | ⟨other, hmem, hconnection, coordinated', hcoordinated, hresponse⟩ := ha
      · exact .inl (.inl ha)
      · obtain heq | hold := List.mem_cons.1 hmem
        · rw [heq] at hconnection hcoordinated
          rw [Option.some.injEq] at hcoordinated
          exact .inr ⟨hconnection.symm, coordinated, houtcome, by rw [hcoordinated, hresponse]⟩
        · exact .inl (.inr ⟨other, List.mem_of_mem_erase hold, hconnection, coordinated',
            hcoordinated, hresponse⟩)
  · have hnone : (if returned then readOutcome sha256Hex handler.request result.1 else none) =
        none := by
      rw [Option.eq_none_iff_forall_not_mem]
      intro coordinated hmem
      exact hread ⟨coordinated, hmem⟩
    have hnext : next = { server with
        coordinators := Function.update server.coordinators handler.request.accountId result.2
        handlers := server.handlers.erase handler
        answers := ⟨handler.connection, some handler.request, none, .coordinatorUnavailable⟩ ::
          server.answers } := by
      show server.coordinate sha256Hex handler returned = _
      unfold Server.coordinate
      dsimp only
      rw [hnone]
    rw [hnext]
    refine ⟨rfl, rfl, fun _ hm => .inl (List.mem_of_mem_erase hm), ?_⟩
    intro connection response hsettles ha
    obtain ⟨answer, hmem, hconnection, hresponse⟩ | ⟨other, hmem, ha⟩ := ha
    · obtain heq | hold := List.mem_cons.1 hmem
      · rw [← hresponse, heq] at hsettles
        cases hsettles
      · exact .inl (.inl ⟨answer, hold, hconnection, hresponse⟩)
    · exact .inl (.inr ⟨other, List.mem_of_mem_erase hmem, ha⟩)

/-! ## Payloads that cannot be accepted any more -/

/-- Too old for the clock, and no copy that was parsed as fresh waits for the coordinator. -/
structure Dead (server : Server) (payload : Payload) : Prop where
  old : payload.sentAtEpoch + 30 < server.nowEpoch
  copies : ∀ handler ∈ server.handlers, handler.coordinated = none →
    handler.request = parseAgentSyncRequest payload handler.nowEpoch →
      handler.request.freshness = .stale

variable {payload : Payload}

theorem parse_stale (h : payload.sentAtEpoch + 30 < nowEpoch) :
    (parseAgentSyncRequest payload nowEpoch).freshness = .stale := by
  show (if (payload.sentAtEpoch - nowEpoch).natAbs > 30 then Freshness.stale else .fresh) = .stale
  rw [if_pos (by omega)]

/-- A payload that is stale with its date in the past is too old. -/
theorem old_of_stale (h : (parseAgentSyncRequest payload nowEpoch).freshness = .stale)
    (hpast : payload.sentAtEpoch < nowEpoch) : payload.sentAtEpoch + 30 < nowEpoch := by
  have hstale : (if (payload.sentAtEpoch - nowEpoch).natAbs > 30 then Freshness.stale else .fresh) =
      .stale := h
  split at hstale
  · omega
  · cases hstale

theorem Dead.passes (h : Dead server payload) (hpasses : Passes server server' event) :
    Dead server' payload where
  old := lt_of_lt_of_le h.old hpasses.clock
  copies := by
    intro handler hmem hnone hrequest
    obtain hold | ⟨connection, copy, -, heq⟩ := hpasses.handlers handler hmem
    · exact h.copies handler hold hnone hrequest
    · have hclock : handler.nowEpoch = server.nowEpoch := by rw [heq]; rfl
      rw [hrequest, hclock]
      exact parse_stale h.old

theorem Dead.coordinate (h : Dead server payload) (handler : Handler) (returned : Bool) :
    Dead (server.coordinate sha256Hex handler returned) payload := by
  obtain ⟨-, hclock, hhandlers, -⟩ := coordinate_effect sha256Hex server handler returned
  refine ⟨by rw [hclock]; exact h.old, ?_⟩
  intro other hmem hnone hrequest
  obtain hold | ⟨coordinated, heq⟩ := hhandlers other hmem
  · exact h.copies other hold hnone hrequest
  · rw [heq] at hnone
    cases hnone

end TradeOps.Heartbeat
