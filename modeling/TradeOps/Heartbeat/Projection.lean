import TradeOps.Heartbeat.Handler

/-!
# Acknowledged heartbeats and the health projection

The audit row and the health row of an accepted request are written in one batch, and an exact
retry writes its audit row only. So in every run a health row at or above a sequence stands for a
committed audit row `ACCEPTED` at or above it, and the other way round; a request that is answered
as newly accepted has both, whereas an exact retry is answered whatever became of the batch of the
call that accepted it.
-/

namespace TradeOps.Heartbeat

variable {sha256Hex : String → String} {server server' : Server} {event : Event}

/-- The key of a request's health row. -/
def AgentSyncRequest.healthKey (request : AgentSyncRequest) : String × String :=
  (request.accountId, request.identity.installationId)

/-- A committed batch has accepted a request of the key, at or above the sequence. -/
def AcceptedFrom (db : Database) (key : String × String) (sequence : Int) : Prop :=
  ∃ row ∈ db.audit, row.resultCode = .accepted ∧ (row.accountId, row.installationId) = key ∧
    sequence ≤ row.requestSequence

/-- The health row of the key is at or above the sequence. -/
def ProjectedFrom (db : Database) (key : String × String) (sequence : Int) : Prop :=
  ∃ row, db.health key = some row ∧ sequence ≤ row.requestSequence

/-! ## A batch -/

theorem projectedFrom_upsert {db : Database} {row : HealthRow} {key : String × String}
    {sequence : Int} :
    ProjectedFrom (db.upsertHealth row) key sequence ↔
      ProjectedFrom db key sequence ∨ (row.key = key ∧ sequence ≤ row.requestSequence) := by
  by_cases hkey : row.key = key
  · subst hkey
    unfold ProjectedFrom Database.upsertHealth
    dsimp only
    rw [Function.update_self]
    cases hold : db.health row.key with
    | none => simp
    | some old =>
      simp only [Option.some.injEq, exists_eq_left', true_and]
      split <;> omega
  · unfold ProjectedFrom Database.upsertHealth
    dsimp only
    rw [Function.update_of_ne (Ne.symm hkey)]
    simp [hkey]

theorem acceptedFrom_insertAudit {db : Database} {request : AgentSyncRequest} {code : ResultCode}
    {serverSequence : Option Int} {receivedAtEpoch : Int} {key : String × String} {sequence : Int} :
    AcceptedFrom (db.insertAudit request code serverSequence receivedAtEpoch) key sequence ↔
      AcceptedFrom db key sequence ∨
        (code = .accepted ∧ request.healthKey = key ∧ sequence ≤ request.requestSequence) := by
  unfold AcceptedFrom Database.insertAudit AgentSyncRequest.healthKey
  simp only [List.mem_append, List.mem_singleton, or_and_right, exists_or, exists_eq_left]

theorem acceptedFrom_upsert {db : Database} {row : HealthRow} {key : String × String}
    {sequence : Int} :
    AcceptedFrom (db.upsertHealth row) key sequence ↔ AcceptedFrom db key sequence := Iff.rfl

/-- What the batch of a call that carries a server sequence with its acceptance writes. -/
theorem write_cases {coordinated : Coordinated} (db : Database) (request : AgentSyncRequest)
    (nowEpoch : Int) (key : String × String) (sequence : Int)
    (h : coordinated.code = .accepted → coordinated.serverSequence.isSome) :
    (AcceptedFrom (db.write request nowEpoch coordinated) key sequence ↔
      AcceptedFrom db key sequence ∨ (coordinated.code = .accepted ∧
        request.healthKey = key ∧ sequence ≤ request.requestSequence)) ∧
    (ProjectedFrom (db.write request nowEpoch coordinated) key sequence ↔
      ProjectedFrom db key sequence ∨ (coordinated.code = .accepted ∧
        request.healthKey = key ∧ sequence ≤ request.requestSequence)) := by
  unfold Database.write
  dsimp only
  split
  · next serverSequence hcode hsequence =>
    refine ⟨?_, ?_⟩
    · rw [acceptedFrom_upsert, acceptedFrom_insertAudit, hcode]
    · rw [projectedFrom_upsert, hcode]
      simp only [true_and]
      exact Iff.rfl
  · next hnot =>
    have hcode : coordinated.code ≠ .accepted := by
      intro hcode
      obtain ⟨serverSequence, hsequence⟩ := Option.isSome_iff_exists.1 (h hcode)
      exact hnot serverSequence hcode hsequence
    refine ⟨acceptedFrom_insertAudit, ?_⟩
    simp only [hcode, false_and, or_false]
    exact Iff.rfl

/-! ## The invariant -/

/-- Health rows stand for committed acceptances; calls and answers that carry an acceptance carry
what belongs to it. -/
structure Projected (server : Server) : Prop where
  rows : ∀ key sequence,
    AcceptedFrom server.db key sequence ↔ ProjectedFrom server.db key sequence
  handlers : ∀ handler ∈ server.handlers, ∀ coordinated, handler.coordinated = some coordinated →
    coordinated.code = .accepted → coordinated.serverSequence.isSome
  answers : ∀ answer ∈ server.answers, ∀ request bytes, answer.request = some request →
    answer.response = .ok bytes → answer.code = some .accepted →
      AcceptedFrom server.db request.healthKey request.requestSequence

theorem projected_initial (nowEpoch : Int) : Projected (Server.initial nowEpoch) where
  rows key sequence := by simp [AcceptedFrom, ProjectedFrom, Server.initial]
  handlers := by simp [Server.initial]
  answers := by simp [Server.initial]

theorem readOutcome_accepted {request : AgentSyncRequest} {outcome : Outcome}
    {coordinated : Coordinated} (h : readOutcome sha256Hex request outcome = some coordinated)
    (hcode : coordinated.code = .accepted) : coordinated.serverSequence.isSome := by
  cases outcome with
  | ok replayed bytes =>
    simp only [readOutcome, Option.bind_eq_bind, Option.bind_eq_some_iff, Option.pure_def,
      Option.some.injEq] at h
    obtain ⟨serverSequence, -, rfl⟩ := h
    rfl
  | rejected code =>
    simp only [readOutcome, Option.some.injEq] at h
    rw [← h] at hcode
    cases hcode
  | thrown => cases h

/-- Events that leave the database alone, add no acceptance to an answer, and add only calls that
have nothing to write yet. -/
theorem Projected.of_quiet (h : Projected server) (hdb : server'.db = server.db)
    (hhandlers : ∀ handler ∈ server'.handlers,
      handler ∈ server.handlers ∨ handler.coordinated = none)
    (hanswers : ∀ answer ∈ server'.answers, answer ∈ server.answers ∨ answer.code = none) :
    Projected server' where
  rows := by rw [hdb]; exact h.rows
  handlers := by
    intro handler hmem coordinated hcoordinated
    obtain hold | hnone := hhandlers handler hmem
    · exact h.handlers handler hold coordinated hcoordinated
    · rw [hnone] at hcoordinated
      cases hcoordinated
  answers := by
    intro answer hmem request bytes hrequest hresponse hcode
    rw [hdb]
    obtain hold | hnone := hanswers answer hmem
    · exact h.answers answer hold request bytes hrequest hresponse hcode
    · rw [hnone] at hcode
      cases hcode

theorem Projected.coordinate (h : Projected server) (handler : Handler) (returned : Bool) :
    Projected (server.coordinate sha256Hex handler returned) := by
  unfold Server.coordinate
  dsimp only
  split
  · next coordinated hread =>
    have houtcome : readOutcome sha256Hex handler.request (coordinateAgentSync sha256Hex
        (server.coordinators handler.request.accountId) handler.request handler.nowEpoch).1 =
        some coordinated := by
      cases returned with
      | true => exact hread
      | false => cases hread
    refine ⟨h.rows, ?_, h.answers⟩
    intro other hmem coordinated' hcoordinated hcode
    obtain heq | hold := List.mem_cons.1 hmem
    · rw [heq, Option.some.injEq] at hcoordinated
      rw [← hcoordinated] at hcode ⊢
      exact readOutcome_accepted houtcome hcode
    · exact h.handlers other (List.mem_of_mem_erase hold) coordinated' hcoordinated hcode
  · refine h.of_quiet rfl ?_ ?_
    · intro other hmem
      exact .inl (List.mem_of_mem_erase hmem)
    · intro answer hmem
      obtain heq | hold := List.mem_cons.1 hmem
      · exact .inr (by rw [heq])
      · exact .inl hold

theorem Projected.write {handler : Handler} {coordinated : Coordinated} {written : Written}
    (h : Projected server) (hmem : handler ∈ server.handlers)
    (hcoordinated : handler.coordinated = some coordinated) :
    Projected (server.write handler coordinated written) := by
  have hwrite := fun key sequence => write_cases server.db handler.request handler.nowEpoch key
    sequence (h.handlers handler hmem coordinated hcoordinated)
  have hrows : ∀ key sequence,
      AcceptedFrom (server.db.write handler.request handler.nowEpoch coordinated) key sequence ↔
        ProjectedFrom (server.db.write handler.request handler.nowEpoch coordinated) key
          sequence := by
    intro key sequence
    rw [(hwrite key sequence).1, (hwrite key sequence).2, h.rows]
  have hkeeps : ∀ key sequence, AcceptedFrom server.db key sequence →
      AcceptedFrom (server.write handler coordinated written).db key sequence := by
    intro key sequence hold
    cases written with
    | failed => exact hold
    | committed => exact (hwrite key sequence).1.2 (.inl hold)
    | committedUnreported => exact (hwrite key sequence).1.2 (.inl hold)
  refine ⟨?_, ?_, ?_⟩
  · intro key sequence
    cases written with
    | failed => exact h.rows key sequence
    | committed => exact hrows key sequence
    | committedUnreported => exact hrows key sequence
  · intro other hother
    exact h.handlers other (List.mem_of_mem_erase hother)
  · intro answer hanswer request bytes hrequest hresponse hcode
    obtain heq | hold := List.mem_cons.1 hanswer
    · rw [heq] at hrequest hresponse hcode
      rw [Option.some.injEq] at hrequest hcode
      cases written with
      | failed => cases hresponse
      | committedUnreported => cases hresponse
      | committed =>
        rw [← hrequest]
        exact (hwrite _ _).1.2 (.inr ⟨hcode, rfl, le_rfl⟩)
    · exact hkeeps _ _ (h.answers answer hold request bytes hrequest hresponse hcode)

theorem Projected.step (h : Projected server) (hstep : server.step sha256Hex event = some server') :
    Projected server' := by
  cases event with
  | tick seconds =>
    rw [Server.step, Option.some.injEq] at hstep
    rw [← hstep]
    exact h.of_quiet rfl (fun _ hm => .inl hm) (fun _ hm => .inl hm)
  | receive connection payload =>
    rw [Server.step, Option.some.injEq] at hstep
    rw [← hstep]
    refine h.of_quiet rfl ?_ (fun _ hm => .inl hm)
    intro handler hmem
    obtain heq | hold := List.mem_cons.1 hmem
    · exact .inr (by rw [heq])
    · exact .inl hold
  | refuseBody connection =>
    rw [Server.step, Option.some.injEq] at hstep
    rw [← hstep]
    refine h.of_quiet rfl (fun _ hm => .inl hm) ?_
    intro answer hmem
    obtain heq | hold := List.mem_cons.1 hmem
    · exact .inr (by rw [heq])
    · exact .inl hold
  | unavailable handler =>
    rw [Server.step, Option.ite_none_right_eq_some, Option.some.injEq] at hstep
    rw [← hstep.2]
    refine h.of_quiet rfl (fun _ hm => .inl (List.mem_of_mem_erase hm)) ?_
    intro answer hmem
    obtain heq | hold := List.mem_cons.1 hmem
    · exact .inr (by rw [heq])
    · exact .inl hold
  | coordinate handler returned =>
    rw [Server.step, Option.ite_none_right_eq_some, Option.some.injEq] at hstep
    rw [← hstep.2]
    exact h.coordinate handler returned
  | write handler written =>
    unfold Server.step at hstep
    dsimp only at hstep
    split at hstep
    · next coordinated hcoordinated =>
      rw [Option.ite_none_right_eq_some, Option.some.injEq] at hstep
      rw [← hstep.2]
      exact h.write hstep.1 hcoordinated
    · cases hstep
  | abandon handler =>
    rw [Server.step, Option.ite_none_right_eq_some, Option.some.injEq] at hstep
    rw [← hstep.2]
    exact h.of_quiet rfl (fun _ hm => .inl (List.mem_of_mem_erase hm)) (fun _ hm => .inl hm)

theorem Projected.run {events : List Event} (h : Projected server)
    (hrun : server.run sha256Hex events = some server') : Projected server' := by
  induction events generalizing server with
  | nil =>
    rw [Server.run, List.foldlM_nil, Option.pure_def, Option.some.injEq] at hrun
    rw [← hrun]
    exact h
  | cons event events ih =>
    rw [Server.run, List.foldlM_cons, Option.bind_eq_bind, Option.bind_eq_some_iff] at hrun
    obtain ⟨next, hstep, hrest⟩ := hrun
    exact ih (h.step hstep) hrest

/-- In every run, whatever fails: for a request that was answered 200, the health row of its
account and installation exists and is at or above its sequence exactly when a batch that accepted
this request or a later one has committed, and it does when the answer was to a new acceptance. -/
theorem acknowledged_heartbeat_projected (sha256Hex : String → String) (nowEpoch : Int)
    (events : List Event) (server : Server)
    (hrun : (Server.initial nowEpoch).run sha256Hex events = some server) :
    ∀ answer ∈ server.answers, ∀ request bytes, answer.request = some request →
      answer.response = .ok bytes →
      (ProjectedFrom server.db request.healthKey request.requestSequence ↔
        AcceptedFrom server.db request.healthKey request.requestSequence) ∧
      (answer.code = some .accepted →
        ProjectedFrom server.db request.healthKey request.requestSequence) := by
  have h := (projected_initial nowEpoch).run hrun
  intro answer hmem request bytes hrequest hresponse
  refine ⟨(h.rows _ _).symm, ?_⟩
  intro hcode
  exact (h.rows _ _).1 (h.answers answer hmem request bytes hrequest hresponse hcode)

section Steps

variable {handler : Handler} {rest : List Handler} {coordinated : Coordinated}

theorem run_cons {events : List Event} {last : Option Server}
    (hstep : server.step sha256Hex event = some server')
    (hrun : server'.run sha256Hex events = last) :
    server.run sha256Hex (event :: events) = last := by
  rw [Server.run, List.foldlM_cons, hstep]
  exact hrun

theorem step_coordinate {outcome : Outcome} {storage : Storage}
    (hhandlers : server.handlers = handler :: rest) (hnone : handler.coordinated = none)
    (hcoordinate : coordinateAgentSync sha256Hex (server.coordinators handler.request.accountId)
      handler.request handler.nowEpoch = (outcome, storage))
    (hread : readOutcome sha256Hex handler.request outcome = some coordinated) :
    server.step sha256Hex (.coordinate handler true) = some { server with
      coordinators := Function.update server.coordinators handler.request.accountId storage
      handlers := { handler with coordinated := some coordinated } :: rest } := by
  have hmem : handler ∈ server.handlers := by
    rw [hhandlers]
    exact List.mem_cons_self
  rw [Server.step, if_pos ⟨hmem, hnone⟩, Server.coordinate]
  dsimp only
  rw [hcoordinate, if_pos rfl, hread, hhandlers, List.erase_cons_head]

theorem step_write {written : Written} (hmem : handler ∈ server.handlers)
    (hcoordinated : handler.coordinated = some coordinated) :
    server.step sha256Hex (.write handler written) =
      some (server.write handler coordinated written) := by
  unfold Server.step
  dsimp only
  rw [hcoordinated]
  exact if_pos hmem

theorem handlers_write {written : Written} (hhandlers : server.handlers = handler :: rest) :
    (server.write handler coordinated written).handlers = rest := by
  show server.handlers.erase handler = rest
  rw [hhandlers, List.erase_cons_head]

end Steps

namespace Sample

def payload : Payload :=
  { accountId := "account", identity, requestSequence := 1, lastAcknowledgedServerSequence := 0
    sentAtEpoch := 100, bodySha256 := "digest", summary, terminalBuild := 4000
    sourceSymbol := "XAUUSD", eventSequences := [] }

def digest (_ : String) : String := String.ofList (List.replicate 64 'a')

/-- The bytes that the acceptance of the payload at time 100 is answered. -/
def bytes : String := ResponseBody.bytes digest ⟨1, 100, 0⟩

/-- The call, as parsed and as it goes on with its code. -/
def handler (coordinated : Option ResultCode) : Handler :=
  ⟨0, parseAgentSyncRequest payload 100, 100, coordinated.map fun code => ⟨code, some 1, .ok bytes⟩⟩

/-- The request is accepted, its batch fails, and its retry is answered. -/
def lostProjection : List Event :=
  [.receive 0 payload, .coordinate (handler none) true, .write (handler (some .accepted)) .failed,
    .receive 0 payload, .coordinate (handler none) true,
    .write (handler (some .exactRetry)) .committed]

/-- What the coordinator keeps after the acceptance. -/
def acceptance : Storage :=
  Storage.empty.accept digest (parseAgentSyncRequest payload 100) ⟨1, 100, 0⟩

theorem coordinate_first :
    coordinateAgentSync digest .empty (parseAgentSyncRequest payload 100) 100 =
      (.ok false bytes, acceptance) := by
  rfl

theorem coordinate_again :
    coordinateAgentSync digest acceptance (parseAgentSyncRequest payload 100) 100 =
      (.ok true bytes, acceptance) := by
  have hrecorded : (loadCoordinatorSyncState acceptance).Recorded
      (parseAgentSyncRequest payload 100) := recorded_acceptedState ⟨rfl, rfl, rfl⟩
  rw [coordinate_recorded hrecorded, acceptance, load_accept, readableResponse_acceptedState]
  rfl

theorem readOutcome_bytes (replayed : Bool) :
    readOutcome digest (parseAgentSyncRequest payload 100) (.ok replayed bytes) =
      some ⟨if replayed then .exactRetry else .accepted, some 1, .ok bytes⟩ := by
  have hvalid : validateCoordinatorResponse digest bytes
      (parseAgentSyncRequest payload 100).requestSequence
      (maximumEventSequence (parseAgentSyncRequest payload 100)) = some 1 :=
    validateCoordinatorResponse_bytes (by decide +kernel) (by decide +kernel) (by decide)
      (by decide) (by decide) (by decide)
  rw [readOutcome, hvalid]
  rfl

end Sample

/-- A request that is accepted and whose batch commits is projected. -/
theorem accepted_sample_projected :
    ∃ server, (Server.initial 100).run Sample.digest
        [.receive 0 Sample.payload, .coordinate (Sample.handler none) true,
          .write (Sample.handler (some .accepted)) .committed] = some server ∧
      ProjectedFrom server.db (Sample.handler none).request.healthKey 1 := by
  let start : Server := { Server.initial 100 with handlers := [Sample.handler none] }
  let held : Server := { start with
    coordinators := Function.update start.coordinators "account" Sample.acceptance
    handlers := [Sample.handler (some .accepted)] }
  have haccept : start.step Sample.digest (.coordinate (Sample.handler none) true) = some held :=
    step_coordinate rfl rfl Sample.coordinate_first (Sample.readOutcome_bytes false)
  let committed : Server := held.write (Sample.handler (some .accepted))
    ⟨.accepted, some 1, .ok Sample.bytes⟩ .committed
  have hcommit : held.step Sample.digest (.write (Sample.handler (some .accepted)) .committed) =
      some committed := step_write (by simp [held]) rfl
  have hrun : (Server.initial 100).run Sample.digest
      [.receive 0 Sample.payload, .coordinate (Sample.handler none) true,
        .write (Sample.handler (some .accepted)) .committed] = some committed :=
    run_cons rfl (run_cons haccept (run_cons hcommit rfl))
  exact ⟨_, hrun, (acknowledged_heartbeat_projected Sample.digest 100 _ _ hrun _
    List.mem_cons_self _ _ rfl rfl).2 rfl⟩

/-- The retry of a request whose batch failed is answered 200, and there is no health row. -/
theorem acknowledged_retry_without_projection :
    ∃ server, (Server.initial 100).run Sample.digest Sample.lostProjection = some server ∧
      (∃ answer ∈ server.answers,
        answer.request = some (parseAgentSyncRequest Sample.payload 100) ∧
          answer.response = .ok Sample.bytes) ∧
      ∀ key, server.db.health key = none := by
  let start : Server := { Server.initial 100 with handlers := [Sample.handler none] }
  let held : Server := { start with
    coordinators := Function.update start.coordinators "account" Sample.acceptance
    handlers := [Sample.handler (some .accepted)] }
  let failed : Server := held.write (Sample.handler (some .accepted))
    ⟨.accepted, some 1, .ok Sample.bytes⟩ .failed
  let retried : Server := { failed with handlers := [Sample.handler none] }
  let again : Server := { retried with
    coordinators := Function.update retried.coordinators "account" Sample.acceptance
    handlers := [Sample.handler (some .exactRetry)] }
  have haccept : start.step Sample.digest (.coordinate (Sample.handler none) true) = some held :=
    step_coordinate rfl rfl Sample.coordinate_first (Sample.readOutcome_bytes false)
  have hfail : held.step Sample.digest (.write (Sample.handler (some .accepted)) .failed) =
      some failed := step_write (by simp [held]) rfl
  have hreceive : failed.step Sample.digest (.receive 0 Sample.payload) = some retried := by
    have hempty : failed.handlers = [] := handlers_write rfl
    show some { failed with handlers := Sample.handler none :: failed.handlers } = _
    rw [hempty]
  have hstored : retried.coordinators "account" = Sample.acceptance := by
    show Function.update start.coordinators "account" Sample.acceptance "account" = _
    rw [Function.update_self]
  have hreplay : coordinateAgentSync Sample.digest
      (retried.coordinators (Sample.handler none).request.accountId) (Sample.handler none).request
      (Sample.handler none).nowEpoch = (.ok true Sample.bytes, Sample.acceptance) := by
    show coordinateAgentSync Sample.digest (retried.coordinators "account") _ _ = _
    rw [hstored]
    exact Sample.coordinate_again
  have hretry : retried.step Sample.digest (.coordinate (Sample.handler none) true) = some again :=
    step_coordinate rfl rfl hreplay (Sample.readOutcome_bytes true)
  have hanswer : again.step Sample.digest (.write (Sample.handler (some .exactRetry)) .committed) =
      some (again.write (Sample.handler (some .exactRetry)) ⟨.exactRetry, some 1, .ok Sample.bytes⟩
        .committed) := step_write (by simp [again]) rfl
  refine ⟨again.write (Sample.handler (some .exactRetry)) ⟨.exactRetry, some 1, .ok Sample.bytes⟩
    .committed, ?_, ⟨_, List.mem_cons_self, rfl, rfl⟩, fun key => rfl⟩
  exact run_cons rfl (run_cons haccept (run_cons hfail (run_cons hreceive (run_cons hretry
    (run_cons hanswer rfl)))))

end TradeOps.Heartbeat
