import TradeOps.Admission.Inbox

/-!
# Outbox and inbox agree

Embeds `dispatchSignalAdmission` of `signal-admission-outbox-v1.ts` and puts it together with the
admission store on one side and the inbox on the other. A dispatcher claims a delivery, checks its
lease again, sends the body, and settles under its token with what the answer is worth. Between the
two sides everything can happen: a request may reach the inbox at any time, any number of times or
never, from a dispatcher or from anyone else, and a dispatcher may time out, be thrown at, or be
handed any answer that the inbox has given.

The admission side moves as in `admission`, so its invariants carry over.
-/

namespace TradeOps.Admission

open Tables Keyed
open JsString (js)
open scoped JsString

/-! ## Dispatchers -/

/-- The fields of a claim that a dispatcher keeps. -/
structure DeliveryClaim where
  deliveryId : String
  deliveryBodySha256 : String
  body : String
  token : String
  deriving DecidableEq, Repr

inductive DispatcherPhase where
  | rechecking
  | sending
  | settling (outcome : Requested)
  | done
  deriving DecidableEq, Repr

structure Dispatcher where
  claim : DeliveryClaim
  phase : DispatcherPhase
  deriving DecidableEq, Repr

/-- The text under a key of an answer. -/
def textAt (fields : List (String × Json)) (key expected : String) : Bool :=
  match fields.lookup key with
  | some (.str s) => s = js expected
  | _ => false

/-- The answer is exactly the acknowledgement of the claim. -/
def acknowledgment (response : Response) (claim : DeliveryClaim) : Bool :=
  match response.body with
  | .obj fields =>
    fields.length = 6 && textAt fields "schema_version" "TradeOpsSignalDeliveryAckV1" &&
      textAt fields "authority" "EVIDENCE_ONLY" &&
      (match fields.lookup "execution_allowed" with
        | some (.bool b) => !b
        | _ => false) &&
      textAt fields "delivery_id" claim.deliveryId &&
      textAt fields "delivery_body_sha256" claim.deliveryBodySha256 &&
      textAt fields "status" (if response.status = 201 then "STORED" else "DUPLICATE")
  | _ => false

/-- What `send` makes of an answer. -/
def responseOutcome (response : Response) (claim : DeliveryClaim) : Requested :=
  if response.redirected ∨ (300 ≤ response.status ∧ response.status < 400) then .failedTerminal
  else if response.status = 408 ∨ response.status = 429 ∨ response.status ≥ 500 then .retry
  else if response.status ≠ 200 ∧ response.status ≠ 201 then .failedTerminal
  else if acknowledgment response claim then .acknowledged else .failedTerminal

/-- What `sender` comes to: the answer of a handler, the deadline, or a throw. -/
inductive Reply where
  | answered (handler : Nat)
  | timeout
  | thrown
  deriving DecidableEq, Repr

/-! ## The system -/

structure Exchange where
  store : World
  dispatchers : List Dispatcher
  inbox : List InboxRow
  handlers : List Handler

def Exchange.initial : Exchange := ⟨.initial, [], [], []⟩

inductive ExchangeAction where
  | store (action : Action)
  | claim (now : Int) (token : String)
  | recheck (dispatcher : Nat) (now : Int)
  | reply (dispatcher : Nat) (reply : Reply)
  | finalize (dispatcher : Nat) (now : Int)
  | request (request : InboxRequest)
  | handle (handler : Nat)
  | handlerFault (handler : Nat)

/-- The actions of the store that do not belong to a dispatcher. -/
def Action.admits : Action → Bool
  | .claim .. | .settle .. => false
  | _ => true

/-- A claim that took a lease starts a dispatcher. -/
def dispatcherOf (token : String) : Option OutboxRow → List Dispatcher
  | some o =>
    if o.status = .claimed then
      [⟨⟨o.deliveryId, o.deliveryBodySha256, o.body, token⟩, .rechecking⟩]
    else []
  | none => []

/-- The response that a handler has given. -/
def Handler.response? (h : Handler) : Option Response :=
  match h.phase with
  | .answered _ response => some response
  | _ => none

section Act

variable (codec : Codec) (decode : String → Except DecodeError SignalDeliveryV1)

/-- What a reply is worth; only an answer that some handler has given can be handed over. -/
def Exchange.replyOutcome (x : Exchange) (claim : DeliveryClaim) : Reply → Option Requested
  | .answered j =>
    (x.handlers[j]?.bind (·.response?)).map fun response => responseOutcome response claim
  | .timeout | .thrown => some .retry

/-- A settlement of a dispatcher, with its answer. -/
def Exchange.settle (x : Exchange) (i : Nat) (d : Dispatcher) (requested : Requested) (now : Int)
    (next : Option OutboxStatus → DispatcherPhase) : Option Exchange :=
  (x.store.act codec (.settle d.claim.token requested now)).map fun store' =>
    let answer :=
      match settleSignalDelivery codec.jsonValid x.store.db d.claim.token requested now with
      | .ok (_, status) => status
      | .error _ => none
    { x with store := store', dispatchers := x.dispatchers.set i { d with phase := next answer } }

def Exchange.act (x : Exchange) : ExchangeAction → Option Exchange
  | .store action =>
    if action.admits then (x.store.act codec action).map fun store' => { x with store := store' }
    else none
  | .claim now token =>
    (x.store.act codec (.claim now token)).map fun store' =>
      { x with
        store := store'
        dispatchers := x.dispatchers ++
          match claimSignalDelivery codec.jsonValid x.store.db now token with
          | .ok (_, answer) => dispatcherOf token answer
          | .error _ => [] }
  | .recheck i now =>
    match x.dispatchers[i]? with
    | some d =>
      if d.phase = .rechecking then
        x.settle codec i d .claimed now fun answer =>
          if answer = some .claimed then .sending else .done
      else none
    | none => none
  | .reply i reply =>
    match x.dispatchers[i]? with
    | some d =>
      if d.phase = .sending then
        (x.replyOutcome d.claim reply).map fun outcome =>
          { x with dispatchers := x.dispatchers.set i { d with phase := .settling outcome } }
      else none
    | none => none
  | .finalize i now =>
    match x.dispatchers[i]? with
    | some d =>
      match d.phase with
      | .settling outcome => x.settle codec i d outcome now fun _ => .done
      | _ => none
    | none => none
  | .request request => some { x with handlers := x.handlers ++ [⟨request, .received⟩] }
  | .handle j =>
    x.handlers[j]?.map fun h =>
      { x with
        inbox := (h.advance decode codec.jsonValid x.inbox).1
        handlers := x.handlers.set j (h.advance decode codec.jsonValid x.inbox).2 }
  | .handlerFault j =>
    x.handlers[j]?.map fun h => { x with handlers := x.handlers.set j h.fault }

/-- Any interleaving of both sides and of the messages between them. -/
def exchange : System Exchange ExchangeAction where
  init x := x = Exchange.initial
  step action x x' := x.act codec decode action = some x'

end Act

/-! ## The admission side -/

section Store

variable {codec : Codec} {decode : String → Except DecodeError SignalDeliveryV1}
  {x x' : Exchange} {action : ExchangeAction}

theorem Exchange.settle_some {i : Nat} {d : Dispatcher} {requested : Requested} {now : Int}
    {next : Option OutboxStatus → DispatcherPhase}
    (h : x.settle codec i d requested now next = some x') :
    ∃ store' phase, x.store.act codec (.settle d.claim.token requested now) = some store' ∧
      x' = { x with
        store := store'
        dispatchers := x.dispatchers.set i { d with phase := phase } } ∧
      ∃ answer, phase = next answer := by
  obtain ⟨store', hact, rfl⟩ := Option.map_eq_some_iff.1 h
  exact ⟨store', _, hact, rfl, _, rfl⟩

/-- What an action of the exchange can do, side by side. -/
theorem Exchange.act_cases (h : x.act codec decode action = some x') :
    (∃ a, a.admits = true ∧ x.store.act codec a = some x'.store ∧
      x'.dispatchers = x.dispatchers ∧ x'.inbox = x.inbox ∧ x'.handlers = x.handlers) ∨
    (∃ now token, x.store.act codec (.claim now token) = some x'.store ∧
      (x'.dispatchers = x.dispatchers ∨
        ∃ db' answer, claimSignalDelivery codec.jsonValid x.store.db now token = .ok (db', answer) ∧
          x'.dispatchers = x.dispatchers ++ dispatcherOf token answer) ∧
      x'.inbox = x.inbox ∧ x'.handlers = x.handlers) ∨
    (∃ i d requested now phase, x.dispatchers[i]? = some d ∧
      (requested = .claimed ∨ d.phase = .settling requested) ∧
      x.store.act codec (.settle d.claim.token requested now) = some x'.store ∧
      (phase = .sending ∨ phase = .done) ∧
      x'.dispatchers = x.dispatchers.set i { d with phase := phase } ∧ x'.inbox = x.inbox ∧
      x'.handlers = x.handlers) ∨
    (∃ i d reply outcome, x.dispatchers[i]? = some d ∧ x.replyOutcome d.claim reply = some outcome ∧
      x'.store = x.store ∧
      x'.dispatchers = x.dispatchers.set i { d with phase := .settling outcome } ∧
      x'.inbox = x.inbox ∧ x'.handlers = x.handlers) ∨
    (∃ request, x'.store = x.store ∧ x'.dispatchers = x.dispatchers ∧ x'.inbox = x.inbox ∧
      x'.handlers = x.handlers ++ [⟨request, .received⟩]) ∨
    (∃ j h, x.handlers[j]? = some h ∧ x'.store = x.store ∧ x'.dispatchers = x.dispatchers ∧
      ((x'.inbox = (h.advance decode codec.jsonValid x.inbox).1 ∧
          x'.handlers = x.handlers.set j (h.advance decode codec.jsonValid x.inbox).2) ∨
        (x'.inbox = x.inbox ∧ x'.handlers = x.handlers.set j h.fault))) := by
  cases action with
  | store a =>
    simp only [Exchange.act] at h
    split at h
    · obtain ⟨store', hact, rfl⟩ := Option.map_eq_some_iff.1 h
      exact .inl ⟨a, ‹_›, hact, rfl, rfl, rfl⟩
    · cases h
  | claim now token =>
    obtain ⟨store', hact, rfl⟩ := Option.map_eq_some_iff.1 h
    refine .inr (.inl ⟨now, token, hact, ?_, rfl, rfl⟩)
    cases hclaim : claimSignalDelivery codec.jsonValid x.store.db now token with
    | ok result => exact .inr ⟨result.1, result.2, rfl, rfl⟩
    | error e => exact .inl (List.append_nil _)
  | recheck i now =>
    simp only [Exchange.act] at h
    split at h
    · rename_i d hd
      split at h
      · obtain ⟨store', phase, hact, rfl, answer, hphase⟩ := Exchange.settle_some h
        refine .inr (.inr (.inl ⟨i, d, .claimed, now, phase, hd, .inl rfl, hact, ?_, rfl,
          rfl, rfl⟩))
        rw [hphase]
        split
        · exact .inl rfl
        · exact .inr rfl
      · cases h
    · cases h
  | reply i reply =>
    simp only [Exchange.act] at h
    split at h
    · rename_i d hd
      split at h
      · obtain ⟨outcome, houtcome, rfl⟩ := Option.map_eq_some_iff.1 h
        exact .inr (.inr (.inr (.inl ⟨i, d, reply, outcome, hd, houtcome, rfl, rfl, rfl, rfl⟩)))
      · cases h
    · cases h
  | finalize i now =>
    simp only [Exchange.act] at h
    split at h
    · rename_i d hd
      split at h
      · rename_i outcome hphase
        obtain ⟨store', phase, hact, rfl, answer, rfl⟩ := Exchange.settle_some h
        exact .inr (.inr (.inl ⟨i, d, outcome, now, .done, hd, .inr hphase, hact,
          .inr rfl, rfl, rfl, rfl⟩))
      · cases h
    · cases h
  | request request =>
    cases h
    exact .inr (.inr (.inr (.inr (.inl ⟨request, rfl, rfl, rfl, rfl⟩))))
  | handle j =>
    obtain ⟨hd, hj, rfl⟩ := Option.map_eq_some_iff.1 h
    exact .inr (.inr (.inr (.inr (.inr ⟨j, hd, hj, rfl, rfl, .inl ⟨rfl, rfl⟩⟩))))
  | handlerFault j =>
    obtain ⟨hd, hj, rfl⟩ := Option.map_eq_some_iff.1 h
    exact .inr (.inr (.inr (.inr (.inr ⟨j, hd, hj, rfl, rfl, .inr ⟨rfl, rfl⟩⟩))))

/-- The admission side of a run of the exchange is a run of the admission system. -/
theorem Exchange.store_reachable (h : (exchange codec decode).Reachable x) :
    (admission codec).Reachable x.store := by
  refine h.map (T := admission codec) (f := Exchange.store) ?_ ?_
  · intro x₀ h₀
    rw [h₀]
    rfl
  · intro action a b hstep
    have hone : ∀ {act}, a.store.act codec act = some b.store →
        (admission codec).Run a.store b.store :=
      fun {act} hact => (System.Run.refl (admission codec) a.store).snoc (l := act) hact
    have hnone : b.store = a.store → (admission codec).Run a.store b.store := by
      intro heq
      rw [heq]
      exact System.Run.refl _ _
    rcases Exchange.act_cases hstep with ⟨act, -, hact, -⟩ | ⟨now, token, hact, -⟩ |
      ⟨i, d, requested, now, phase, -, -, hact, -⟩ | ⟨i, d, reply, outcome, -, -, heq, -⟩ |
      ⟨request, heq, -⟩ | ⟨j, hd, -, heq, -⟩
    · exact hone hact
    · exact hone hact
    · exact hone hact
    · exact hnone heq
    · exact hnone heq
    · exact hnone heq

end Store

/-! ## Agreement -/

/-- A dispatcher holds, or held, the lease of its claim, and settles as acknowledged only what the
inbox has stored. -/
structure Dispatcher.Sound (x : Exchange) (d : Dispatcher) : Prop where
  lease : ⟨d.claim.deliveryId, d.claim.token⟩ ∈ x.store.leases
  digest : ∃ o ∈ x.store.db.outbox, o.deliveryId = d.claim.deliveryId ∧
    o.deliveryBodySha256 = d.claim.deliveryBodySha256
  acknowledged : d.phase = .settling .acknowledged →
    Stored x.inbox d.claim.deliveryId d.claim.deliveryBodySha256

structure Exchange.Agreed (decode : String → Except DecodeError SignalDeliveryV1) (x : Exchange) :
    Prop where
  keys : InboxKeys x.inbox
  handlers : ∀ h ∈ x.handlers, h.phase.Sound decode h.request.bytes x.inbox
  dispatchers : ∀ d ∈ x.dispatchers, d.Sound x
  acknowledged : ∀ o ∈ x.store.db.outbox, o.status = .acknowledged →
    Stored x.inbox o.deliveryId o.deliveryBodySha256

theorem acknowledgment_failure {error : String} {status : Nat} {claim : DeliveryClaim} :
    acknowledgment (failure error status) claim = false := rfl

theorem acknowledgment_ack {body : SignalDeliveryV1} {status : AckStatus} {claim : DeliveryClaim}
    (h : acknowledgment (ack body status) claim = true) :
    body.deliveryId = claim.deliveryId ∧
      body.deliveryBodySha256 = claim.deliveryBodySha256 := by
  simp only [acknowledgment, ack, Bool.and_eq_true] at h
  obtain ⟨⟨⟨-, hid⟩, hdigest⟩, -⟩ := h
  exact ⟨JsString.js_eq_iff.1 (of_decide_eq_true hid),
    JsString.js_eq_iff.1 (of_decide_eq_true hdigest)⟩

theorem responseOutcome_acknowledged {response : Response} {claim : DeliveryClaim}
    (h : responseOutcome response claim = .acknowledged) :
    acknowledgment response claim = true := by
  unfold responseOutcome at h
  split at h
  · cases h
  split at h
  · cases h
  split at h
  · cases h
  split at h
  · assumption
  · cases h

section Agreement

variable {codec : Codec} {decode : String → Except DecodeError SignalDeliveryV1}
  {x x' : Exchange} {w w' : World}

/-- An answer that a dispatcher takes for an acknowledgement was given for a stored delivery. -/
theorem replyOutcome_acknowledged {claim : DeliveryClaim} {reply : Reply}
    (hhandlers : ∀ h ∈ x.handlers, h.phase.Sound decode h.request.bytes x.inbox)
    (h : x.replyOutcome claim reply = some .acknowledged) :
    Stored x.inbox claim.deliveryId claim.deliveryBodySha256 := by
  cases reply with
  | answered j =>
    obtain ⟨response, hresponse, hout⟩ := Option.map_eq_some_iff.1 h
    obtain ⟨hd, hj, hanswered⟩ := Option.bind_eq_some_iff.1 hresponse
    have hsound := hhandlers hd (List.mem_of_getElem? hj)
    have hack := responseOutcome_acknowledged hout
    unfold Handler.response? at hanswered
    split at hanswered
    · rename_i body response' hphase
      cases hanswered
      rw [hphase] at hsound
      cases body with
      | none =>
        obtain ⟨error, status, rfl⟩ := hsound
        rw [acknowledgment_failure] at hack
        cases hack
      | some body =>
        rcases hsound.2 with ⟨error, status, rfl⟩ | ⟨⟨status, rfl⟩, hstored⟩
        · rw [acknowledgment_failure] at hack
          cases hack
        · obtain ⟨hid, hdigest⟩ := acknowledgment_ack hack
          rw [← hid, ← hdigest]
          exact hstored
    · cases hanswered
  | timeout => cases h
  | thrown => cases h

/-- A delivery becomes acknowledged only when it is settled so under its token. -/
theorem World.act_acknowledged {action : Action} (hw : w.Inv codec)
    (h : w.act codec action = some w') {o' : OutboxRow} (ho' : o' ∈ w'.db.outbox)
    (hstatus : o'.status = .acknowledged) :
    (∃ o ∈ w.db.outbox, o'.toDelivery = o.toDelivery ∧ o.status = .acknowledged) ∨
      ∃ token now, action = .settle token .acknowledged now ∧
        ∃ o ∈ w.db.outbox, o'.toDelivery = o.toDelivery ∧ o.claimToken = some token := by
  rcases act_cases hw.guarded h with ⟨hstore, -⟩ | ⟨now, token, -, -, -, ⟨hdb, -⟩ |
    ⟨answer, hclaim, -⟩⟩ | ⟨token, requested, now, answer, rfl, hsettle, -⟩
  · rcases hstore.origin hw.admitted.keys ho' with ⟨o, ho, hkept⟩ | ⟨-, hpending⟩
    · refine .inl ⟨o, ho, hkept.evolves.delivery, ?_⟩
      rw [← hkept.blockedHeld.2 (.inr hstatus)]
      exact hstatus
    · have hpend := hpending.blockedHeld.2 (.inr hstatus)
      rw [hpend] at hstatus
      cases hstatus
  · rw [hdb] at ho'
    exact .inl ⟨o', ho', rfl, hstatus⟩
  · rcases claimSignalDelivery_ok hclaim with ⟨hdb, -⟩ | ⟨x, hx, -, -, c, hr, hdb⟩
    · rw [hdb] at ho'
      exact .inl ⟨o', ho', rfl, hstatus⟩
    · obtain ⟨-, rfl⟩ := rewritten_ok_iff.1 hr
      rw [← hdb] at ho'
      obtain ⟨y, hy, rfl⟩ := exists_of_mem_updateWhere ho'
      split at hstatus
      · exact absurd hstatus claimState_ne_acknowledged
      · rw [if_neg ‹_›]
        exact .inl ⟨y, hy, rfl, hstatus⟩
  · obtain ⟨c, hr, hdb⟩ := settleSignalDelivery_ok hsettle
    obtain ⟨-, rfl⟩ := rewritten_ok_iff.1 hr
    rw [← hdb] at ho'
    obtain ⟨y, hy, rfl⟩ := exists_of_mem_updateWhere ho'
    split at hstatus
    · rename_i hheld
      rw [if_pos hheld]
      have hrequested : requested = .acknowledged := by
        have hstate : settleState w.db now requested y = .acknowledged := hstatus
        unfold settleState at hstate
        split at hstate
        · cases hstate
        split at hstate
        · cases hstate
        split at hstate
        · cases hstate
        split at hstate
        · cases hstate
        · cases requested <;> first | rfl | cases hstate
      rw [hrequested]
      exact .inr ⟨token, now, rfl, y, hy, rfl, (held_claimed hheld).2⟩
    · rw [if_neg ‹_›]
      exact .inl ⟨y, hy, rfl, hstatus⟩

/-- Leases are never forgotten. -/
theorem World.act_leases {action : Action} (hw : w.Inv codec) (h : w.act codec action = some w') :
    w.leases ⊆ w'.leases := by
  rcases act_cases hw.guarded h with ⟨-, -, hleases⟩ | ⟨now, token, -, -, -, ⟨-, hleases⟩ |
    ⟨answer, -, hleases⟩⟩ | ⟨token, requested, now, answer, -, -, -, hleases⟩
  · rw [hleases]
    exact List.Subset.refl _
  · rw [hleases]
    exact List.Subset.refl _
  · rw [hleases]
    exact List.subset_append_left _ _
  · rw [hleases]
    exact List.Subset.refl _

/-- A dispatcher stays sound when both sides only move on. -/
theorem Dispatcher.Sound.mono {d : Dispatcher} (h : d.Sound x)
    (hleases : x.store.leases ⊆ x'.store.leases) (hdb : x.store.db.Evolves x'.store.db)
    (hinbox : x.inbox ⊆ x'.inbox) : d.Sound x' := by
  refine ⟨hleases h.lease, ?_, fun hp => (h.acknowledged hp).mono hinbox⟩
  obtain ⟨o, ho, hid, hdigest⟩ := h.digest
  obtain ⟨o', ho', hrow⟩ := hdb.outbox o ho
  exact ⟨o', ho', by rw [hrow.delivery]; exact hid, by rw [hrow.delivery]; exact hdigest⟩

/-- A step that leaves the admission side alone and loses no row of the inbox keeps dispatchers
sound. -/
theorem Dispatcher.Sound.inbox {d : Dispatcher} (h : d.Sound x) (hstore : x'.store = x.store)
    (hinbox : x.inbox ⊆ x'.inbox) : d.Sound x' := by
  refine h.mono ?_ ?_ hinbox
  · rw [hstore]
    exact List.Subset.refl _
  · rw [hstore]
    exact Db.Evolves.refl _

/-- What a step of the admission side carries over: leases, rows, and the acknowledgements. -/
theorem Exchange.Agreed.storeStep {action : Action} (hx : x.Agreed decode)
    (hinv : x.store.Inv codec) (hact : x.store.act codec action = some x'.store)
    (hinbox : x'.inbox = x.inbox) (hhandlers : x'.handlers = x.handlers)
    (hdispatchers : ∀ d ∈ x'.dispatchers, d ∈ x.dispatchers ∨ d.Sound x')
    (hsettled : ∀ token now, action = .settle token .acknowledged now → ∀ o ∈ x.store.db.outbox,
      o.claimToken = some token → Stored x.inbox o.deliveryId o.deliveryBodySha256) :
    x'.Agreed decode := by
  have hevolves := (World.act_tableStep hinv.guarded hinv.admitted.keys hact).evolves
  refine ⟨by rw [hinbox]; exact hx.keys, ?_, ?_, ?_⟩
  · rw [hhandlers, hinbox]
    exact hx.handlers
  · intro d hd
    rcases hdispatchers d hd with hold | hnew
    · refine (hx.dispatchers d hold).mono (World.act_leases hinv hact) hevolves ?_
      rw [hinbox]
      exact List.Subset.refl _
    · exact hnew
  · intro o' ho' hstatus
    rw [hinbox]
    rcases World.act_acknowledged hinv hact ho' hstatus with ⟨o, ho, hdelivery, hold⟩ |
      ⟨token, now, haction, o, ho, hdelivery, htoken⟩
    · rw [hdelivery]
      exact hx.acknowledged o ho hold
    · rw [hdelivery]
      exact hsettled token now haction o ho htoken

/-- The dispatcher that a claim starts holds the lease of the claim. -/
theorem dispatcherOf_sound {now : Int} {token : String} {db' : Db} {answer : Option OutboxRow}
    (hinv : x.store.Inv codec) (hact : x.store.act codec (.claim now token) = some x'.store)
    (hclaim : claimSignalDelivery codec.jsonValid x.store.db now token = .ok (db', answer))
    {d : Dispatcher} (hd : d ∈ dispatcherOf token answer) : d.Sound x' := by
  have hevolves := (World.act_tableStep hinv.guarded hinv.admitted.keys hact).evolves
  have hleases : x'.store.leases = x.store.leases ++ leaseOf token answer := by
    simp only [World.act, hclaim] at hact
    split at hact
    · cases hact
    · rw [← Option.some.inj hact]
  rcases claimSignalDelivery_ok hclaim with ⟨-, rfl⟩ | ⟨o, ho, -, rfl, -⟩
  · cases hd
  · simp only [dispatcherOf] at hd
    split at hd
    · rename_i hclaimed
      rw [List.mem_singleton] at hd
      subst hd
      refine ⟨?_, ?_, fun hphase => by cases hphase⟩
      · rw [hleases, leaseOf, if_pos hclaimed]
        exact List.mem_append_right _ List.mem_cons_self
      · obtain ⟨o', ho', hrow⟩ := hevolves.outbox o ho
        exact ⟨o', ho', by rw [hrow.delivery]; rfl, by rw [hrow.delivery]; rfl⟩
    · cases hd

/-- The delivery that stands under a dispatcher's token is the one it has claimed. -/
theorem Dispatcher.Sound.claimed {d : Dispatcher} (hd : d.Sound x) (hinv : x.store.Inv codec)
    (hleased : x.store.Leased) {o : OutboxRow} (ho : o ∈ x.store.db.outbox)
    (htoken : o.claimToken = some d.claim.token) :
    o.deliveryId = d.claim.deliveryId ∧ o.deliveryBodySha256 = d.claim.deliveryBodySha256 := by
  have hlease := (hleased.rows o ho).lease _ htoken
  have hsame := List.inj_on_of_nodup_map hleased.distinct hlease hd.lease rfl
  rw [Lease.mk.injEq] at hsame
  obtain ⟨o₁, ho₁, hid, hdigest⟩ := hd.digest
  have hoo : o = o₁ :=
    hinv.admitted.keys.deliveries.eq_of_key ho ho₁ (hsame.1.trans hid.symm)
  exact ⟨hsame.1, by rw [hoo]; exact hdigest⟩

theorem Exchange.Agreed.step {action : ExchangeAction} (hinv : x.store.Inv codec)
    (hleased : x.store.Leased) (hx : x.Agreed decode) (h : x.act codec decode action = some x') :
    x'.Agreed decode := by
  rcases Exchange.act_cases h with ⟨a, hadmits, hact, hdispatchers, hinbox, hhandlers⟩ |
    ⟨now, token, hact, hdispatchers, hinbox, hhandlers⟩ |
    ⟨i, d, requested, now, phase, hi, hrequested, hact, hphase, hdispatchers, hinbox, hhandlers⟩ |
    ⟨i, d, reply, outcome, hi, houtcome, hstore, hdispatchers, hinbox, hhandlers⟩ |
    ⟨request, hstore, hdispatchers, hinbox, hhandlers⟩ |
    ⟨j, hd, hj, hstore, hdispatchers, hmove⟩
  · refine hx.storeStep hinv hact hinbox hhandlers (fun d hd => .inl (hdispatchers ▸ hd)) ?_
    rintro token now rfl
    cases hadmits
  · refine hx.storeStep hinv hact hinbox hhandlers ?_ (fun _ _ hclaim => by cases hclaim)
    intro d hd
    rcases hdispatchers with heq | ⟨db', answer, hclaim, heq⟩
    · exact .inl (heq ▸ hd)
    · rw [heq] at hd
      rcases List.mem_append.1 hd with hd | hd
      · exact .inl hd
      · exact .inr (dispatcherOf_sound hinv hact hclaim hd)
  · have hsound := hx.dispatchers d (List.mem_of_getElem? hi)
    have hevolves := (World.act_tableStep hinv.guarded hinv.admitted.keys hact).evolves
    refine hx.storeStep hinv hact hinbox hhandlers ?_ ?_
    · intro d' hd'
      rw [hdispatchers] at hd'
      rcases List.mem_or_eq_of_mem_set hd' with hd' | rfl
      · exact .inl hd'
      · right
        have hmono : d.Sound x' := by
          refine hsound.mono (World.act_leases hinv hact) hevolves ?_
          rw [hinbox]
          exact List.Subset.refl _
        refine ⟨hmono.lease, hmono.digest, fun hp => ?_⟩
        rcases hphase with rfl | rfl <;> cases hp
    · -- the row under the token is the dispatcher's, and the inbox has stored it
      intro token now' haction o ho htoken
      cases haction
      obtain ⟨hid, hdigest⟩ := hsound.claimed hinv hleased ho htoken
      rw [hid, hdigest]
      rcases hrequested with hr | hr
      · cases hr
      · exact hsound.acknowledged hr
  · have hsound := hx.dispatchers d (List.mem_of_getElem? hi)
    refine ⟨by rw [hinbox]; exact hx.keys, by rw [hhandlers, hinbox]; exact hx.handlers, ?_,
      by rw [hstore, hinbox]; exact hx.acknowledged⟩
    intro d' hd'
    rw [hdispatchers] at hd'
    have hsub : x.inbox ⊆ x'.inbox := by
      rw [hinbox]
      exact List.Subset.refl _
    rcases List.mem_or_eq_of_mem_set hd' with hd' | rfl
    · exact (hx.dispatchers d' hd').inbox hstore hsub
    · have hsame := hsound.inbox hstore hsub
      refine ⟨hsame.lease, hsame.digest, fun hp => ?_⟩
      cases hp
      rw [hinbox]
      exact replyOutcome_acknowledged hx.handlers houtcome
  · refine ⟨by rw [hinbox]; exact hx.keys, ?_, ?_, by rw [hstore, hinbox]; exact hx.acknowledged⟩
    · intro h' hh'
      rw [hhandlers] at hh'
      rw [hinbox]
      rcases List.mem_append.1 hh' with hh' | hh'
      · exact hx.handlers h' hh'
      · rw [List.mem_singleton] at hh'
        rw [hh']
        trivial
    · intro d hd
      rw [hdispatchers] at hd
      refine (hx.dispatchers d hd).inbox hstore ?_
      rw [hinbox]
      exact List.Subset.refl _
  · have hold := hx.handlers hd (List.mem_of_getElem? hj)
    have hsub : x.inbox ⊆ x'.inbox := by
      rcases hmove with ⟨hinbox, -⟩ | ⟨hinbox, -⟩
      · rw [hinbox]
        exact Handler.advance_subset
      · rw [hinbox]
        exact List.Subset.refl _
    refine ⟨?_, ?_, ?_, ?_⟩
    · rcases hmove with ⟨hinbox, -⟩ | ⟨hinbox, -⟩
      · rw [hinbox]
        exact hx.keys.advance
      · rw [hinbox]
        exact hx.keys
    · intro h' hh'
      rcases hmove with ⟨hinbox, hhandlers⟩ | ⟨hinbox, hhandlers⟩
      · rw [hhandlers] at hh'
        rcases List.mem_or_eq_of_mem_set hh' with hh' | rfl
        · exact (hx.handlers h' hh').mono hsub
        · rw [hinbox, Handler.advance_request]
          exact Handler.advance_sound hold
      · rw [hhandlers] at hh'
        rcases List.mem_or_eq_of_mem_set hh' with hh' | rfl
        · exact (hx.handlers h' hh').mono hsub
        · rw [hinbox, Handler.fault_request]
          exact Handler.fault_sound hold
    · intro d hd'
      rw [hdispatchers] at hd'
      exact (hx.dispatchers d hd').inbox hstore hsub
    · intro o ho hstatus
      rw [hstore] at ho
      exact (hx.acknowledged o ho hstatus).mono hsub

theorem Exchange.agreed_of_reachable (h : (exchange codec decode).Reachable x) :
    x.Agreed decode := by
  obtain ⟨x₀, h₀, hrun⟩ := h
  have hinit : (exchange codec decode).Reachable x₀ := System.Reachable.init h₀
  induction hrun with
  | refl =>
    rw [h₀]
    exact {
      keys := ⟨List.nodup_nil, List.nodup_nil⟩
      handlers := fun _ hh => by cases hh
      dispatchers := fun _ hd => by cases hd
      acknowledged := fun _ ho => by cases ho }
  | tail hbefore hnext ih =>
    obtain ⟨action, hstep⟩ := hnext
    have hstore := Exchange.store_reachable (hinit.run hbefore)
    exact ih.step (World.inv_of_reachable hstore) (World.leased_of_reachable hstore) hstep

/-- A row of the inbox is there for good. -/
theorem Exchange.run_inbox (hrun : (exchange codec decode).Run x x') : x.inbox ⊆ x'.inbox := by
  induction hrun with
  | refl => exact List.Subset.refl _
  | tail _ hnext ih =>
    obtain ⟨action, hstep⟩ := hnext
    rcases Exchange.act_cases hstep with ⟨_, -, -, -, hinbox, -⟩ | ⟨_, _, -, -, hinbox, -⟩ |
      ⟨_, _, _, _, _, -, -, -, -, -, hinbox, -⟩ | ⟨_, _, _, _, -, -, -, -, hinbox, -⟩ |
      ⟨_, -, -, hinbox, -⟩ | ⟨_, hd, -, -, -, ⟨hinbox, -⟩ | ⟨hinbox, -⟩⟩
    · rw [hinbox]
      exact ih
    · rw [hinbox]
      exact ih
    · rw [hinbox]
      exact ih
    · rw [hinbox]
      exact ih
    · rw [hinbox]
      exact ih
    · rw [hinbox]
      exact List.Subset.trans ih Handler.advance_subset
    · rw [hinbox]
      exact ih

end Agreement

/-- **Outbox and inbox agree.** In every state that an interleaving of admissions, dispatchers,
requests and answers reaches: an acknowledged delivery of the outbox is stored in the inbox under
its id and with its digest; the inbox holds at most one row for an attempt, and along every run its
rows stay as they are; and a handler answers `STORED` or `DUPLICATE` only when the row stored under
the request's delivery id has the request's digest. -/
theorem outbox_inbox_agree {codec : Codec} {decode : String → Except DecodeError SignalDeliveryV1}
    {x x' : Exchange} (h : (exchange codec decode).Reachable x)
    (hrun : (exchange codec decode).Run x x') :
    (∀ o ∈ x.store.db.outbox, o.status = .acknowledged →
      ∃ row ∈ x.inbox, row.deliveryId = o.deliveryId ∧
        row.deliveryBodySha256 = o.deliveryBodySha256) ∧
    (x.inbox.map (·.attempt)).Nodup ∧ (x.inbox.map (·.deliveryId)).Nodup ∧
    (∀ row ∈ x.inbox, row ∈ x'.inbox) ∧
    (∀ hd ∈ x.handlers, ∀ body response status, hd.phase = .answered (some body) response →
      response = ack body status → decode hd.request.bytes = .ok body ∧
      ∃ row ∈ x.inbox, row.deliveryId = body.deliveryId ∧
        row.deliveryBodySha256 = body.deliveryBodySha256) := by
  have hagreed := Exchange.agreed_of_reachable h
  refine ⟨hagreed.acknowledged, hagreed.keys.attempts, hagreed.keys.ids,
    fun row hrow => Exchange.run_inbox hrun hrow, ?_⟩
  intro hd hmem body response status hphase hack
  have hsound := hagreed.handlers hd hmem
  rw [hphase] at hsound
  obtain ⟨hdecode, hfailure | ⟨-, hstored⟩⟩ := hsound
  · obtain ⟨error, code, hfail⟩ := hfailure
    rw [hack] at hfail
    simp [ack, failure] at hfail
  · exact ⟨hdecode, hstored⟩

/-! The claimed signal is checked again, sent, stored and acknowledged. -/

/-- Actions of the admission side alone. -/
theorem Exchange.run_of_acts {codec : Codec}
    {decode : String → Except DecodeError SignalDeliveryV1} {actions : List Action} {x : Exchange}
    {w : World} (hadmits : ∀ action ∈ actions, action.admits = true)
    (h : actions.foldlM (World.act codec) x.store = some w) :
    (exchange codec decode).Run x { x with store := w } := by
  induction actions generalizing x with
  | nil =>
    cases h
    exact System.Run.refl _ _
  | cons action rest ih =>
    rw [List.foldlM_cons] at h
    obtain ⟨w₁, hact, hrest⟩ := Option.bind_eq_some_iff.1 h
    have hstep : x.act codec decode (.store action) = some { x with store := w₁ } := by
      simp only [Exchange.act, hadmits action List.mem_cons_self, if_true, hact, Option.map_some]
    have hfirst : (exchange codec decode).Run x { x with store := w₁ } :=
      (System.Run.refl (exchange codec decode) x).snoc hstep
    exact hfirst.trans (ih (fun a ha => hadmits a (List.mem_cons_of_mem _ ha)) hrest)

/-- The delivery as the inbox decodes it. -/
def sentDelivery : SignalDeliveryV1 where
  deliveryId := signalDelivery.deliveryId
  producerNamespace := signalDelivery.namespace_
  attemptKey := signalDelivery.attemptKey
  deliveryBodySha256 := signalDelivery.deliveryBodySha256
  receiptId := signalDelivery.receiptId
  evidenceId := signalDelivery.evidenceId
  evidenceBodySha256 := signalEntry.evidenceBodySha256
  registrationId := signalDelivery.registrationId
  generation := signalDelivery.generation
  admittedAtEpoch := signalDelivery.admittedAtEpoch
  expiresAtEpoch := signalDelivery.expiresAtEpoch
  document := .obj (deliveryFields signalCodec demoTransport signalEntry 610 660 ++
    [("delivery_body_sha256", .str signalDelivery.deliveryBodySha256)])

/-- The decoder on the body of the delivery. -/
def signalDecode (bytes : String) : Except DecodeError SignalDeliveryV1 :=
  if bytes = signalDelivery.body then .ok sentDelivery else .error .invalid

def signalRequest : InboxRequest := ⟨true, true, true, true, signalDelivery.body, 625⟩

theorem sentRow_check : (sentDelivery.row 625).check signalCodec.jsonValid = true := by
  have hid : Entry.sha256Text sentDelivery.deliveryId = true :=
    Entry.sha256Text_ofList (by decide) (by decide)
  have hattempt : Entry.sha256Text sentDelivery.attemptKey = true :=
    Entry.sha256Text_ofList (by decide) (by decide)
  have hevidence : Entry.sha256Text sentDelivery.evidenceId = true :=
    Entry.sha256Text_ofList (by decide) (by decide)
  have hsize : 1 ≤ sentDelivery.document.canonical.utf8ByteSize ∧
      sentDelivery.document.canonical.utf8ByteSize ≤ 278528 := by
    rw [Json.canonical, String.utf8ByteSize_ofList]
    decide +kernel
  simp only [InboxRow.check, Bool.and_eq_true, decide_eq_true_eq]
  exact ⟨⟨⟨⟨⟨⟨⟨⟨⟨⟨⟨⟨⟨⟨hid, rfl⟩, hattempt⟩, hid⟩, hid⟩, hevidence⟩, hid⟩, rfl⟩, rfl⟩, rfl⟩, rfl⟩,
    by decide⟩, by decide⟩, hsize⟩, rfl⟩

/-- The delivery after its lease was checked again. -/
def recheckedDelivery : OutboxRow :=
  settleRow claimedWorld.db 621 .claimed claimedDelivery

def recheckedWorld : World :=
  { claimedWorld with db := { signalDb with outbox := [recheckedDelivery] } }

def acknowledgedDelivery : OutboxRow :=
  settleRow recheckedWorld.db 626 .acknowledged recheckedDelivery

/-- What the dispatcher keeps of its claim. -/
def signalClaim : DeliveryClaim :=
  ⟨signalDelivery.deliveryId, signalDelivery.deliveryBodySha256, signalDelivery.body, "lease-1"⟩

def admittedExchange : Exchange := ⟨admittedWorld, [], [], []⟩

def claimedExchange : Exchange := ⟨claimedWorld, [⟨signalClaim, .rechecking⟩], [], []⟩

def sendingExchange : Exchange := ⟨recheckedWorld, [⟨signalClaim, .sending⟩], [], []⟩

/-- The exchange when the inbox has answered. -/
def answeredExchange : Exchange where
  store := recheckedWorld
  dispatchers := [⟨signalClaim, .sending⟩]
  inbox := [sentDelivery.row 625]
  handlers := [⟨signalRequest, .answered (some sentDelivery) (ack sentDelivery .stored)⟩]

def acknowledgedExchange : Exchange where
  store := { claimedWorld with db := { signalDb with outbox := [acknowledgedDelivery] } }
  dispatchers := [⟨signalClaim, .done⟩]
  inbox := [sentDelivery.row 625]
  handlers := [⟨signalRequest, .answered (some sentDelivery) (ack sentDelivery .stored)⟩]

theorem admittedExchange_reachable :
    (exchange signalCodec signalDecode).Reachable admittedExchange := by
  have hadmits : ∀ action ∈ signalActions ++ [Action.advance 0 demoRandomness],
      action.admits = true := by decide
  exact ⟨Exchange.initial, rfl, Exchange.run_of_acts hadmits admittedWorld_reached⟩

theorem admittedExchange_claim :
    admittedExchange.act signalCodec signalDecode (.claim 620 "lease-1") =
    some claimedExchange := by
  have hact : admittedExchange.store.act signalCodec (.claim 620 "lease-1") =
      some claimedWorld := admittedWorld_claim
  have hclaim : claimSignalDelivery signalCodec.jsonValid admittedExchange.store.db 620 "lease-1" =
      .ok ({ signalDb with outbox := [claimedDelivery] }, some claimedDelivery) :=
    signalDelivery_claimed
  simp only [Exchange.act, hact, Option.map_some, hclaim]
  rfl

theorem claimedExchange_recheck :
    claimedExchange.act signalCodec signalDecode (.recheck 0 621) = some sendingExchange := by
  have htime : dispatchTime 621 = true := by decide
  have hdispatcher : claimedExchange.dispatchers[0]? = some ⟨signalClaim, .rechecking⟩ := rfl
  have hstore : claimedExchange.store = claimedWorld := rfl
  have htoken : signalClaim.token = "lease-1" := rfl
  have hstate : settleState claimedWorld.db 621 .claimed claimedDelivery = .claimed := rfl
  obtain ⟨hsettle, hact⟩ :=
    World.act_settle_single signalCodec (w := claimedWorld) "lease-1" .claimed rfl htime rfl
      claimedDelivery_check
  simp only [Exchange.act, hdispatcher, if_true, Exchange.settle, hstore, htoken, hsettle, hact,
    hstate, Option.map_some]
  rfl

theorem sendingExchange_reachable :
    (exchange signalCodec signalDecode).Reachable sendingExchange := by
  have hclaimed : (exchange signalCodec signalDecode).Reachable claimedExchange :=
    admittedExchange_reachable.snoc (l := .claim 620 "lease-1") admittedExchange_claim
  exact hclaimed.snoc (l := .recheck 0 621) claimedExchange_recheck

theorem signalRequest_received : receive signalDecode signalRequest = .lookup sentDelivery := by
  have hdecode : signalDecode signalRequest.bytes = .ok sentDelivery := if_pos rfl
  simp only [receive, hdecode]
  rfl

theorem sentDelivery_inserted : insertDelivery signalCodec.jsonValid [] 625 sentDelivery =
    ([sentDelivery.row 625], .answered (some sentDelivery) (ack sentDelivery .stored)) := by
  simp only [insertDelivery, sentRow_check]
  rfl

/-- A step of the only handler. -/
theorem Exchange.act_handle_single {codec : Codec}
    {decode : String → Except DecodeError SignalDeliveryV1} {x : Exchange} {h h' : Handler}
    {inbox : List InboxRow} (hhandlers : x.handlers = [h])
    (hadvance : h.advance decode codec.jsonValid x.inbox = (inbox, h')) :
    x.act codec decode (.handle 0) = some { x with inbox := inbox, handlers := [h'] } := by
  simp only [Exchange.act, hhandlers, List.getElem?_cons_zero, Option.map_some, hadvance,
    List.set_cons_zero]

theorem Handler.advance_insert {decode : String → Except DecodeError SignalDeliveryV1}
    {jsonValid : String → Bool} {inbox : List InboxRow} {request : InboxRequest}
    {body : SignalDeliveryV1} : Handler.advance decode jsonValid inbox ⟨request, .insert body⟩ =
      ((insertDelivery jsonValid inbox request.now body).1,
        ⟨request, (insertDelivery jsonValid inbox request.now body).2⟩) := rfl

/-- The exchange while the inbox handles the request. -/
def handlingExchange (phase : HandlerPhase) : Exchange :=
  ⟨recheckedWorld, [⟨signalClaim, .sending⟩], [], [⟨signalRequest, phase⟩]⟩

/-- The request is received, looked up, stored and answered. -/
theorem sentDelivery_stored :
    (exchange signalCodec signalDecode).Run sendingExchange answeredExchange := by
  have hrequest : sendingExchange.act signalCodec signalDecode (.request signalRequest) =
      some (handlingExchange .received) := rfl
  have hreceived : (handlingExchange .received).act signalCodec signalDecode (.handle 0) =
      some (handlingExchange (.lookup sentDelivery)) := by
    refine Exchange.act_handle_single rfl ?_
    rw [Handler.advance, signalRequest_received]
    rfl
  have hlookup : (handlingExchange (.lookup sentDelivery)).act signalCodec signalDecode
      (.handle 0) = some (handlingExchange (.insert sentDelivery)) := rfl
  have hinsert : (handlingExchange (.insert sentDelivery)).act signalCodec signalDecode
      (.handle 0) = some answeredExchange := by
    refine Exchange.act_handle_single rfl ?_
    have hnow : signalRequest.now = 625 := rfl
    have hinbox : (handlingExchange (.insert sentDelivery)).inbox = [] := rfl
    rw [Handler.advance_insert, hnow, hinbox, sentDelivery_inserted]
  exact ((((System.Run.refl _ _).snoc (l := .request signalRequest) hrequest).snoc
    (l := .handle 0) hreceived).snoc (l := .handle 0) hlookup).snoc (l := .handle 0) hinsert

theorem recheckedDelivery_check : recheckedDelivery.check signalCodec.jsonValid = true := by
  have hallowed : claimedDelivery.allowed signalCodec.jsonValid recheckedDelivery = true :=
    settle_allowed (by decide) rfl claimedDelivery_check
  exact (Bool.and_eq_true_iff.1 hallowed).2

/-- The answer is taken for what it is, and the delivery is settled as acknowledged. -/
theorem answeredExchange_finalized :
    (exchange signalCodec signalDecode).Run answeredExchange acknowledgedExchange := by
  have houtcome : answeredExchange.replyOutcome signalClaim (.answered 0) = some .acknowledged := by
    have hack : responseOutcome (ack sentDelivery .stored) signalClaim = .acknowledged := by
      simp [responseOutcome, acknowledgment, ack, textAt, AckStatus.code, AckStatus.name,
        signalClaim, sentDelivery, List.lookup_cons]
    simp [Exchange.replyOutcome, answeredExchange, Handler.response?, hack]
  have hreply : answeredExchange.act signalCodec signalDecode (.reply 0 (.answered 0)) =
      some { answeredExchange with dispatchers := [⟨signalClaim, .settling .acknowledged⟩] } := by
    have hdispatcher : answeredExchange.dispatchers = [⟨signalClaim, .sending⟩] := rfl
    simp only [Exchange.act, hdispatcher, List.getElem?_cons_zero, if_true, houtcome,
      Option.map_some, List.set_cons_zero]
  have hfinalize : ({ answeredExchange with
      dispatchers := [⟨signalClaim, .settling .acknowledged⟩] } : Exchange).act signalCodec
        signalDecode (.finalize 0 626) = some acknowledgedExchange := by
    have hstore : answeredExchange.store = recheckedWorld := rfl
    have htoken : signalClaim.token = "lease-1" := rfl
    have hact := (World.act_settle_single signalCodec (w := recheckedWorld) "lease-1"
      .acknowledged rfl (by decide : dispatchTime 626 = true) rfl recheckedDelivery_check).2
    simp only [Exchange.act, List.getElem?_cons_zero, Exchange.settle, hstore, htoken, hact,
      Option.map_some, List.set_cons_zero]
    rfl
  exact ((System.Run.refl _ _).snoc (l := .reply 0 (.answered 0)) hreply).snoc
    (l := .finalize 0 626) hfinalize

/-- The delivery is acknowledged in the outbox and stored in the inbox, with one id and one
digest. -/
theorem signalDelivery_agrees :
    (exchange signalCodec signalDecode).Reachable acknowledgedExchange ∧
      (∃ o ∈ acknowledgedExchange.store.db.outbox, o.status = .acknowledged ∧
        ∃ row ∈ acknowledgedExchange.inbox, row.deliveryId = o.deliveryId ∧
          row.deliveryBodySha256 = o.deliveryBodySha256) ∧
      ∃ hd ∈ acknowledgedExchange.handlers,
        hd.phase = .answered (some sentDelivery) (ack sentDelivery .stored) ∧
          signalDecode hd.request.bytes = .ok sentDelivery := by
  have hreachable : (exchange signalCodec signalDecode).Reachable acknowledgedExchange :=
    (sendingExchange_reachable.run sentDelivery_stored).run answeredExchange_finalized
  obtain ⟨hacknowledged, -, -, -, hanswered⟩ :=
    outbox_inbox_agree hreachable (System.Run.refl _ _)
  have ho := List.mem_singleton_self acknowledgedDelivery
  have hhandler := List.mem_singleton_self
    (⟨signalRequest, .answered (some sentDelivery) (ack sentDelivery .stored)⟩ : Handler)
  exact ⟨hreachable, ⟨_, ho, rfl, hacknowledged _ ho rfl⟩, _, hhandler, rfl,
    (hanswered _ hhandler sentDelivery _ .stored rfl rfl).1⟩

end TradeOps.Admission
