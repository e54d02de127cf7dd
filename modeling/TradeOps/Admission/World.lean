import TradeOps.Admission.Store
import Mathlib.Data.Prod.Lex
import Mathlib.Data.String.Basic

/-!
# Dispatch, provisioning and the admission system

The other writers of the admission tables: `claimSignalDelivery` and `settleSignalDelivery`, which
move a delivery through its leases, and `installGeneration`, which provisions streams. Each is one
statement or one batch. With the calls of `admitSignal` they make up the system whose reachable
states the invariants speak of; the world also records every lease token handed out and every
successful claim.
-/

namespace TradeOps.Admission

open Tables SortBy
open SafeIntegers (maxSafeInteger)
open TradeOps.Entry (isSafeInteger)

/-! ## Claiming and settling deliveries -/

/-- `dispatchTime` lets the clock reading pass. -/
def dispatchTime (now : Int) : Bool :=
  isSafeInteger now ∧ 0 ≤ now ∧ now ≤ maxSafeInteger - 30

/-- The registration is enabled with this stream active, and the attempt is undisputed and reserved
for this delivery. -/
def deliverable (db : Db) (o : OutboxRow) : Bool :=
  db.registrations.any fun r => db.streams.any fun s => db.attempts.any fun a =>
    s.registrationId = r.registrationId && a.namespace_ = r.namespace_ &&
    r.registrationId = o.registrationId && r.namespace_ = o.namespace_ && r.enabled &&
    r.activeGeneration = o.generation && s.generation = o.generation && s.state = .active &&
    s.registryRevision = r.revision && a.attemptKey = o.attemptKey && !a.disputed &&
    a.evidenceId = some o.evidenceId

/-- `COALESCE(last_dispatch_at_epoch, admitted_at_epoch)`. -/
def OutboxRow.lastSeen (o : OutboxRow) : Int := o.lastDispatchAtEpoch.getD o.admittedAtEpoch

def claimState (db : Db) (now : Int) (o : OutboxRow) : OutboxStatus :=
  if !deliverable db o then .quarantined
  else if o.expiresAtEpoch ≤ now then .expired
  else if now < o.lastSeen then .failedTerminal
  else if o.deliveryAttempts ≥ 5 then .failedTerminal
  else .claimed

def claimRow (db : Db) (now : Int) (token : String) (o : OutboxRow) : OutboxRow :=
  { o with
    status := claimState db now o
    claimToken := if claimState db now o = .claimed then some token else none
    leaseUntilEpoch := if claimState db now o = .claimed then some (now + 30) else none
    deliveryAttempts := o.deliveryAttempts + if claimState db now o = .claimed then 1 else 0
    failureReason :=
      if now < o.lastSeen then some .clockRegression
      else if o.deliveryAttempts ≥ 5 then some .attemptsExhausted else none
    lastDispatchAtEpoch := some (max now o.lastSeen) }

/-- The deliveries that a claim may take up. -/
def due (db : Db) (now : Int) (o : OutboxRow) : Bool :=
  o.status.live &&
    (((o.status = .pending || o.status = .retry) && o.nextAttemptAtEpoch ≤ now) ||
      (o.status = .claimed && o.leaseUntilEpoch.any (· ≤ now)) || o.expiresAtEpoch ≤ now ||
      !deliverable db o || now < o.lastSeen)

/-- The due delivery that comes first, with its row after the update. -/
def claimSignalDelivery (jsonValid : String → Bool) (db : Db) (now : Int) (token : String) :
    Except DbError (Db × Option OutboxRow) :=
  if !dispatchTime now then .error .unavailable
  else
    match minBy (fun o => toLex (o.nextAttemptAtEpoch, o.deliveryId))
        (db.outbox.filter (due db now)) with
    | none => .ok (db, none)
    | some o =>
      (rewriteOutbox jsonValid ⟨db, 0⟩ (fun x => x.deliveryId = o.deliveryId)
        (claimRow db now token)).map fun c => (c.db, some (claimRow db now token o))

inductive Requested where
  | claimed | acknowledged | retry | failedTerminal
  deriving DecidableEq, Repr

def Requested.status : Requested → OutboxStatus
  | .claimed => .claimed
  | .acknowledged => .acknowledged
  | .retry => .retry
  | .failedTerminal => .failedTerminal

def settleState (db : Db) (now : Int) (requested : Requested) (o : OutboxRow) : OutboxStatus :=
  if !deliverable db o then .quarantined
  else if o.expiresAtEpoch ≤ now then .expired
  else if o.lastDispatchAtEpoch.any (now < ·) then .failedTerminal
  else if requested = .retry ∧ o.deliveryAttempts ≥ 5 then .failedTerminal
  else requested.status

def settleRow (db : Db) (now : Int) (requested : Requested) (o : OutboxRow) : OutboxRow :=
  { o with
    status := settleState db now requested o
    claimToken := if settleState db now requested o = .claimed then o.claimToken else none
    leaseUntilEpoch := if settleState db now requested o = .claimed then o.leaseUntilEpoch else none
    nextAttemptAtEpoch :=
      if settleState db now requested o = .retry then now + 2 ^ o.deliveryAttempts.toNat
      else o.nextAttemptAtEpoch
    failureReason :=
      if o.lastDispatchAtEpoch.any (now < ·) then some .clockRegression
      else if requested = .retry ∧ o.deliveryAttempts ≥ 5 then some .attemptsExhausted
      else if requested = .failedTerminal then some .deliveryFailed else o.failureReason
    lastDispatchAtEpoch := o.lastDispatchAtEpoch.map (max now) }

/-- The deliveries that a settlement under a token may touch. -/
def held (db : Db) (now : Int) (token : String) (o : OutboxRow) : Bool :=
  o.status = .claimed && o.claimToken = some token &&
    (o.leaseUntilEpoch.any (now < ·) || o.expiresAtEpoch ≤ now || !deliverable db o ||
      o.lastDispatchAtEpoch.any (now < ·))

def settleSignalDelivery (jsonValid : String → Bool) (db : Db) (token : String)
    (requested : Requested) (now : Int) : Except DbError (Db × Option OutboxStatus) :=
  if !dispatchTime now then .error .unavailable
  else
    (rewriteOutbox jsonValid ⟨db, 0⟩ (held db now token) (settleRow db now requested)).map fun c =>
      (c.db, (db.outbox.find? (held db now token)).map (settleState db now requested))

/-! ## Provisioning -/

/-- The length of a JavaScript string. -/
def utf16Length (text : String) : Nat :=
  (text.toList.map fun ch => if ch.toNat < 65536 then 1 else 2).sum

/-- The batch of `installGeneration`, when its arguments pass. -/
def installStatements (codec : Codec) (previousRevision : Int) (nextRegistration : Registration)
    (reason token auditId : String) : Option (List Statement) := do
  let json ← registrationJson codec nextRegistration
  let r ← codec.readRegistration json
  if ¬ isSafeInteger previousRevision ∨ previousRevision < 0 ∨
      r.revision ≠ previousRevision + 1 ∨ reason = "" ∨ utf16Length reason > 160 then none
  else
    let namespace_ ← codec.producerNamespace r.scopeKey
    let written : List Statement :=
      if previousRevision = 0 then
        [.insertRegistration ⟨r.registrationId, namespace_, r.scopeKey, r.generation, r.revision,
          r.enabled, json⟩]
      else
        [.guard token (.registry r.registrationId previousRevision r.generation namespace_
            r.scopeKey),
          .retireActiveStream reason r.registrationId,
          .guard (token ++ ":retire") .changedOne,
          .updateRegistration r.generation r.revision r.enabled json r.registrationId
            previousRevision,
          .guard (token ++ ":registry") .changedOne]
    let opened : List Statement :=
      [.insertStream ⟨r.registrationId, r.generation, r.revision, 1, 1, .active, none, none⟩,
        .insertAudit ⟨auditId, r.registrationId, r.generation, none, none, reason⟩]
    return written ++ opened ++
      ["", ":retire", ":registry"].map fun suffix => .deleteGuard (token ++ suffix)

/-! ## The system -/

/-- A claim that took a lease. -/
structure Lease where
  deliveryId : String
  token : String
  deriving DecidableEq, Repr

structure World where
  db : Db
  calls : List Call
  tokens : List String
  leases : List Lease

def World.initial : World := ⟨.empty, [], [], []⟩

inductive Action where
  | admitSignal (transport : Transport) (registration : Registration) (now : Int)
  | advance (call : Nat) (random : Randomness)
  | fault (call : Nat)
  | install (previousRevision : Int) (nextRegistration : Registration)
      (reason token auditId : String)
  | claim (now : Int) (token : String)
  | settle (token : String) (requested : Requested) (now : Int)

/-- The lease that a claim's answer stands for. -/
def leaseOf (token : String) (answer : Option OutboxRow) : List Lease :=
  match answer with
  | some o => if o.status = .claimed then [⟨o.deliveryId, token⟩] else []
  | none => []

/-- The world after an action; an action on a call that does not exist, and a claim under a token
that was used before, are not possible. -/
def World.act (codec : Codec) (w : World) : Action → Option World
  | .admitSignal transport registration now =>
    some { w with calls := w.calls ++ [⟨transport, registration, now, 0, .begin⟩] }
  | .advance i random =>
    w.calls[i]?.map fun call =>
      { w with
        db := (call.advance codec w.db random).1
        calls := w.calls.set i (call.advance codec w.db random).2 }
  | .fault i =>
    -- a query or a batch that fails outside the store ends a running call
    match w.calls[i]? with
    | some call =>
      match call.phase with
      | .returned _ | .unavailable => none
      | _ => some { w with calls := w.calls.set i { call with phase := .unavailable } }
    | none => none
  | .install previousRevision nextRegistration reason token auditId =>
    match installStatements codec previousRevision nextRegistration reason token auditId with
    | some statements =>
      match batch codec.jsonValid statements w.db with
      | .ok db' => some { w with db := db' }
      | .error _ => some w
    | none => some w
  | .claim now token =>
    if token ∈ w.tokens then none
    else
      match claimSignalDelivery codec.jsonValid w.db now token with
      | .ok (db', answer) =>
        some { w with db := db', tokens := token :: w.tokens,
                      leases := w.leases ++ leaseOf token answer }
      | .error _ => some { w with tokens := token :: w.tokens }
  | .settle token requested now =>
    match settleSignalDelivery codec.jsonValid w.db token requested now with
    | .ok (db', _) => some { w with db := db' }
    | .error _ => some w

/-- Any interleaving of calls, provisioning and dispatch, from empty tables. -/
def admission (codec : Codec) : System World Action where
  init w := w = World.initial
  step action w w' := w.act codec action = some w'

/-- Actions that can be taken one after the other make a run. -/
theorem run_of_acts {codec : Codec} {actions : List Action} {w w' : World}
    (h : actions.foldlM (World.act codec) w = some w') : (admission codec).Run w w' := by
  induction actions generalizing w with
  | nil =>
    cases h
    exact System.Run.refl _ _
  | cons action rest ih =>
    rw [List.foldlM_cons] at h
    obtain ⟨w₁, hact, hrest⟩ := Option.bind_eq_some_iff.1 h
    have hfirst : (admission codec).Run w w₁ :=
      (System.Run.refl (admission codec) w).snoc (l := action) hact
    exact hfirst.trans (ih hrest)

/-- The call that an action is a step of. -/
def Action.call? : Action → Option Nat
  | .advance i _ | .fault i => some i
  | _ => none

end TradeOps.Admission
