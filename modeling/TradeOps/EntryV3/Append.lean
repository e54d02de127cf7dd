import TradeOps.EntryV3.Decisions

/-!
# Appending a v3 entry observation

Embeds `appendEntryV3ObservationAttempt` and `appendEntryV3Observation` of `rd-entry-store-v3.ts`.
Every `SELECT` is a read of its own and `env.DB.batch` is one atomic step, so other calls run in
between. The reads of a `Promise.all` stand one after the other.
-/

namespace TradeOps.EntryV3

open SortBy Entry

/-- The codes of `EntryV3StoreConflict`. -/
inductive ConflictCode where
  | idempotencyConflict | eventIdConflict | producerSequenceConflict | exitConflict
  deriving DecidableEq, Repr

/-- What a call throws. -/
inductive Error where
  | conflict (code : ConflictCode)
  | typeError (message : String)
  | refused (failure : Failure)
  deriving DecidableEq, Repr

/-- `EntryV3StoredEvaluation`. -/
structure StoredEvaluation where
  evaluation : EntryEvaluationV3
  decision : Decision
  parity : ParityStatus × Option ParityMismatchReason
  deriving DecidableEq, Repr

/-- `AppendEntryV3Result`. -/
structure AppendResult where
  record : EntryV2.ReceiptRow
  inserted : Bool
  eventId : String
  evaluations : List StoredEvaluation
  paperIntentIds : List String
  deriving DecidableEq, Repr

abbrev Call (env : Env) (α : Type) := Job (database env.isToday) Error α

/-! ## Reads -/

section Selects

variable (db : Database)

def selectReceipt (idempotencyKey : String) : Option EntryV2.ReceiptRow :=
  db.receipts.find? (·.idempotencyKey = idempotencyKey)

def selectEvent (eventId : String) : Option EventRow := db.events.find? (·.eventId = eventId)

def selectEventBySequence (producerInstanceId : String) (producerSequence : Int) :
    Option EventRow :=
  db.events.find? fun event =>
    event.observation.metadata.producerInstanceId = producerInstanceId ∧
      event.observation.producerSequence = producerSequence

def selectDisposition (eventId : String) : Option DispositionRow :=
  db.dispositions.find? (·.eventId = eventId)

def listLinks (setupIds : List JsString) : List LinkRow :=
  db.links.filter (·.setupId ∈ setupIds)

def listShadows (setupIds : List JsString) : List ShadowRow :=
  db.shadows.filter (·.setupId ∈ setupIds)

def selectLink (setupId : JsString) : Option LinkRow := db.links.find? (·.setupId = setupId)

def selectShadow (setupId : JsString) : Option ShadowRow := db.shadows.find? (·.setupId = setupId)

def selectSettlement (intentId : String) : Option SettlementRow :=
  db.settlements.find? (·.intentId = intentId)

def selectApplication (isPaper : Bool) (setupId : JsString) : Option ApplicationRow :=
  db.applications.find? fun row => row.target.isPaper = isPaper ∧ row.setupId = setupId

def paperIntentIdsForEvent (eventId : String) : List String :=
  sortBy id <| (db.links.filter fun link => db.selections.any fun selection =>
    selection.selectionId = link.selectionId ∧ selection.eventId = eventId).map (·.intentId)

/-- The selections of an event, each with its parity. -/
def storedDecisions (eventId : String) : List (SelectionRow × ParityRow) :=
  db.selections.flatMap fun selection =>
    if selection.eventId = eventId then
      (db.parity.filter (·.selectionId = selection.selectionId)).map (selection, ·)
    else []

end Selects

/-! ## Stored decisions -/

/-- `validateStoredLiquidityCohort`. -/
def cohortFits (cohort : LiquidityCohortV3) (oneCandleEnabled : Bool) : Bool :=
  cohort = .oneCandle → oneCandleEnabled = true

/-- `validateStoredShadowCohort`. -/
def shadowCohortFits (bundle : Bundle) (shadow : ShadowRow) : Bool :=
  cohortFits shadow.liquidityCohort shadow.oneCandleEnabled ∧
    shadow.liquidityCohort = bundle.setup.liquidityCohort ∧
    shadow.oneCandleEnabled = bundle.setup.oneCandleEnabled

def isExperimentalOneCandleShadow (shadow : ShadowRow) : Bool :=
  shadow.liquidityCohort = .oneCandle ∧ shadow.oneCandleEnabled = true

/-- The stored decision for a bundle, when it belongs to the bundle's cohort. -/
def storedEvaluation (decisions : List (SelectionRow × ParityRow)) (bundle : Bundle) :
    Except Error StoredEvaluation :=
  match decisions.find? (·.1.selection.setupId = bundle.setup.setupId) with
  | none => .error (.typeError "stored v3 decision unavailable")
  | some (selection, parity) =>
    if !cohortFits selection.liquidityCohort selection.oneCandleEnabled then
      .error (.typeError "stored v3 decision cohort malformed")
    else if selection.liquidityCohort ≠ bundle.setup.liquidityCohort ∨
        selection.oneCandleEnabled ≠ bundle.setup.oneCandleEnabled ∨
        (selection.liquidityCohort = .oneCandle ∧ selection.action = .paperEligible) then
      .error (.typeError "stored v3 decision cohort mismatch")
    else
      .ok
        { evaluation := bundle.evaluation
          decision := ⟨selection.action, selection.effectiveActionReason⟩
          parity := (parity.parityStatus, parity.mismatchReason) }

section Attempt

variable (env : Env) (o : Observation) (payloadSha256 : String)

/-- The answer to an observation that is stored already. -/
def replay (receipt : EntryV2.ReceiptRow) : Call env AppendResult :=
  if receipt.payloadSha256 ≠ payloadSha256 then .throw (.conflict .idempotencyConflict)
  else do
    let event ← Job.query fun db : Database => selectEvent db o.eventId
    if event.any fun event => event.receiptId = receipt.receiptId ∧
        event.payloadSha256 = payloadSha256 then do
      let disposition ← Job.query fun db : Database => selectDisposition db o.eventId
      match disposition with
      | none => .throw (.typeError "v3 disposition unavailable")
      | some row =>
        if row.receiptId ≠ receipt.receiptId then .throw (.conflict .eventIdConflict)
        else if row.disposition = .conflict then .throw (.conflict .exitConflict)
        else do
          let decisions ← Job.query fun db : Database => storedDecisions db o.eventId
          match o.entryBundles.mapM (storedEvaluation decisions) with
          | .error error => .throw error
          | .ok evaluations => do
            let paperIntentIds ← Job.query fun db : Database => paperIntentIdsForEvent db o.eventId
            return { record := receipt, inserted := false, eventId := o.eventId, evaluations,
                     paperIntentIds }
    else .throw (.conflict .eventIdConflict)

/-! ## Preflight -/

def configurationUsable (preflight : Preflight) : Call env Bool :=
  let potentialPaperPositions :=
    (o.entryBundles.filter fun bundle => (preparedIntent env o preflight bundle).isSome).length
  match env.paperConfiguration with
  | none => return false
  | some configuration =>
    if preflight.forceConfigurationUnavailable = false ∧ env.paperIntentCreationEnabled = true ∧
        0 < potentialPaperPositions then do
      let blocked ← Job.query fun db : Database => db.paper.killSwitchEnabled
      if blocked then return false
      else Job.query (metricsUsable env configuration potentialPaperPositions)
    else return false

/-- The owners of the setups are read before anything is decided; these reads are noted. -/
def preflightReads (forceConfigurationUnavailable : Bool) : Call env Preflight := do
  let setupIds := o.entryBundles.map (·.setup.setupId)
  let links ← Job.note fun db : Database => listLinks db setupIds
  let shadows ← Job.note fun db : Database => listShadows db setupIds
  if shadows.all fun shadow => cohortFits shadow.liquidityCohort shadow.oneCandleEnabled then do
    let preflight : Preflight :=
      { identityMatches := reviewedIdentityMatches env o
        links
        experimentalOwners := (shadows.filter isExperimentalOneCandleShadow).map (·.setupId)
        configurationUsable := false
        forceConfigurationUnavailable }
    let usable ← configurationUsable env o preflight
    return { preflight with configurationUsable := usable }
  else .throw (.typeError "stored v3 decision cohort malformed")

/-! ## The bundles -/

section Bundles

variable (drawn : Drawn) (preflight : Preflight)

/-- The shadow position that a bundle opens, unless the setup has one. -/
def shadowStatements (bundle : Bundle) : Call env (List Statement) :=
  match shadowPair env o preflight bundle with
  | none => return []
  | some pair =>
    if o.eventRole = .entryDecision then do
      let existing ← Job.query fun db : Database => selectShadow db bundle.setup.setupId
      match existing with
      | none => return [.insertShadow (shadowRow env o drawn bundle pair)]
      | some shadow =>
        if shadowCohortFits bundle shadow then return []
        else .throw (.typeError "stored v3 shadow cohort mismatch")
    else return []

/-- What an exit does to the link of its setup. -/
def paperExit (bundle : Bundle) (exit : ExitEvent) : Option LinkRow → Call env ExitPlan
  | none => return .nothing
  | some link => do
    let settled ← Job.query fun db : Database => selectSettlement db link.intentId
    let application ← Job.query fun db : Database => selectApplication db true bundle.setup.setupId
    return paperExitPlan env o drawn exit bundle link settled application

/-- What an exit does to the shadow of its setup. -/
def shadowExit (bundle : Bundle) (exit : ExitEvent) : Option ShadowRow → Call env ExitPlan
  | none => return .nothing
  | some shadow => do
    let application ← Job.query fun db : Database =>
      selectApplication db false bundle.setup.setupId
    return shadowExitPlan env o drawn exit bundle shadow application

def exitPlans (bundle : Bundle) (link : Option LinkRow) (shadow : Option ShadowRow) :
    List ExitEvent → Call env (List ExitPlan)
  | [] => return []
  | exit :: rest => do
    let paper ← paperExit env o drawn bundle exit link
    let shadowPlan ← shadowExit env o drawn bundle exit shadow
    let others ← exitPlans bundle link shadow rest
    return paper :: shadowPlan :: others

/-- The link of a one-candle setup is never settled. -/
def bundleExits (bundle : Bundle) : Call env (List ExitPlan) :=
  if o.eventRole = .exitFollowup ∧ preflight.identityMatches = true then do
    let link := if bundle.setup.liquidityCohort = .oneCandle then none
      else preflight.existingLink bundle.setup.setupId
    let shadow ← Job.query fun db : Database => selectShadow db bundle.setup.setupId
    if shadow.all (shadowCohortFits bundle) then
      exitPlans env o drawn bundle link shadow
        (o.exitEvents.filter (·.setupId = bundle.setup.setupId))
    else .throw (.typeError "stored v3 shadow cohort mismatch")
  else return []

/-- Every evidence has a candidate in its bundle. -/
def evidenceOwned (bundle : Bundle) : Bool :=
  bundle.evaluation.evidence.all fun evidence =>
    bundle.evaluation.candidates.any (·.candidateId = evidence.candidateId)

/-- What a batch does after the rows of the event. -/
structure Plan where
  authorization : List Statement
  exits : List ExitPlan

def Plan.exitConflict (plan : Plan) : Bool := plan.exits.contains .conflict

def bundlesPlan : List Bundle → Call env Plan
  | [] => return ⟨[], []⟩
  | bundle :: rest =>
    if evidenceOwned bundle then do
      let shadow ← shadowStatements env o drawn preflight bundle
      let exits ← bundleExits env o drawn preflight bundle
      let plan ← bundlesPlan rest
      return ⟨paperStatements env o drawn bundle preflight ++ shadow ++ plan.authorization,
        exits ++ plan.exits⟩
    else .throw (.typeError "orphan evidence")

/-! ## The batch -/

def entryV3VersionTuple : Option (String × String) :=
  if o.metadata.schemaVersion = "3.0" ∧ o.metadata.strategyVersion = "3.0.0-contract3" then
    some (o.metadata.strategyVersion, "3.0.0")
  else if o.metadata.schemaVersion = "3.1" ∧ o.metadata.strategyVersion = "3.1.0-contract3" then
    some (o.metadata.strategyVersion, "3.1.0")
  else none

def receiptRow : EntryV2.ReceiptRow :=
  { o.metadata with
    receiptId := drawn.receiptId
    receivedAt := drawn.recordedAt
    payloadSha256 }

def eventRow (strategyVersion ruleContractVersion : String) : EventRow :=
  { eventId := o.eventId
    receiptId := drawn.receiptId
    observation := o
    strategyVersion
    ruleContractVersion
    payloadSha256
    recordedAt := drawn.recordedAt }

/-- The rows of the event. -/
def eventStatements (exitConflict : Bool) (versions : String × String) : List Statement :=
  [.insertReceipt (receiptRow o payloadSha256 drawn),
    .insertEvent (eventRow o payloadSha256 drawn versions.1 versions.2),
    .insertDisposition
      { eventId := o.eventId
        receiptId := drawn.receiptId
        disposition := if exitConflict then .conflict else .accepted
        recordedAt := drawn.recordedAt },
    .insertCandidates (o.entryBundles.flatMap (candidateRows env o)),
    .insertEvidence (o.entryBundles.flatMap (evidenceRows env o)),
    .insertSelections (o.entryBundles.map fun bundle =>
      selectionRow env o bundle (effectiveDecision env o preflight bundle)),
    .insertMembers (o.entryBundles.flatMap (memberRows env o)),
    .insertParity (o.entryBundles.map (parityRow env o drawn))]

/-- The statements of an exit, unless some exit is in conflict. -/
def Plan.exitStatements (plan : Plan) : List Statement :=
  if plan.exitConflict then [] else plan.exits.flatMap ExitPlan.statements

def statements (versions : String × String) (plan : Plan) : List Statement :=
  eventStatements env o payloadSha256 drawn preflight plan.exitConflict versions ++
    plan.authorization ++ plan.exitStatements

/-- The receipt is read back after the batch. -/
def confirm (exitConflict : Bool) : Call env AppendResult := do
  let record ← Job.query fun db : Database => selectReceipt db o.metadata.idempotencyKey
  match record with
  | none => .throw (.typeError "v3 receipt unavailable")
  | some record =>
    if record.payloadSha256 ≠ payloadSha256 then .throw (.typeError "v3 receipt unavailable")
    else if exitConflict then .throw (.conflict .exitConflict)
    else do
      let paperIntentIds ← Job.query fun db : Database => paperIntentIdsForEvent db o.eventId
      return { record, inserted := true, eventId := o.eventId
               evaluations := o.entryBundles.map fun bundle =>
                 { evaluation := bundle.evaluation
                   decision := effectiveDecision env o preflight bundle
                   parity := parityFor bundle.evaluation.selection bundle.evaluation.selection }
               paperIntentIds }

/-! ## Refused batches -/

/-- No race explains the refusal. -/
def rethrow (failure : Failure) : Call env AppendResult := do
  let event ← Job.query fun db : Database => selectEvent db o.eventId
  if event.isSome then .throw (.conflict .eventIdConflict)
  else do
    let sequence ← Job.query fun db : Database =>
      selectEventBySequence db o.metadata.producerInstanceId o.producerSequence
    if sequence.isSome then .throw (.conflict .producerSequenceConflict)
    else .throw (.refused failure)

/-- The links that setups have by now. -/
def racedLinks : List Bundle → Call env (List (Option LinkRow))
  | [] => return []
  | bundle :: rest => do
    let link ← Job.query fun db : Database => selectLink db bundle.setup.setupId
    let links ← racedLinks rest
    return link :: links

/-- A first attempt may be made again. -/
def refused (retry : Option (Bool → Call env AppendResult)) (failure : Failure) :
    Call env AppendResult := do
  let raced ← Job.query fun db : Database => selectReceipt db o.metadata.idempotencyKey
  match raced, retry with
  | some receipt, _ => replay env o payloadSha256 receipt
  | none, none => rethrow env o failure
  | none, some retry =>
    if preflight.forceConfigurationUnavailable = false ∧ isReadinessConstraint failure then
      retry true
    else if o.eventRole = .exitFollowup ∧ isExitApplicationRace failure then
      retry preflight.forceConfigurationUnavailable
    else if isPaperLinkRace failure then do
      let links ← racedLinks env <| o.entryBundles.filter fun bundle =>
        bundle.evaluation.selection.action = .paperEligible ∧
          (preflight.existingLink bundle.setup.setupId).isNone = true
      if links.any Option.isSome then retry preflight.forceConfigurationUnavailable
      else rethrow env o failure
    else rethrow env o failure

/-- From the first read of the bundles on. -/
def storeBundles (retry : Option (Bool → Call env AppendResult)) : Call env AppendResult := do
  let plan ← bundlesPlan env o drawn preflight o.entryBundles
  match entryV3VersionTuple o with
  | none => .throw (.typeError "invalid v3 storage version tuple")
  | some versions =>
    .send (statements env o payloadSha256 drawn preflight versions plan)
      (confirm env o payloadSha256 preflight plan.exitConflict)
      (refused env o payloadSha256 preflight retry)

end Bundles

/-! ## An attempt -/

def appendEntryV3ObservationAttempt (drawn : Drawn) (forceConfigurationUnavailable : Bool)
    (retry : Option (Bool → Call env AppendResult)) : Call env AppendResult :=
  if !sha256Text payloadSha256 then .throw (.typeError "payload digest")
  else do
    let existing ← Job.query fun db : Database => selectReceipt db o.metadata.idempotencyKey
    match existing with
    | some receipt => replay env o payloadSha256 receipt
    | none => do
      let event ← Job.query fun db : Database => selectEvent db o.eventId
      if event.isSome then .throw (.conflict .eventIdConflict)
      else do
        let sequence ← Job.query fun db : Database =>
          selectEventBySequence db o.metadata.producerInstanceId o.producerSequence
        if sequence.isSome then .throw (.conflict .producerSequenceConflict)
        else do
          let preflight ← preflightReads env o forceConfigurationUnavailable
          storeBundles env o payloadSha256 drawn preflight retry

/-- A second attempt is never made again. -/
def appendEntryV3Observation (first second : Drawn) : Call env AppendResult :=
  appendEntryV3ObservationAttempt env o payloadSha256 first false <| some fun force =>
    appendEntryV3ObservationAttempt env o payloadSha256 second force none

end Attempt

end TradeOps.EntryV3
