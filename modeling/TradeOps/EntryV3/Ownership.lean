import TradeOps.EntryV3.Calls

/-!
# One owner for each setup

In every interleaving of calls a setup has at most one paper link, and the link has one intent with
an allocation for every configured account (`reachable_owned`). That a setup with a link has no
experimental one-candle shadow is decided by the preflight reads alone: no key and no trigger sees
both tables. It holds in the runs in which, between these reads of a call and its batch, no other
call stores such a shadow of a setup that the first may link, nor a link of a setup for which it may
open such a shadow. Two calls that read before either commits break it.
-/

namespace TradeOps.EntryV3

open Checks Entry Keyed Tables

/-! ## Links and their intents -/

/-- Every link has its intent, and the intent an allocation for every configured account. -/
structure Owned (env : Env) (db : Database) : Prop where
  setups : KeysNodup (·.setupId) db.links
  linkIntents : KeysNodup (·.intentId) db.links
  intents : KeysNodup (·.intentId) db.intents
  allocations : ∀ row ∈ db.allocations, ∃ intent ∈ db.intents, intent.intentId = row.intentId
  linked : ∀ link ∈ db.links, ∃ intent ∈ db.intents, intent.intentId = link.intentId
  funded : ∀ link ∈ db.links, ∃ configuration, env.paperConfiguration = some configuration ∧
    (db.allocations.filter (·.intentId = link.intentId)).map (·.accountId) =
      configuration.accountIds

/-- The statements that open a paper trade. -/
def Statement.opens : Statement → Bool
  | insertIntent _ | insertAllocation _ | insertLink _ => true
  | _ => false

variable {env : Env} {db db' : Database}

theorem Owned.congr (h : Owned env db) (hlinks : db'.links = db.links)
    (hintents : db'.intents = db.intents) (hallocations : db'.allocations = db.allocations) :
    Owned env db' := by
  obtain ⟨h₁, h₂, h₃, h₄, h₅, h₆⟩ := h
  rw [← hlinks] at h₁ h₂ h₅ h₆
  rw [← hintents] at h₃ h₄ h₅
  rw [← hallocations] at h₄ h₆
  exact ⟨h₁, h₂, h₃, h₄, h₅, h₆⟩

theorem Owned.of_effect {statement : Statement} (h : Owned env db)
    (heffect : Effect statement db db') (hopens : statement.opens = false) : Owned env db' := by
  cases heffect with
  | other _ same => exact h.congr same.links same.intents same.allocations
  | intent => cases hopens
  | allocation => cases hopens
  | link => cases hopens
  | shadow => exact h.congr rfl rfl rfl
  | terminate => exact h.congr rfl rfl rfl
  | settlement => exact h.congr rfl rfl rfl

theorem Owned.of_batch {statements : List Statement} (h : Owned env db)
    (hbatch : (database env.isToday).batch statements db = .ok db')
    (hopens : ∀ statement ∈ statements, statement.opens = false) : Owned env db' := by
  induction statements generalizing db with
  | nil =>
    obtain rfl := Except.ok.inj hbatch
    exact h
  | cons statement rest ih =>
    obtain ⟨db₁, hfirst, hrest⟩ := bind_ok_iff.mp hbatch
    have hstatement := h.of_effect (exec_effect hfirst) (hopens _ List.mem_cons_self)
    exact ih hstatement hrest fun other hmem => hopens other (List.mem_cons_of_mem _ hmem)

/-! ## Opening a paper trade -/

section Opening

variable {o : Observation} {drawn : Drawn} {bundle : Bundle} {preflight : Preflight}

/-- The allocations of an intent, one for each account. -/
theorem allocations_effect {intent : PaperIntent} {accountIds : List String}
    (h : (database env.isToday).batch (accountIds.map fun accountId =>
      .insertAllocation (allocationRequest env drawn intent accountId)) db = .ok db') :
    ∃ rows : List Paper.AllocationRow, (∀ row ∈ rows, row.intentId = intent.intentId) ∧
      rows.map (·.accountId) = accountIds ∧
      db' = { db with allocations := db.allocations ++ rows } := by
  induction accountIds generalizing db with
  | nil =>
    obtain rfl := Except.ok.inj h
    exact ⟨[], by simp, rfl, by simp⟩
  | cons accountId rest ih =>
    obtain ⟨db₁, hfirst, hrest⟩ := bind_ok_iff.mp h
    obtain ⟨rows, hintent, haccounts, rfl⟩ := ih hrest
    cases insertAllocation_effect hfirst with
    | other plain => cases plain
    | @allocation _ _ row hrow haccount hstored =>
      refine ⟨row :: rows, ?_, ?_, by simp⟩
      · intro other hmem
        rcases List.mem_cons.mp hmem with rfl | hmem
        · exact hrow
        · exact hintent other hmem
      · rw [List.map_cons, haccounts, haccount]
        rfl

/-- The intent, its allocations and the link. -/
theorem openStatements_effect {intent : PaperIntent} {evidence : EntryCandidateEvidenceV3}
    {triggerEpoch : Int}
    (h : (database env.isToday).batch
      (openStatements env o drawn bundle intent evidence triggerEpoch)
      db = .ok db') :
    (∀ stored ∈ db.intents, stored.intentId ≠ intent.intentId) ∧
    (∀ stored ∈ db.links, stored.setupId ≠ bundle.setup.setupId) ∧
    ∃ rows : List Paper.AllocationRow, (∀ row ∈ rows, row.intentId = intent.intentId) ∧
      rows.map (·.accountId) = intent.accountIds ∧
      db' = { db with
        intents := db.intents ++ [intentRow env drawn intent]
        allocations := db.allocations ++ rows
        links := db.links ++ [linkRow env o drawn bundle intent evidence triggerEpoch] } := by
  rw [openStatements, List.cons_append, Store.batch] at h
  obtain ⟨db₁, hintent, h⟩ := bind_ok_iff.mp h
  rw [Store.batch_append] at h
  obtain ⟨db₂, hallocations, hlink⟩ := bind_ok_iff.mp h
  rw [Store.batch_singleton] at hlink
  cases insertIntent_effect hintent with
  | other plain => cases plain
  | intent hfresh =>
    obtain ⟨rows, hrows, haccounts, rfl⟩ := allocations_effect hallocations
    cases insertLink_effect hlink with
    | other plain => cases plain
    | link hsetup _ => exact ⟨hfresh, hsetup, rows, hrows, haccounts, rfl⟩

theorem validatedPaperIntent_accounts {evidence : EntryCandidateEvidenceV3}
    {configuration : PaperConfiguration} {intent : PaperIntent}
    (h : validatedPaperIntent o bundle evidence configuration = some intent) :
    intent.accountIds = configuration.accountIds := by
  simp only [validatedPaperIntent, Option.bind_eq_bind, Option.bind_eq_some_iff,
    Option.ite_none_right_eq_some, Option.some.injEq] at h
  obtain ⟨_, -, _, -, _, -, _, -, -, rfl⟩ := h
  rfl

theorem preparedIntent_accounts {prepared : PreparedIntent}
    (h : preparedIntent env o preflight bundle = some prepared) :
    ∃ configuration, env.paperConfiguration = some configuration ∧
      prepared.intent.accountIds = configuration.accountIds := by
  simp only [preparedIntent, Option.bind_eq_bind, Option.bind_eq_some_iff] at h
  obtain ⟨configuration, hconfiguration, evidence, -, h⟩ := h
  split at h
  · cases h
  obtain ⟨intent, hintent, hprepared⟩ := Option.bind_eq_some_iff.mp h
  obtain rfl := (Option.some.inj hprepared).symm
  exact ⟨configuration, hconfiguration, validatedPaperIntent_accounts hintent⟩

/-- A bundle opens a paper trade from a prepared intent, or none. -/
theorem paperStatements_cases (env : Env) (o : Observation) (drawn : Drawn) (preflight : Preflight)
    (bundle : Bundle) :
    paperStatements env o drawn bundle preflight = [] ∨
      ∃ prepared triggerEpoch, preparedIntent env o preflight bundle = some prepared ∧
        (effectiveDecision env o preflight bundle).effectiveAction = .paperEligible ∧
        paperStatements env o drawn bundle preflight =
          openStatements env o drawn bundle prepared.intent prepared.evidence triggerEpoch := by
  unfold paperStatements
  split
  next prepared haction hprepared =>
    split
    next triggerEpoch _ => exact .inr ⟨prepared, triggerEpoch, hprepared, haction, rfl⟩
    next => exact .inl rfl
  next => exact .inl rfl

theorem Owned.of_open {intent : PaperIntent} {evidence : EntryCandidateEvidenceV3}
    {triggerEpoch : Int} {configuration : PaperConfiguration} (howned : Owned env db)
    (hconfiguration : env.paperConfiguration = some configuration)
    (haccounts : intent.accountIds = configuration.accountIds)
    (h : (database env.isToday).batch
      (openStatements env o drawn bundle intent evidence triggerEpoch)
      db = .ok db') : Owned env db' := by
  obtain ⟨hfresh, hsetup, rows, hrows, hrowAccounts, rfl⟩ := openStatements_effect h
  have hother : ∀ link ∈ db.links, link.intentId ≠ intent.intentId := by
    intro link hmem heq
    obtain ⟨stored, hstored, hid⟩ := howned.linked link hmem
    exact hfresh stored hstored (hid.trans heq)
  have hold : db.allocations.filter (·.intentId = intent.intentId) = [] := by
    rw [List.filter_eq_nil_iff]
    intro row hmem heq
    obtain ⟨stored, hstored, hid⟩ := howned.allocations row hmem
    exact hfresh stored hstored (hid.trans (by simpa using heq))
  constructor
  · exact keysNodup_append howned.setups hsetup
  · exact keysNodup_append howned.linkIntents hother
  · exact keysNodup_append howned.intents hfresh
  · intro row hmem
    rcases List.mem_append.mp hmem with hmem | hmem
    · obtain ⟨stored, hstored, hid⟩ := howned.allocations row hmem
      exact ⟨stored, List.mem_append_left _ hstored, hid⟩
    · exact ⟨intentRow env drawn intent, by simp, (hrows row hmem).symm⟩
  · intro link hmem
    rcases List.mem_append.mp hmem with hmem | hmem
    · obtain ⟨stored, hstored, hid⟩ := howned.linked link hmem
      exact ⟨stored, List.mem_append_left _ hstored, hid⟩
    · rw [List.mem_singleton.mp hmem]
      exact ⟨intentRow env drawn intent, by simp, rfl⟩
  · intro link hmem
    rcases List.mem_append.mp hmem with hmem | hmem
    · obtain ⟨configuration', hconfiguration', hfunded⟩ := howned.funded link hmem
      refine ⟨configuration', hconfiguration', ?_⟩
      have hnew : rows.filter (·.intentId = link.intentId) = [] := by
        rw [List.filter_eq_nil_iff]
        intro row hrow heq
        exact hother link hmem ((of_decide_eq_true heq).symm.trans (hrows row hrow))
      rw [List.filter_append, hnew, List.append_nil, hfunded]
    · refine ⟨configuration, hconfiguration, ?_⟩
      rw [List.mem_singleton.mp hmem]
      have hnew : rows.filter (·.intentId = intent.intentId) = rows := by
        rw [List.filter_eq_self]
        intro row hrow
        exact decide_eq_true (hrows row hrow)
      show ((db.allocations ++ rows).filter (·.intentId = intent.intentId)).map _ = _
      rw [List.filter_append, hold, hnew, List.nil_append, hrowAccounts, haccounts]

theorem Owned.of_authorises {statements : List Statement} (howned : Owned env db)
    (hauthorises : Authorises env o drawn preflight bundle statements)
    (h : (database env.isToday).batch statements db = .ok db') : Owned env db' := by
  obtain ⟨shadow, hshadow, rfl⟩ := hauthorises
  rw [Store.batch_append] at h
  obtain ⟨db₁, hpaper, hrest⟩ := bind_ok_iff.mp h
  have hopened : Owned env db₁ := by
    obtain hnil | ⟨prepared, triggerEpoch, hprepared, -, hopen⟩ :=
      paperStatements_cases env o drawn preflight bundle
    · rw [hnil] at hpaper
      obtain rfl := Except.ok.inj hpaper
      exact howned
    · rw [hopen] at hpaper
      obtain ⟨configuration, hconfiguration, haccounts⟩ := preparedIntent_accounts hprepared
      exact howned.of_open hconfiguration haccounts hpaper
  apply hopened.of_batch hrest
  intro statement hmem
  obtain rfl | ⟨pair, -, -, rfl⟩ := hshadow
  · exact absurd hmem List.not_mem_nil
  · rw [List.mem_singleton.mp hmem]
    rfl

theorem Owned.of_blocks {bundles : List Bundle} {blocks : List (List Statement)}
    (howned : Owned env db)
    (hblocks : List.Forall₂ (Authorises env o drawn preflight) bundles blocks)
    (h : (database env.isToday).batch blocks.flatten db = .ok db') : Owned env db' := by
  induction hblocks generalizing db with
  | nil =>
    obtain rfl := Except.ok.inj h
    exact howned
  | cons hfirst _ ih =>
    rw [List.flatten_cons, Store.batch_append] at h
    obtain ⟨db₁, hblock, hrest⟩ := bind_ok_iff.mp h
    exact ih (howned.of_authorises hfirst hblock) hrest

end Opening

/-! ## Batches -/

section Batches

variable {o : Observation} {payloadSha256 : String} {drawn : Drawn} {preflight : Preflight}
  {start : Database} {plan : Plan} {versions : String × String}

theorem eventStatements_plain {exitConflict : Bool} : ∀ statement ∈
    eventStatements env o payloadSha256 drawn preflight exitConflict versions,
    statement.trades = false := by
  simp [eventStatements, Statement.trades]

/-- The statements of an exit. -/
def Statement.exits : Statement → Bool
  | insertSettlement _ | insertApplication _ | terminateShadow _ => true
  | _ => false

theorem paperExitPlan_exits {bundle : Bundle} {link : LinkRow} {exit : ExitEvent}
    {settled : Option SettlementRow} {application : Option ApplicationRow} : ∀ statement ∈
    (paperExitPlan env o drawn exit bundle link settled application).statements,
    statement.exits = true := by
  unfold paperExitPlan
  split
  · split <;> simp [ExitPlan.statements]
  · split
    · split <;> simp [ExitPlan.statements, Statement.exits]
    · simp [ExitPlan.statements]

theorem shadowExitPlan_exits {bundle : Bundle} {shadow : ShadowRow} {exit : ExitEvent}
    {application : Option ApplicationRow} : ∀ statement ∈
    (shadowExitPlan env o drawn exit bundle shadow application).statements,
    statement.exits = true := by
  unfold shadowExitPlan
  dsimp only
  split
  · split <;> simp [ExitPlan.statements]
  · split
    · simp [ExitPlan.statements]
    · split <;> simp [ExitPlan.statements, Statement.exits]

theorem exitStatements_exits {bundles : List Bundle}
    (h : PlansExits env o drawn preflight db bundles plan.exits) :
    ∀ statement ∈ plan.exitStatements, statement.exits = true := by
  intro statement hmem
  unfold Plan.exitStatements at hmem
  split at hmem
  · exact absurd hmem List.not_mem_nil
  obtain ⟨exit, hexit, hmem⟩ := List.mem_flatMap.mp hmem
  cases h.each exit hexit with
  | nothing => exact absurd hmem List.not_mem_nil
  | paper _ hplans =>
    obtain ⟨_, _, _, rfl⟩ := hplans
    exact paperExitPlan_exits statement hmem
  | shadow => exact shadowExitPlan_exits statement hmem

theorem Owned.of_planned {s' : Database} (howned : Owned env db)
    (hplan : Planned env o drawn preflight db o.entryBundles plan)
    (h : (database env.isToday).batch
      (statements env o payloadSha256 drawn preflight versions plan) db = .ok s') :
    Owned env s' := by
  rw [statements, Store.batch_append, Store.batch_append] at h
  obtain ⟨db₂, h, hexits⟩ := bind_ok_iff.mp h
  obtain ⟨db₁, hevent, hauthorization⟩ := bind_ok_iff.mp h
  obtain ⟨blocks, hblocks, hflatten⟩ := hplan.authorization
  have hevent' : Owned env db₁ := by
    apply howned.of_batch hevent
    intro statement hmem
    have hplain := eventStatements_plain statement hmem
    cases statement <;> first | rfl | cases hplain
  rw [hflatten] at hauthorization
  apply (hevent'.of_blocks hblocks hauthorization).of_batch hexits
  intro statement hmem
  have hexit := exitStatements_exits hplan.exits statement hmem
  cases statement <;> first | rfl | cases hexit

/-- Every interleaving of calls keeps the links, their intents and their allocations together. -/
theorem reachable_owned {allowed : Request → List Database → Database → Prop} {w : World env}
    (h : (calls env allowed).Reachable w) : Owned env w.state := by
  refine (Jobs.World.reachable_safe (I := Owned env) (R := Grows) (Q := fun _ _ _ => True)
    ?_ Grows.refl (fun _ _ _ => Grows.trans) ?_ ?_ h).state
  · intro s hs
    refine ⟨?_, ?_, hs.intents, hs.allocations, ?_, ?_⟩
    · rw [hs.links]
      exact List.nodup_nil
    · rw [hs.links]
      exact List.nodup_nil
    · simp [hs.links]
    · simp [hs.links]
  · exact fun _ _ _ _ _ _ => trivial
  · intro request _ s _
    apply append_safe (fun _ _ => trivial) (fun _ _ _ => trivial) (fun _ _ _ _ _ => trivial)
    intro drawn preflight plan versions seen s₁ s₂ _ _ hplan howned _ hok
    exact ⟨howned.of_planned hplan hok, fun _ _ => trivial⟩

end Batches

/-! ## Links and experimental shadows -/

/-- No setup with a link has an experimental one-candle shadow. -/
def Exclusive (db : Database) : Prop :=
  ∀ link ∈ db.links, ∀ shadow ∈ db.shadows, isExperimentalOneCandleShadow shadow = true →
    shadow.setupId ≠ link.setupId

def HasLink (db : Database) (setupId : JsString) : Prop := ∃ link ∈ db.links, link.setupId = setupId

instance decidableHasLink (db : Database) (setupId : JsString) : Decidable (HasLink db setupId) :=
  inferInstanceAs (Decidable (∃ link ∈ db.links, _))

/-- The setup has an experimental one-candle shadow. -/
def HasExperiment (db : Database) (setupId : JsString) : Prop :=
  ∃ shadow ∈ db.shadows, isExperimentalOneCandleShadow shadow = true ∧ shadow.setupId = setupId

instance decidableHasExperiment (db : Database) (setupId : JsString) :
    Decidable (HasExperiment db setupId) :=
  inferInstanceAs (Decidable (∃ shadow ∈ db.shadows, _))

/-- The event may open a paper link for the setup of the bundle. -/
def MayLink (o : Observation) (bundle : Bundle) : Prop :=
  o.eventRole = .entryDecision ∧ bundle.setup.liquidityCohort ≠ .oneCandle ∧
    bundle.evaluation.selection.action = .paperEligible

instance decidableMayLink (o : Observation) (bundle : Bundle) : Decidable (MayLink o bundle) :=
  inferInstanceAs (Decidable (_ ∧ _ ∧ _))

/-- The event may open an experimental one-candle shadow for the setup of the bundle. -/
def MayExperiment (o : Observation) (bundle : Bundle) : Prop :=
  o.eventRole = .entryDecision ∧ bundle.setup.liquidityCohort = .oneCandle ∧
    bundle.setup.oneCandleEnabled = true

instance decidableMayExperiment (o : Observation) (bundle : Bundle) :
    Decidable (MayExperiment o bundle) :=
  inferInstanceAs (Decidable (_ ∧ _ ∧ _))

/-- Between the preflight reads of a call, first of the links and then of the shadows, and its
batch, no other call has stored an experimental shadow of a setup that this one may link, nor a link
of a setup for which it may open an experimental shadow. -/
def Undisturbed (o : Observation) : List Database → Database → Prop
  | shadowsRead :: linksRead :: _, db => ∀ bundle ∈ o.entryBundles,
      (MayLink o bundle → HasExperiment db bundle.setup.setupId →
        HasExperiment shadowsRead bundle.setup.setupId) ∧
      (MayExperiment o bundle → HasLink db bundle.setup.setupId →
        HasLink linksRead bundle.setup.setupId)
  | _, _ => True

instance decidableUndisturbed (o : Observation) :
    (seen : List Database) → (db : Database) → Decidable (Undisturbed o seen db)
  | [], _ => inferInstanceAs (Decidable True)
  | [_], _ => inferInstanceAs (Decidable True)
  | _ :: _ :: _, _ => inferInstanceAs (Decidable (∀ bundle ∈ o.entryBundles, _ ∧ _))

/-- The store holds no experimental shadow of a setup that gets a link, and no link of a setup that
gets an experimental shadow. -/
structure StillAbsent (statements : List Statement) (db : Database) : Prop where
  shadows : ∀ row, .insertLink row ∈ statements → ∀ shadow ∈ db.shadows,
    isExperimentalOneCandleShadow shadow = true → shadow.setupId ≠ row.setupId
  links : ∀ row, .insertShadow (some row) ∈ statements →
    isExperimentalOneCandleShadow row = true → ∀ link ∈ db.links, row.setupId ≠ link.setupId

/-- The batch itself opens no link and experimental shadow of one setup. -/
def Apart (statements : List Statement) : Prop :=
  ∀ link shadow, .insertLink link ∈ statements → .insertShadow (some shadow) ∈ statements →
    isExperimentalOneCandleShadow shadow = true → shadow.setupId ≠ link.setupId

section Exclusivity

variable {o : Observation} {payloadSha256 : String} {drawn : Drawn} {preflight : Preflight}
  {plan : Plan} {versions : String × String}

/-- A shadow after an update stands for one before it. -/
theorem mem_terminated {termination : Termination} {condition : ShadowRow → Bool} {row : ShadowRow}
    (h : row ∈ updateWhere condition (terminated termination) db.shadows) :
    ∃ old ∈ db.shadows, row.setupId = old.setupId ∧
      isExperimentalOneCandleShadow row = isExperimentalOneCandleShadow old := by
  obtain ⟨old, hold, rfl⟩ := List.mem_map.mp h
  refine ⟨old, hold, ?_⟩
  split
  · exact ⟨rfl, rfl⟩
  · exact ⟨rfl, rfl⟩

theorem Effect.mem_links {statement : Statement} {link : LinkRow} (h : Effect statement db db')
    (hlink : link ∈ db'.links) : link ∈ db.links ∨ statement = .insertLink link := by
  cases h with
  | other _ same => exact .inl (same.links ▸ hlink)
  | intent => exact .inl hlink
  | allocation => exact .inl hlink
  | shadow => exact .inl hlink
  | terminate => exact .inl hlink
  | settlement => exact .inl hlink
  | link =>
    rcases List.mem_append.mp hlink with hlink | hlink
    · exact .inl hlink
    · rw [List.mem_singleton.mp hlink]
      exact .inr rfl

theorem Effect.mem_shadows {statement : Statement} {shadow : ShadowRow}
    (h : Effect statement db db') (hshadow : shadow ∈ db'.shadows) :
    (∃ old ∈ db.shadows, shadow.setupId = old.setupId ∧
      isExperimentalOneCandleShadow shadow = isExperimentalOneCandleShadow old) ∨
    statement = .insertShadow (some shadow) := by
  cases h with
  | other _ same => exact .inl ⟨shadow, same.shadows ▸ hshadow, rfl, rfl⟩
  | intent => exact .inl ⟨shadow, hshadow, rfl, rfl⟩
  | allocation => exact .inl ⟨shadow, hshadow, rfl, rfl⟩
  | link => exact .inl ⟨shadow, hshadow, rfl, rfl⟩
  | settlement => exact .inl ⟨shadow, hshadow, rfl, rfl⟩
  | terminate => exact .inl (mem_terminated hshadow)
  | shadow =>
    rcases List.mem_append.mp hshadow with hshadow | hshadow
    · exact .inl ⟨shadow, hshadow, rfl, rfl⟩
    · rw [List.mem_singleton.mp hshadow]
      exact .inr rfl

theorem Exclusive.of_batch {statements : List Statement} (hexclusive : Exclusive db)
    (habsent : StillAbsent statements db) (hapart : Apart statements)
    (h : (database env.isToday).batch statements db = .ok db') : Exclusive db' := by
  induction statements generalizing db with
  | nil =>
    obtain rfl := Except.ok.inj h
    exact hexclusive
  | cons statement rest ih =>
    obtain ⟨db₁, hfirst, hrest⟩ := bind_ok_iff.mp h
    have hapart' : Apart rest := fun link shadow hlink hshadow =>
      hapart link shadow (List.mem_cons_of_mem _ hlink) (List.mem_cons_of_mem _ hshadow)
    have habsent' : StillAbsent rest db :=
      ⟨fun row hmem => habsent.shadows row (List.mem_cons_of_mem _ hmem),
        fun row hmem => habsent.links row (List.mem_cons_of_mem _ hmem)⟩
    have heffect := exec_effect hfirst
    refine ih ?_ ⟨?_, ?_⟩ hapart' hrest
    · intro link hlink shadow hshadow hexperimental
      obtain hlink | hlink := heffect.mem_links hlink
      · obtain ⟨old, hold, hsetup, hsame⟩ | hnew := heffect.mem_shadows hshadow
        · rw [hsetup]
          exact hexclusive link hlink old hold (hsame ▸ hexperimental)
        · rw [hnew] at habsent
          exact habsent.links shadow List.mem_cons_self hexperimental link hlink
      · obtain ⟨old, hold, hsetup, hsame⟩ | hnew := heffect.mem_shadows hshadow
        · rw [hlink] at habsent
          rw [hsetup]
          exact habsent.shadows link List.mem_cons_self old hold (hsame ▸ hexperimental)
        · rw [hlink] at hnew
          cases hnew
    · intro row hrow shadow hshadow hexperimental
      obtain ⟨old, hold, hsetup, hsame⟩ | hnew := heffect.mem_shadows hshadow
      · rw [hsetup]
        exact habsent'.shadows row hrow old hold (hsame ▸ hexperimental)
      · rw [hnew] at hapart
        exact hapart row shadow (List.mem_cons_of_mem _ hrow) List.mem_cons_self hexperimental
    · intro row hrow hexperimental link hlink
      obtain hlink | hnew := heffect.mem_links hlink
      · exact habsent'.links row hrow hexperimental link hlink
      · rw [hnew] at hapart
        exact hapart link row List.mem_cons_self (List.mem_cons_of_mem _ hrow) hexperimental

theorem preparedIntent_some {bundle : Bundle} {prepared : PreparedIntent}
    (h : preparedIntent env o preflight bundle = some prepared) :
    MayLink o bundle ∧ bundle.setup.setupId ∉ preflight.experimentalOwners := by
  simp only [preparedIntent, Option.bind_eq_bind, Option.bind_eq_some_iff] at h
  obtain ⟨configuration, -, evidence, -, h⟩ := h
  split at h
  · cases h
  next hopen =>
    simp only [not_or, not_not] at hopen
    obtain ⟨-, hrole, -, hcohort, haction, -, howner, -⟩ := hopen
    exact ⟨⟨hrole, hcohort, haction⟩, howner⟩

/-- A bundle that opens a link may do so, and its preflight knows no experimental shadow. -/
theorem insertLink_mem_authorises {bundle : Bundle} {statements : List Statement} {row : LinkRow}
    (h : Authorises env o drawn preflight bundle statements) (hrow : .insertLink row ∈ statements) :
    row.setupId = bundle.setup.setupId ∧ MayLink o bundle ∧
      bundle.setup.setupId ∉ preflight.experimentalOwners := by
  obtain ⟨shadow, hshadow, rfl⟩ := h
  rcases List.mem_append.mp hrow with hrow | hrow
  · obtain hnil | ⟨prepared, triggerEpoch, hprepared, -, hopen⟩ :=
      paperStatements_cases env o drawn preflight bundle
    · rw [hnil] at hrow
      exact absurd hrow List.not_mem_nil
    · rw [hopen, openStatements] at hrow
      have hlink : row = linkRow env o drawn bundle prepared.intent prepared.evidence
          triggerEpoch := by
        simpa using hrow
      exact ⟨by rw [hlink]; rfl, preparedIntent_some hprepared⟩
  · obtain rfl | ⟨pair, -, -, rfl⟩ := hshadow
    · exact absurd hrow List.not_mem_nil
    · exact absurd hrow (by simp)

/-- A bundle that opens an experimental shadow may do so, and its preflight knows no link. -/
theorem insertShadow_mem_authorises {bundle : Bundle} {statements : List Statement}
    {row : ShadowRow} (h : Authorises env o drawn preflight bundle statements)
    (hrow : .insertShadow (some row) ∈ statements)
    (hexperimental : isExperimentalOneCandleShadow row = true) :
    row.setupId = bundle.setup.setupId ∧ MayExperiment o bundle ∧
      preflight.existingLink bundle.setup.setupId = none := by
  obtain ⟨shadow, hshadow, rfl⟩ := h
  rcases List.mem_append.mp hrow with hrow | hrow
  · obtain hnil | ⟨prepared, triggerEpoch, -, -, hopen⟩ :=
      paperStatements_cases env o drawn preflight bundle
    · rw [hnil] at hrow
      exact absurd hrow List.not_mem_nil
    · rw [hopen, openStatements] at hrow
      exact absurd hrow (by simp)
  · obtain rfl | ⟨pair, hpair, hrole, rfl⟩ := hshadow
    · exact absurd hrow List.not_mem_nil
    · have hshadow : shadowRow env o drawn bundle pair = some row := by simpa [eq_comm] using hrow
      simp only [shadowRow, Option.bind_eq_bind, Option.bind_eq_some_iff,
        Option.some.injEq] at hshadow
      obtain ⟨_, -, _, -, rfl⟩ := hshadow
      obtain ⟨hcohort, henabled⟩ := of_decide_eq_true hexperimental
      refine ⟨rfl, ⟨hrole, hcohort, henabled⟩, ?_⟩
      rw [shadowPair] at hpair
      split at hpair
      · cases hpair
      next hnone =>
        rw [← Option.not_isSome_iff_eq_none]
        exact fun hsome => hnone ⟨hcohort, hsome⟩

theorem authorises_of_mem {bundles : List Bundle} {blocks : List (List Statement)}
    {block : List Statement}
    (h : List.Forall₂ (Authorises env o drawn preflight) bundles blocks) (hmem : block ∈ blocks) :
    ∃ bundle ∈ bundles, Authorises env o drawn preflight bundle block := by
  induction h with
  | nil => exact absurd hmem List.not_mem_nil
  | cons hfirst _ ih =>
    rcases List.mem_cons.mp hmem with rfl | hmem
    · exact ⟨_, List.mem_cons_self, hfirst⟩
    · obtain ⟨bundle, hbundle, hauthorises⟩ := ih hmem
      exact ⟨bundle, List.mem_cons_of_mem _ hbundle, hauthorises⟩

/-- The statements of a batch that open something stand in the block of a bundle. -/
theorem mem_statements_block {statement : Statement}
    (hplan : Planned env o drawn preflight db o.entryBundles plan)
    (hmem : statement ∈ statements env o payloadSha256 drawn preflight versions plan)
    (htrades : statement.trades = true) (hexits : statement.exits = false) :
    ∃ bundle ∈ o.entryBundles, ∃ block, Authorises env o drawn preflight bundle block ∧
      statement ∈ block := by
  rw [statements, List.mem_append, List.mem_append] at hmem
  obtain (hmem | hmem) | hmem := hmem
  · rw [eventStatements_plain statement hmem] at htrades
    cases htrades
  · obtain ⟨blocks, hblocks, hflatten⟩ := hplan.authorization
    rw [hflatten] at hmem
    obtain ⟨block, hblock, hstatement⟩ := List.mem_flatten.mp hmem
    obtain ⟨bundle, hbundle, hauthorises⟩ := authorises_of_mem hblocks hblock
    exact ⟨bundle, hbundle, block, hauthorises, hstatement⟩
  · rw [exitStatements_exits hplan.exits statement hmem] at hexits
    cases hexits

theorem planned_apart (haccepted : o.Accepted)
    (hplan : Planned env o drawn preflight db o.entryBundles plan) :
    Apart (statements env o payloadSha256 drawn preflight versions plan) := by
  intro link shadow hlink hshadow hexperimental heq
  obtain ⟨bundle, hbundle, block, hauthorises, hmem⟩ := mem_statements_block hplan hlink rfl rfl
  obtain ⟨bundle', hbundle', block', hauthorises', hmem'⟩ :=
    mem_statements_block hplan hshadow rfl rfl
  obtain ⟨hsetup, hlinks, -⟩ := insertLink_mem_authorises hauthorises hmem
  obtain ⟨hsetup', hexperiments, -⟩ := insertShadow_mem_authorises hauthorises' hmem' hexperimental
  have hsame : bundle' = bundle :=
    KeysNodup.eq_of_key haccepted.setups hbundle' hbundle (by rw [← hsetup', heq, hsetup])
  rw [← hsame] at hlinks
  exact hlinks.2.1 hexperiments.2.1

/-- A planned batch finds the owners still absent that its preflight did not find, unless another
call has stored one since. -/
theorem planned_stillAbsent {seen : List Database} {start : Database}
    (hreviewed : Reviewed env o preflight seen start db)
    (hplan : Planned env o drawn preflight db o.entryBundles plan)
    (hundisturbed : Undisturbed o seen db) :
    StillAbsent (statements env o payloadSha256 drawn preflight versions plan) db := by
  obtain ⟨shadowsRead, linksRead, rest, rfl, hlinks, howners⟩ := hreviewed.noted
  constructor
  · intro row hrow shadow hshadow hexperimental heq
    obtain ⟨bundle, hbundle, block, hauthorises, hmem⟩ := mem_statements_block hplan hrow rfl rfl
    obtain ⟨hsetup, hmay, habsent⟩ := insertLink_mem_authorises hauthorises hmem
    obtain ⟨old, hold, hexperimental', hid⟩ := (hundisturbed bundle hbundle).1 hmay
      ⟨shadow, hshadow, hexperimental, heq.trans hsetup⟩
    apply habsent
    rw [howners, ← hid]
    refine List.mem_map_of_mem (List.mem_filter.mpr
      ⟨List.mem_filter.mpr ⟨hold, ?_⟩, hexperimental'⟩)
    rw [hid]
    exact decide_eq_true (List.mem_map_of_mem hbundle)
  · intro row hrow hexperimental link hlink heq
    obtain ⟨bundle, hbundle, block, hauthorises, hmem⟩ := mem_statements_block hplan hrow rfl rfl
    obtain ⟨hsetup, hmay, habsent⟩ := insertShadow_mem_authorises hauthorises hmem hexperimental
    obtain ⟨old, hold, hid⟩ := (hundisturbed bundle hbundle).2 hmay
      ⟨link, hlink, heq.symm.trans hsetup⟩
    have hread : old ∈ preflight.links := by
      rw [hlinks]
      refine List.mem_filter.mpr ⟨hold, ?_⟩
      rw [hid]
      exact decide_eq_true (List.mem_map_of_mem hbundle)
    rw [Preflight.existingLink, List.find?_eq_none] at habsent
    exact habsent old hread (decide_eq_true hid)

/-- What the store says of the owners of the setups. -/
structure OneOwner (env : Env) (db : Database) : Prop where
  link : ∀ setupId, (db.links.filter (·.setupId = setupId)).length ≤ 1
  intent : ∀ link ∈ db.links, (db.intents.filter (·.intentId = link.intentId)).length = 1
  allocations : ∀ link ∈ db.links, ∃ configuration, env.paperConfiguration = some configuration ∧
    (db.allocations.filter (·.intentId = link.intentId)).map (·.accountId) =
      configuration.accountIds
  exclusive : Exclusive db

theorem Owned.oneOwner (howned : Owned env db) (hexclusive : Exclusive db) : OneOwner env db := by
  refine ⟨fun setupId => ?_, fun link hlink => ?_, howned.funded, hexclusive⟩
  · exact KeysNodup.filter_length_le howned.setups setupId
  · obtain ⟨intent, hintent, hid⟩ := howned.linked link hlink
    rw [← hid]
    exact KeysNodup.filter_length_eq howned.intents hintent

/-- The owners of every setup, in the runs in which no other call stores an excluding owner between
the preflight reads of a call and its batch. -/
theorem setups_have_one_owner {w : World env}
    (h : (calls env fun request => Undisturbed request.observation).Reachable w) :
    OneOwner env w.state := by
  refine (reachable_owned h).oneOwner ?_
  refine (Jobs.World.reachable_safe (I := Exclusive) (R := Grows) (Q := fun _ _ _ => True)
    ?_ Grows.refl (fun _ _ _ => Grows.trans) ?_ ?_ h).state
  · intro s hs link hlink
    rw [hs.links] at hlink
    exact absurd hlink List.not_mem_nil
  · exact fun _ _ _ _ _ _ => trivial
  · rintro request ⟨raw, hraw⟩ s _
    apply append_safe (fun _ _ => trivial) (fun _ _ _ => trivial) (fun _ _ _ _ _ => trivial)
    intro drawn preflight plan versions seen s₁ s₂ _ hreviewed hplan hexclusive hundisturbed hok
    refine ⟨hexclusive.of_batch (planned_stillAbsent hreviewed hplan hundisturbed) ?_ hok,
      fun _ _ => trivial⟩
    exact planned_apart (validateEntryV3Payload_ok hraw) hplan

end Exclusivity

/-! ## Two calls that cross -/

namespace Sample

/-- The reviewed identity of the payloads and one configured account. -/
def environment : Env :=
  { detectorCodeHash := some "cccccccccccccccccccccccccccccccccccccccccccccccccccccccccccccccc"
    reviewedSettingsHashForTicker := fun _ =>
      some "dddddddddddddddddddddddddddddddddddddddddddddddddddddddddddddddd"
    paperConfiguration := some ⟨["paper-1"], 50, by decide, by decide, by decide⟩
    paperIntentCreationEnabled := true
    isToday := fun _ => false
    canonicalSha256 := sha256 }

def drawn (receiptId : String) : Drawn :=
  { receiptId, recordedAt := "2023-11-14T22:20:02.000Z", allocationId := fun _ _ => "allocation-1" }

def request (observation : Observation) (receiptId : String) : Request :=
  { observation
    payloadSha256 := "eeeeeeeeeeeeeeeeeeeeeeeeeeeeeeeeeeeeeeeeeeeeeeeeeeeeeeeeeeeeeeee"
    first := drawn receiptId
    second := drawn receiptId }

/-- One funded account and no calls. -/
def initial : World environment :=
  { state :=
      { receipts := [], events := [], dispositions := [], candidates := [], evidence := []
        selections := [], members := [], parity := [], links := [], shadows := []
        applications := [], accounts := (Paper.funded 100000).accounts
        ledgerEntries := (Paper.funded 100000).ledgerEntries
        killSwitchEvents := (Paper.funded 100000).killSwitchEvents
        blockedIntents := [], intents := [], allocations := [], settlements := [] }
    calls := [] }

theorem initial_reachable (allowed : Request → List Database → Database → Prop) :
    (calls environment allowed).Reachable initial :=
  .init ⟨⟨rfl, rfl, rfl, rfl, List.nodup_nil, List.nodup_nil, by simp [initial], by simp [initial]⟩,
    rfl, rfl⟩

def steps (call count : Nat) : List (Jobs.Label Request) := List.replicate count (.step call)

def run (schedule : List (Jobs.Label Request)) : World environment :=
  schedule.foldl (Jobs.World.next (Request.serve environment)) initial

/-- The entry alone, up to its batch. -/
def opening : List (Jobs.Label Request) :=
  .arrive (request entryObservation "receipt-1") :: steps 0 8

/-- Both calls are under way; the second reads the owners after the first has committed. -/
def following : List (Jobs.Label Request) :=
  List.flatten [[.arrive (request entryObservation "receipt-1"),
    .arrive (request experimentObservation "receipt-2")], steps 0 7, steps 1 3, steps 0 1,
    steps 1 5]

/-- Both calls read, then both commit. -/
def crossing : List (Jobs.Label Request) :=
  List.flatten [[.arrive (request entryObservation "receipt-1"),
    .arrive (request experimentObservation "receipt-2")], steps 0 7, steps 1 6, steps 0 1,
    steps 1 1]

def unchecked (_ : Request) (_ : List Database) (_ : Database) : Bool := true

theorem unchecked_always (request : Request) (seen : List Database) (db : Database)
    (_ : unchecked request seen db = true) : always request seen db :=
  trivial

theorem received (request : Request) (h : request.observation = entryObservation ∨
    request.observation = experimentObservation) : request.Received environment := by
  obtain h | h := h
  · exact ⟨_, h ▸ entry_ok⟩
  · exact ⟨_, h ▸ experiment_ok⟩

theorem following_checks :
    initial.permits (Request.serve environment)
      (fun request seen db => Undisturbed request.observation seen db) following = true ∧
    (run following).state.links.length = 1 ∧ (run following).state.events.length = 2 := by
  decide +kernel

theorem crossing_checks :
    initial.permits (Request.serve environment) unchecked crossing = true ∧
    (run crossing).state.links.any (fun link => (run crossing).state.shadows.any fun shadow =>
      isExperimentalOneCandleShadow shadow = true ∧ shadow.setupId = link.setupId) = true := by
  decide +kernel

end Sample

/-- The entry opens its link, and the experiment finds it and opens no shadow. -/
theorem sample_one_owner :
    (Sample.run Sample.following).state.links.length = 1 ∧
      (Sample.run Sample.following).state.events.length = 2 ∧
      OneOwner Sample.environment (Sample.run Sample.following).state := by
  obtain ⟨hpermits, hlinks, hevents⟩ := Sample.following_checks
  have hreachable : (calls Sample.environment fun request =>
      Undisturbed request.observation).Reachable (Sample.run Sample.following) := by
    have hcheck : ∀ (request : Request) seen db,
        decide (Undisturbed request.observation seen db) = true →
          Undisturbed request.observation seen db := fun _ _ _ => of_decide_eq_true
    refine Jobs.World.schedule_reachable (Sample.initial_reachable _) hcheck ?_ hpermits
    intro request hrequest
    simp only [Sample.following, List.flatten_cons, List.cons_append, List.nil_append,
      List.mem_cons, List.mem_append, Sample.steps, List.mem_replicate, Jobs.Label.arrive.injEq,
      reduceCtorEq, and_false, or_false, List.flatten_nil, List.not_mem_nil] at hrequest
    obtain rfl | rfl := hrequest
    · exact Sample.received _ (.inl rfl)
    · exact Sample.received _ (.inr rfl)
  exact ⟨hlinks, hevents, setups_have_one_owner hreachable⟩

/-- The entry opens its link and the experiment its shadow, for one setup. -/
theorem crossing_calls_share_setup :
    (calls Sample.environment always).Reachable (Sample.run Sample.crossing) ∧
      ¬OneOwner Sample.environment (Sample.run Sample.crossing).state := by
  obtain ⟨hpermits, hshared⟩ := Sample.crossing_checks
  constructor
  · refine Jobs.World.schedule_reachable (Sample.initial_reachable _) Sample.unchecked_always ?_
      hpermits
    intro request hrequest
    simp only [Sample.crossing, List.flatten_cons, List.cons_append, List.nil_append,
      List.mem_cons, List.mem_append, Sample.steps, List.mem_replicate, Jobs.Label.arrive.injEq,
      reduceCtorEq, and_false, or_false, List.flatten_nil, List.not_mem_nil] at hrequest
    obtain rfl | rfl := hrequest
    · exact Sample.received _ (.inl rfl)
    · exact Sample.received _ (.inr rfl)
  · intro howner
    simp only [List.any_eq_true, decide_eq_true_eq] at hshared
    obtain ⟨link, hlink, shadow, hshadow, hexperimental, hsetup⟩ := hshared
    exact howner.exclusive link hlink shadow hshadow hexperimental hsetup

end TradeOps.EntryV3
