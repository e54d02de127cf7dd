import TradeOps.EntryV3.Authority
import TradeOps.EntryV3.Effects

/-!
# What a call of the v3 entry store sends

A call sends at most two batches, one for each attempt, and each is planned from what the attempt
read. `append_safe` reduces the safety of a call to its batches: whoever shows what a planned batch
does needs to know nothing else of the call.
-/

namespace TradeOps.EntryV3

open Entry Keyed

/-! ## Plans -/

section Plans

variable (env : Env) (o : Observation) (drawn : Drawn) (preflight : Preflight)

/-- The shadow position that a bundle opens, or none. -/
def OpensShadow (bundle : Bundle) (statements : List Statement) : Prop :=
  statements = [] ∨ ∃ pair, shadowPair env o preflight bundle = some pair ∧
    o.eventRole = .entryDecision ∧ statements = [.insertShadow (shadowRow env o drawn bundle pair)]

/-- What a bundle authorises: a paper trade, then a shadow position. -/
def Authorises (bundle : Bundle) (statements : List Statement) : Prop :=
  ∃ shadow, OpensShadow env o drawn preflight bundle shadow ∧
    statements = paperStatements env o drawn bundle preflight ++ shadow

/-- The link of a bundle that the exit of the bundle may settle. -/
structure Settles (bundle : Bundle) (link : LinkRow) (exit : ExitEvent) : Prop where
  bundle_mem : bundle ∈ o.entryBundles
  exit_mem : exit ∈ o.exitEvents
  setup : exit.setupId = bundle.setup.setupId
  found : preflight.existingLink bundle.setup.setupId = some link
  cohort : bundle.setup.liquidityCohort ≠ .oneCandle
  role : o.eventRole = .exitFollowup
  identity : preflight.identityMatches = true

/-- The plan for a link, from a settlement that is stored by now. -/
def PlansSettlement (s : Database) (bundle : Bundle) (link : LinkRow) (exit : ExitEvent)
    (plan : ExitPlan) : Prop :=
  ∃ settled application, (∀ row, settled = some row → row ∈ s.settlements ∧
      row.intentId = link.intentId) ∧
    plan = paperExitPlan env o drawn exit bundle link settled application

/-- An exit plan touches the link of its bundle, or shadows only. -/
inductive PlansExit (s : Database) : ExitPlan → Prop where
  | nothing : PlansExit s .nothing
  | paper {bundle link exit plan} (settles : Settles o preflight bundle link exit)
      (plans : PlansSettlement env o drawn s bundle link exit plan) : PlansExit s plan
  | shadow {bundle shadow exit application} :
      PlansExit s (shadowExitPlan env o drawn exit bundle shadow application)

/-- The exits of bundles: each plan is one of those above, and no link is left out. -/
structure PlansExits (s : Database) (bundles : List Bundle) (exits : List ExitPlan) : Prop where
  each : ∀ plan ∈ exits, PlansExit env o drawn preflight s plan
  covers : ∀ bundle ∈ bundles, ∀ link exit, Settles o preflight bundle link exit →
    ∃ plan ∈ exits, PlansSettlement env o drawn s bundle link exit plan

/-- A plan for bundles, as it stands when the database is `s`. -/
structure Planned (s : Database) (bundles : List Bundle) (plan : Plan) : Prop where
  authorization : ∃ blocks, List.Forall₂ (Authorises env o drawn preflight) bundles blocks ∧
    plan.authorization = blocks.flatten
  exits : PlansExits env o drawn preflight s bundles plan.exits

/-- The last two noted reads are those of the preflight. -/
def Noted (seen : List Database) : Prop :=
  ∃ shadowsRead linksRead rest, seen = shadowsRead :: linksRead :: rest ∧
    preflight.links = listLinks linksRead (o.entryBundles.map (·.setup.setupId)) ∧
    preflight.experimentalOwners = ((listShadows shadowsRead (o.entryBundles.map
      (·.setup.setupId))).filter isExperimentalOneCandleShadow).map (·.setupId)

/-- What the preflight reads say: the links it knows are stored, and it knows those of its setups
that were stored at the start. -/
structure Reviewed (seen : List Database) (start s : Database) : Prop where
  stored : preflight.links ⊆ s.links
  complete : ∀ link ∈ start.links, link.setupId ∈ o.entryBundles.map (·.setup.setupId) →
    link ∈ preflight.links
  identity : preflight.identityMatches = reviewedIdentityMatches env o
  noted : Noted o preflight seen

variable {env o drawn preflight} {s s' start : Database}

theorem PlansSettlement.mono {bundle : Bundle} {link : LinkRow} {exit : ExitEvent} {plan : ExitPlan}
    (h : PlansSettlement env o drawn s bundle link exit plan) (hgrows : Grows s s') :
    PlansSettlement env o drawn s' bundle link exit plan := by
  obtain ⟨settled, application, hsettled, hplan⟩ := h
  exact ⟨settled, application, fun row hrow =>
    ⟨hgrows.settlements (hsettled row hrow).1, (hsettled row hrow).2⟩, hplan⟩

theorem PlansExit.mono {plan : ExitPlan} (h : PlansExit env o drawn preflight s plan)
    (hgrows : Grows s s') : PlansExit env o drawn preflight s' plan := by
  cases h with
  | nothing => exact .nothing
  | paper settles plans => exact .paper settles (plans.mono hgrows)
  | shadow => exact .shadow

theorem PlansExits.mono {bundles : List Bundle} {exits : List ExitPlan}
    (h : PlansExits env o drawn preflight s bundles exits) (hgrows : Grows s s') :
    PlansExits env o drawn preflight s' bundles exits := by
  refine ⟨fun plan hmem => (h.each plan hmem).mono hgrows,
    fun bundle hbundle link exit hsettles => ?_⟩
  obtain ⟨plan, hmem, hplan⟩ := h.covers bundle hbundle link exit hsettles
  exact ⟨plan, hmem, hplan.mono hgrows⟩

theorem PlansExits.append {first rest : List Bundle} {exits exits' : List ExitPlan}
    (h : PlansExits env o drawn preflight s first exits)
    (h' : PlansExits env o drawn preflight s rest exits') :
    PlansExits env o drawn preflight s (first ++ rest) (exits ++ exits') := by
  constructor
  · intro plan hmem
    rcases List.mem_append.mp hmem with hmem | hmem
    · exact h.each plan hmem
    · exact h'.each plan hmem
  · intro bundle hmem link exit hsettles
    rcases List.mem_append.mp hmem with hmem | hmem
    · obtain ⟨plan, hplan, hof⟩ := h.covers bundle hmem link exit hsettles
      exact ⟨plan, List.mem_append_left _ hplan, hof⟩
    · obtain ⟨plan, hplan, hof⟩ := h'.covers bundle hmem link exit hsettles
      exact ⟨plan, List.mem_append_right _ hplan, hof⟩

theorem Planned.mono {bundles : List Bundle} {plan : Plan}
    (h : Planned env o drawn preflight s bundles plan) (hgrows : Grows s s') :
    Planned env o drawn preflight s' bundles plan :=
  ⟨h.authorization, h.exits.mono hgrows⟩

theorem Reviewed.mono {seen : List Database} (h : Reviewed env o preflight seen start s)
    (hgrows : Grows s s') : Reviewed env o preflight seen start s' :=
  { h with stored := List.Subset.trans h.stored hgrows.links }

end Plans

/-! ## The parts of a call -/

section Parts

variable {env : Env} {o : Observation} {payloadSha256 : String} {drawn : Drawn}
  {preflight : Preflight} {I : Database → Prop} {allowed : List Database → Database → Prop}
  {seen : List Database} {s start : Database}

section Answers

variable {Q : Except Error AppendResult → Database → Prop} (hthrow : ∀ e s, Q (.error e) s)

include hthrow

theorem replay_safe (hreplay : ∀ r s, r.inserted = false → Q (.ok r) s)
    (receipt : EntryV2.ReceiptRow) :
    (replay env o payloadSha256 receipt).Safe I Grows allowed (fun r _ => Q r) seen s := by
  unfold replay
  split
  · exact hthrow _ _
  refine Job.Safe.query_bind fun s₁ _ _ => ?_
  split
  swap
  · exact hthrow _ _
  refine Job.Safe.query_bind fun s₂ _ _ => ?_
  split
  next => exact hthrow _ _
  next row _ =>
    split
    · exact hthrow _ _
    split
    · exact hthrow _ _
    refine Job.Safe.query_bind fun s₃ _ _ => ?_
    split
    next => exact hthrow _ _
    next => exact Job.Safe.query_bind fun s₄ _ _ => hreplay _ _ rfl

theorem rethrow_safe (failure : Failure) :
    (rethrow env o failure).Safe I Grows allowed (fun r _ => Q r) seen s := by
  refine Job.Safe.query_bind fun s₁ _ _ => ?_
  split
  · exact hthrow _ _
  refine Job.Safe.query_bind fun s₂ _ _ => ?_
  split
  · exact hthrow _ _
  · exact hthrow _ _

end Answers

theorem racedLinks_safe {Q : Except Error (List (Option LinkRow)) → List Database → Database → Prop}
    (bundles : List Bundle) (h : ∀ links s', Grows s s' → Q (.ok links) seen s') :
    (racedLinks env bundles).Safe I Grows allowed Q seen s := by
  induction bundles generalizing s Q with
  | nil => exact h _ _ (Grows.refl s)
  | cons bundle rest ih =>
    refine Job.Safe.query_bind fun s₁ hgrows _ => ?_
    apply Job.Safe.bind
    apply ih
    intro links s₂ hgrows'
    exact h _ _ (hgrows.trans hgrows')

theorem shadowStatements_safe {Q : Except Error (List Statement) → List Database → Database → Prop}
    (bundle : Bundle) (hthrow : ∀ e s, Q (.error e) seen s)
    (h : ∀ statements s', Grows s s' → OpensShadow env o drawn preflight bundle statements →
      Q (.ok statements) seen s') :
    (shadowStatements env o drawn preflight bundle).Safe I Grows allowed Q seen s := by
  unfold shadowStatements
  split
  next => exact h _ _ (Grows.refl s) (.inl rfl)
  next pair hpair =>
    by_cases hrole : o.eventRole = .entryDecision
    swap
    · rw [if_neg hrole]
      exact h _ _ (Grows.refl s) (.inl rfl)
    rw [if_pos hrole]
    refine Job.Safe.query_bind fun s₁ hgrows _ => ?_
    split
    next => exact h _ _ hgrows (.inr ⟨pair, hpair, hrole, rfl⟩)
    next shadow _ =>
      split
      · exact h _ _ hgrows (.inl rfl)
      · exact hthrow _ _

/-- What the plans for some exits of a bundle say. -/
structure PlansSome (env : Env) (o : Observation) (drawn : Drawn) (s : Database) (bundle : Bundle)
    (link : Option LinkRow) (events : List ExitEvent) (exits : List ExitPlan) : Prop where
  each : ∀ plan ∈ exits, plan = .nothing ∨
    (∃ row exit, link = some row ∧ exit ∈ events ∧
      PlansSettlement env o drawn s bundle row exit plan) ∨
    ∃ shadow exit application, plan = shadowExitPlan env o drawn exit bundle shadow application
  covers : ∀ row, link = some row → ∀ exit ∈ events, ∃ plan ∈ exits,
    PlansSettlement env o drawn s bundle row exit plan

theorem selectSettlement_some {intentId : String} {row : SettlementRow}
    (h : selectSettlement s intentId = some row) : row ∈ s.settlements ∧ row.intentId = intentId :=
  ⟨List.mem_of_find?_eq_some h, by simpa using List.find?_some h⟩

/-- The reads for the link of a bundle. -/
theorem paperExit_safe {Q : Except Error ExitPlan → List Database → Database → Prop}
    (bundle : Bundle)
    (link : Option LinkRow) (exit : ExitEvent)
    (h : ∀ plan s', Grows s s' → (link = none ∧ plan = .nothing ∨
      ∃ row, link = some row ∧ PlansSettlement env o drawn s' bundle row exit plan) →
        Q (.ok plan) seen s') :
    (paperExit env o drawn bundle exit link).Safe I Grows allowed Q seen s := by
  cases link with
  | none => exact h _ _ (Grows.refl s) (.inl ⟨rfl, rfl⟩)
  | some row =>
    refine Job.Safe.query_bind fun s₁ hgrows _ => ?_
    refine Job.Safe.query_bind fun s₂ hgrows' _ => ?_
    refine h _ _ (hgrows.trans hgrows') (.inr ⟨row, rfl, _, _, fun settled hsettled => ?_, rfl⟩)
    obtain ⟨hmem, hid⟩ := selectSettlement_some hsettled
    exact ⟨hgrows'.settlements hmem, hid⟩

/-- The reads for the shadow of a bundle. -/
theorem shadowExit_safe {Q : Except Error ExitPlan → List Database → Database → Prop}
    (bundle : Bundle)
    (shadow : Option ShadowRow) (exit : ExitEvent)
    (h : ∀ plan s', Grows s s' → (plan = .nothing ∨ ∃ shadow exit application,
      plan = shadowExitPlan env o drawn exit bundle shadow application) → Q (.ok plan) seen s') :
    (shadowExit env o drawn bundle exit shadow).Safe I Grows allowed Q seen s := by
  cases shadow with
  | none => exact h _ _ (Grows.refl s) (.inl rfl)
  | some shadow =>
    refine Job.Safe.query_bind fun s₁ hgrows _ => ?_
    exact h _ _ hgrows (.inr ⟨shadow, exit, _, rfl⟩)

theorem exitPlans_safe {Q : Except Error (List ExitPlan) → List Database → Database → Prop}
    (bundle : Bundle)
    (link : Option LinkRow) (shadow : Option ShadowRow) (events : List ExitEvent)
    (h : ∀ exits s', Grows s s' → PlansSome env o drawn s' bundle link events exits →
      Q (.ok exits) seen s') :
    (exitPlans env o drawn bundle link shadow events).Safe I Grows allowed Q seen s := by
  induction events generalizing s Q with
  | nil => exact h _ _ (Grows.refl s) ⟨by simp, by simp⟩
  | cons exit rest ih =>
    apply Job.Safe.bind
    apply paperExit_safe
    intro paper s₁ hgrows₁ hpaper
    apply Job.Safe.bind
    apply shadowExit_safe
    intro shadowPlan s₂ hgrows₂ hshadow
    apply Job.Safe.bind
    apply ih
    intro exits s₃ hgrows₃ hexits
    refine h _ _ ((hgrows₁.trans hgrows₂).trans hgrows₃) ⟨?_, ?_⟩
    · intro plan hmem
      rcases List.mem_cons.mp hmem with rfl | hmem
      · obtain ⟨-, rfl⟩ | ⟨row, hrow, hplan⟩ := hpaper
        · exact .inl rfl
        · exact .inr (.inl ⟨row, exit, hrow, List.mem_cons_self,
            hplan.mono (hgrows₂.trans hgrows₃)⟩)
      rcases List.mem_cons.mp hmem with rfl | hmem
      · obtain rfl | hshadow := hshadow
        · exact .inl rfl
        · exact .inr (.inr hshadow)
      obtain hplan | ⟨row, exit', hrow, hexit', hplan⟩ | hplan := hexits.each plan hmem
      · exact .inl hplan
      · exact .inr (.inl ⟨row, exit', hrow, List.mem_cons_of_mem _ hexit', hplan⟩)
      · exact .inr (.inr hplan)
    · intro row hrow exit' hexit'
      rcases List.mem_cons.mp hexit' with rfl | hexit'
      · obtain ⟨hnone, -⟩ | ⟨row', hrow', hplan⟩ := hpaper
        · rw [hrow] at hnone
          cases hnone
        · obtain rfl : row' = row := Option.some.inj (hrow'.symm.trans hrow)
          exact ⟨paper, List.mem_cons_self, hplan.mono (hgrows₂.trans hgrows₃)⟩
      · obtain ⟨plan, hmem, hplan⟩ := hexits.covers row hrow exit' hexit'
        exact ⟨plan, List.mem_cons_of_mem _ (List.mem_cons_of_mem _ hmem), hplan⟩

theorem bundleExits_safe {Q : Except Error (List ExitPlan) → List Database → Database → Prop}
    {bundle : Bundle}
    (hbundle : bundle ∈ o.entryBundles) (hthrow : ∀ e s, Q (.error e) seen s)
    (h : ∀ exits s', Grows s s' → PlansExits env o drawn preflight s' [bundle] exits →
      Q (.ok exits) seen s') :
    (bundleExits env o drawn preflight bundle).Safe I Grows allowed Q seen s := by
  unfold bundleExits
  split
  next hrole =>
    refine Job.Safe.query_bind fun s₁ hgrows _ => ?_
    split
    swap
    · exact hthrow _ _
    apply exitPlans_safe
    intro exits s₂ hgrows' hexits
    refine h _ _ (hgrows.trans hgrows') ⟨fun plan hmem => ?_,
      fun bundle' hmem row exit hsettles => ?_⟩
    · obtain rfl | ⟨row, exit, hrow, hexit, hplan⟩ | ⟨_, _, _, rfl⟩ := hexits.each plan hmem
      · exact .nothing
      · obtain ⟨hexit, hsetup⟩ := List.mem_filter.mp hexit
        by_cases hcohort : bundle.setup.liquidityCohort = .oneCandle
        · rw [if_pos hcohort] at hrow
          cases hrow
        · rw [if_neg hcohort] at hrow
          exact .paper ⟨hbundle, hexit, by simpa using hsetup, hrow, hcohort, hrole.1,
            hrole.2⟩ hplan
      · exact .shadow
    · obtain rfl := List.mem_singleton.mp hmem
      apply hexits.covers row
      · rw [if_neg hsettles.cohort]
        exact hsettles.found
      · exact List.mem_filter.mpr ⟨hsettles.exit_mem, by simpa using hsettles.setup⟩
  next hrole =>
    refine h _ _ (Grows.refl s) ⟨by simp, fun bundle' hmem row exit hsettles => ?_⟩
    exact absurd ⟨hsettles.role, hsettles.identity⟩ hrole

theorem bundlesPlan_safe {Q : Except Error Plan → List Database → Database → Prop}
    {bundles : List Bundle}
    (hbundles : bundles ⊆ o.entryBundles) (hthrow : ∀ e s, Q (.error e) seen s)
    (h : ∀ plan s', Grows s s' → Planned env o drawn preflight s' bundles plan →
    Q (.ok plan) seen s') :
    (bundlesPlan env o drawn preflight bundles).Safe I Grows allowed Q seen s := by
  induction bundles generalizing s Q with
  | nil => exact h _ _ (Grows.refl s) ⟨⟨[], .nil, rfl⟩, by simp, by simp⟩
  | cons bundle rest ih =>
    rw [bundlesPlan]
    split
    swap
    · exact hthrow _ _
    apply Job.Safe.bind
    refine shadowStatements_safe bundle hthrow ?_
    intro shadow s₁ hgrows₁ hshadow
    apply Job.Safe.bind
    refine bundleExits_safe (hbundles List.mem_cons_self) hthrow ?_
    intro exits s₂ hgrows₂ hexits
    apply Job.Safe.bind
    refine ih (List.Subset.trans (List.subset_cons_self _ _) hbundles) hthrow ?_
    intro plan s₃ hgrows₃ hplan
    obtain ⟨blocks, hblocks, hauthorization⟩ := hplan.authorization
    refine h _ _ ((hgrows₁.trans hgrows₂).trans hgrows₃)
      ⟨⟨_, .cons ⟨shadow, hshadow, rfl⟩ hblocks, ?_⟩, (hexits.mono hgrows₃).append hplan.exits⟩
    simp [hauthorization]

theorem preflightReads_safe {Q : Except Error Preflight → List Database → Database → Prop}
    (force : Bool) (hstart : Grows start s) (hthrow : ∀ e seen s, Q (.error e) seen s)
    (h : ∀ preflight seen' s', Grows s s' → Reviewed env o preflight seen' start s' →
      Q (.ok preflight) seen' s') :
    (preflightReads env o force).Safe I Grows allowed Q seen s := by
  refine Job.Safe.note_bind fun s₁ hgrows₁ _ => ?_
  refine Job.Safe.note_bind fun s₂ hgrows₂ _ => ?_
  split
  swap
  · exact hthrow _ _ _
  have hlinks : ∀ usable s', Grows s₂ s' →
      Reviewed env o
        { identityMatches := reviewedIdentityMatches env o
          links := listLinks s₁ (o.entryBundles.map (·.setup.setupId))
          experimentalOwners := ((listShadows s₂ (o.entryBundles.map (·.setup.setupId))).filter
            isExperimentalOneCandleShadow).map (·.setupId)
          configurationUsable := usable
          forceConfigurationUnavailable := force } (s₂ :: s₁ :: seen) start s' := by
    intro usable s' hgrows
    refine ⟨fun link hmem => ?_, fun link hmem hsetup => ?_, rfl, s₂, s₁, seen, rfl, rfl, rfl⟩
    · exact (hgrows₂.trans hgrows).links (List.mem_filter.mp hmem).1
    · exact List.mem_filter.mpr ⟨hgrows₁.links (hstart.links hmem), by simpa using hsetup⟩
  have hdone : ∀ usable s', Grows s₂ s' → Q (.ok _) (s₂ :: s₁ :: seen) s' :=
    fun usable s' hgrows =>
      h _ _ s' ((hgrows₁.trans hgrows₂).trans hgrows) (hlinks usable s' hgrows)
  apply Job.Safe.bind
  unfold configurationUsable
  dsimp only
  split
  next => exact hdone false _ (Grows.refl _)
  next configuration _ =>
    split
    swap
    · exact hdone false _ (Grows.refl _)
    refine Job.Safe.query_bind fun s₃ hgrows₃ _ => ?_
    split
    · exact hdone false _ hgrows₃
    · exact fun s₄ hgrows₄ _ => hdone _ _ (hgrows₃.trans hgrows₄)

end Parts

/-! ## Calls -/

section Calls

variable {env : Env} {o : Observation} {payloadSha256 : String} {I : Database → Prop}
  {allowed : List Database → Database → Prop} {Q : Except Error AppendResult → Database → Prop}
  {start : Database}

/-- What a planned batch has to do for the call to be safe. -/
def BatchSafe (env : Env) (o : Observation) (payloadSha256 : String) (I : Database → Prop)
    (allowed : List Database → Database → Prop) (Q : Except Error AppendResult → Database → Prop)
    (start : Database) : Prop :=
  ∀ drawn preflight plan versions seen s s', Grows start s →
    Reviewed env o preflight seen start s →
    Planned env o drawn preflight s o.entryBundles plan → I s → allowed seen s →
    (database env.isToday).batch (statements env o payloadSha256 drawn preflight versions plan) s =
      .ok s' →
    I s' ∧ (plan.exitConflict = false → ∀ r, Q (.ok r) s')

variable (hthrow : ∀ e s, Q (.error e) s) (hreplay : ∀ r s, r.inserted = false → Q (.ok r) s)
  (hstable : ∀ r a b, Q r a → Grows a b → Q r b)
  (hbatch : BatchSafe env o payloadSha256 I allowed Q start)

include hthrow hreplay hstable hbatch

theorem attempt_safe {drawn : Drawn} {force : Bool}
    {retry : Option (Bool → Call env AppendResult)} {seen : List Database} {s : Database}
    (hstart : Grows start s)
    (hretry : ∀ again ∈ retry, ∀ force s', Grows start s' →
      (again force).Safe I Grows allowed (fun r _ => Q r) [] s') :
    (appendEntryV3ObservationAttempt env o payloadSha256 drawn force retry).Safe I Grows allowed
      (fun r _ => Q r) seen s := by
  unfold appendEntryV3ObservationAttempt
  split
  · exact hthrow _ _
  refine Job.Safe.query_bind fun s₁ hgrows₁ _ => ?_
  split
  next receipt _ => exact replay_safe hthrow hreplay receipt
  next =>
    refine Job.Safe.query_bind fun s₂ hgrows₂ _ => ?_
    split
    · exact hthrow _ _
    refine Job.Safe.query_bind fun s₃ hgrows₃ _ => ?_
    split
    · exact hthrow _ _
    have hstart₃ : Grows start s₃ := hstart.trans (hgrows₁.trans (hgrows₂.trans hgrows₃))
    apply Job.Safe.bind
    refine preflightReads_safe force hstart₃ (fun e _ => hthrow e) ?_
    intro preflight seen' s₄ hgrows₄ hreviewed
    apply Job.Safe.bind
    refine bundlesPlan_safe (List.Subset.refl _) (fun e => hthrow e) ?_
    intro plan s₅ hgrows₅ hplan
    dsimp only
    split
    next => exact hthrow _ _
    next versions _ =>
      intro s₆ hgrows₆ hI hallowed
      have hstart₆ : Grows start s₆ := hstart₃.trans (hgrows₄.trans (hgrows₅.trans hgrows₆))
      constructor
      · intro s₇ hok
        obtain ⟨hI', hQ⟩ := hbatch _ _ _ _ _ _ _ hstart₆
          (hreviewed.mono (hgrows₅.trans hgrows₆)) (hplan.mono hgrows₆) hI hallowed hok
        refine ⟨hI', Grows.of_batch hok, ?_⟩
        refine Job.Safe.query_bind fun s₈ hgrows₈ _ => ?_
        split
        next => exact hthrow _ _
        next record _ =>
          split
          · exact hthrow _ _
          split
          next => exact hthrow _ _
          next hconflict =>
            refine Job.Safe.query_bind fun s₉ hgrows₉ _ => ?_
            exact hstable _ _ _ (hQ (by simpa using hconflict) _) (hgrows₈.trans hgrows₉)
      · intro failure _
        refine Job.Safe.query_bind fun s₇ hgrows₇ _ => ?_
        have hstart₇ : Grows start s₇ := hstart₆.trans hgrows₇
        split
        next receipt _ => exact replay_safe hthrow hreplay receipt
        next => exact rethrow_safe hthrow failure
        next again _ =>
          split
          · exact hretry again rfl _ _ hstart₇
          split
          · exact hretry again rfl _ _ hstart₇
          split
          swap
          · exact rethrow_safe hthrow failure
          apply Job.Safe.bind
          apply racedLinks_safe
          intro links s₈ hgrows₈
          dsimp only
          split
          · exact hretry again rfl _ _ (hstart₇.trans hgrows₈)
          · exact rethrow_safe hthrow failure

/-- A call is safe when each of its planned batches is. -/
theorem append_safe (first second : Drawn) :
    (appendEntryV3Observation env o payloadSha256 first second).Safe I Grows allowed
      (fun r _ => Q r) [] start := by
  apply attempt_safe hthrow hreplay hstable hbatch (Grows.refl start)
  rintro again hagain force s' hgrows
  obtain rfl := Option.some.inj hagain
  exact attempt_safe hthrow hreplay hstable hbatch hgrows (by simp)

end Calls

/-! ## Interleaved calls -/

/-- An observation that the Worker received, with the draws of its two attempts. -/
structure Request where
  observation : Observation
  payloadSha256 : String
  first : Drawn
  second : Drawn

def Request.serve (env : Env) (request : Request) : Call env AppendResult :=
  appendEntryV3Observation env request.observation request.payloadSha256 request.first
    request.second

/-- The observation is the one that the validator made of some payload. -/
def Request.Received (env : Env) (request : Request) : Prop :=
  ∃ raw, validateEntryV3Payload env.canonicalSha256 raw = .ok request.observation

/-- No v3 call was served yet; the paper tables respect their keys. -/
structure Empty (db : Database) : Prop where
  links : db.links = []
  shadows : db.shadows = []
  events : db.events = []
  applications : db.applications = []
  intents : KeysNodup (·.intentId) db.intents
  settled : KeysNodup (·.intentId) db.settlements
  allocations : ∀ row ∈ db.allocations, ∃ intent ∈ db.intents, intent.intentId = row.intentId
  settlements : ∀ row ∈ db.settlements, ∃ intent ∈ db.intents, intent.intentId = row.intentId

abbrev World (env : Env) := Jobs.World (database env.isToday) Error AppendResult Request

/-- Interleaved calls, each batch sent only when it is allowed. -/
def calls (env : Env) (allowed : Request → List Database → Database → Prop) :
    System (World env) (Jobs.Label Request) :=
  Jobs.system Empty (Request.serve env) (Request.Received env) allowed

/-- Any batch may be sent. -/
def always : Request → List Database → Database → Prop := fun _ _ _ => True

end TradeOps.EntryV3
