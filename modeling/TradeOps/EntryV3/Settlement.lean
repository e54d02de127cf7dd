import TradeOps.EntryV3.Ownership

/-!
# The settlement of paper links

A link is settled at most once, and only by an exit of a stored event that comes strictly after the
trigger of the link, not before its evaluation, and reaches the stop or the target of the link. A
call that stores such an exit of a setup with two candles leaves the link settled, with the outcome
of the exit, unless the exit is one of those that `exitIsCausallyEconomic` ignores: of a closed bar
that opened before the trigger or the evaluation.
-/

namespace TradeOps.EntryV3

open Checks Entry Keyed Tables
open scoped JsString

/-! ## Statements -/

/-- The lowest and the highest price that an exit is judged by: those of the bar, or its own. -/
def exitRange (o : Observation) (exit : ExitEvent) : Int × Int :=
  match o.isRealtime, o.marketEvent.confirmedBar with
  | false, some bar => (bar.lowTicks, bar.highTicks)
  | _, _ => (exit.priceTicks, exit.priceTicks)

/-- The exit reaches the level of a position that it names. -/
def Reaches (o : Observation) (exit : ExitEvent) (position : Position) : Terminal → Prop
  | .stop => match position.direction with
    | .long => (exitRange o exit).1 ≤ position.stopTicks
    | .short => position.stopTicks ≤ (exitRange o exit).2
  | .target => match position.direction with
    | .long => position.targetTicks ≤ (exitRange o exit).2
    | .short => (exitRange o exit).1 ≤ position.targetTicks

def Terminal.other : Terminal → Terminal
  | .stop => .target
  | .target => .stop

/-- The exit comes strictly after the trigger and not before the evaluation. -/
structure Follows (exit : ExitEvent) (position : Position) : Prop where
  trigger : position.triggerEpoch < exit.epoch ∨
    position.triggerEpoch = exit.epoch ∧ position.triggerSequence < exit.sequence
  evaluation : position.evaluatedAtEpoch ≤ exit.epoch

/-- An exit of an observation that ends a link with an outcome. -/
structure Ends (o : Observation) (link : LinkRow) (terminal : Terminal) (outcome : Int)
    (exit : ExitEvent) : Prop where
  exit_mem : exit ∈ o.exitEvents
  setup : exit.setupId = link.setupId
  reason : terminalOf exit.exitReason = some terminal
  outcome : outcomeRMillis link.toPosition exit.exitReason = some outcome
  follows : Follows exit link.toPosition
  reaches : Reaches o exit link.toPosition terminal

/-- Some stored event has an exit that ends the link as the settlement says. -/
def SettledBy (db : Database) (link : LinkRow) (row : SettlementRow) : Prop :=
  ∃ event ∈ db.events, ∃ exit, Ends event.observation link row.exitReason row.outcomeRMillis exit

variable {env : Env} {o : Observation} {drawn : Drawn} {preflight : Preflight} {db db' : Database}

theorem follows_of_economic {exit : ExitEvent} {position : Position}
    (h : exitIsCausallyEconomic o exit position = true) : Follows exit position := by
  simp only [exitIsCausallyEconomic, eventTupleAfter, Bool.and_eq_true, decide_eq_true_eq,
    Bool.not_eq_true', decide_eq_false_iff_not] at h
  obtain ⟨⟨hafter, hevaluated⟩, -⟩ := h
  refine ⟨?_, by omega⟩
  obtain hepoch | ⟨hepoch, hsequence⟩ := hafter
  · exact .inl hepoch
  · exact .inr ⟨hepoch.symm, hsequence⟩

theorem barHits_iff {exit : ExitEvent} {position : Position} {terminal : Terminal}
    {bar : OrderedCandleV3} (hreason : terminalOf exit.exitReason = some terminal)
    (hrealtime : o.isRealtime = false) (hbar : o.marketEvent.confirmedBar = some bar) :
    barHits bar position exit.exitReason = true ↔
      Reaches o exit position terminal ∧ ¬Reaches o exit position terminal.other := by
  have hrange : exitRange o exit = (bar.lowTicks, bar.highTicks) := by
    rw [exitRange, hrealtime, hbar]
  have hstop : barHitsStop bar position = true ↔ Reaches o exit position .stop := by
    rw [barHitsStop, Reaches, hrange]
    cases position.direction <;> simp
  have htarget : barHitsTarget bar position = true ↔ Reaches o exit position .target := by
    rw [barHitsTarget, Reaches, hrange]
    cases position.direction <;> simp
  cases hexit : exit.exitReason with
  | ambiguousSameBarExit =>
    rw [hexit] at hreason
    cases hreason
  | stopLoss =>
    rw [hexit] at hreason
    obtain rfl := Option.some.inj hreason
    rw [barHits, Bool.and_eq_true, Bool.not_eq_true', ← Bool.not_eq_true, hstop, htarget]
    rfl
  | target =>
    rw [hexit] at hreason
    obtain rfl := Option.some.inj hreason
    rw [barHits, Bool.and_eq_true, Bool.not_eq_true', ← Bool.not_eq_true, hstop, htarget]
    rfl

theorem priceHits_iff {exit : ExitEvent} {position : Position} {terminal : Terminal}
    (hreason : terminalOf exit.exitReason = some terminal)
    (hrange : exitRange o exit = (exit.priceTicks, exit.priceTicks)) :
    priceHits exit.priceTicks position exit.exitReason = true ↔
      Reaches o exit position terminal := by
  cases hexit : exit.exitReason with
  | ambiguousSameBarExit =>
    rw [hexit] at hreason
    cases hreason
  | stopLoss =>
    rw [hexit] at hreason
    obtain rfl := Option.some.inj hreason
    rw [priceHits, Reaches, hrange]
    cases position.direction <;> simp
  | target =>
    rw [hexit] at hreason
    obtain rfl := Option.some.inj hreason
    rw [priceHits, Reaches, hrange]
    cases position.direction <;> simp

/-- On a closed bar an exit hits the plan when it reaches its own level and not the other one. -/
theorem exitHitsStoredPlan_iff {exit : ExitEvent} {position : Position} {terminal : Terminal}
    (hreason : terminalOf exit.exitReason = some terminal) :
    exitHitsStoredPlan o exit position = true ↔ Reaches o exit position terminal ∧
      (o.isRealtime = false → o.marketEvent.confirmedBar ≠ none →
        ¬Reaches o exit position terminal.other) := by
  rw [exitHitsStoredPlan]
  split
  next bar hrealtime hbar =>
    rw [barHits_iff hreason hrealtime hbar]
    simp [hrealtime, hbar]
  next hnone =>
    have hrange : exitRange o exit = (exit.priceTicks, exit.priceTicks) := by
      rw [exitRange]
      split
      next bar hrealtime hbar => exact absurd hbar (hnone bar hrealtime)
      next => rfl
    rw [priceHits_iff hreason hrange]
    refine ⟨fun hreaches => ⟨hreaches, fun hrealtime hbar => ?_⟩, fun h => h.1⟩
    obtain ⟨bar, hbar⟩ := Option.ne_none_iff_exists'.mp hbar
    exact absurd hbar (hnone bar hrealtime)

/-! ## Every settlement has its exit -/

/-- The settlements of the links: one for an intent at most, each with an exit that ends the
link. -/
structure Justified (db : Database) : Prop where
  settled : KeysNodup (·.intentId) db.settlements
  stored : ∀ row ∈ db.settlements, ∃ intent ∈ db.intents, intent.intentId = row.intentId
  ended : ∀ link ∈ db.links, ∀ row ∈ db.settlements, row.intentId = link.intentId →
    SettledBy db link row

theorem SettledBy.mono {link : LinkRow} {row : SettlementRow} (h : SettledBy db link row)
    (hgrows : Grows db db') : SettledBy db' link row := by
  obtain ⟨event, hevent, hends⟩ := h
  exact ⟨event, hgrows.events hevent, hends⟩

theorem Justified.congr (h : Justified db) (hgrows : Grows db db')
    (hlinks : db'.links = db.links) (hsettlements : db'.settlements = db.settlements) :
    Justified db' := by
  refine ⟨?_, fun row hrow => ?_, fun link hlink row hrow hid => ?_⟩
  · rw [hsettlements]
    exact h.settled
  · rw [hsettlements] at hrow
    obtain ⟨intent, hintent, hid⟩ := h.stored row hrow
    exact ⟨intent, hgrows.intents hintent, hid⟩
  · rw [hlinks] at hlink
    rw [hsettlements] at hrow
    exact (h.ended link hlink row hrow hid).mono hgrows

/-- The settlement that a statement inserts ends the link that has its intent. -/
def Pays (db : Database) (statement : Statement) : Prop :=
  ∀ row, statement = .insertSettlement row → ∀ link ∈ db.links, row.intentId = link.intentId →
    SettledBy db link row

theorem Justified.of_effect {statement : Statement} (h : Justified db)
    (heffect : Effect statement db db') (hopens : statement.opens = false)
    (hpays : Pays db statement) : Justified db' := by
  have hgrows := Grows.of_effect heffect
  cases heffect with
  | other _ same => exact h.congr hgrows same.links same.settlements
  | intent => cases hopens
  | allocation => cases hopens
  | link => cases hopens
  | shadow => exact h.congr hgrows rfl rfl
  | terminate => exact h.congr hgrows rfl rfl
  | @settlement _ inserted hfresh hstored =>
    refine ⟨keysNodup_append h.settled hfresh, fun row hrow => ?_,
      fun link hlink row hrow hid => ?_⟩
    · rcases List.mem_append.mp hrow with hrow | hrow
      · exact h.stored row hrow
      · rw [List.mem_singleton.mp hrow]
        exact hstored
    · rcases List.mem_append.mp hrow with hrow | hrow
      · exact (h.ended link hlink row hrow hid).mono hgrows
      · obtain rfl := List.mem_singleton.mp hrow
        exact (hpays row rfl link hlink hid).mono hgrows

theorem effect_links {statement : Statement} (heffect : Effect statement db db')
    (hopens : statement.opens = false) : db'.links = db.links := by
  cases heffect with
  | other _ same => exact same.links
  | intent => cases hopens
  | allocation => cases hopens
  | link => cases hopens
  | shadow => rfl
  | terminate => rfl
  | settlement => rfl

theorem Justified.of_batch {statements : List Statement} (h : Justified db)
    (hbatch : (database env.isToday).batch statements db = .ok db')
    (hopens : ∀ statement ∈ statements, statement.opens = false)
    (hpays : ∀ statement ∈ statements, Pays db statement) : Justified db' := by
  induction statements generalizing db with
  | nil =>
    obtain rfl := Except.ok.inj hbatch
    exact h
  | cons statement rest ih =>
    obtain ⟨db₁, hfirst, hrest⟩ := bind_ok_iff.mp hbatch
    have heffect := exec_effect hfirst
    have hopens₁ := hopens statement List.mem_cons_self
    refine ih (h.of_effect heffect hopens₁ (hpays statement List.mem_cons_self)) hrest
      (fun other hmem => hopens other (List.mem_cons_of_mem _ hmem))
      fun other hmem row hrow link hlink hid => ?_
    rw [effect_links heffect hopens₁] at hlink
    exact (hpays other (List.mem_cons_of_mem _ hmem) row hrow link hlink hid).mono
      (Grows.of_effect heffect)

/-- A new intent has no settlement. -/
theorem Justified.of_open {bundle : Bundle} {intent : PaperIntent}
    {evidence : EntryCandidateEvidenceV3} {triggerEpoch : Int} (h : Justified db)
    (hbatch : (database env.isToday).batch
      (openStatements env o drawn bundle intent evidence triggerEpoch) db = .ok db') :
    Justified db' := by
  have hgrows := Grows.of_batch hbatch
  obtain ⟨hfresh, -, rows, -, -, rfl⟩ := openStatements_effect hbatch
  refine ⟨h.settled, fun row hrow => ?_, fun link hlink row hrow hid => ?_⟩
  · obtain ⟨stored, hstored, hsame⟩ := h.stored row hrow
    exact ⟨stored, List.mem_append_left _ hstored, hsame⟩
  · rcases List.mem_append.mp hlink with hlink | hlink
    · exact (h.ended link hlink row hrow hid).mono hgrows
    · obtain ⟨stored, hstored, hsame⟩ := h.stored row hrow
      rw [List.mem_singleton.mp hlink] at hid
      exact absurd (hsame.trans hid) (hfresh stored hstored)

theorem Justified.of_blocks {bundles : List Bundle} {blocks : List (List Statement)}
    (h : Justified db) (hblocks : List.Forall₂ (Authorises env o drawn preflight) bundles blocks)
    (hbatch : (database env.isToday).batch blocks.flatten db = .ok db') : Justified db' := by
  induction hblocks generalizing db with
  | nil =>
    obtain rfl := Except.ok.inj hbatch
    exact h
  | @cons bundle block _ _ hfirst _ ih =>
    rw [List.flatten_cons, Store.batch_append] at hbatch
    obtain ⟨db₁, hblock, hrest⟩ := bind_ok_iff.mp hbatch
    refine ih ?_ hrest
    obtain ⟨shadow, hshadow, rfl⟩ := hfirst
    rw [Store.batch_append] at hblock
    obtain ⟨db₂, hpaper, hblock⟩ := bind_ok_iff.mp hblock
    have hopened : Justified db₂ := by
      obtain hnil | ⟨prepared, triggerEpoch, -, -, hopen⟩ :=
        paperStatements_cases env o drawn preflight bundle
      · rw [hnil] at hpaper
        obtain rfl := Except.ok.inj hpaper
        exact h
      · rw [hopen] at hpaper
        exact h.of_open hpaper
    obtain rfl | ⟨pair, -, -, rfl⟩ := hshadow
    · obtain rfl := Except.ok.inj hblock
      exact hopened
    · rw [Store.batch_singleton] at hblock
      exact hopened.of_effect (exec_effect hblock) rfl fun row hrow => by cases hrow

/-! ## The exits of a batch -/

section Exits

variable {bundle : Bundle} {link : LinkRow} {exit : ExitEvent} {settled : Option SettlementRow}
  {application : Option ApplicationRow} {row : SettlementRow}

theorem mem_paperExitPlan (h : .insertSettlement row ∈
      (paperExitPlan env o drawn exit bundle link settled application).statements) :
    row.intentId = link.intentId ∧ terminalOf exit.exitReason = some row.exitReason ∧
      outcomeRMillis link.toPosition exit.exitReason = some row.outcomeRMillis ∧
      exitIsCausallyEconomic o exit link.toPosition = true ∧
      exitHitsStoredPlan o exit link.toPosition = true := by
  unfold paperExitPlan at h
  split at h
  · split at h
    · exact absurd h List.not_mem_nil
    · exact absurd h List.not_mem_nil
  · split at h
    next terminal outcome hterminal houtcome =>
      split at h
      next happlies =>
        have hrow : row = settlementRow env drawn exit link outcome terminal := by
          simpa [ExitPlan.statements] using h
        rw [hrow]
        exact ⟨rfl, hterminal, houtcome, happlies.1, happlies.2⟩
      next => exact absurd h List.not_mem_nil
    next => exact absurd h List.not_mem_nil

theorem not_mem_shadowExitPlan {shadow : ShadowRow} : .insertSettlement row ∉
    (shadowExitPlan env o drawn exit bundle shadow application).statements := by
  unfold shadowExitPlan
  dsimp only
  split
  · split <;> simp [ExitPlan.statements]
  · split
    · simp [ExitPlan.statements]
    · split <;> simp [ExitPlan.statements]

theorem existingLink_some {setupId : JsString} (h : preflight.existingLink setupId = some link) :
    link ∈ preflight.links ∧ link.setupId = setupId :=
  ⟨List.mem_of_find?_eq_some h, by simpa using List.find?_some h⟩

/-- A settlement of the batch ends a link that the preflight read. -/
theorem plansExit_ends {plan : ExitPlan} (h : PlansExit env o drawn preflight db plan)
    (hrow : .insertSettlement row ∈ plan.statements) :
    ∃ link ∈ preflight.links, row.intentId = link.intentId ∧
      ∃ exit, Ends o link row.exitReason row.outcomeRMillis exit := by
  cases h with
  | nothing => exact absurd hrow List.not_mem_nil
  | shadow => exact absurd hrow not_mem_shadowExitPlan
  | @paper bundle link exit _ settles plans =>
    obtain ⟨settled, application, -, rfl⟩ := plans
    obtain ⟨hid, hterminal, houtcome, heconomic, hhits⟩ := mem_paperExitPlan hrow
    obtain ⟨hlink, hsetup⟩ := existingLink_some settles.found
    exact ⟨link, hlink, hid, exit, settles.exit_mem, settles.setup.trans hsetup.symm, hterminal,
      houtcome, follows_of_economic heconomic, ((exitHitsStoredPlan_iff hterminal).mp hhits).1⟩

end Exits

section Batches

variable {payloadSha256 : String} {plan : Plan} {versions : String × String} {start : Database}

theorem event_stored {exitConflict : Bool}
    (h : (database env.isToday).batch
      (eventStatements env o payloadSha256 drawn preflight exitConflict versions) db = .ok db') :
    ∃ event ∈ db'.events, event.observation = o := by
  rw [eventStatements, Store.batch, bind_ok_iff] at h
  obtain ⟨db₁, -, h⟩ := h
  rw [Store.batch, bind_ok_iff] at h
  obtain ⟨db₂, hevent, hrest⟩ := h
  exact ⟨_, (Grows.of_batch hrest).events (insertEvent_ok hevent).2, rfl⟩

theorem mem_exitStatements {statement : Statement} (h : statement ∈ plan.exitStatements) :
    ∃ exit ∈ plan.exits, statement ∈ exit.statements := by
  unfold Plan.exitStatements at h
  split at h
  · exact absurd h List.not_mem_nil
  · exact List.mem_flatMap.mp h

theorem Justified.of_planned (howned : Owned env db) (h : Justified db)
    (hreviewed : Reviewed env o preflight seen start db)
    (hplan : Planned env o drawn preflight db o.entryBundles plan)
    (hbatch : (database env.isToday).batch
      (statements env o payloadSha256 drawn preflight versions plan) db = .ok db') :
    Justified db' := by
  have howned' := howned.of_planned hplan hbatch
  rw [statements, Store.batch_append, Store.batch_append] at hbatch
  obtain ⟨db₂, hbatch, hexits⟩ := bind_ok_iff.mp hbatch
  obtain ⟨db₁, hevent, hauthorization⟩ := bind_ok_iff.mp hbatch
  obtain ⟨blocks, hblocks, hflatten⟩ := hplan.authorization
  have h₁ : Justified db₁ := by
    apply h.of_batch hevent
    · intro statement hmem
      have hplain := eventStatements_plain statement hmem
      cases statement <;> first | rfl | cases hplain
    · rintro statement hmem row rfl
      cases eventStatements_plain _ hmem
  rw [hflatten] at hauthorization
  have hgrows := Grows.of_batch hauthorization
  refine (h₁.of_blocks hblocks hauthorization).of_batch hexits ?_ ?_
  · intro statement hmem
    have hexit := exitStatements_exits hplan.exits statement hmem
    cases statement <;> first | rfl | cases hexit
  · rintro statement hmem row rfl link hlink hid
    obtain ⟨exit, hexit, hrow⟩ := mem_exitStatements hmem
    obtain ⟨link', hlink', hid', hends⟩ := plansExit_ends (hplan.exits.each exit hexit) hrow
    -- the exits leave the links alone, so both links stand in the last database
    have hlater : Grows db₂ db' := Grows.of_batch hexits
    have hstored : link' ∈ db'.links :=
      hlater.links (hgrows.links ((Grows.of_batch hevent).links (hreviewed.stored hlink')))
    obtain rfl : link' = link :=
      KeysNodup.eq_of_key howned'.linkIntents hstored (hlater.links hlink) (hid'.symm.trans hid)
    obtain ⟨event, hevent, hobservation⟩ := event_stored hevent
    exact ⟨event, hgrows.events hevent, hobservation ▸ hends⟩

end Batches

/-! ## Every timely exit settles its link -/

/-- An exit on a closed bar is applied when the bar opened after the trigger and the evaluation and
reaches one level only. -/
def Timely (o : Observation) (exit : ExitEvent) (position : Position)
    (terminal : Terminal) : Prop :=
  o.isRealtime = true ∨ ∃ bar, o.marketEvent.confirmedBar = some bar ∧
    position.triggerEpoch ≤ bar.openEpoch ∧ position.evaluatedAtEpoch ≤ bar.openEpoch ∧
    ¬Reaches o exit position terminal.other

/-- The observation has a bundle with two candles for the setup of a link. -/
def HasBundle (o : Observation) (link : LinkRow) : Prop :=
  ∃ bundle ∈ o.entryBundles, bundle.setup.setupId = link.setupId ∧
    bundle.setup.liquidityCohort = .twoPlusCandles

/-- The link was settled with an outcome. -/
def Settled (db : Database) (link : LinkRow) (terminal : Terminal) (outcome : Int) : Prop :=
  ∃ row ∈ db.settlements, row.intentId = link.intentId ∧ row.exitReason = terminal ∧
    row.outcomeRMillis = outcome

theorem Settled.mono {link : LinkRow} {terminal : Terminal} {outcome : Int}
    (h : Settled db link terminal outcome) (hgrows : Grows db db') :
    Settled db' link terminal outcome := by
  obtain ⟨row, hrow, hsame⟩ := h
  exact ⟨row, hgrows.settlements hrow, hsame⟩

section Timely

variable {exit : ExitEvent} {position : Position} {terminal : Terminal}

theorem economic_of_timely (hfollows : Follows exit position)
    (htimely : Timely o exit position terminal) :
    exitIsCausallyEconomic o exit position = true := by
  have hafter : eventTupleAfter exit.epoch exit.sequence position.triggerEpoch
      position.triggerSequence = true := by
    rw [eventTupleAfter, decide_eq_true_eq]
    obtain hepoch | ⟨hepoch, hsequence⟩ := hfollows.trigger
    · exact .inl hepoch
    · exact .inr ⟨hepoch.symm, hsequence⟩
  have hevaluated : ¬exit.epoch < position.evaluatedAtEpoch := by
    have := hfollows.evaluation
    omega
  rw [exitIsCausallyEconomic, hafter, decide_eq_false hevaluated]
  obtain hrealtime | ⟨bar, hbar, htrigger, hevaluated, -⟩ := htimely
  · rw [hrealtime]
    rfl
  · rw [hbar]
    simp [htrigger, hevaluated]

theorem hits_of_timely (hreason : terminalOf exit.exitReason = some terminal)
    (hreaches : Reaches o exit position terminal) (htimely : Timely o exit position terminal) :
    exitHitsStoredPlan o exit position = true := by
  rw [exitHitsStoredPlan_iff hreason]
  refine ⟨hreaches, fun hrealtime hbar => ?_⟩
  obtain hrealtime' | ⟨-, -, -, -, hother⟩ := htimely
  · rw [hrealtime] at hrealtime'
    cases hrealtime'
  · exact hother

end Timely

/-- The plan for a timely exit finds the settlement stored, or inserts it. -/
theorem paperExitPlan_settles {bundle : Bundle} {link : LinkRow} {exit : ExitEvent}
    {settled : Option SettlementRow} {application : Option ApplicationRow} {terminal : Terminal}
    {outcome : Int} (hends : Ends o link terminal outcome exit)
    (htimely : Timely o exit link.toPosition terminal)
    (hplan : paperExitPlan env o drawn exit bundle link settled application ≠ .conflict) :
    (∃ row, settled = some row ∧ row.exitReason = terminal ∧ row.outcomeRMillis = outcome) ∨
      .insertSettlement (settlementRow env drawn exit link outcome terminal) ∈
        (paperExitPlan env o drawn exit bundle link settled application).statements := by
  unfold paperExitPlan at hplan ⊢
  rw [hends.reason, hends.outcome] at hplan ⊢
  by_cases hstored : settled.isSome = true ∨ application.isSome = true
  · left
    rw [if_pos hstored] at hplan
    split at hplan
    next hmatches =>
      unfold terminalMatches at hmatches
      rw [hends.reason, hends.outcome] at hmatches
      cases settled with
      | none => cases hmatches
      | some row =>
        cases application with
        | none => cases hmatches
        | some application =>
          simp only [decide_eq_true_eq] at hmatches
          exact ⟨row, rfl, hmatches.1, hmatches.2.1⟩
    next => exact absurd rfl hplan
  · right
    rw [if_neg hstored]
    dsimp only
    rw [if_pos ⟨economic_of_timely hends.follows htimely,
      hits_of_timely hends.reason hends.reaches htimely⟩]
    exact List.mem_cons_self

theorem batch_settlement {statements : List Statement} {row : SettlementRow}
    (h : (database env.isToday).batch statements db = .ok db')
    (hmem : .insertSettlement row ∈ statements) : row ∈ db'.settlements := by
  induction statements generalizing db with
  | nil => exact absurd hmem List.not_mem_nil
  | cons statement rest ih =>
    obtain ⟨db₁, hfirst, hrest⟩ := bind_ok_iff.mp h
    rcases List.mem_cons.mp hmem with rfl | hmem
    · refine (Grows.of_batch hrest).settlements ?_
      cases insertSettlement_effect hfirst with
      | other plain => cases plain
      | settlement => simp
    · exact ih hrest hmem

/-- What a call promises of the links that were stored when it started. -/
def SettlesLinks (env : Env) (o : Observation) (start : Database) :
    Except Error AppendResult → Database → Prop
  | .error _, _ => True
  | .ok result, db => result.inserted = true → reviewedIdentityMatches env o = true →
    ∀ link ∈ start.links, HasBundle o link → ∀ terminal outcome exit,
      Ends o link terminal outcome exit → Timely o exit link.toPosition terminal →
        Settled db link terminal outcome

theorem SettlesLinks.mono {start : Database} {r : Except Error AppendResult}
    (h : SettlesLinks env o start r db) (hgrows : Grows db db') :
    SettlesLinks env o start r db' := by
  cases r with
  | error e => trivial
  | ok result =>
    exact fun hinserted hidentity link hlink hbundle terminal outcome exit hends htimely =>
      (h hinserted hidentity link hlink hbundle terminal outcome exit hends htimely).mono hgrows

theorem Planned.settlesLinks {payloadSha256 : String} {plan : Plan} {versions : String × String}
    {start : Database} (haccepted : o.Accepted) (howned : Owned env db)
    (hreviewed : Reviewed env o preflight seen start db)
    (hplan : Planned env o drawn preflight db o.entryBundles plan)
    (hconflict : plan.exitConflict = false)
    (hbatch : (database env.isToday).batch
      (statements env o payloadSha256 drawn preflight versions plan) db = .ok db')
    (result : AppendResult) : SettlesLinks env o start (.ok result) db' := by
  rintro - hidentity link hlink ⟨bundle, hbundle, hsetup, hcohort⟩ terminal outcome exit
    hends htimely
  have hread : link ∈ preflight.links :=
    hreviewed.complete link hlink (hsetup ▸ List.mem_map_of_mem hbundle)
  have hfound : preflight.existingLink bundle.setup.setupId = some link := by
    cases hfind : preflight.existingLink bundle.setup.setupId with
    | none => exact absurd hsetup.symm (by simpa using List.find?_eq_none.mp hfind link hread)
    | some found =>
      obtain ⟨hmem, hfound⟩ := existingLink_some hfind
      rw [KeysNodup.eq_of_key howned.setups (hreviewed.stored hmem) (hreviewed.stored hread)
        (hfound.trans hsetup)]
  have hsettles : Settles o preflight bundle link exit :=
    { bundle_mem := hbundle
      exit_mem := hends.exit_mem
      setup := hends.setup.trans hsetup.symm
      found := hfound
      cohort := by simp [hcohort]
      role := by
        rw [haccepted.role, if_neg]
        exact fun hlength => List.ne_nil_of_mem hends.exit_mem (List.length_eq_zero_iff.mp hlength)
      identity := hreviewed.identity.trans hidentity }
  obtain ⟨exitPlan, hmem, settled, application, hsettled, rfl⟩ :=
    hplan.exits.covers bundle hbundle link exit hsettles
  have hnot : paperExitPlan env o drawn exit bundle link settled application ≠ .conflict := by
    intro heq
    rw [heq] at hmem
    simp [Plan.exitConflict, hmem] at hconflict
  obtain ⟨row, hrow, hreason, houtcome⟩ | hinsert := paperExitPlan_settles hends htimely hnot
  · obtain ⟨hrow, hid⟩ := hsettled row hrow
    exact ⟨row, (Grows.of_batch hbatch).settlements hrow, hid, hreason, houtcome⟩
  · have hstatement : .insertSettlement (settlementRow env drawn exit link outcome terminal) ∈
        statements env o payloadSha256 drawn preflight versions plan := by
      rw [statements, Plan.exitStatements, hconflict]
      exact List.mem_append_right _ (List.mem_flatMap.mpr ⟨_, hmem, hinsert⟩)
    exact ⟨_, batch_settlement hbatch hstatement, rfl, rfl, rfl⟩

/-! ## Runs -/

/-- The links of a database keep their settlements in order. -/
def Orderly (env : Env) (db : Database) : Prop := Owned env db ∧ Justified db

theorem serve_safe {request : Request} (hreceived : request.Received env) (start : Database) :
    (request.serve env).Safe (Orderly env) Grows (always request)
      (fun r _ => SettlesLinks env request.observation start r) [] start := by
  obtain ⟨raw, hraw⟩ := hreceived
  have haccepted := validateEntryV3Payload_ok hraw
  apply append_safe
  · exact fun _ _ => trivial
  · intro result db hinserted hinserted'
    rw [hinserted] at hinserted'
    cases hinserted'
  · exact fun _ _ _ h hgrows => h.mono hgrows
  · intro drawn preflight plan versions seen s s' _ hreviewed hplan horderly _ hbatch
    refine ⟨⟨horderly.1.of_planned hplan hbatch,
      horderly.2.of_planned horderly.1 hreviewed hplan hbatch⟩, fun hconflict result => ?_⟩
    exact hplan.settlesLinks haccepted horderly.1 hreviewed hconflict hbatch result

theorem orderly_of_empty {s : Database} (h : Empty s) : Orderly env s := by
  refine ⟨⟨?_, ?_, h.intents, h.allocations, ?_, ?_⟩, h.settled, h.settlements, ?_⟩
  · rw [h.links]
    exact List.nodup_nil
  · rw [h.links]
    exact List.nodup_nil
  · simp [h.links]
  · simp [h.links]
  · simp [h.links]

/-- Every call of a reachable world is safe, whatever it promises. -/
theorem reachable_orderly {w : World env} (h : (calls env always).Reachable w) :
    w.Safe (Request.Received env) (Orderly env) Grows always fun _ _ _ => True := by
  refine Jobs.World.reachable_safe (R := Grows) ?_ Grows.refl (fun _ _ _ => Grows.trans) ?_ ?_ h
  · exact fun s hs => orderly_of_empty hs
  · exact fun _ _ _ _ _ _ => trivial
  · exact fun request hreceived s _ => (serve_safe hreceived s).mono fun _ _ _ _ => trivial

/-- The world in which a request has just arrived. -/
def arrived (w : World env) (request : Request) : World env :=
  { w with calls := w.calls ++ [(request, request.serve env)] }

/-- The settlements of the links in any interleaving of calls. -/
theorem exits_settle_links {w : World env} (h : (calls env always).Reachable w) :
    (∀ link ∈ w.state.links,
      (w.state.settlements.filter (·.intentId = link.intentId)).length ≤ 1 ∧
        ∀ row ∈ w.state.settlements, row.intentId = link.intentId →
          SettledBy w.state link row) ∧
    (∀ request w' result, request.Received env →
      reviewedIdentityMatches env request.observation = true →
      (calls env always).Run (arrived w request) w' → w'.answer w.calls.length = some result →
      result.inserted = true →
      ∀ link ∈ w.state.links, HasBundle request.observation link → ∀ terminal outcome exit,
        Ends request.observation link terminal outcome exit →
        Timely request.observation exit link.toPosition terminal →
        Settled w'.state link terminal outcome) ∧
    (∀ position outcome, outcomeRMillis position .stopLoss = some outcome ↔ outcome = -1000) ∧
    ∀ position outcome, (position.entryTicks - position.stopTicks).natAbs ≤ 2 ^ 39 →
      (outcomeRMillis position .target = some outcome ↔
        position.entryTicks ≠ position.stopTicks ∧
          (position.targetTicks - position.entryTicks).natAbs * 1000 /
            (position.entryTicks - position.stopTicks).natAbs ≤ 10000 ∧
          outcome = ((position.targetTicks - position.entryTicks).natAbs * 1000 /
            (position.entryTicks - position.stopTicks).natAbs : Nat)) := by
  have hsafe := reachable_orderly h
  refine ⟨fun link hlink => ⟨?_, ?_⟩, ?_, ?_, ?_⟩
  · exact KeysNodup.filter_length_le hsafe.1.2.settled link.intentId
  · exact hsafe.1.2.ended link hlink
  · intro request w' result hreceived hidentity hrun hanswer hinserted
    have hstep : (calls env always).step (.arrive request) w (arrived w request) := ⟨hreceived, rfl⟩
    have hsafe' := reachable_orderly (h.snoc hstep)
    have hcall : (arrived w request).calls[w.calls.length]? =
      some (request, request.serve env) := by
      simp [arrived]
    have hserve : (request.serve env).Safe (Orderly env) Grows (always request)
        (fun r _ => SettlesLinks env request.observation w.state r)
        ((arrived w request).noted w.calls.length) w.state := by
      rw [show (arrived w request).noted = w.noted from rfl, hsafe.unused _ (Nat.le_refl _)]
      exact serve_safe hreceived w.state
    obtain ⟨p, hget, hp⟩ := Jobs.World.run_call_safe (R := Grows) Grows.refl
      (fun _ _ _ => Grows.trans)
      (fun _ _ _ _ _ _ => trivial)
      (fun request hreceived s _ => (serve_safe hreceived s).mono fun _ _ _ _ => trivial)
      (P := SettlesLinks env request.observation w.state)
      (fun _ _ _ hr hgrows => hr.mono hgrows) hsafe' hcall hserve hrun
    rw [Jobs.World.answer, hget] at hanswer
    obtain rfl := Job.answer_eq_some.mp hanswer
    exact hp hinserted hidentity
  · intro position outcome
    simp [outcomeRMillis, eq_comm]
  · intro position outcome hsmall
    exact targetRMillis_eq_some_iff hsmall

/-! ## A stop on the first bar and on a later one -/

namespace Sample

/-- The link that the entry opens. -/
def link : LinkRow :=
  { setupId := "setup-1", direction := .long, triggerEpoch := 1700000400, triggerSequence := 0
    evaluatedAtEpoch := 1700000401, entryTicks := 111, stopTicks := 90, targetTicks := 153
    selectionId := rowId "event-1" "selection"
    intentId := "rd-entry-v3:b433d22264e16c64eb0909786f28e8a1423bcf0139fa466fbe461690bb62eeca"
    createdAt := "2023-11-14T22:20:02.000Z" }

def exitRequest (openEpoch : Int) : Request := request (exitObservation openEpoch) "receipt-3"

/-- The world after the exit was served. -/
def exited (openEpoch : Int) : World environment :=
  (steps 1 11).foldl (Jobs.World.next (Request.serve environment))
    (arrived (run opening) (exitRequest openEpoch))

/-- The exit is served, and its row is inserted. -/
def inserts (openEpoch : Int) : Prop :=
  reviewedIdentityMatches environment (exitObservation openEpoch) = true ∧
    (arrived (run opening) (exitRequest openEpoch)).permits (Request.serve environment) unchecked
      (steps 1 11) = true ∧
    ((exited openEpoch).answer 1).any (·.inserted) = true

instance instDecidableInserts (openEpoch : Int) : Decidable (inserts openEpoch) :=
  inferInstanceAs (Decidable (_ ∧ _ ∧ _))

/-- One evaluation of the runs. -/
theorem evaluated :
    (initial.permits (Request.serve environment) unchecked opening = true ∧
      (run opening).state.links = [link]) ∧
    inserts 1700000700 ∧ inserts 1700000400 ∧ (exited 1700000400).state.settlements = [] := by
  decide +kernel

theorem opening_links : (run opening).state.links = [link] := evaluated.1.2

theorem opening_reachable : (calls environment always).Reachable (run opening) := by
  refine Jobs.World.schedule_reachable (initial_reachable _) unchecked_always ?_ evaluated.1.1
  intro request hrequest
  rcases List.mem_cons.mp hrequest with h | h
  · cases h
    exact received _ (.inl rfl)
  · cases List.eq_of_mem_replicate h

theorem exited_run {openEpoch : Int}
    (hpermits : (arrived (run opening) (exitRequest openEpoch)).permits (Request.serve environment)
      unchecked (steps 1 11) = true) :
    (calls environment always).Run (arrived (run opening) (exitRequest openEpoch))
      (exited openEpoch) := by
  refine Jobs.World.schedule_run unchecked_always (fun request hrequest => ?_) hpermits
  cases List.eq_of_mem_replicate hrequest

/-- The stop ends the link. -/
theorem exit_ends {openEpoch : Int} (h : 1700000400 ≤ openEpoch) :
    Ends (exitObservation openEpoch) link .stop (-1000)
      ⟨"exit-1", "setup-1", .stopLoss, openEpoch + 300, 0, 91⟩ := by
  refine ⟨List.mem_singleton_self _, rfl, rfl, rfl, ⟨.inl ?_, ?_⟩, ?_⟩
  · show 1700000400 < openEpoch + 300
    omega
  · show 1700000401 ≤ openEpoch + 300
    omega
  · show (89 : Int) ≤ 90
    decide

end Sample

theorem sample_exit_settles :
    (calls Sample.environment always).Reachable (Sample.run Sample.opening) ∧
      Settled (Sample.exited 1700000700).state Sample.link .stop (-1000) := by
  refine ⟨Sample.opening_reachable, ?_⟩
  obtain ⟨-, ⟨hidentity, hpermits, hinserted⟩, -⟩ := Sample.evaluated
  obtain ⟨result, hanswer, hinserted⟩ := (Option.any_eq_true _ _).mp hinserted
  refine (exits_settle_links Sample.opening_reachable).2.1 (Sample.exitRequest 1700000700) _ result
    ⟨_, Sample.laterExit_ok⟩ hidentity (Sample.exited_run hpermits) hanswer hinserted Sample.link
    (Sample.opening_links ▸ List.mem_singleton_self _) ?_ .stop _ _
    (Sample.exit_ends (by decide)) ?_
  · exact ⟨Sample.eligibleBundle, List.mem_singleton_self _, rfl, rfl⟩
  · refine .inr ⟨_, rfl, by decide, by decide, ?_⟩
    show ¬(153 : Int) ≤ 112
    decide

/-- The stop on the bar right after the entry is stored, and the link stays open. -/
theorem first_bar_leaves_link_open :
    (calls Sample.environment always).Reachable (Sample.run Sample.opening) ∧
      (Sample.exitRequest 1700000400).Received Sample.environment ∧
      reviewedIdentityMatches Sample.environment (Sample.exitObservation 1700000400) = true ∧
      (calls Sample.environment always).Run
        (arrived (Sample.run Sample.opening) (Sample.exitRequest 1700000400))
        (Sample.exited 1700000400) ∧
      ((Sample.exited 1700000400).answer 1).any (·.inserted) = true ∧
      Sample.link ∈ (Sample.run Sample.opening).state.links ∧
      HasBundle (Sample.exitObservation 1700000400) Sample.link ∧
      (∃ exit, Ends (Sample.exitObservation 1700000400) Sample.link .stop (-1000) exit) ∧
      (Sample.exited 1700000400).state.settlements = [] := by
  obtain ⟨-, -, ⟨hidentity, hpermits, hinserted⟩, hopen⟩ := Sample.evaluated
  refine ⟨Sample.opening_reachable, ⟨_, Sample.firstExit_ok⟩, hidentity,
    Sample.exited_run hpermits, hinserted, Sample.opening_links ▸ List.mem_singleton_self _, ?_,
    ⟨_, Sample.exit_ends (by decide)⟩, hopen⟩
  exact ⟨Sample.eligibleBundle, List.mem_singleton_self _, rfl, rfl⟩

end TradeOps.EntryV3
