import TradeOps.Agent.Staging

/-!
# Histories

The generations that were published, newest first. Each follows the one before it by a transition.
A record that some of them name has one reference in all of them, since it was made with the
generation that names it first; so have the acknowledgements and the requests that they answer.
-/

namespace TradeOps.Agent

open TelemetryState

/-- A generation that was published. -/
structure Generation where
  state : LocalState
  commit : LocalCommit
  commitSha : Text

/-- A generation was published on another. -/
structure Extends (g g' : Generation) : Prop where
  valid : localStateValid g'.state = true
  later : g.state.generation < g'.state.generation
  follows : ∃ m : Fields, m.state = g.state ∧ m.commitSha = g.commitSha ∧
    Follows m g'.commit.transition g'.state

/-- The generation that starts a store. -/
structure First (A : TelemetryState) (g : Generation) : Prop where
  valid : localStateValid g.state = true
  transition : g.commit.transition = .init
  state : ∃ registrationSha captureSha captureSchema,
    g.state = A.initialState registrationSha captureSha captureSchema

inductive Lineage (A : TelemetryState) : List Generation → Prop where
  | first {g : Generation} (h : First A g) : Lineage A [g]
  | next {g g' : Generation} {rest : List Generation} (h : Lineage A (g :: rest))
      (hnext : Extends g g') : Lineage A (g' :: g :: rest)

namespace Lineage

variable {A : TelemetryState} {g g' head : Generation} {hist : List Generation}

theorem valid (h : Lineage A hist) (hg : g ∈ hist) : localStateValid g.state = true := by
  induction h with
  | first hfirst =>
    rw [List.mem_singleton.mp hg]
    exact hfirst.valid
  | next h hnext ih =>
    rcases List.mem_cons.mp hg with rfl | hg
    · exact hnext.valid
    · exact ih hg

/-- What holds at first, and what each transition hands on, holds of every generation. -/
theorem induction_on {P : List Generation → Generation → Prop} (h : Lineage A hist)
    (hfirst : ∀ g, First A g → P [g] g)
    (hnext : ∀ g g' rest, Lineage A (g :: rest) → Extends g g' → P (g :: rest) g →
      P (g' :: g :: rest) g')
    (hmono : ∀ g g' rest, P rest g → P (g' :: rest) g) : ∀ g ∈ hist, P hist g := by
  induction h with
  | first h =>
    intro g hg
    rw [List.mem_singleton.mp hg]
    exact hfirst _ h
  | next h hstep ih =>
    intro g hg
    rcases List.mem_cons.mp hg with rfl | hg
    · exact hnext _ _ _ h hstep (ih _ List.mem_cons_self)
    · exact hmono _ _ _ (ih g hg)

theorem generation_lt (h : Lineage A (head :: hist)) (hg : g ∈ hist) :
    g.state.generation < head.state.generation := by
  induction hist generalizing head with
  | nil => exact absurd hg List.not_mem_nil
  | cons previous rest ih =>
    cases h with
    | next h hnext =>
      rcases List.mem_cons.mp hg with rfl | hg
      · exact hnext.later
      · exact lt_trans (ih h hg) hnext.later

theorem generation_le (h : Lineage A (head :: hist)) (hg : g ∈ head :: hist) :
    g.state.generation ≤ head.state.generation := by
  rcases List.mem_cons.mp hg with rfl | hg
  · exact le_refl _
  · exact le_of_lt (h.generation_lt hg)

/-- A generation has one number. -/
theorem eq_of_generation (h : Lineage A hist) (hg : g ∈ hist) (hg' : g' ∈ hist)
    (heq : g.state.generation = g'.state.generation) : g = g' := by
  induction h with
  | first hfirst => rw [List.mem_singleton.mp hg, List.mem_singleton.mp hg']
  | next h hnext ih =>
    have hlast := Lineage.next h hnext
    rcases List.mem_cons.mp hg with rfl | hold
    · rcases List.mem_cons.mp hg' with rfl | hold'
      · rfl
      · have := hlast.generation_lt hold'
        omega
    · rcases List.mem_cons.mp hg' with rfl | hold'
      · have := hlast.generation_lt hold
        omega
      · exact ih hold hold'

/-- A record was made with the generation that its reference says. -/
theorem born (h : Lineage A hist) : ∀ g ∈ hist, ∀ r ∈ objectRefs g.state,
    ∃ g₀ ∈ hist, g₀.state.generation = r.generation ∧ r ∈ objectRefs g₀.state := by
  refine h.induction_on (P := fun hist g => ∀ r ∈ objectRefs g.state, ∃ g₀ ∈ hist,
    g₀.state.generation = r.generation ∧ r ∈ objectRefs g₀.state) ?_ ?_ ?_
  · intro g hfirst r hr
    refine ⟨g, List.mem_singleton_self g, ?_, hr⟩
    have hnamed := named_of_valid hfirst.valid hr
    have hpositive := hnamed.valid
    simp only [localRefValid, counter, decide_eq_true_eq] at hpositive
    obtain ⟨registrationSha, captureSha, captureSchema, hstate⟩ := hfirst.state
    have hone : g.state.generation = 1 := by rw [hstate]; rfl
    have hle := hnamed.generation
    omega
  · intro g g' rest h hnext ih r hr
    obtain ⟨m, hm, -, hfollows⟩ := hnext.follows
    rcases hfollows.objectRefs hr with hold | hnew
    · rw [hm] at hold
      obtain ⟨g₀, hg₀, hgeneration, hmem⟩ := ih r hold
      exact ⟨g₀, List.mem_cons_of_mem g' hg₀, hgeneration, hmem⟩
    · exact ⟨g', List.mem_cons_self, hnew.symm, hr⟩
  · intro g g' rest ih r hr
    obtain ⟨g₀, hg₀, hrest⟩ := ih r hr
    exact ⟨g₀, List.mem_cons_of_mem g' hg₀, hrest⟩

/-- A record has one reference in all generations. -/
theorem ref_unique (h : Lineage A hist) (hg : g ∈ hist) (hg' : g' ∈ hist) {r q : LocalRef}
    (hr : r ∈ objectRefs g.state) (hq : q ∈ objectRefs g'.state)
    (heq : refLocator r = refLocator q) : r = q := by
  obtain ⟨g₀, hg₀, hgeneration, hr₀⟩ := h.born g hg r hr
  obtain ⟨g₁, hg₁, hgeneration₁, hq₁⟩ := h.born g' hg' q hq
  have hsame : r.generation = q.generation := by
    rw [refLocator_of_object (named_of_valid (h.valid hg) hr).object,
      refLocator_of_object (named_of_valid (h.valid hg') hq).object] at heq
    exact congrArg Locator.generation heq
  have hone : g₀ = g₁ := h.eq_of_generation hg₀ hg₁ (by omega)
  subst hone
  exact eq_of_refLocator (h.valid hg₀) hr₀ hq₁ heq

/-- One account and one registration. -/
theorem same_identity (h : Lineage A (head :: hist)) : ∀ g ∈ head :: hist,
    g.state.identity = head.state.identity ∧ g.state.registration = head.state.registration := by
  generalize hall : head :: hist = all at h
  induction h generalizing head hist with
  | @first g hfirst =>
    intro g' hg'
    rw [List.cons.injEq] at hall
    rw [List.mem_singleton.mp hg', hall.1]
    exact ⟨rfl, rfl⟩
  | @next g g' rest h hnext ih =>
    rw [List.cons.injEq] at hall
    obtain ⟨rfl, rfl⟩ := hall
    obtain ⟨m, hm, -, hfollows⟩ := hnext.follows
    intro g₁ hg₁
    rcases List.mem_cons.mp hg₁ with rfl | hg₁
    · exact ⟨rfl, rfl⟩
    · rw [hfollows.identity, hfollows.registration, hm]
      exact ih rfl g₁ hg₁

/-- A capture was made with the schema that goes with it. -/
theorem capture_born (h : Lineage A hist) : ∀ g ∈ hist, ∃ g₀ ∈ hist,
    g₀.state.generation = g.state.capture.generation ∧
      g₀.state.captureSchema = g.state.captureSchema := by
  refine h.induction_on (P := fun hist g => ∃ g₀ ∈ hist,
    g₀.state.generation = g.state.capture.generation ∧
      g₀.state.captureSchema = g.state.captureSchema) ?_ ?_ ?_
  · intro g hfirst
    refine ⟨g, List.mem_singleton_self g, ?_, rfl⟩
    obtain ⟨registrationSha, captureSha, captureSchema, hstate⟩ := hfirst.state
    rw [hstate]
    rfl
  · intro g g' rest h hnext ih
    obtain ⟨m, hm, -, hfollows⟩ := hnext.follows
    rcases hfollows.capture with hnew | ⟨hsame, hschema⟩
    · exact ⟨g', List.mem_cons_self, hnew.symm, rfl⟩
    · rw [hm] at hsame hschema
      obtain ⟨g₀, hg₀, hgeneration, hold⟩ := ih
      exact ⟨g₀, List.mem_cons_of_mem g' hg₀, by rw [hsame]; exact hgeneration,
        by rw [hschema]; exact hold⟩
  · rintro g g' rest ⟨g₀, hg₀, hrest⟩
    exact ⟨g₀, List.mem_cons_of_mem g' hg₀, hrest⟩

theorem schema_unique (h : Lineage A hist) (hg : g ∈ hist) (hg' : g' ∈ hist)
    (heq : g.state.capture = g'.state.capture) :
    g.state.captureSchema = g'.state.captureSchema := by
  obtain ⟨g₀, hg₀, hgeneration, hschema⟩ := h.capture_born g hg
  obtain ⟨g₁, hg₁, hgeneration₁, hschema₁⟩ := h.capture_born g' hg'
  have hone : g₀ = g₁ := h.eq_of_generation hg₀ hg₁ (by rw [hgeneration, hgeneration₁, heq])
  rw [← hschema, ← hschema₁, hone]

/-- What the state of an acknowledgement says about the request that it answers. -/
structure Origin (hist : List Generation) (s : LocalState) (g₀ : Generation) : Prop where
  mem : g₀ ∈ hist
  waits : g₀.state.pending.kind ≠ .absent
  sha : g₀.state.pending.sha = s.ackPendingSha
  sequence : g₀.state.pending.sequence = s.ackRequest
  older : g₀.state.pending.generation < s.ack.generation

/-- An acknowledgement answers a request that waited. -/
theorem ack_origin (h : Lineage A hist) : ∀ g ∈ hist, g.state.ack.kind ≠ .absent →
    ∃ g₀, Origin hist g.state g₀ := by
  refine h.induction_on (P := fun hist g => g.state.ack.kind ≠ .absent →
    ∃ g₀, Origin hist g.state g₀) ?_ ?_ ?_
  · intro g hfirst hack
    obtain ⟨registrationSha, captureSha, captureSchema, hstate⟩ := hfirst.state
    rw [hstate] at hack
    exact absurd rfl hack
  · intro g g' rest h hnext ih hack
    obtain ⟨m, hm, -, hfollows⟩ := hnext.follows
    rcases hfollows.ack_cases with ⟨htransition, hnew⟩ | ⟨hother, hsame⟩
    · rw [htransition] at hfollows
      generalize hs : g'.state = s at hfollows hnew
      cases hfollows with
      | ack sha acceptedAt hwaits =>
        rw [hm] at hwaits
        have hvalid := h.valid List.mem_cons_self
        have hpending := pending_of_valid hvalid hwaits
        have hrequest := (localStateValid_iff.mp hvalid).2.2.2.2.1
        simp only [LocalState.pendingValid, if_neg hwaits, decide_eq_true_eq] at hrequest
        refine ⟨g, by simp, hwaits, ?_, ?_, ?_⟩
        · show g.state.pending.sha = m.state.pending.sha
          rw [hm]
        · show g.state.pending.sequence = m.state.pendingRequest
          rw [hm]
          exact hrequest.2.2.2.2.2.1
        · have hlater := hnext.later
          have hle := hpending.1.generation
          rw [hnew, ← hs]
          omega
    · have hkeep := hfollows.sameAck hother
      rw [hm] at hkeep
      rw [hkeep.ack] at hack
      obtain ⟨g₀, hmem, hwaits, hsha, hsequence, holder⟩ := ih hack
      exact ⟨g₀, List.mem_cons_of_mem g' hmem, hwaits, by rw [hkeep.ackPendingSha]; exact hsha,
        by rw [hkeep.ackRequest]; exact hsequence, by rw [hkeep.ack]; exact holder⟩
  · intro g g' rest ih hack
    obtain ⟨g₀, horigin⟩ := ih hack
    exact ⟨g₀, List.mem_cons_of_mem g' horigin.mem, horigin.waits, horigin.sha,
      horigin.sequence, horigin.older⟩

/-- An acknowledgement was made with what goes with it. -/
theorem ack_born (h : Lineage A hist) : ∀ g ∈ hist, g.state.ack.kind ≠ .absent →
    ∃ g₀ ∈ hist, g₀.state.generation = g.state.ack.generation ∧
      g₀.state.ackPendingSha = g.state.ackPendingSha := by
  refine h.induction_on (P := fun hist g => g.state.ack.kind ≠ .absent →
    ∃ g₀ ∈ hist, g₀.state.generation = g.state.ack.generation ∧
      g₀.state.ackPendingSha = g.state.ackPendingSha) ?_ ?_ ?_
  · intro g hfirst hack
    obtain ⟨registrationSha, captureSha, captureSchema, hstate⟩ := hfirst.state
    rw [hstate] at hack
    exact absurd rfl hack
  · intro g g' rest h hnext ih hack
    obtain ⟨m, hm, -, hfollows⟩ := hnext.follows
    rcases hfollows.ack_cases with ⟨-, hnew⟩ | ⟨hother, hsame⟩
    · exact ⟨g', List.mem_cons_self, hnew.symm, rfl⟩
    · have hkeep := hfollows.sameAck hother
      rw [hm] at hkeep
      rw [hkeep.ack] at hack
      obtain ⟨g₀, hg₀, hgeneration, hold⟩ := ih hack
      exact ⟨g₀, List.mem_cons_of_mem g' hg₀, by rw [hkeep.ack]; exact hgeneration,
        by rw [hkeep.ackPendingSha]; exact hold⟩
  · intro g g' rest ih hack
    obtain ⟨g₀, hg₀, hrest⟩ := ih hack
    exact ⟨g₀, List.mem_cons_of_mem g' hg₀, hrest⟩

theorem ackPendingSha_unique (h : Lineage A hist) (hg : g ∈ hist) (hg' : g' ∈ hist)
    (hack : g.state.ack.kind ≠ .absent) (heq : g.state.ack = g'.state.ack) :
    g.state.ackPendingSha = g'.state.ackPendingSha := by
  obtain ⟨g₀, hg₀, hgeneration, hsha⟩ := h.ack_born g hg hack
  rw [heq] at hack
  obtain ⟨g₁, hg₁, hgeneration₁, hsha₁⟩ := h.ack_born g' hg' hack
  have hone : g₀ = g₁ := h.eq_of_generation hg₀ hg₁ (by rw [hgeneration, hgeneration₁, heq])
  rw [← hsha, ← hsha₁, hone]

/-- After these transitions a request waits. -/
theorem waits (h : Lineage A (g' :: g :: hist))
    (ht : g'.commit.transition = .prepare ∨ g'.commit.transition = .replace) :
    g'.state.pending.kind ≠ .absent := by
  cases h with
  | next h hnext =>
    obtain ⟨m, -, -, hfollows⟩ := hnext.follows
    generalize hs : g'.state = s at hfollows
    rcases ht with ht | ht
    · rw [ht] at hfollows
      cases hfollows with
      | prepare c sha => exact RefKind.noConfusion
    · rw [ht] at hfollows
      cases hfollows with
      | replace sha bodySha => exact RefKind.noConfusion

/-- What was accepted and what was produced never becomes less. -/
theorem counters_le (h : Lineage A (head :: hist)) : ∀ g ∈ head :: hist,
    g.state.acceptedRequest ≤ head.state.acceptedRequest ∧
      g.state.acceptedEvent ≤ head.state.acceptedEvent ∧
      g.state.produced ≤ head.state.produced := by
  generalize hall : head :: hist = all at h
  induction h generalizing head hist with
  | @first g hfirst =>
    intro g' hg'
    rw [List.cons.injEq] at hall
    rw [List.mem_singleton.mp hg', hall.1]
    exact ⟨le_refl _, le_refl _, le_refl _⟩
  | @next g g' rest h hnext ih =>
    rw [List.cons.injEq] at hall
    obtain ⟨rfl, rfl⟩ := hall
    obtain ⟨m, hm, -, hfollows⟩ := hnext.follows
    have hvalid : localStateValid m.state = true := by
      rw [hm]
      exact h.valid List.mem_cons_self
    have hproduced := hfollows.produced_le
    have haccepted := hfollows.accepted hvalid
    rw [hm] at hproduced haccepted
    intro g₁ hg₁
    rcases List.mem_cons.mp hg₁ with rfl | hg₁
    · exact ⟨le_refl _, le_refl _, le_refl _⟩
    · obtain ⟨hrequest, hevent, hbelow⟩ := ih rfl g₁ hg₁
      rcases haccepted with ⟨-, hsame, hsame'⟩ | ⟨-, -, hmore, -, hmore', -⟩
      · exact ⟨by omega, by omega, by omega⟩
      · exact ⟨by omega, by omega, by omega⟩

/-- The parent of a generation. -/
theorem parent (h : Lineage A (g' :: g :: hist)) :
    g'.state.parentGeneration = g.state.generation ∧ g'.state.parentCommit = g.commitSha := by
  cases h with
  | next h hnext =>
    obtain ⟨m, hm, hsha, hfollows⟩ := hnext.follows
    rw [hfollows.parentGeneration, hfollows.parentCommit, hm, hsha]
    exact ⟨rfl, rfl⟩

theorem tail (h : Lineage A (g' :: g :: hist)) : Lineage A (g :: hist) := by
  cases h with
  | next h hnext => exact h

/-- Only the first generation has no parent. -/
theorem parent_zero (h : Lineage A (g :: hist)) :
    g.state.parentGeneration = 0 ↔ hist = [] := by
  cases h with
  | first hfirst =>
    obtain ⟨registrationSha, captureSha, captureSchema, hstate⟩ := hfirst.state
    rw [hstate]
    exact iff_of_true rfl rfl
  | next h hnext =>
    refine iff_of_false ?_ (List.cons_ne_nil _ _)
    rw [(Lineage.next h hnext).parent.1]
    have hcounter := (readable_of_valid (h.valid List.mem_cons_self)).generation
    simp only [counter, decide_eq_true_eq] at hcounter
    omega

end Lineage

end TradeOps.Agent
