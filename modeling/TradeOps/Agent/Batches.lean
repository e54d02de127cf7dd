import TradeOps.Agent.Outcomes

/-!
# Batches of events

What `Append` is called with, and what its loop over the candidates finds: nothing in a batch of new
events, and in a batch that was appended before the stored events one after the other.
-/

namespace TradeOps.Agent

open Prog TelemetryState

/-- The arguments of `Append`. -/
structure Batch where
  candidates : List AppendCandidate
  arena : Bytes
  ends : List Nat
  capture : Bytes
  captureSchema : Text

/-- The payloads of an arena. -/
def slices (arena : Bytes) : Nat → List Nat → List Bytes
  | _, [] => []
  | first, last :: rest => slice arena first last :: slices arena last rest

/-- The candidates with their payloads. -/
def Batch.events (b : Batch) : List (AppendCandidate × Bytes) :=
  b.candidates.zip (slices b.arena 0 b.ends)

/-- The ends grow up to the size of the arena. -/
def Cuts (size : Nat) : Nat → List Nat → Prop
  | first, [] => first = size
  | first, last :: rest => first < last ∧ Cuts size last rest

/-- The event has another id, and it is not the same revision of the same deal. -/
def AppendCandidate.Differs (c : AppendCandidate) (eventId dealId : Text) (revision : Nat) : Prop :=
  eventId ≠ c.eventId ∧ ¬ (c.dealId ≠ dash ∧ dealId = c.dealId ∧ revision = c.revision)

/-- What is checked of a candidate and its payload alone. -/
structure ValidCandidate (A : TelemetryState) (p : AppendCandidate × Bytes) : Prop where
  candidate : appendCandidateValid p.1 = true
  size : p.2.length ≤ payloadMax
  sha : localHash A.sha p.2 = some p.1.recordSha
  event : EventOk A p

/-- The stored event of a candidate. -/
structure Retains (A : TelemetryState) (d : Disk) (p : AppendCandidate × Bytes) (r : LocalRef) :
    Prop where
  eventId : r.eventId = p.1.eventId
  recordSha : r.recordSha = p.1.recordSha
  dealId : r.dealId = p.1.dealId
  revision : r.revision = p.1.revision
  payload : A.payloadAt d r = some p.2

/-- The events of a batch are valid and differ from each other. -/
structure Batch.Sound (A : TelemetryState) (b : Batch) : Prop where
  count : b.candidates.length ≤ maxBatch
  ends : b.ends.length = b.candidates.length
  cuts : Cuts b.arena.length 0 b.ends
  valid : ∀ p ∈ b.events, ValidCandidate A p
  distinct : b.candidates.Pairwise fun c c' => c'.Differs c.eventId c.dealId c.revision

/-- They also differ from the events of a state. -/
structure Batch.New (A : TelemetryState) (state : LocalState) (b : Batch) : Prop
    extends b.Sound A where
  fresh : ∀ c ∈ b.candidates, ∀ e ∈ state.events, c.Differs e.eventId e.dealId e.revision

variable {A : TelemetryState} {m : Fields} {d : Disk} {arena : Bytes} {c : AppendCandidate}
  {candidates : List AppendCandidate} {first last : Nat} {ends : List Nat} {replay : Replay}

theorem Cuts.le {size : Nat} (h : Cuts size first ends) : first ≤ size := by
  induction ends generalizing first with
  | nil => exact Nat.le_of_eq h
  | cons last rest ih =>
    have hrest := ih h.2
    have hfirst := h.1
    omega

theorem length_slices (arena : Bytes) (first : Nat) (ends : List Nat) :
    (slices arena first ends).length = ends.length := by
  induction ends generalizing first with
  | nil => rfl
  | cons last rest ih => rw [slices, List.length_cons, List.length_cons, ih]

theorem Batch.Sound.map_fst {b : Batch} (h : b.Sound A) :
    b.events.map Prod.fst = b.candidates := by
  apply List.map_fst_zip
  rw [length_slices, h.ends]

theorem Batch.Sound.length {b : Batch} (h : b.Sound A) :
    b.events.length = b.candidates.length := by
  rw [← h.map_fst, List.length_map]

theorem length_slices_pos {size : Nat} (hsize : size ≤ arena.length)
    (hcuts : Cuts size first ends) :
    ∀ payload ∈ slices arena first ends, 1 ≤ payload.length := by
  induction ends generalizing first with
  | nil => exact fun payload hpayload => absurd hpayload List.not_mem_nil
  | cons last rest ih =>
    intro payload hpayload
    have hlast := hcuts.2.le
    have hfirst := hcuts.1
    rcases List.mem_cons.mp hpayload with rfl | hpayload
    · rw [slice, List.length_take, List.length_drop]
      omega
    · exact ih hcuts.2 payload hpayload

/-- A payload is not empty, and not too long. -/
theorem Batch.Sound.size {b : Batch} (h : b.Sound A) :
    ∀ p ∈ b.events, 1 ≤ p.2.length ∧ p.2.length ≤ payloadMax := by
  intro p hp
  have hmem : p.2 ∈ slices b.arena 0 b.ends := (List.of_mem_zip hp).2
  exact ⟨length_slices_pos (Nat.le_refl _) h.cuts p.2 hmem, (h.valid p hp).size⟩

/-! ## A batch of new events -/

theorem findEvent_none {events : List LocalRef} {eventId : Text}
    (h : ∀ e ∈ events, e.eventId ≠ eventId) : findEvent events eventId = none := by
  rw [findEvent, List.find?_eq_none]
  intro p hp
  rw [List.mem_zipIdx_iff_getElem?] at hp
  rw [decide_eq_true_eq]
  exact h p.1 (List.mem_of_getElem? hp)

/-- A turn of the loop, when what it asks of the stored events holds. -/
theorem appendStep_of_match {matched : Replay}
    (hvalid : ValidCandidate A (c, slice arena replay.previous last))
    (hfirst : replay.previous < last) (hlast : last ≤ arena.length)
    (hdeals : ∀ e ∈ m.state.events, c.dealId ≠ dash → e.dealId = c.dealId →
      e.revision = c.revision → e.eventId = c.eventId)
    (hapart : ∀ p ∈ replay.accepted, c.Differs p.1.eventId p.1.dealId p.1.revision)
    (hmatch : (A.matchStored c (slice arena replay.previous last) replay).Ends A.host m d
      matched m d) (haccepted : matched.accepted = replay.accepted) :
    (A.appendStep arena c last replay).Ends A.host m d
      { matched with
        previous := last
        accepted := replay.accepted ++ [(c, slice arena replay.previous last)] } m d := by
  have hcandidate : decide (appendCandidateValid c ∧ replay.previous < last ∧
      last ≤ arena.length) = true := by
    rw [decide_eq_true_eq]
    exact ⟨hvalid.candidate, hfirst, hlast⟩
  have hpayload : decide ((slice arena replay.previous last).length ≤ payloadMax ∧
      localHash A.sha (slice arena replay.previous last) = some c.recordSha) = true := by
    rw [decide_eq_true_eq]
    exact ⟨hvalid.size, hvalid.sha⟩
  have hrevisions : (!m.state.events.any fun e => c.dealId ≠ dash ∧ e.dealId = c.dealId ∧
      e.revision = c.revision ∧ e.eventId ≠ c.eventId) = true := by
    rw [Bool.not_eq_true', List.any_eq_false]
    intro e he
    rw [decide_eq_true_eq]
    rintro ⟨hdeal, hsame, hrevision, hother⟩
    exact hother (hdeals e he hdeal hsame hrevision)
  have hothers : (!matched.accepted.any fun p => p.1.eventId = c.eventId ∨
      (c.dealId ≠ dash ∧ p.1.dealId = c.dealId ∧ p.1.revision = c.revision)) = true := by
    rw [haccepted, Bool.not_eq_true', List.any_eq_false]
    intro p hp
    rw [decide_eq_true_eq, not_or]
    exact hapart p hp
  rw [← haccepted]
  simp only [appendStep, ends_bind, ends_fields, ends_require]
  exact ⟨m, m, d, ⟨rfl, rfl, rfl⟩, (), m, d, ⟨hcandidate, rfl, rfl⟩, (), m, d, ⟨hpayload, rfl, rfl⟩,
    (), m, d, ⟨hvalid.event, rfl, rfl⟩, (), m, d, ⟨hrevisions, rfl, rfl⟩, matched, m, d, hmatch,
    (), m, d, ⟨hothers, rfl, rfl⟩, ends_pure.mpr ⟨rfl, rfl, rfl⟩⟩

theorem appendStep_new (hvalid : ValidCandidate A (c, slice arena replay.previous last))
    (hfirst : replay.previous < last) (hlast : last ≤ arena.length)
    (hfresh : ∀ e ∈ m.state.events, c.Differs e.eventId e.dealId e.revision)
    (hapart : ∀ p ∈ replay.accepted, c.Differs p.1.eventId p.1.dealId p.1.revision) :
    (A.appendStep arena c last replay).Ends A.host m d
      { replay with
        previous := last
        sawNew := true
        accepted := replay.accepted ++ [(c, slice arena replay.previous last)] } m d := by
  have hnone : findEvent m.state.events c.eventId = none :=
    findEvent_none fun e he => (hfresh e he).1
  have hmatch : (A.matchStored c (slice arena replay.previous last) replay).Ends A.host m d
      { replay with sawNew := true } m d := by
    simp only [matchStored, ends_bind, ends_fields]
    refine ⟨m, m, d, ⟨rfl, rfl, rfl⟩, ?_⟩
    rw [hnone]
    exact ends_pure.mpr ⟨rfl, rfl, rfl⟩
  apply appendStep_of_match hvalid hfirst hlast ?_ hapart hmatch rfl
  intro e he hdeal hsame hrevision
  exact absurd ⟨hdeal, hsame, hrevision⟩ (hfresh e he).2

/-- The loop passes a batch in which nothing is stored. -/
theorem appendLoop_new (hlength : ends.length = candidates.length)
    (hcuts : Cuts arena.length replay.previous ends)
    (hvalid : ∀ p ∈ candidates.zip (slices arena replay.previous ends), ValidCandidate A p)
    (hfresh : ∀ c ∈ candidates, ∀ e ∈ m.state.events, c.Differs e.eventId e.dealId e.revision)
    (hapart : ∀ c ∈ candidates, ∀ p ∈ replay.accepted,
      c.Differs p.1.eventId p.1.dealId p.1.revision)
    (hdistinct : candidates.Pairwise fun c c' => c'.Differs c.eventId c.dealId c.revision) :
    ∃ sawNew, (A.appendLoop arena (candidates.zip ends) replay).Ends A.host m d
      { replay with
        previous := arena.length
        sawNew := sawNew
        accepted := replay.accepted ++
          candidates.zip (slices arena replay.previous ends) } m d := by
  induction candidates generalizing ends replay with
  | nil =>
    obtain rfl : ends = [] := List.eq_nil_of_length_eq_zero hlength
    refine ⟨replay.sawNew, ends_pure.mpr ⟨?_, rfl, rfl⟩⟩
    have hprevious : replay.previous = arena.length := hcuts
    rw [← hprevious, List.zip_nil_left, List.append_nil]
  | cons c rest ih =>
    cases ends with
    | nil => simp at hlength
    | cons last ends =>
      obtain ⟨hfirst, hcuts⟩ := hcuts
      rw [slices, List.zip_cons_cons] at hvalid ⊢
      rw [List.pairwise_cons] at hdistinct
      have hstep := appendStep_new (m := m) (d := d) (hvalid _ List.mem_cons_self) hfirst hcuts.le
        (hfresh c List.mem_cons_self) (hapart c List.mem_cons_self)
      obtain ⟨sawNew, hrest⟩ := @ih ends { replay with
          previous := last
          sawNew := true
          accepted := replay.accepted ++ [(c, slice arena replay.previous last)] }
        (by simpa using hlength) hcuts (fun p hp => hvalid p (List.mem_cons_of_mem _ hp))
        (fun c' hc' => hfresh c' (List.mem_cons_of_mem _ hc')) (by
          intro c' hc' p hp
          rcases List.mem_append.mp hp with hp | hp
          · exact hapart c' (List.mem_cons_of_mem _ hc') p hp
          · rw [List.mem_singleton.mp hp]
            exact hdistinct.1 c' hc') hdistinct.2
      refine ⟨sawNew, ?_⟩
      rw [appendLoop, ends_bind]
      refine ⟨_, m, d, hstep, ?_⟩
      rw [List.append_assoc] at hrest
      exact hrest

/-! ## A batch that is stored -/

theorem findEvent_some {events : List LocalRef} {r : LocalRef} {i : Nat}
    (hids : (events.map (·.eventId)).Nodup) (h : events[i]? = some r) :
    findEvent events r.eventId = some (r, i) := by
  rw [findEvent]
  cases hfind : events.zipIdx.find? fun p => p.1.eventId = r.eventId with
  | none =>
    rw [List.find?_eq_none] at hfind
    have hmem : (r, i) ∈ events.zipIdx := List.mem_zipIdx_iff_getElem?.mpr h
    exact absurd (decide_eq_true rfl) (hfind _ hmem)
  | some p =>
    have hp := List.mem_zipIdx_iff_getElem?.mp (List.mem_of_find?_eq_some hfind)
    have hid : p.1.eventId = r.eventId := by simpa using List.find?_some hfind
    have hlong : i < (events.map (·.eventId)).length := by
      rw [List.length_map]
      exact (List.getElem?_eq_some_iff.mp h).1
    have hplace : i = p.2 := by
      apply (List.getElem?_inj hlong hids).mp
      rw [List.getElem?_map, List.getElem?_map, h, hp, Option.map_some, Option.map_some, hid]
    subst hplace
    rw [h] at hp
    rw [Option.some.inj hp]

/-- The events of a valid state differ. -/
theorem events_differ {state : LocalState} (h : localStateValid state = true) :
    (state.events.map (·.eventId)).Nodup ∧
      ∀ e ∈ state.events, ∀ f ∈ state.events, f.dealId ≠ dash → e.dealId = f.dealId →
        e.revision = f.revision → e.eventId = f.eventId := by
  have hevents := (localStateValid_iff.mp h).2.2.2.1
  simp only [LocalState.eventsValid, decide_eq_true_eq] at hevents
  have hpairs := hevents.2.2
  constructor
  · rw [List.Nodup, List.pairwise_map]
    refine hpairs.imp ?_
    intro e f hef
    simp only [LocalState.eventsDiffer, decide_eq_true_eq] at hef
    exact hef.2.1
  · intro e he f hf hdeal hsame hrevision
    obtain ⟨i, hi, rfl⟩ := List.mem_iff_getElem.mp he
    obtain ⟨j, hj, rfl⟩ := List.mem_iff_getElem.mp hf
    rw [List.pairwise_iff_getElem] at hpairs
    rcases Nat.lt_trichotomy i j with hlt | rfl | hlt
    · have hapart := hpairs i j hi hj hlt
      simp only [LocalState.eventsDiffer, decide_eq_true_eq] at hapart
      exact absurd ⟨by rw [hsame]; exact hdeal, hsame, hrevision⟩ hapart.2.2
    · rfl
    · have hapart := hpairs j i hj hi hlt
      simp only [LocalState.eventsDiffer, decide_eq_true_eq] at hapart
      exact absurd ⟨hdeal, hsame.symm, hrevision.symm⟩ hapart.2.2

/-- What the loop has found in a batch whose events are stored from this place on. -/
structure Matched (start : Nat) (replay : Replay) : Prop where
  prefixCount : replay.prefixCount = replay.accepted.length
  replayStart : replay.replayStart = if replay.accepted = [] then none else some start
  sawNew : replay.sawNew = false

theorem Matched.getD {start : Nat} (h : Matched start replay) :
    replay.replayStart.getD start = start := by
  rw [h.replayStart]
  split <;> rfl

theorem matchStored_stored {r : LocalRef} {start : Nat} {payload : Bytes} (hgranted : A.Granted m d)
    (hids : (m.state.events.map (·.eventId)).Nodup) (hmatched : Matched start replay)
    (hat : m.state.events[start + replay.accepted.length]? = some r)
    (hretains : Retains A d (c, payload) r) (hevent : EventOk A (c, payload)) :
    (A.matchStored c payload replay).Ends A.host m d
      { replay with
        prefixCount := replay.prefixCount + 1
        replayStart := some start } m d := by
  have hfind : findEvent m.state.events c.eventId = some (r, start + replay.accepted.length) := by
    have hfound := findEvent_some hids hat
    rwa [hretains.eventId] at hfound
  have hstart : replay.replayStart.getD (start + replay.accepted.length) = start := by
    rw [hmatched.replayStart]
    by_cases hempty : replay.accepted = []
    · rw [if_pos hempty, hempty]
      rfl
    · rw [if_neg hempty]
      rfl
  have hevent : A.validator.event payload r.eventId r.recordSha r.dealId r.revision A.identity =
      true := by
    rw [hretains.eventId, hretains.recordSha, hretains.dealId, hretains.revision]
    exact hevent
  simp only [matchStored, ends_bind, ends_fields]
  refine ⟨m, m, d, ⟨rfl, rfl, rfl⟩, ?_⟩
  rw [hfind]
  simp only [ends_bind, ends_require, readPresent_ends, hstart, decide_eq_true_eq]
  exact ⟨(), m, d, ⟨by rw [hmatched.sawNew]; rfl, rfl, rfl⟩, (), m, d, ⟨trivial, rfl, rfl⟩, (), m,
    d, ⟨⟨hretains.recordSha, hretains.dealId, hretains.revision⟩, rfl, rfl⟩, payload, m, d,
    ⟨hgranted, hretains.payload, rfl, rfl⟩, (), m, d, ⟨⟨rfl, hevent⟩, rfl, rfl⟩,
    ends_pure.mpr ⟨rfl, rfl, rfl⟩⟩

theorem appendStep_stored {r : LocalRef} {start : Nat} (hgranted : A.Granted m d)
    (hstate : localStateValid m.state = true) (hmatched : Matched start replay)
    (hvalid : ValidCandidate A (c, slice arena replay.previous last))
    (hfirst : replay.previous < last) (hlast : last ≤ arena.length)
    (hat : m.state.events[start + replay.accepted.length]? = some r)
    (hretains : Retains A d (c, slice arena replay.previous last) r)
    (hapart : ∀ p ∈ replay.accepted, c.Differs p.1.eventId p.1.dealId p.1.revision) :
    (A.appendStep arena c last replay).Ends A.host m d
      { replay with
        previous := last
        prefixCount := replay.prefixCount + 1
        replayStart := some start
        accepted := replay.accepted ++ [(c, slice arena replay.previous last)] } m d := by
  obtain ⟨hids, hdiffer⟩ := events_differ hstate
  apply appendStep_of_match hvalid hfirst hlast ?_ hapart
    (matchStored_stored hgranted hids hmatched hat hretains hvalid.event) rfl
  intro e he hdeal hsame hrevision
  rw [← hretains.eventId]
  apply hdiffer e he r (List.mem_of_getElem? hat)
  · rw [hretains.dealId]
    exact hdeal
  · rw [hretains.dealId]
    exact hsame
  · rw [hretains.revision]
    exact hrevision

/-- The loop finds the stored events of a batch, whatever stands after them. -/
theorem appendLoop_stored {start : Nat} {stored more : List LocalRef} (hgranted : A.Granted m d)
    (hstate : localStateValid m.state = true) (hmatched : Matched start replay)
    (hlength : ends.length = candidates.length)
    (hcuts : Cuts arena.length replay.previous ends)
    (hvalid : ∀ p ∈ candidates.zip (slices arena replay.previous ends), ValidCandidate A p)
    (hdrop : m.state.events.drop (start + replay.accepted.length) = stored ++ more)
    (hretains : List.Forall₂ (Retains A d)
      (candidates.zip (slices arena replay.previous ends)) stored)
    (hapart : ∀ c ∈ candidates, ∀ p ∈ replay.accepted,
      c.Differs p.1.eventId p.1.dealId p.1.revision)
    (hdistinct : candidates.Pairwise fun c c' => c'.Differs c.eventId c.dealId c.revision) :
    ∃ final, (A.appendLoop arena (candidates.zip ends) replay).Ends A.host m d final m d ∧
      Matched start final ∧ final.previous = arena.length ∧
      final.accepted = replay.accepted ++ candidates.zip (slices arena replay.previous ends) := by
  induction candidates generalizing ends replay stored with
  | nil =>
    obtain rfl : ends = [] := List.eq_nil_of_length_eq_zero hlength
    refine ⟨replay, ends_pure.mpr ⟨rfl, rfl, rfl⟩, hmatched, hcuts, ?_⟩
    rw [List.zip_nil_left, List.append_nil]
  | cons c rest ih =>
    cases ends with
    | nil => simp at hlength
    | cons last ends =>
      obtain ⟨hfirst, hcuts⟩ := hcuts
      rw [slices, List.zip_cons_cons] at hvalid hretains ⊢
      rw [List.pairwise_cons] at hdistinct
      cases stored with
      | nil => cases hretains
      | cons r stored =>
        rw [List.forall₂_cons] at hretains
        have hat : m.state.events[start + replay.accepted.length]? = some r := by
          have hhead := congrArg List.head? hdrop
          rwa [List.head?_drop] at hhead
        have hstep := appendStep_stored hgranted hstate hmatched (hvalid _ List.mem_cons_self)
          hfirst hcuts.le hat hretains.1 (hapart c List.mem_cons_self)
        have hnext : Matched start { replay with
            previous := last
            prefixCount := replay.prefixCount + 1
            replayStart := some start
            accepted := replay.accepted ++ [(c, slice arena replay.previous last)] } := by
          refine ⟨?_, ?_, hmatched.sawNew⟩
          · simp only [List.length_append, List.length_singleton, hmatched.prefixCount]
          · simp
        obtain ⟨final, hrest, hfinal, hprevious, haccepted⟩ := ih hnext (by simpa using hlength)
          hcuts (fun p hp => hvalid p (List.mem_cons_of_mem _ hp)) (by
            simp only [List.length_append, List.length_singleton]
            rw [← Nat.add_assoc, ← List.tail_drop, hdrop, List.cons_append, List.tail_cons])
          hretains.2 (by
            intro c' hc' p hp
            rcases List.mem_append.mp hp with hp | hp
            · exact hapart c' (List.mem_cons_of_mem _ hc') p hp
            · rw [List.mem_singleton.mp hp]
              exact hdistinct.1 c' hc') hdistinct.2
        refine ⟨final, ?_, hfinal, hprevious, ?_⟩
        · rw [appendLoop, ends_bind]
          exact ⟨_, m, d, hstep, hrest⟩
        · rw [haccepted, List.append_assoc]
          rfl

end TradeOps.Agent
