import TradeOps.Agent.Beginning
import TradeOps.Lib.Runs

/-!
# Runs of the agent's state

A world is the object that the agent holds and the storage below it. A step calls one operation,
with a script of what goes wrong, or ends the process; the next process starts with a new object.
Every reachable store is unborn or live: `Held`.
-/

namespace TradeOps.Agent

open Prog TelemetryState

/-! ## Operations -/

/-- The calls of `CTov2TelemetryState`. -/
inductive Op where
  | openSession
  | recover
  | initializeNew (registration capture : Bytes) (captureSchema : Text)
  | append (candidates : List AppendCandidate) (arena : Bytes) (ends : List Nat) (capture : Bytes)
      (captureSchema : Text)
  | readCaptureContext
  | readOutboxContext
  | readPending
  | preparePending (adapter : OutboxAdapter) (candidate : OutboxCandidate) (request : Bytes)
  | acceptResponse (adapter : OutboxAdapter) (response : Bytes)
  | replaceRejected (adapter : OutboxAdapter) (rejection replacement : Bytes) (bodySha : Text)
  | publishDiagnostic (completeness : Completeness) (namedError : LocalError)
  | compact

/-- What a call returns besides its status. -/
@[reducible] def Op.Reply : Op → Type
  | openSession => Unit
  | recover => Bool
  | initializeNew _ _ _ => Unit
  | append _ _ _ _ _ => List Nat
  | readCaptureContext => OutboxContext × Bytes × Bytes
  | readOutboxContext => OutboxContext × Bytes × Bytes × List Nat
  | readPending => Bytes
  | preparePending _ _ _ => Bytes
  | acceptResponse _ _ => Unit
  | replaceRejected _ _ _ _ => Bytes
  | publishDiagnostic _ _ => Unit
  | compact => Unit

def Op.prog (A : TelemetryState) : (op : Op) → Act op.Reply
  | openSession => A.openSession
  | recover => A.recover
  | initializeNew registration capture captureSchema =>
    A.initializeNew registration capture captureSchema
  | append candidates arena ends capture captureSchema =>
    A.append candidates arena ends capture captureSchema
  | readCaptureContext => A.readCaptureContext
  | readOutboxContext => A.readOutboxContext
  | readPending => A.readPending
  | preparePending adapter candidate request => A.preparePending adapter candidate request
  | acceptResponse adapter response => A.acceptResponse adapter response
  | replaceRejected adapter rejection replacement bodySha =>
    A.replaceRejected adapter rejection replacement bodySha
  | publishDiagnostic completeness namedError => A.publishDiagnostic completeness namedError
  | compact => A.compact

/-- The transitions that a call may publish. -/
def Op.transitions : Op → List Transition
  | append _ _ _ _ _ => [.append]
  | preparePending _ _ _ => [.prepare]
  | acceptResponse _ _ => [.ack]
  | replaceRejected _ _ _ _ => [.replace]
  | publishDiagnostic _ _ => [.diagnostic]
  | compact => [.checkpoint]
  | _ => []

/-! ## Worlds -/

/-- The object that is in use, and the storage. -/
structure World where
  fields : Fields
  disk : Disk

namespace World

/-- A new process: its object is new, and the lock of the last one is released. -/
def restart (w : World) : World := ⟨.initial, { w.disk with owner := none }⟩

/-- One call with a script of faults. -/
def call (A : TelemetryState) (w : World) (op : Op) (script : List storage.Event) :
    Trace Status op.Reply Fields Disk :=
  run A.host script (op.prog A) w.fields w.disk

/-- The world after a call; a call that was stopped ends the process. -/
def after (A : TelemetryState) (w : World) (op : Op) (script : List storage.Event) : World :=
  match (w.call A op script).exit with
  | .stopped => restart ⟨(w.call A op script).fields, (w.call A op script).state⟩
  | _ => ⟨(w.call A op script).fields, (w.call A op script).state⟩

/-- `Close`. -/
def close (A : TelemetryState) (w : World) : World where
  fields := { Fields.initial with highestObserved := w.fields.highestObserved }
  disk :=
    match w.fields.session with
    | some session => if w.fields.isOpen then (A.host (.close session) w.disk).2 else w.disk
    | none => w.disk

end World

inductive Label where
  | call (op : Op) (script : List storage.Event)
  | close
  | restart

def Label.next (A : TelemetryState) (w : World) : Label → World
  | call op script => w.after A op script
  | close => w.close A
  | restart => w.restart

/-- The agent over a new storage. -/
def sessions (A : TelemetryState) : System World Label where
  init w := w = ⟨.initial, .empty⟩
  step l w w' := w' = l.next A w

/-! ## The store does not depend on who holds it -/

/-- The records are the same. -/
structure SameStore (d d' : Disk) : Prop where
  files : d'.files = d.files
  written : d'.written = d.written

theorem SameStore.refl (d : Disk) : SameStore d d := ⟨rfl, rfl⟩

variable {A : TelemetryState} {m m' : Fields} {d d' d₁ : Disk} {hist rest : List Generation}
  {current : Generation}

theorem Unborn.same (h : Unborn A d) (hsame : SameStore d d') : Unborn A d' := by
  obtain ⟨files, written, key, owner, serial⟩ := d'
  obtain ⟨rfl, rfl⟩ := hsame
  exact ⟨⟨⟨h.archived.sound.1, h.archived.sound.2, h.archived.sound.3, h.archived.sound.4⟩,
    h.archived.kept, h.archived.keys, h.archived.placed, h.archived.highest⟩, h.kept, h.commits⟩

theorem SameStore.find (h : SameStore d d') (l : Locator) : d'.find l = d.find l := by
  rw [Disk.find, Disk.find, h.files]

theorem SameStore.archive (h : SameStore d d') (l : Locator) :
    d'.archive.find l = d.archive.find l := by
  show Keyed.lookup StoredRecord.locator d'.written l =
      Keyed.lookup StoredRecord.locator d.written l
  rw [h.written]

theorem SameStore.archived (h : SameStore d d') (harchived : d.Archived A.sha) :
    d'.Archived A.sha := by
  obtain ⟨files, written, key, owner, serial⟩ := d'
  obtain ⟨rfl, rfl⟩ := h
  exact ⟨⟨harchived.sound.1, harchived.sound.2, harchived.sound.3, harchived.sound.4⟩,
    harchived.kept, harchived.keys, harchived.placed, harchived.highest⟩

theorem Retiring.same {current previous : LocalState} {g : Generation}
    (h : Retiring A d current previous g) (hlive : Live A d hist) (hlive' : d'.Archived A.sha)
    (hsame : SameStore d d') : Retiring A d' current previous g := by
  have hfind : ∀ {l : Locator} {f : StoredRecord}, d.find l = some f → d'.find l = some f := by
    intro l f hf
    rw [hsame.find, hf]
  have hdistinct' : Disk.Distinct A.sha d'.files := by
    rw [hsame.files]
    exact hlive.distinctFiles
  cases h with
  | remains h =>
    refine .remains ⟨h.data.transfer (fun f hf => hfind hf) (fun f hf => hfind hf), ?_, ?_⟩
    · intro r hr
      rcases h.refs r hr with hverified | hgone
      · exact .inl (hverified.transfer hlive.sound hlive.distinctFiles hlive'.sound hdistinct'
          (fun f hf => hfind hf) (fun _ _ _ _ _ hf => hfind hf))
      · exact .inr ⟨by rw [hsame.find]; exact hgone.absent, hgone.eligible⟩
    · intro hwitness hack
      rcases h.witness hwitness hack with ⟨l, payload, hat⟩ | ⟨hnone, habsent⟩
      · exact .inl ⟨l, payload, hat.transfer (fun f hf => hfind hf) rfl rfl⟩
      · refine .inr ⟨?_, by rw [hsame.find]; exact habsent⟩
        rw [hsame.files]
        exact hnone
  | headless hstate hcommit =>
    exact .headless (by rw [hsame.find]; exact hstate) (hcommit.transfer fun f hf => hfind hf)
  | gone hstate hcommit =>
    exact .gone (by rw [hsame.find]; exact hstate) (by rw [hsame.find]; exact hcommit)

theorem Live.same (h : Live A d hist) (hsame : SameStore d d') : Live A d' hist := by
  have hfind : ∀ {l : Locator} {f : StoredRecord}, d.find l = some f → d'.find l = some f := by
    intro l f hf
    rw [hsame.find, hf]
  have harchive : ∀ {l : Locator} {f : StoredRecord},
      d.archive.find l = some f → d'.archive.find l = some f := by
    intro l f hf
    rw [hsame.archive, hf]
  have harchived := hsame.archived h.archived
  have hdistinct : Disk.Distinct A.sha d'.written := by
    rw [hsame.written]
    exact h.distinct
  have hstands : ∀ {g : Generation}, Stands A d g → Stands A d' g := fun hg =>
    hg.transfer h.sound h.distinctFiles harchived.sound (harchived.distinct hdistinct)
      fun _ _ _ hf => hfind hf
  refine ⟨harchived, hdistinct, h.lineage, ?_, ?_, ?_, ?_, ?_, ?_⟩
  · exact fun g hg => (h.data g hg).transfer (fun f hf => harchive hf) (fun f hf => harchive hf)
  · intro g hg r hr
    obtain ⟨payload, hpayload⟩ := h.refs g hg r hr
    exact ⟨payload, payloadAt_transfer hpayload fun f hf => harchive hf⟩
  · rw [hsame.written]
    exact h.commits
  · exact fun heq => hstands (h.current heq)
  · exact fun heq => hstands (h.parent heq)
  · exact fun heq => (h.retired heq).same h harchived hsame

/-! ## Opening -/

/-- The store with a new owner. -/
def Disk.held (d : Disk) (key : Text) : Disk :=
  { d with installationKey := some key, owner := some (d.serial + 1), serial := d.serial + 1 }

theorem openSession_visits (h : A.openSession.Visits A.host m d d₁) :
    d₁ = d ∨ ∃ key, A.installationKey = some key ∧ digest key = true ∧
      d₁ = d.held key ∧ (d.installationKey = none ∨ d.installationKey = some key) := by
  rcases visits_bind h with hread | ⟨_, m₁, d₂, hfields, h₁⟩
  · exact .inl (only_fields.visits (Disk.host_reads A.sha) hread)
  obtain ⟨rfl, rfl, rfl⟩ := ends_fields.mp hfields
  cases hkey : A.installationKey with
  | none =>
    rw [hkey] at h₁
    exact .inl h₁
  | some key =>
    rw [hkey] at h₁
    rcases visits_bind h₁ with hread | ⟨_, m₁, d₂, hcheck, h₂⟩
    · exact .inl ((readOnly_require _ _).visits hread)
    obtain ⟨-, rfl, rfl⟩ := ends_require.mp hcheck
    have hacquire : d₁ = d ∨ d₁ = (d.acquire key).2 := by
      rcases visits_bind h₂ with hfirst | ⟨session, m₁, d₂, hends, hrest⟩
      · exact visits_call.mp hfirst
      · obtain ⟨hhost, rfl⟩ := ends_call.mp hends
        have hlast := ReadOnly.visits (only_update _) hrest
        right
        have hstate : (d.acquire key) = (.ok session, d₂) := hhost
        rw [hlast, hstate]
    rcases hacquire with rfl | rfl
    · exact .inl rfl
    unfold Disk.acquire
    split
    · exact .inl rfl
    next hdigest =>
      split
      · exact .inl rfl
      next hsame =>
        split
        · exact .inl rfl
        · refine .inr ⟨key, rfl, by simpa using hdigest, rfl, ?_⟩
          by_cases hnone : d.installationKey = none
          · exact .inl hnone
          · refine .inr ?_
            by_contra hne
            exact hsame ⟨hnone, hne⟩

/-- A new process opens the store of the installation. -/
theorem openSession_ends {key : Text} (hkey : A.installationKey = some key)
    (hdigest : digest key = true)
    (hsame : d.installationKey = none ∨ d.installationKey = some key) (howner : d.owner = none) :
    A.openSession.Ends A.host .initial d ()
      { Fields.initial with session := some (d.serial + 1), isOpen := true }
      (d.held key) := by
  simp only [openSession, ends_bind, ends_fields]
  refine ⟨_, _, d, ⟨rfl, rfl, rfl⟩, ?_⟩
  rw [hkey]
  simp only [ends_bind, ends_require, ends_update]
  refine ⟨(), _, d, ⟨rfl, rfl, rfl⟩, d.serial + 1, _, _, ends_call.mpr ⟨?_, rfl⟩, rfl, rfl⟩
  have hfree : ¬ (d.installationKey ≠ none ∧ d.installationKey ≠ some key) := by
    rintro ⟨hnone, hne⟩
    exact hsame.elim hnone hne
  show d.acquire key = _
  unfold Disk.acquire
  rw [if_neg (by simp [hdigest]), if_neg hfree, if_neg (by simp [howner])]
  rfl

/-! ## Every call -/

theorem same_held (d : Disk) (key : Text) : SameStore d (d.held key) := ⟨rfl, rfl⟩

theorem openSession_same (h : A.openSession.Visits A.host m d d₁) : SameStore d d₁ := by
  rcases openSession_visits h with rfl | ⟨key, -, -, rfl, -⟩
  · exact SameStore.refl d₁
  · exact same_held d key

theorem SameStore.grows (h : SameStore d d') : Grows d d' :=
  ⟨[], by rw [h.written, List.append_nil], by simp⟩

/-- Wherever a call is stopped, the store has the root of before, or the root with which the
completed call ends. -/
theorem Op.atomic (op : Op) (hv : A.validator.Stable) (hlive : Live A d (current :: rest))
    (hdistinct : Disk.Distinct A.sha d₁.written) (h : (op.prog A).Visits A.host m d d₁) :
    Atomic A op.transitions (op.prog A) m d d₁ current rest := by
  have hread : ∀ {α : Type} {ts : List Transition} {p : Act α}, ReadOnly p →
      p.Visits A.host m d d₁ → Atomic A ts p m d d₁ current rest := by
    intro α ts p hp h
    rw [hp.visits h]
    exact ⟨Grows.refl d, .inl hlive⟩
  cases op with
  | openSession =>
    have hsame := openSession_same h
    exact ⟨hsame.grows, .inl (hlive.same hsame)⟩
  | recover => exact hread readOnly_recover h
  | initializeNew registration capture captureSchema =>
    rw [initializeNew_live hlive h]
    exact ⟨Grows.refl d, .inl hlive⟩
  | append candidates arena ends capture captureSchema =>
    exact (append_outcome hv hlive hdistinct h).atomic
  | readCaptureContext => exact hread readOnly_readCaptureContext h
  | readOutboxContext => exact hread readOnly_readOutboxContext h
  | readPending => exact hread readOnly_readPending h
  | preparePending adapter candidate request =>
    exact (preparePending_outcome hv hlive hdistinct h).atomic
  | acceptResponse adapter response => exact (acceptResponse_outcome hv hlive hdistinct h).atomic
  | replaceRejected adapter rejection replacement bodySha =>
    exact (replaceRejected_outcome hv hlive hdistinct h).atomic
  | publishDiagnostic completeness namedError =>
    exact (publishDiagnostic_outcome hv hlive hdistinct h).atomic
  | compact => exact compact_atomic hv hlive hdistinct h

/-- Without a root, only a first generation or a new owner makes a difference. -/
theorem Op.rootless (op : Op) (hrootless : Rootless A d)
    (h : (op.prog A).Visits A.host m d d₁) :
    d₁ = d ∨ op = .openSession ∨
      ∃ registration capture captureSchema,
        op = .initializeNew registration capture captureSchema := by
  cases op with
  | openSession => exact .inr (.inl rfl)
  | recover => exact .inl (readOnly_recover.visits h)
  | initializeNew registration capture captureSchema => exact .inr (.inr ⟨_, _, _, rfl⟩)
  | append candidates arena ends capture captureSchema => exact .inl (hrootless.checked h)
  | readCaptureContext => exact .inl (readOnly_readCaptureContext.visits h)
  | readOutboxContext => exact .inl (readOnly_readOutboxContext.visits h)
  | readPending => exact .inl (readOnly_readPending.visits h)
  | preparePending adapter candidate request =>
    exact .inl (visits_blocked readOnly_freshOutboxRoot (fun _ _ _ => hrootless.freshOutboxRoot) h)
  | acceptResponse adapter response =>
    exact .inl (visits_blocked readOnly_freshOutboxRoot (fun _ _ _ => hrootless.freshOutboxRoot) h)
  | replaceRejected adapter rejection replacement bodySha =>
    exact .inl (visits_blocked readOnly_freshOutboxRoot (fun _ _ _ => hrootless.freshOutboxRoot) h)
  | publishDiagnostic completeness namedError => exact .inl (hrootless.checked h)
  | compact => exact .inl (hrootless.checked h)

/-! ## The invariant -/

/-- The store is that of the installation. -/
def Disk.Keyed (A : TelemetryState) (d : Disk) : Prop :=
  (d.installationKey = none ∧ d.owner = none ∧ d.files = []) ∨
    ∃ key, A.installationKey = some key ∧ digest key = true ∧ d.installationKey = some key

/-- A store with this history, newest first. -/
structure Held (A : TelemetryState) (d : Disk) (hist : List Generation) : Prop where
  store : (hist = [] ∧ Unborn A d) ∨ Live A d hist
  keyed : d.Keyed A

/-- The key of a store never changes. -/
theorem host_installationKey (sha : Sha256) (c : StorageCall) (d : Disk)
    (h : d.installationKey ≠ none) : (Disk.host sha c d).2.installationKey = d.installationKey := by
  cases c with
  | revalidate session => rw [Disk.host_reads sha (.revalidate session) trivial]
  | inventory session => rw [Disk.host_reads sha (.inventory session) trivial]
  | read session l => rw [Disk.host_reads sha (.read session l) trivial]
  | acquire key =>
    simp only [Disk.host, Disk.acquire]
    split
    · rfl
    · split
      · rfl
      next hsame =>
        split
        · rfl
        · by_contra hne
          exact hsame ⟨h, fun heq => hne heq.symm⟩
  | createExact session l bytes =>
    simp only [Disk.host]
    split
    · rfl
    · split
      · unfold Disk.createExact
        split
        · split <;> rfl
        · rfl
      · rfl
  | deleteExact session l expectedSha =>
    simp only [Disk.host]
    split
    · rfl
    · split
      · unfold Disk.deleteExact
        split
        · split
          · split <;> rfl
          · rfl
        · rfl
      · rfl
  | close session =>
    simp only [Disk.host]
    split <;> rfl

theorem visits_installationKey {α : Type} {p : Act α} (h : p.Visits A.host m d d₁)
    (hkey : d.installationKey ≠ none) : d₁.installationKey = d.installationKey :=
  visits_rel (R := fun s t : Disk => s.installationKey ≠ none →
    t.installationKey = s.installationKey)
    (fun _ _ => rfl) (fun hst htu hs => by rw [htu (by rw [hst hs]; exact hs), hst hs])
    (host_installationKey A.sha) h hkey

theorem Disk.Keyed.visits (op : Op) (hkeyed : d.Keyed A)
    (h : (op.prog A).Visits A.host m d d₁) : d₁.Keyed A := by
  rcases hkeyed with ⟨hnone, howner, hfiles⟩ | ⟨key, hkey, hdigest, hdisk⟩
  · rcases op.rootless (.inl howner) h with rfl | rfl | ⟨registration, capture, captureSchema, rfl⟩
    · exact .inl ⟨hnone, howner, hfiles⟩
    · rcases openSession_visits h with rfl | ⟨key, hkey, hdigest, rfl, -⟩
      · exact .inl ⟨hnone, howner, hfiles⟩
      · exact .inr ⟨key, hkey, hdigest, rfl⟩
    · rw [Rootless.initializeNew howner h]
      exact .inl ⟨hnone, howner, hfiles⟩
  · refine .inr ⟨key, hkey, hdigest, ?_⟩
    rw [visits_installationKey h (by rw [hdisk]; simp), hdisk]

/-- What a call does to the history. -/
inductive Advances (op : Op) : List Generation → List Generation → Prop where
  | stays (hist : List Generation) : Advances op hist hist
  | first (g : Generation) : Advances op [] [g]
  | publishes (next current : Generation) (rest : List Generation)
      (h : next.commit.transition ∈ op.transitions) :
      Advances op (current :: rest) (next :: current :: rest)

theorem Held.visits (op : Op) (hv : A.validator.Stable) (hheld : Held A d hist)
    (hdistinct : Disk.Distinct A.sha d₁.written) (h : (op.prog A).Visits A.host m d d₁) :
    Grows d d₁ ∧ ∃ hist', Advances op hist hist' ∧ Held A d₁ hist' := by
  have hkeyed := hheld.keyed.visits op h
  rcases hheld.store with ⟨rfl, hunborn⟩ | hlive
  · rcases op.rootless (.inr hunborn) h with rfl | rfl | ⟨registration, capture, captureSchema, rfl⟩
    · exact ⟨Grows.refl _, [], .stays [], hheld⟩
    · have hsame := openSession_same h
      exact ⟨hsame.grows, [], .stays [], .inl ⟨rfl, hunborn.same hsame⟩, hkeyed⟩
    · obtain ⟨hgrows, hcase⟩ := initializeNew_outcome hunborn hdistinct h
      refine ⟨hgrows, ?_⟩
      rcases hcase with hunborn' | ⟨g, hlive⟩
      · exact ⟨[], .stays [], .inl ⟨rfl, hunborn'⟩, hkeyed⟩
      · exact ⟨[g], .first g, .inr hlive, hkeyed⟩
  · obtain ⟨current, rest, rfl⟩ := hlive.nonempty
    have hatomic := op.atomic hv hlive hdistinct h
    refine ⟨hatomic.grows, ?_⟩
    rcases hatomic.live with hkept | ⟨next, a, m', d', ht, hnew, -⟩
    · exact ⟨_, .stays _, .inr hkept, hkeyed⟩
    · exact ⟨_, .publishes next current rest ht, .inr hnew, hkeyed⟩

/-! ## Every run -/

theorem Held.release (h : Held A d hist) : Held A { d with owner := none } hist := by
  have hsame : SameStore d { d with owner := none } := ⟨rfl, rfl⟩
  refine ⟨?_, ?_⟩
  · rcases h.store with ⟨hnil, hunborn⟩ | hlive
    · exact .inl ⟨hnil, hunborn.same hsame⟩
    · exact .inr (hlive.same hsame)
  · rcases h.keyed with ⟨hnone, -, hfiles⟩ | hkey
    · exact .inl ⟨hnone, rfl, hfiles⟩
    · exact .inr hkey

/-- After a call the store is as a visited one, perhaps without its owner. -/
theorem after_disk (A : TelemetryState) (w : World) (op : Op) (script : List storage.Event) :
    ((w.after A op script).disk = (w.call A op script).state ∨
      (w.after A op script).disk = { (w.call A op script).state with owner := none }) ∧
    (op.prog A).Visits A.host w.fields w.disk (w.call A op script).state := by
  refine ⟨?_, visits_of_run script (op.prog A) w.fields w.disk⟩
  unfold World.after
  split
  · exact .inr rfl
  · exact .inl rfl

theorem after_written (A : TelemetryState) (w : World) (op : Op) (script : List storage.Event) :
    (w.after A op script).disk.written = (w.call A op script).state.written := by
  rcases (after_disk A w op script).1 with h | h <;> rw [h]

/-- A call that is done did what the healthy call does. -/
theorem after_of_done {w : World} {op : Op} {script : List storage.Event} {reply : op.Reply}
    (h : (w.call A op script).exit = .done reply) :
    (w.after A op script) = ⟨(w.call A op script).fields, (w.call A op script).state⟩ ∧
      (op.prog A).Ends A.host w.fields w.disk reply (w.call A op script).fields
        (w.call A op script).state := by
  refine ⟨?_, ?_⟩
  · unfold World.after
    rw [h]
  · have hrun : run A.host script (op.prog A) w.fields w.disk =
        ⟨.done reply, (w.call A op script).fields, (w.call A op script).state⟩ := by
      show w.call A op script = _
      generalize w.call A op script = trace at h ⊢
      obtain ⟨exit, m, d⟩ := trace
      simp only at h
      rw [h]
    exact eval_of_run_done hrun

/-- The world after a healthy call. -/
theorem after_of_ends {w : World} {op : Op} {reply : op.Reply}
    (h : (op.prog A).Ends A.host w.fields w.disk reply m d) : w.after A op [] = ⟨m, d⟩ := by
  unfold World.after World.call
  rw [run_of_ends h]

theorem close_disk (A : TelemetryState) (w : World) :
    (w.close A).disk = w.disk ∨ (w.close A).disk = { w.disk with owner := none } := by
  unfold World.close
  dsimp only
  split
  next session hsession =>
    split
    · simp only [host, Disk.host]
      split
      · exact .inr rfl
      · exact .inl rfl
    · exact .inl rfl
  next => exact .inl rfl

/-- Nothing that was written is forgotten. -/
theorem next_written (A : TelemetryState) (w : World) (l : Label) :
    w.disk.written <+: (l.next A w).disk.written := by
  cases l with
  | call op script =>
    show _ <+: (w.after A op script).disk.written
    rw [after_written]
    exact visits_written (after_disk A w op script).2
  | close =>
    show _ <+: (w.close A).disk.written
    rcases close_disk A w with h | h <;> rw [h]
  | restart => exact List.prefix_rfl

/-- What a step does to the history. -/
def Label.Advances : Label → List Generation → List Generation → Prop
  | call op _, hist, hist' => TradeOps.Agent.Advances op hist hist'
  | close, hist, hist' => hist' = hist
  | restart, hist, hist' => hist' = hist

theorem Held.next {w : World} (l : Label) (hv : A.validator.Stable) (h : Held A w.disk hist)
    (hdistinct : Disk.Distinct A.sha (l.next A w).disk.written) :
    ∃ hist', l.Advances hist hist' ∧ Held A (l.next A w).disk hist' := by
  cases l with
  | call op script =>
    obtain ⟨hdisk, hvisits⟩ := after_disk A w op script
    have hdistinct : Disk.Distinct A.sha (w.call A op script).state.written := by
      rw [← after_written]
      exact hdistinct
    obtain ⟨-, hist', hadvances, hheld⟩ := h.visits op hv hdistinct hvisits
    refine ⟨hist', hadvances, ?_⟩
    show Held A (w.after A op script).disk hist'
    rcases hdisk with heq | heq <;> rw [heq]
    · exact hheld
    · exact hheld.release
  | close =>
    refine ⟨hist, rfl, ?_⟩
    show Held A (w.close A).disk hist
    rcases close_disk A w with heq | heq <;> rw [heq]
    · exact h
    · exact h.release
  | restart => exact ⟨hist, rfl, h.release⟩

theorem held_empty (A : TelemetryState) : Held A Disk.empty [] :=
  ⟨.inl ⟨rfl, unborn_empty A⟩, .inl ⟨rfl, rfl, rfl⟩⟩

theorem run_written {w w' : World} (h : (sessions A).Run w w') :
    w.disk.written <+: w'.disk.written :=
  System.Run.related (I := fun _ => True)
    (R := fun w w' : World => w.disk.written <+: w'.disk.written)
    (fun _ => List.prefix_rfl) (fun _ _ _ h h' => h.trans h') (fun _ _ _ _ _ => trivial)
    (fun l w w' _ hstep => by
      have heq : w' = l.next A w := hstep
      rw [heq]
      exact next_written A w l) trivial h

theorem Advances.suffix {op : Op} {hist' : List Generation} (h : Advances op hist hist') :
    hist <:+ hist' := by
  cases h with
  | stays => exact List.suffix_rfl
  | first g => exact List.nil_suffix
  | publishes next current rest ht => exact List.suffix_cons _ _

theorem Label.Advances.suffix {l : Label} {hist' : List Generation} (h : l.Advances hist hist') :
    hist <:+ hist' := by
  cases l with
  | call op script => exact TradeOps.Agent.Advances.suffix h
  | close => exact h ▸ List.suffix_rfl
  | restart => exact h ▸ List.suffix_rfl

/-- A run puts generations on top of a history. -/
theorem Held.run {w w' : World} (hv : A.validator.Stable) (h : Held A w.disk hist)
    (hrun : (sessions A).Run w w') (hdistinct : Disk.Distinct A.sha w'.disk.written) :
    ∃ hist', hist <:+ hist' ∧ Held A w'.disk hist' := by
  induction hrun with
  | refl => exact ⟨hist, List.suffix_rfl, h⟩
  | tail hprev hnext ih =>
    obtain ⟨l, heq⟩ := hnext
    have heq : _ = l.next A _ := heq
    subst heq
    have hbefore := hdistinct.mono fun f hf => (next_written A _ l).subset hf
    obtain ⟨hist₁, hsuffix, hheld⟩ := ih hbefore
    obtain ⟨hist₂, hadvances, hheld'⟩ := hheld.next l hv hdistinct
    exact ⟨hist₂, hsuffix.trans hadvances.suffix, hheld'⟩

/-- Every reachable store is unborn or live. -/
theorem Held.reachable {w : World} (hv : A.validator.Stable) (h : (sessions A).Reachable w)
    (hdistinct : Disk.Distinct A.sha w.disk.written) : ∃ hist, Held A w.disk hist := by
  obtain ⟨w₀, rfl, hrun⟩ := h
  obtain ⟨hist, -, hheld⟩ := Held.run hv (held_empty A) hrun hdistinct
  exact ⟨hist, hheld⟩

end TradeOps.Agent
