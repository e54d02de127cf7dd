import TradeOps.Agent.Sessions
import TradeOps.Agent.Validators

/-!
# Interrupted calls

A call of the agent's state is stopped, or fails, at any call of the storage. A new process then
opens the store and recovers the state of before, or the state with which the completed call ends.
The numbers of generations are never used twice, and compaction deletes nothing that the root or
its parent needs.
-/

namespace TradeOps.Agent

open Prog TelemetryState

variable {A : TelemetryState} {w : World} {d d' : Disk} {hist rest : List Generation}
  {current g : Generation}

/-- `Open` and then `Recover`. -/
def TelemetryState.reopen (A : TelemetryState) : Act Bool := do
  A.openSession
  A.recover

/-- A new process opens the store, and `Recover` returns `TOV2_STATE_OK` with this state. -/
def Recovers (A : TelemetryState) (w : World) (state : LocalState) : Prop :=
  ∃ m d, A.reopen.Ends A.host w.restart.fields w.restart.disk true m d ∧ m.state = state

/-- `InitializeNew` has committed the first generation. -/
def World.Committed (w : World) : Prop := ∃ f ∈ w.disk.files, f.locator.kind = .commit

theorem Held.live (h : Held A w.disk hist) (hcommitted : w.Committed) :
    ∃ current rest, hist = current :: rest ∧ Live A w.disk (current :: rest) := by
  rcases h.store with ⟨-, hunborn⟩ | hlive
  · obtain ⟨f, hf, hkind⟩ := hcommitted
    exact absurd hkind (hunborn.commits f (hunborn.archived.kept f hf))
  · obtain ⟨current, rest, rfl⟩ := hlive.nonempty
    exact ⟨current, rest, rfl, hlive⟩

theorem Held.live_of_cons (h : Held A d (current :: rest)) : Live A d (current :: rest) :=
  h.store.resolve_left fun hnil => absurd hnil.1 (List.cons_ne_nil _ _)

/-- A live store is opened and its root is recovered. -/
theorem Held.reopen (h : Held A w.disk hist) (hlive : Live A w.disk (current :: rest)) :
    ∃ m d, A.reopen.Ends A.host w.restart.fields w.restart.disk true m d ∧ AtRoot A m d current ∧
      SameStore w.disk d := by
  rcases h.keyed with ⟨-, -, hfiles⟩ | ⟨key, hkey, hdigest, hdisk⟩
  · exact absurd hfiles hlive.files_ne_nil
  have hopen := openSession_ends (d := w.restart.disk) hkey hdigest (.inr hdisk) rfl
  have hsame : SameStore w.disk (w.restart.disk.held key) := ⟨rfl, rfl⟩
  have hlive' := hlive.same hsame
  have hgranted : A.Granted (cleared { Fields.initial with
      session := some (w.restart.disk.serial + 1), isOpen := true }) (w.restart.disk.held key) :=
    ⟨rfl, ⟨_, rfl, rfl⟩, by rw [hkey]; rfl, by simp [cleared]⟩
  obtain ⟨m, hrecover, hat⟩ := hlive'.recover hgranted
  exact ⟨m, _, ends_bind.mpr ⟨(), _, _, hopen, hrecover⟩, hat, hsame⟩

theorem Held.recovers (h : Held A w.disk hist) (hlive : Live A w.disk (current :: rest)) :
    Recovers A w current.state := by
  obtain ⟨m, d, hends, hat, -⟩ := h.reopen hlive
  exact ⟨m, d, hends, hat.state⟩

theorem Recovers.unique {state state' : LocalState} (h : Recovers A w state)
    (h' : Recovers A w state') : state = state' := by
  obtain ⟨m, d, hends, rfl⟩ := h
  obtain ⟨m', d', hends', rfl⟩ := h'
  obtain ⟨-, rfl, -⟩ := hends.unique hends'
  rfl

/-- The records that a step wrote. -/
def Label.writes (A : TelemetryState) (w : World) (l : Label) : List StoredRecord :=
  (l.next A w).disk.written.drop w.disk.written.length

theorem Grows.newer {d₁ : Disk} (h : Grows d d₁) (harchived : d.Archived A.sha) :
    ∀ f ∈ d₁.written.drop d.written.length, ∀ g ∈ d.written,
      g.locator.generation < f.locator.generation := by
  obtain ⟨fs, hfs, hgeneration⟩ := h
  rw [hfs, List.drop_left]
  intro f hf g hg
  have hle := harchived.highest g hg
  rw [hgeneration f hf]
  omega

theorem Held.archived (h : Held A d hist) : d.Archived A.sha := by
  rcases h.store with ⟨-, hunborn⟩ | hlive
  · exact hunborn.archived
  · exact hlive.archived

/-- What a step writes carries a number that nothing before it carries. -/
theorem Held.newer (l : Label) (hv : A.validator.Stable) (h : Held A w.disk hist)
    (hdistinct : Disk.Distinct A.sha (l.next A w).disk.written) :
    ∀ f ∈ l.writes A w, ∀ g ∈ w.disk.written, g.locator.generation < f.locator.generation := by
  unfold Label.writes
  cases l with
  | call op script =>
    obtain ⟨-, hvisits⟩ := after_disk A w op script
    have hwritten : (Label.next A w (.call op script)).disk.written =
        (w.call A op script).state.written := after_written A w op script
    rw [hwritten] at hdistinct ⊢
    obtain ⟨hgrows, -⟩ := h.visits op hv hdistinct hvisits
    exact hgrows.newer h.archived
  | close =>
    have hwritten : (Label.next A w .close).disk.written = w.disk.written := by
      show (w.close A).disk.written = _
      rcases close_disk A w with heq | heq <;> rw [heq]
    rw [hwritten, List.drop_length]
    exact fun f hf => absurd hf List.not_mem_nil
  | restart =>
    have hwritten : (Label.next A w .restart).disk.written = w.disk.written := rfl
    rw [hwritten, List.drop_length]
    exact fun f hf => absurd hf List.not_mem_nil

theorem distinct_before {op : Op} {script : List storage.Event}
    (h : Disk.Distinct A.sha (w.after A op script).disk.written) :
    Disk.Distinct A.sha w.disk.written :=
  h.mono fun _ hf => (next_written A w (.call op script)).subset hf

/-- A call that is interrupted at any point leaves the state of before, or the state with which the
completed call ends; and nothing later is written under an old number. -/
theorem interrupted_call_recovers (hv : A.validator.Stable) (hreach : (sessions A).Reachable w)
    (hcommitted : w.Committed) (op : Op) (script : List storage.Event)
    (hdistinct : Disk.Distinct A.sha (w.after A op script).disk.written) :
    ∃ before after, Recovers A w before ∧ Recovers A (w.after A op script) after ∧
      (after = before ∨
        ∃ reply m d, (op.prog A).Ends A.host w.fields w.disk reply m d ∧ m.state = after) ∧
      ∀ (later : World) (l : Label), (sessions A).Run (w.after A op script) later →
        Disk.Distinct A.sha (l.next A later).disk.written →
        ∀ f ∈ l.writes A later, ∀ g ∈ later.disk.written,
          g.locator.generation < f.locator.generation := by
  obtain ⟨hist, hheld⟩ := Held.reachable hv hreach (distinct_before hdistinct)
  obtain ⟨current, rest, rfl, hlive⟩ := hheld.live hcommitted
  have hreach' : (sessions A).Reachable (w.after A op script) :=
    hreach.snoc (l := .call op script) rfl
  obtain ⟨hist', hheld'⟩ := Held.reachable hv hreach' hdistinct
  obtain ⟨hdisk, hvisits⟩ := after_disk A w op script
  rw [after_written] at hdistinct
  have hatomic := op.atomic hv hlive hdistinct hvisits
  -- The process may have ended; the records are those of the last call.
  have hsame : SameStore (w.call A op script).state (w.after A op script).disk := by
    rcases hdisk with heq | heq <;> rw [heq] <;> exact ⟨rfl, rfl⟩
  refine ⟨current.state, ?_⟩
  have hlater : ∀ (later : World) (l : Label), (sessions A).Run (w.after A op script) later →
      Disk.Distinct A.sha (l.next A later).disk.written →
      ∀ f ∈ l.writes A later, ∀ g ∈ later.disk.written,
        g.locator.generation < f.locator.generation := by
    intro later l hrun hlast
    have hmiddle := hlast.mono fun f hf => (next_written A later l).subset hf
    obtain ⟨hist'', hheld''⟩ := Held.reachable hv (hreach'.run hrun) hmiddle
    exact hheld''.newer l hv hlast
  rcases hatomic.live with hkept | ⟨next, reply, m, d, -, hnew, hends, -, hstate, -⟩
  · exact ⟨current.state, hheld.recovers hlive, hheld'.recovers (hkept.same hsame),
      .inl rfl, hlater⟩
  · exact ⟨next.state, hheld.recovers hlive, hheld'.recovers (hnew.same hsame),
      .inr ⟨reply, m, d, hends, hstate⟩, hlater⟩

/-! ### A store of the self-test -/

namespace SelfTest

open Patterns (hexChar)

/-- The digests of the texts and records of these runs, by their lengths and their byte 18. -/
def digests : List (Nat × UInt8 × Nat) :=
  [(25, 108, 0x7246c0eecdeaa9b9a59b59c250e045bcaf47131ab392b31690339362facd7ed0),
   (42, 49, 0x494618d302587aa1a8753a4684bf0ed6addd1764aada84bbdfbdaad0f4857cf9),
   (45, 50, 0xc909cf401fde13417315d2900df2d47c62d435e39d18b3d2e7f8e872e68ebd93),
   (49, 78, 0xfd9396291b2b254e2a047846abb68d2cfdbf62f2e008d2a5b295c782f843f906),
   (115, 49, 0x26a200d8d0674949935068d61c1cba96a048d2ae660db695ac66f7b8d6e104e6),
   (118, 50, 0xf17012cc7c96b354a6ffd568f60b0bc8b4c4f9001174afc1dddcebf3079ca252),
   (122, 78, 0xacdc636cfc028a37e1bd0d1f95546ccc2157c4ca344ac557f637a2cff0c0a0eb),
   (172, 49, 0xa37d518c5643d88b7dec918710043c3a065f6e50e320288025cdc7a362af6f14),
   (237, 50, 0xad0a1d97c22d0e74ab2da27e59dbd4a4473ca6c876775d72a7ced655d4af280d),
   (238, 51, 0x3fe5c01b259569bb5bba62fe93016d0f1671e8afd5ed92b44b01147687d4376d),
   (241, 50, 0x513066cc80eb4a9a7cd233a90345eeaaf08b66ba9e8f2b0e1397d2684c3626e6),
   (241, 51, 0x0d9a4e1d261b7645d8942abb22e46b50f31ac51cd1863d7034be6c73015c6917),
   (245, 49, 0x5990eccb50e5cfefa8e201c6d523be8f86ae6c1d8136773da252968b2ea4607d),
   (266, 111, 0xab82eb53f7d330d5705cbeb54012c27ffbe9e2d14547f95b2d610801a9fab141),
   (285, 10, 0x2ba5147e95c38a4a4a6ba59446feea0a00852121ba17def36b6e4cfdbbb96d39),
   (310, 50, 0x3cab1188d2076d35977ed7bc17b6a604f406b3517e43ee7f6411ccdf9d5b13dc),
   (311, 51, 0xec216fe87797f5cefd1e8d5f80433197a8f0415d85915522b9d7d4bc60190374),
   (314, 50, 0x4d81b2b21463a9448480e35af56b6d0bbadb26eb93944eb1bfa3abdbcb823cb3),
   (314, 51, 0xd0927a0b6aa9d24f1ae1828ce819227d2b5be4ea3e428c89602e8056d3e640a8),
   (341, 50, 0xe21c14b2ce049e6b8778f700d8ac5d6c559752c7bcf5282f6374bf8038eef4e3),
   (358, 10, 0x3090498db23d9d46b2677528bf1760f8f99a5b91f1f5e5f0f5e6f54af9d29e1f),
   (414, 50, 0x04a39d1dd6a11c061b39e0284a49350fadae4d4f65d811c8f64d465b9fb85b93),
   (524, 49, 0xbb5a87e70e0790b89d01b1dfd1b0de8908ae299e877a7505a14c9528712fbc54),
   (586, 50, 0xe1820c0332ba5cec06d346c75f3d84832c09a48168b8f12167fd92df4efdaa0c),
   (586, 51, 0x925d6b65569cf194e7906304123d3601d908b6545491297867c401ff377a4a6f),
   (597, 49, 0x24c54ca807b0c961d40ca6cc6ce8ad35fbc95d7fe067076f82856ad67c5195b7),
   (659, 50, 0x07130293c9ecaa28c118bbabeda865d6a5a1593c338a626db106efd0ac2cab8a),
   (659, 51, 0xcf2407b771fa1a76cdbdc38a9b9d2b9db4b990d70ada1812cea8fbc016fc933c),
   (741, 50, 0xdab9d8ab148b8f3d2691837b52cb944e941d92a000b891dd7e90a77448eb4036),
   (814, 50, 0x5dff2c3234d9c1d8b43762c713eb0b0c2bdc4680dbb08f20250627038b73bb91),
   (889, 51, 0x750463d967429c9223fad8c03101fd27ec1ba4394bfcb6adfaf6940cd53b99cc),
   (962, 51, 0xb299e4fd07999999157e8a79aaa74f9c5731782bb7d12393681022199b37eb50)]

/-- The 64 digits of a digest. -/
def digits (digest : Nat) : Text :=
  (List.range 64).map fun i => Nat.digitChar (digest / 16 ^ (63 - i) % 16)

def hex (bytes : Bytes) : Text :=
  match digests.find? fun p => p.1 = bytes.length ∧ p.2.1 = bytes.getD 18 0 with
  | some p => digits p.2.2
  | none => List.replicate 64 'f'

theorem digits_spec (digest : Nat) :
    (digits digest).length = 64 ∧ (digits digest).all hexChar = true := by
  have hdigit : ∀ n < 16, hexChar (Nat.digitChar n) = true := by decide
  refine ⟨by rw [digits, List.length_map, List.length_range], ?_⟩
  rw [digits, List.all_map, List.all_eq_true]
  exact fun i _ => hdigit _ (Nat.mod_lt _ (by decide))

theorem digits_ne_zero : ∀ p ∈ digests, ¬ (digits p.2.2).all (· = '0') := by
  decide +kernel

theorem hex_spec (bytes : Bytes) : ((hex bytes).length = 64 ∧ (hex bytes).all hexChar = true) ∧
    ¬ (hex bytes).all (· = '0') := by
  have hother : (List.replicate 64 'f').all hexChar = true ∧
      ¬ (List.replicate 64 'f').all (· = '0') := by decide
  unfold hex
  split
  next p hp => exact ⟨digits_spec p.2.2, digits_ne_zero p (List.mem_of_find?_eq_some hp)⟩
  next => exact ⟨⟨List.length_replicate, hother.1⟩, hother.2⟩

/-- SHA-256 on the texts and records of these runs. -/
def sha : Sha256 :=
  ⟨hex, fun bytes => (hex_spec bytes).1.1, fun bytes => (hex_spec bytes).1.2⟩

def agent : TelemetryState := ⟨sha, Synthetic.validator sha, Synthetic.identity⟩

def registration : Bytes := toBytes "registration.synthetic.1".toList

def capture : Bytes := toBytes "capture.synthetic.0".toList

def recovered : World :=
  (World.after agent ⟨.initial, .empty⟩ .openSession []).after agent .recover []

/-- `Open`, `Recover` and `InitializeNew` of the self-test. -/
def initialized : World :=
  recovered.after agent (.initializeNew registration capture Synthetic.firstSchema) []

def payload : Bytes :=
  toBytes (['|'].intercalate ["EVENT1".toList, Synthetic.identity, "event.1".toList, dash, ['0'],
    "event.body".toList])

def event : AppendCandidate := ⟨"event.1".toList, hex payload, dash, 0⟩

def nextCapture : Bytes := toBytes "capture.synthetic.next".toList

/-- One event, and another capture. -/
def append : Op := .append [event] payload [266] nextCapture Synthetic.firstSchema

/-- `Append` is stopped after it has written the event and the capture. -/
def appendStops : List storage.Event := List.replicate 20 .served ++ [.stopped]

def cutAppend : World := initialized.after agent append appendStops

def appended : World := initialized.after agent append []

/-- The request for the event. -/
def request : Bytes :=
  toBytes (['|'].intercalate ["PENDING1".toList, Synthetic.identity, ['1'], ['0'], ['1'], ['1'],
    ['1'], hex payload])

def adapter : OutboxAdapter where
  build _ _ _ _ _ := .invalid
  validateRequest _ _ _ _ _ bytes := bytes = request
  validateResponse _ _ _ := none
  validateReplacement _ _ _ _ _ := false

def candidate : OutboxCandidate where
  expectedGeneration := appended.fields.state.generation
  expectedRootSha := appended.fields.commitSha
  registrationSha := appended.fields.state.registration.sha
  requestSequence := 1
  bodySha := hex payload
  prefixCount := 1
  frozenProduced := 1

def prepared : World := appended.after agent (.preparePending adapter candidate request) []

/-- `PublishDiagnostic` has called the state complete. -/
def completed : World := initialized.after agent (.publishDiagnostic .upToDate .none) []

/-- `Compact` is stopped between the deletions of the first generation. -/
def compactStops : List storage.Event := List.replicate 86 .served ++ [.stopped]

def cutCompact : World := completed.after agent .compact compactStops

/-- The records have different digests. -/
def apart (records : List StoredRecord) : Bool := (records.map fun f => hex f.bytes).Nodup

def has (w : World) (kind : LocKind) (generation : Nat) : Bool :=
  w.disk.files.any fun f => f.locator.kind = kind ∧ f.locator.generation = generation

def holdsRoot (w : World) : Bool :=
  match (agent.freshOutboxRoot.eval agent.host w.fields w.disk).result with
  | .ok _ => true
  | .error _ => false

def returned {α : Type} (exit : Exit Status α) : Option α :=
  match exit with
  | .done a => some a
  | _ => none

/-- One evaluation of these worlds. -/
theorem evaluated :
    (has initialized .commit 1 = true ∧ cutAppend.disk.written.length = 6 ∧
      apart cutAppend.disk.written = true) ∧
    ((has completed .commit 2 = true ∧ has completed .state 1 = true ∧
      has cutCompact .state 1 = false ∧
      has cutCompact .commit 1 = true ∧ has cutCompact .commit 2 = true) ∧
      apart cutCompact.disk.written = true) ∧
    (holdsRoot completed = true ∧ completed.fields.state.events = [] ∧
      completed.fields.state.produced = 0 ∧ completed.disk.highest = 2 ∧
      completed.fields.state.completeness = .upToDate ∧
      ((agent.payloadAt completed.disk completed.fields.state.capture).any fun previous =>
        agent.validator.captureAdvance previous completed.fields.state.captureSchema nextCapture
          Synthetic.firstSchema agent.identity) = true) ∧
    (initialized.fields.state.events = [] ∧ initialized.fields.state.produced = 0 ∧
      initialized.disk.highest = 1 ∧ initialized.fields.state.completeness = .catchingUp ∧
      (returned (initialized.call agent append []).exit : Option (List Nat)) = some [1]) ∧
    ((returned (appended.call agent (.preparePending adapter candidate request) []).exit :
        Option Bytes) = some request ∧
      prepared.fields.state.events.map (·.sequence) = [1] ∧
      apart prepared.disk.written = true) := by
  decide +kernel

theorem recovered_reachable : (sessions agent).Reachable recovered := by
  have hstart : (sessions agent).Reachable ⟨.initial, .empty⟩ := System.Reachable.init rfl
  have hopened := hstart.snoc (l := .call .openSession []) rfl
  exact hopened.snoc (l := .call .recover []) rfl

theorem initialized_reachable : (sessions agent).Reachable initialized :=
  recovered_reachable.snoc
    (l := .call (.initializeNew registration capture Synthetic.firstSchema) []) rfl

theorem appended_reachable : (sessions agent).Reachable appended :=
  initialized_reachable.snoc (l := .call append []) rfl

theorem prepared_reachable : (sessions agent).Reachable prepared :=
  appended_reachable.snoc (l := .call (.preparePending adapter candidate request) []) rfl

theorem completed_reachable : (sessions agent).Reachable completed :=
  initialized_reachable.snoc (l := .call (.publishDiagnostic .upToDate .none) []) rfl

theorem cutCompact_reachable : (sessions agent).Reachable cutCompact :=
  completed_reachable.snoc (l := .call .compact compactStops) rfl

theorem apart_distinct {records : List StoredRecord} (h : apart records = true) :
    Disk.Distinct agent.sha records := by
  intro f hf g hg hhex
  have hnodup : (records.map fun f => hex f.bytes).Nodup := of_decide_eq_true h
  rw [List.inj_on_of_nodup_map hnodup hf hg hhex]

theorem has_iff {w : World} {kind : LocKind} {generation : Nat} :
    has w kind generation = true ↔
      ∃ f ∈ w.disk.files, f.locator.kind = kind ∧ f.locator.generation = generation := by
  simp only [has, List.any_eq_true, decide_eq_true_eq]

theorem committed_of_has {w : World} {generation : Nat}
    (h : has w .commit generation = true) : w.Committed := by
  obtain ⟨f, hf, hkind, -⟩ := has_iff.mp h
  exact ⟨f, hf, hkind⟩

end SelfTest

open SelfTest in
/-- `Append` is stopped when two of its four records are written. -/
theorem interrupted_append_recovers :
    cutAppend.disk.written.length = 6 ∧ ∃ before after, Recovers agent initialized before ∧
      Recovers agent cutAppend after ∧
      (after = before ∨ ∃ reply m d,
        (append.prog agent).Ends agent.host initialized.fields initialized.disk reply m d ∧
          m.state = after) := by
  obtain ⟨⟨hcommitted, hwritten, hapart⟩, -⟩ := evaluated
  have hdistinct := apart_distinct hapart
  unfold cutAppend at hdistinct
  obtain ⟨before, after, hbefore, hafter, hstate, -⟩ :=
    interrupted_call_recovers (Synthetic.validator_stable sha) initialized_reachable
      (committed_of_has hcommitted) append appendStops hdistinct
  exact ⟨hwritten, before, after, hbefore, hafter, hstate⟩

/-! ## Compaction -/

/-- What a kept generation names, wherever it was written, is there. -/
theorem Stands.find_of_names (h : Stands A d g) (hlive : Live A d hist) {l : Locator}
    (hnames : Names A d.archive g.state l) : ∃ f, d.find l = some f := by
  have hpresent : ∀ r ∈ rootRefs g.state, ∃ f, d.find (refLocator r) = some f := by
    intro r hr
    obtain ⟨payload, hpayload, -⟩ := h.refs r hr
    obtain ⟨-, f, hfind, -⟩ := payloadAt_some hpayload
    exact ⟨f, hfind⟩
  have hvalid := h.data.stateAt.valid
  rcases hnames with hmem | ⟨hwitness, payload, hanswered⟩
  · simp only [namedLocators, List.mem_append, List.mem_cons, List.not_mem_nil, or_false,
      List.mem_map] at hmem
    rcases hmem with (((rfl | rfl | rfl | rfl) | ⟨q, hq, rfl⟩) | hmem) | hmem
    · rw [← refLocator_of_registration (registration_of_valid hvalid)]
      exact hpresent _ List.mem_cons_self
    · obtain ⟨-, f, payload, hfind, -⟩ := h.data.stateAt
      exact ⟨f, hfind⟩
    · obtain ⟨-, f, payload, hfind, -⟩ := h.data.commitAt
      exact ⟨f, hfind⟩
    · exact hpresent _ (List.mem_cons_of_mem _ (mem_objectRefs.mpr (.inl rfl)))
    · exact hpresent _ (List.mem_cons_of_mem _ (mem_objectRefs.mpr (.inr (.inl hq))))
    · split at hmem
      next => exact absurd hmem List.not_mem_nil
      next hkind =>
        rw [List.mem_singleton.mp hmem]
        exact hpresent _ (List.mem_cons_of_mem _
          (mem_objectRefs.mpr (.inr (.inr (.inl ⟨hkind, rfl⟩)))))
    · split at hmem
      next => exact absurd hmem List.not_mem_nil
      next hkind =>
        rw [List.mem_singleton.mp hmem]
        exact hpresent _ (List.mem_cons_of_mem _
          (mem_objectRefs.mpr (.inr (.inr (.inr ⟨hkind, rfl⟩)))))
  · obtain ⟨l', payload', hfound⟩ := h.answered hlive hanswered.ack hwitness
    have hplace := hlive.answered_unique hanswered (hlive.answered_of_find hfound) rfl
    obtain ⟨f, hfind, -⟩ := hfound.record
    exact ⟨f, by rw [hplace]; exact hfind⟩

/-- A root can be loaded, and none of the files that it names is gone since. -/
structure Kept (A : TelemetryState) (d d' : Disk) (g : Generation) : Prop where
  loads : Stands A d' g
  files : ∀ f ∈ d.files, f ∉ d'.files → ¬ Names A d'.archive g.state f.locator

theorem Stands.kept (h : Stands A d' g) (hlive : Live A d' hist) (harchived : d.Archived A.sha)
    (hwritten : d.written <+: d'.written) : Kept A d d' g := by
  refine ⟨h, fun f hf hgone hnames => hgone ?_⟩
  obtain ⟨f', hfind⟩ := h.find_of_names hlive hnames
  obtain ⟨hmem, hlocator⟩ := Disk.mem_of_find hfind
  have hf' := hlive.archived.kept f' hmem
  have hf : f ∈ d'.written := hwritten.subset (harchived.kept f hf)
  have heq : f = f' := hlive.archived.keys.eq_of_key hf hf' hlocator.symm
  rw [heq]
  exact hmem

/-- Wherever `Compact` is stopped, the root and its parent can be loaded and have lost no file, and
the next `Compact` does not ask for recovery. -/
theorem compact_keeps_roots (hv : A.validator.Stable) (hreach : (sessions A).Reachable w)
    (hcommitted : w.Committed) (script : List storage.Event)
    (hdistinct : Disk.Distinct A.sha (w.after A .compact script).disk.written) :
    ∃ current, Recovers A (w.after A .compact script) current.state ∧
      Kept A w.disk (w.after A .compact script).disk current ∧
      (0 < current.state.parentGeneration →
        ∃ parent, parent.state.generation = current.state.parentGeneration ∧
          parent.commitSha = current.state.parentCommit ∧
          Kept A w.disk (w.after A .compact script).disk parent) ∧
      ∀ m d, A.reopen.Ends A.host (w.after A .compact script).restart.fields
          (w.after A .compact script).restart.disk true m d →
        Disk.Distinct A.sha (A.compact.eval A.host m d).state.written →
        (A.compact.eval A.host m d).result ≠ .error .recoveryRequired := by
  have hgrows := next_written A w (.call .compact script)
  obtain ⟨hist, hheld⟩ := Held.reachable hv hreach (distinct_before hdistinct)
  obtain ⟨current, rest, rfl, hlive⟩ := hheld.live hcommitted
  obtain ⟨hist', hadvances, hheld'⟩ := hheld.next (.call .compact script) hv hdistinct
  have hheld' : Held A (w.after A .compact script).disk hist' := hheld'
  have hnonempty : ∃ current' rest', hist' = current' :: rest' := by
    cases hadvances with
    | stays => exact ⟨_, _, rfl⟩
    | publishes next current rest ht => exact ⟨_, _, rfl⟩
  obtain ⟨current', rest', rfl⟩ := hnonempty
  have hlive' : Live A (w.after A .compact script).disk (current' :: rest') :=
    hheld'.live_of_cons
  refine ⟨current', hheld'.recovers hlive',
    (hlive'.current rfl).kept hlive' hlive.archived hgrows, ?_, ?_⟩
  · intro hparent
    match rest' with
    | [] =>
      have hzero := hlive'.lineage.parent_zero.mpr rfl
      omega
    | parent :: rest'' =>
      have hlink := hlive'.lineage.parent
      exact ⟨parent, hlink.1.symm, hlink.2.symm,
        (hlive'.parent rfl).kept hlive' hlive.archived hgrows⟩
  · intro m d hopened hlast
    obtain ⟨m', d', hends, hat, hsame⟩ := hheld'.reopen hlive'
    obtain ⟨-, rfl, rfl⟩ := hends.unique hopened
    have hstatus := compact_status hv (hlive'.same hsame) hat hlast
    intro herror
    rw [herror] at hstatus
    simp at hstatus

/-- Two commits are on the disk, so the root has a parent. -/
theorem Recovers.parent_pos {state : LocalState} {m n : Nat} {f f' : StoredRecord}
    (h : Recovers A w state) (hheld : Held A w.disk hist) (hf : f ∈ w.disk.files)
    (hf' : f' ∈ w.disk.files) (hkind : f.locator.kind = .commit ∧ f.locator.generation = m)
    (hkind' : f'.locator.kind = .commit ∧ f'.locator.generation = n) (hne : m ≠ n) :
    0 < state.parentGeneration := by
  obtain ⟨current, rest, rfl, hlive⟩ := hheld.live ⟨f, hf, hkind.1⟩
  obtain rfl := (hheld.recovers hlive).unique h
  obtain ⟨g, hg, hgen⟩ := hlive.commits f (hlive.archived.kept f hf) hkind.1
  obtain ⟨g', hg', hgen'⟩ := hlive.commits f' (hlive.archived.kept f' hf') hkind'.1
  by_contra hzero
  obtain rfl := hlive.lineage.parent_zero.mp (by omega)
  rw [List.mem_singleton] at hg hg'
  rw [← hkind.2, ← hkind'.2, hgen, hgen', hg, hg'] at hne
  exact hne rfl

open SelfTest in
/-- `Compact` is stopped when it has deleted the state of the first generation, and not yet its
commit. -/
theorem interrupted_compact_keeps_parent :
    (has completed .state 1 = true ∧ has cutCompact .state 1 = false ∧
      has cutCompact .commit 1 = true) ∧
    ∃ current parent, Recovers agent cutCompact current.state ∧
      Kept agent completed.disk cutCompact.disk current ∧
      parent.state.generation = current.state.parentGeneration ∧
      Kept agent completed.disk cutCompact.disk parent := by
  obtain ⟨-, ⟨⟨hcommitted, hbefore, hstate, hfirst, hsecond⟩, hapart⟩, -⟩ := evaluated
  have hv := Synthetic.validator_stable sha
  obtain ⟨hist, hheld⟩ := Held.reachable hv cutCompact_reachable (apart_distinct hapart)
  obtain ⟨f, hf, hkind⟩ := has_iff.mp hfirst
  obtain ⟨f', hf', hkind'⟩ := has_iff.mp hsecond
  have hdistinct := apart_distinct hapart
  have hcut : cutCompact = completed.after agent .compact compactStops := rfl
  rw [hcut] at hdistinct
  obtain ⟨current, hrecovers, hkept, hparent, -⟩ :=
    compact_keeps_roots hv completed_reachable (committed_of_has hcommitted) compactStops hdistinct
  rw [← hcut] at hrecovers hkept hparent
  obtain ⟨parent, hgeneration, -, hkept'⟩ :=
    hparent (hrecovers.parent_pos hheld hf hf' hkind hkind' (by decide))
  exact ⟨⟨hbefore, hstate, hfirst⟩, current, parent, hrecovers, hkept, hgeneration, hkept'⟩

end TradeOps.Agent
