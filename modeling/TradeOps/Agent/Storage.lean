import TradeOps.Agent.Codec
import TradeOps.Lib.Keyed
import TradeOps.Lib.Programs

/-!
# Storage of the agent

Embeds `TradeOpsTelemetryStorage.mqh`: where records lie, what an inventory lists, the budget that a
transition must fit into, and the interface of a storage. `Disk` is a storage in good health, after
`TradeOpsTelemetryMemoryStore.mqh`: records are created and deleted as a whole. How its calls fail
is left to the script of a run.
-/

namespace TradeOps.Agent

/-! ## Locators -/

inductive LocKind where
  | owner | registration | object | state | commit
  deriving DecidableEq, Repr

structure Locator where
  kind : LocKind
  generation : Nat
  ordinal : Nat
  deriving DecidableEq, Repr

def storageLocatorValid (l : Locator) : Bool :=
  match l.kind with
  | .owner => l.generation = 0 ∧ l.ordinal = 0
  | .registration => l.generation = 1 ∧ l.ordinal = 0
  | .state | .commit => counter l.generation 1 ∧ l.ordinal = 0
  | .object => counter l.generation 1 ∧ counter l.ordinal 1

def ownerLocator : Locator := ⟨.owner, 0, 0⟩

def registrationLocator : Locator := ⟨.registration, 1, 0⟩

def objectLocator (generation ordinal : Nat) : Locator := ⟨.object, generation, ordinal⟩

def stateLocator (generation : Nat) : Locator := ⟨.state, generation, 0⟩

def commitLocator (generation : Nat) : Locator := ⟨.commit, generation, 0⟩

def ownerPath : Text := "owner.lock".toList

def storageRelativePath (l : Locator) : Text :=
  if storageLocatorValid l then
    match l.kind with
    | .owner => ownerPath
    | .registration => registrationPath
    | .state => statePath l.generation
    | .commit => commitPath l.generation
    | .object => objectPath l.generation l.ordinal
  else []

/-! ## Inventories and the budget -/

structure StorageEntry where
  locator : Locator
  relativePath : Text
  size : Nat
  sha : Text
  deriving DecidableEq, Repr

def storageEntryValid (e : StorageEntry) : Bool :=
  storageLocatorValid e.locator ∧ e.relativePath = storageRelativePath e.locator ∧
    if e.locator.kind = .owner then e.sha = dash
    else digest e.sha ∧ 1 ≤ e.size ∧ e.size ≤ frameMax

def normalBytes : Nat := 67108864

def reserveBytes : Nat := 8388608

def normalFiles : Nat := 4096

def reserveFiles : Nat := 128

def deleteBatch : Nat := 32

def inventoryMax : Nat := 4225

/-- The bytes and the files of an inventory, and the highest generation in it. -/
structure Budget where
  bytes : Nat
  files : Nat
  highest : Nat
  deriving DecidableEq, Repr

/-- One more entry; the owner's entry is not counted. -/
def Budget.add (b : Budget) (e : StorageEntry) : Option Budget :=
  if e.locator.kind = .owner then
    if e.size = 0 then some b else none
  else if e.size ≤ normalBytes + reserveBytes - b.bytes then
    some ⟨b.bytes + e.size, b.files + 1, max b.highest e.locator.generation⟩
  else none

/-- The loop of `Tov2StorageBudget`: the entries before the one at hand, and what they add up to. -/
def budgetFrom (seen : List StorageEntry) (b : Budget) : List StorageEntry → Option Budget
  | [] => some b
  | e :: rest =>
    if storageEntryValid e ∧
        seen.all (fun f => e.locator ≠ f.locator ∧ e.relativePath ≠ f.relativePath) then
      match b.add e with
      | some b => budgetFrom (seen ++ [e]) b rest
      | none => none
    else none

def storageBudget (entries : List StorageEntry) : Option Budget :=
  if entries.length ≤ inventoryMax then
    match budgetFrom [] ⟨0, 0, 0⟩ entries with
    | some b => if b.files ≤ normalFiles + reserveFiles then some b else none
    | none => none
  else none

def storageReserveTransition (transition : Transition) : Bool :=
  transition = .ack ∨ transition = .checkpoint ∨ transition = .diagnostic

def byteLimit (transition : Transition) : Nat :=
  if storageReserveTransition transition then normalBytes + reserveBytes else normalBytes

def fileLimit (transition : Transition) : Nat :=
  if storageReserveTransition transition then normalFiles + reserveFiles else normalFiles

def storagePreflight (entries : List StorageEntry) (transition : Transition)
    (addedBytes addedFiles : Nat) : Bool :=
  match storageBudget entries with
  | some b =>
    b.bytes + addedBytes ≤ byteLimit transition ∧ b.files + addedFiles ≤ fileLimit transition
  | none => false

/-! ## The interface of a storage -/

inductive StorageCall where
  | acquire (installationKey : Text)
  | revalidate (session : Nat)
  | inventory (session : Nat)
  | read (session : Nat) (locator : Locator)
  | createExact (session : Nat) (locator : Locator) (bytes : Bytes)
  | deleteExact (session : Nat) (locator : Locator) (expectedSha : Text)
  | close (session : Nat)

inductive CreateReply where
  | created | existsSame
  deriving DecidableEq, Repr

inductive DeleteReply where
  | deleted | absent
  deriving DecidableEq, Repr

/-- What a call answers; nothing stands for `TOV2_STORE_ABSENT`. -/
@[reducible] def StorageCall.Reply : StorageCall → Type
  | acquire _ => Nat
  | revalidate _ => Unit
  | inventory _ => Option (List StorageEntry)
  | read _ _ => Option Bytes
  | createExact _ _ _ => CreateReply
  | deleteExact _ _ _ => DeleteReply
  | close _ => Unit

inductive StoreFailure where
  | busy | conflict | ioError | ownershipLost | limit | invalid
  deriving DecidableEq, Repr

abbrev storage : Service where
  Call := StorageCall
  Reply := StorageCall.Reply
  Failure := StoreFailure

/-- The calls that leave the records alone. -/
def StorageCall.reads : StorageCall → Prop
  | revalidate _ => True
  | inventory _ => True
  | read _ _ => True
  | _ => False

/-! ## A storage in good health -/

structure StoredRecord where
  locator : Locator
  bytes : Bytes
  deriving DecidableEq, Repr

/-- The records at hand, and all that were ever created. -/
structure Disk where
  files : List StoredRecord
  written : List StoredRecord
  installationKey : Option Text
  owner : Option Nat
  serial : Nat
  deriving DecidableEq, Repr

namespace Disk

def empty : Disk := ⟨[], [], none, none, 0⟩

def find (d : Disk) (l : Locator) : Option StoredRecord :=
  Keyed.lookup StoredRecord.locator d.files l

def entryOf (sha : Sha256) (f : StoredRecord) : Option StorageEntry :=
  (localHash sha f.bytes).map fun digest =>
    ⟨f.locator, storageRelativePath f.locator, f.bytes.length, digest⟩

def create (d : Disk) (f : StoredRecord) : Disk :=
  { d with files := d.files ++ [f], written := d.written ++ [f] }

def delete (d : Disk) (l : Locator) : Disk :=
  { d with files := d.files.filter fun f => f.locator ≠ l }

def acquire (d : Disk) (key : Text) : Except StoreFailure Nat × Disk :=
  if digest key = false then (.error .invalid, d)
  else if d.installationKey ≠ none ∧ d.installationKey ≠ some key then (.error .conflict, d)
  else if d.owner ≠ none then (.error .busy, d)
  else
    (.ok (d.serial + 1),
      { d with installationKey := some key, owner := some (d.serial + 1), serial := d.serial + 1 })

def inventory (sha : Sha256) (d : Disk) : Except StoreFailure (Option (List StorageEntry)) :=
  if inventoryMax < d.files.length then .error .limit
  else if d.files = [] then .ok none
  else
    match d.files.mapM (entryOf sha) with
    | some entries => .ok (some entries)
    | none => .error .ioError

def createExact (d : Disk) (l : Locator) (bytes : Bytes) : Except StoreFailure CreateReply × Disk :=
  match d.find l with
  | some f => if f.bytes = bytes then (.ok .existsSame, d) else (.error .conflict, d)
  | none => (.ok .created, d.create ⟨l, bytes⟩)

def deleteExact (sha : Sha256) (d : Disk) (l : Locator) (expectedSha : Text) :
    Except StoreFailure DeleteReply × Disk :=
  match d.find l with
  | some f =>
    match localHash sha f.bytes with
    | some actual =>
      if actual = expectedSha then (.ok .deleted, d.delete l) else (.error .conflict, d)
    | none => (.error .ioError, d)
  | none => (.ok .absent, d)

/-- A locator that a record may lie at. -/
def addressable (l : Locator) : Bool := storageLocatorValid l ∧ l.kind ≠ .owner

/-- The storage answers. -/
def host (sha : Sha256) : storage.Host Disk
  | .acquire key, d => d.acquire key
  | .revalidate session, d =>
    if d.owner = some session then (.ok (), d) else (.error .ownershipLost, d)
  | .inventory session, d =>
    if d.owner = some session then (d.inventory sha, d) else (.error .ownershipLost, d)
  | .read session l, d =>
    if addressable l = false then (.error .invalid, d)
    else if d.owner = some session then (.ok ((d.find l).map StoredRecord.bytes), d)
    else (.error .ownershipLost, d)
  | .createExact session l bytes, d =>
    if addressable l = false ∨ ¬ (1 ≤ bytes.length ∧ bytes.length ≤ frameMax) then
      (.error .invalid, d)
    else if d.owner = some session then d.createExact l bytes
    else (.error .ownershipLost, d)
  | .deleteExact session l expectedSha, d =>
    if addressable l = false ∨ digest expectedSha = false then (.error .invalid, d)
    else if d.owner = some session then d.deleteExact sha l expectedSha
    else (.error .ownershipLost, d)
  | .close session, d => (.ok (), if d.owner = some session then { d with owner := none } else d)

theorem host_reads (sha : Sha256) (c : StorageCall) (h : c.reads) (d : Disk) :
    (host sha c d).2 = d := by
  cases c with
  | revalidate session =>
    simp only [host]
    split <;> rfl
  | inventory session =>
    simp only [host]
    split <;> rfl
  | read session l =>
    simp only [host]
    split
    · rfl
    · split <;> rfl
  | acquire key => exact h.elim
  | createExact session l bytes => exact h.elim
  | deleteExact session l expectedSha => exact h.elim
  | close session => exact h.elim

/-- What was written stays written. -/
theorem host_written (sha : Sha256) (c : StorageCall) (d : Disk) :
    d.written <+: (host sha c d).2.written := by
  cases c with
  | revalidate session => rw [host_reads sha (.revalidate session) trivial]
  | inventory session => rw [host_reads sha (.inventory session) trivial]
  | read session l => rw [host_reads sha (.read session l) trivial]
  | acquire key =>
    simp only [host, acquire]
    split
    · exact List.prefix_rfl
    · split
      · exact List.prefix_rfl
      · split <;> exact List.prefix_rfl
  | createExact session l bytes =>
    simp only [host]
    split
    · exact List.prefix_rfl
    · split
      · unfold createExact
        split
        · split <;> exact List.prefix_rfl
        · exact List.prefix_append _ _
      · exact List.prefix_rfl
  | deleteExact session l expectedSha =>
    simp only [host]
    split
    · exact List.prefix_rfl
    · split
      · unfold deleteExact
        split
        · split
          · split <;> exact List.prefix_rfl
          · exact List.prefix_rfl
        · exact List.prefix_rfl
      · exact List.prefix_rfl
  | close session =>
    simp only [host]
    split <;> exact List.prefix_rfl

end Disk

end TradeOps.Agent
