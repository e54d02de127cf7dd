import TradeOps.Agent.Roots

/-!
# Sound disks

A disk is sound when every record lies where its frame says, no two at one place, and all of them
fit into the budget. The inventory of a sound disk lists exactly its records.
-/

namespace TradeOps.Agent

open Prog

/-! ## Paths -/

theorem dash_not_mem_localNumber (n : Nat) : '-' ∉ localNumber n := fun h =>
  absurd (isDigit_of_mem_localNumber h) (by decide)

/-- What stands before the first dash, and what stands after it. -/
theorem split_dash {a b a' b' : Text} (ha : '-' ∉ a) (ha' : '-' ∉ a')
    (h : a ++ '-' :: b = a' ++ '-' :: b') : a = a' ∧ b = b' := by
  induction a generalizing a' with
  | nil =>
    cases a' with
    | nil => exact ⟨rfl, by simpa using h⟩
    | cons ch rest =>
      simp only [List.nil_append, List.cons_append, List.cons.injEq] at h
      exact absurd (h.1 ▸ List.mem_cons_self) ha'
  | cons ch rest ih =>
    cases a' with
    | nil =>
      simp only [List.nil_append, List.cons_append, List.cons.injEq] at h
      exact absurd (h.1 ▸ List.mem_cons_self) ha
    | cons ch' rest' =>
      simp only [List.cons_append, List.cons.injEq] at h
      obtain ⟨hrest, hb⟩ := ih (fun hmem => ha (List.mem_cons_of_mem _ hmem))
        (fun hmem => ha' (List.mem_cons_of_mem _ hmem)) h.2
      exact ⟨by rw [h.1, hrest], hb⟩

/-- The first character of the path of a record tells its kind. -/
def pathHead : LocKind → Char
  | .owner => 'x'
  | .registration => 'r'
  | .object => 'o'
  | .state => 's'
  | .commit => 'c'

theorem head_storageRelativePath {l : Locator} (h : Disk.addressable l = true) :
    (storageRelativePath l).head? = some (pathHead l.kind) := by
  simp only [Disk.addressable, decide_eq_true_eq] at h
  rw [storageRelativePath, if_pos h.1]
  cases hkind : l.kind with
  | owner => exact absurd hkind h.2
  | registration =>
    have htext : registrationPath.head? = some 'r' := by decide
    exact htext
  | object =>
    have htext : objectsDir.head? = some 'o' := by decide
    show (objectPath l.generation l.ordinal).head? = _
    rw [objectPath, List.head?_append, htext]
    rfl
  | state =>
    have htext : statesDir.head? = some 's' := by decide
    show (statePath l.generation).head? = _
    rw [statePath, List.head?_append, htext]
    rfl
  | commit =>
    have htext : commitsDir.head? = some 'c' := by decide
    show (commitPath l.generation).head? = _
    rw [commitPath, List.head?_append, htext]
    rfl

/-- Different places have different paths. -/
theorem storageRelativePath_injective {l l' : Locator} (hl : Disk.addressable l = true)
    (hl' : Disk.addressable l' = true) (h : storageRelativePath l = storageRelativePath l') :
    l = l' := by
  have hhead := congrArg List.head? h
  rw [head_storageRelativePath hl, head_storageRelativePath hl', Option.some.injEq] at hhead
  have hkinds : ∀ k k' : LocKind, pathHead k = pathHead k' → k = k' := by
    intro k k' hk
    cases k <;> cases k' <;> first | rfl | exact absurd hk (by decide)
  obtain ⟨kind, generation, ordinal⟩ := l
  obtain ⟨kind', generation', ordinal'⟩ := l'
  obtain rfl : kind = kind' := hkinds _ _ hhead
  simp only [Disk.addressable, decide_eq_true_eq] at hl hl'
  rw [storageRelativePath, if_pos hl.1, storageRelativePath, if_pos hl'.1] at h
  cases kind with
  | owner => exact absurd rfl hl.2
  | registration =>
    simp only [storageLocatorValid, decide_eq_true_eq] at hl hl'
    rw [hl.1.1, hl.1.2, hl'.1.1, hl'.1.2]
  | object =>
    change objectPath generation ordinal = objectPath generation' ordinal' at h
    rw [objectPath, objectPath] at h
    obtain ⟨hgeneration, hordinal⟩ := split_dash (dash_not_mem_localNumber _)
      (dash_not_mem_localNumber _) (List.append_cancel_left h)
    rw [localNumber_injective hgeneration,
      localNumber_injective (List.append_cancel_right hordinal)]
  | state =>
    simp only [storageLocatorValid, decide_eq_true_eq] at hl hl'
    change statePath generation = statePath generation' at h
    rw [statePath, statePath] at h
    have hnumber := List.append_cancel_right (List.append_cancel_left h)
    rw [localNumber_injective hnumber, hl.1.2, hl'.1.2]
  | commit =>
    simp only [storageLocatorValid, decide_eq_true_eq] at hl hl'
    change commitPath generation = commitPath generation' at h
    rw [commitPath, commitPath] at h
    have hnumber := List.append_cancel_right (List.append_cancel_left h)
    rw [localNumber_injective hnumber, hl.1.2, hl'.1.2]

namespace Disk

/-! ## Records -/

variable {d : Disk} {sha : Sha256} {f : StoredRecord} {l : Locator}

theorem find_create (hfresh : d.find f.locator = none) (l : Locator) :
    (d.create f).find l = if l = f.locator then some f else d.find l := by
  simp only [find, create, Keyed.lookup, List.find?_append]
  by_cases hl : l = f.locator
  · subst hl
    have hnone : d.files.find? (fun g => g.locator = f.locator) = none := hfresh
    simp [hnone]
  · have hne : ¬ f.locator = l := fun h => hl h.symm
    simp [hl, hne]

theorem find_delete (l l' : Locator) :
    (d.delete l).find l' = if l' = l then none else d.find l' := by
  simp only [find, delete, Keyed.lookup, List.find?_filter]
  by_cases hl : l' = l
  · subst hl
    rw [if_pos rfl, List.find?_eq_none]
    intro g _
    simp
  · rw [if_neg hl]
    congr 1
    funext g
    by_cases hg : g.locator = l'
    · simp [hg, hl]
    · simp [hg]

theorem mem_of_find {l : Locator} (h : d.find l = some f) : f ∈ d.files ∧ f.locator = l :=
  Keyed.lookup_some h

/-- The entry of a record whose digest can be taken. -/
def entryFor (sha : Sha256) (f : StoredRecord) : StorageEntry :=
  ⟨f.locator, storageRelativePath f.locator, f.bytes.length, sha.hex f.bytes⟩

def entries (sha : Sha256) (d : Disk) : List StorageEntry := d.files.map (entryFor sha)

def total (d : Disk) : Nat := (d.files.map fun f => f.bytes.length).sum

/-- The highest generation of a list of records. -/
def highestOf : List StoredRecord → Nat
  | [] => 0
  | f :: rest => max f.locator.generation (highestOf rest)

def highest (d : Disk) : Nat := highestOf d.files

theorem le_highestOf {files : List StoredRecord} (h : f ∈ files) :
    f.locator.generation ≤ highestOf files := by
  induction files with
  | nil => exact absurd h List.not_mem_nil
  | cons g rest ih =>
    rw [highestOf]
    rcases List.mem_cons.mp h with rfl | h
    · omega
    · have := ih h
      omega

theorem exists_highestOf {files : List StoredRecord} (h : highestOf files ≠ 0) :
    ∃ f ∈ files, f.locator.generation = highestOf files := by
  induction files with
  | nil => exact absurd rfl h
  | cons g rest ih =>
    rw [highestOf] at h ⊢
    by_cases hle : highestOf rest ≤ g.locator.generation
    · exact ⟨g, List.mem_cons_self, by omega⟩
    · obtain ⟨f, hf, hgeneration⟩ := ih (by omega)
      exact ⟨f, List.mem_cons_of_mem g hf, by omega⟩

theorem highestOf_append (files rest : List StoredRecord) :
    highestOf (files ++ rest) = max (highestOf files) (highestOf rest) := by
  induction files with
  | nil => simp [highestOf]
  | cons g tail ih =>
    rw [List.cons_append, highestOf, highestOf, ih]
    omega

theorem localHash_eq {bytes : Bytes} {digest : Text} (h : localHash sha bytes = some digest) :
    digest = sha.hex bytes := by
  rw [localHash] at h
  split at h
  · exact (Option.some.inj h).symm
  · contradiction

theorem localHash_some {bytes : Bytes} {text : Text} (h : localHash sha bytes = some text) :
    1 ≤ bytes.length ∧ bytes.length ≤ frameMax ∧ digest text = true := by
  have heq := localHash_eq h
  rw [localHash] at h
  split at h
  next hok =>
    rw [heq]
    exact hok
  next => contradiction

/-- Every record lies where its frame says; a pending request is the first object of its
generation. -/
structure Placed (sha : Sha256) (f : StoredRecord) : Prop where
  addressable : addressable f.locator = true
  hash : localHash sha f.bytes = some (sha.hex f.bytes)
  frame : ∃ kind payload, recordDecode sha f.bytes = some (kind, f.locator.generation, payload) ∧
    (kind = pendingKind → f.locator = objectLocator f.locator.generation 1)

structure Sound (sha : Sha256) (d : Disk) : Prop where
  keys : Keyed.KeysNodup StoredRecord.locator d.files
  placed : ∀ f ∈ d.files, Placed sha f
  count : d.files.length ≤ normalFiles + reserveFiles
  bytes : d.total ≤ normalBytes + reserveBytes

theorem Sound.find_iff (h : d.Sound sha) : d.find l = some f ↔ f ∈ d.files ∧ f.locator = l :=
  h.keys.lookup_iff

theorem mapM_entryOf {files : List StoredRecord} (h : ∀ f ∈ files, Placed sha f) :
    files.mapM (entryOf sha) = some (files.map (entryFor sha)) := by
  induction files with
  | nil => rfl
  | cons f rest ih =>
    have hf : entryOf sha f = some (entryFor sha f) := by
      rw [entryOf, (h f List.mem_cons_self).hash]
      rfl
    rw [List.mapM_cons, hf, ih fun g hg => h g (List.mem_cons_of_mem f hg)]
    rfl

/-- The inventory of a sound disk. -/
theorem Sound.inventory (h : d.Sound sha) :
    d.inventory sha = .ok (if d.files = [] then none else some (d.entries sha)) := by
  have hcount := h.count
  have hmax : ¬ inventoryMax < d.files.length := by
    have : normalFiles + reserveFiles < inventoryMax := by decide
    omega
  rw [Disk.inventory, if_neg hmax]
  by_cases hempty : d.files = []
  · rw [if_pos hempty, if_pos hempty]
  · rw [if_neg hempty, if_neg hempty, mapM_entryOf h.placed]
    rfl

theorem Placed.entryValid (h : Placed sha f) : storageEntryValid (entryFor sha f) = true := by
  have haddress := h.addressable
  simp only [Disk.addressable, decide_eq_true_eq] at haddress
  have hsize := localHash_some h.hash
  have hkind : ¬ (entryFor sha f).locator.kind = .owner := haddress.2
  rw [storageEntryValid, decide_eq_true_eq, if_neg hkind]
  exact ⟨haddress.1, rfl, hsize.2.2, hsize.1, hsize.2.1⟩

/-- The loop over the entries of sound records adds up their sizes. -/
theorem budgetFrom_entries {seen files : List StoredRecord} {b : Budget}
    (hplaced : ∀ f ∈ seen ++ files, Placed sha f)
    (hkeys : ((seen ++ files).map StoredRecord.locator).Nodup)
    (hbytes : b.bytes + (files.map fun f => f.bytes.length).sum ≤ normalBytes + reserveBytes) :
    budgetFrom (seen.map (entryFor sha)) b (files.map (entryFor sha)) =
      some ⟨b.bytes + (files.map fun f => f.bytes.length).sum, b.files + files.length,
        max b.highest (highestOf files)⟩ := by
  induction files generalizing seen b with
  | nil => simp [budgetFrom, highestOf]
  | cons f rest ih =>
    have hmem : f ∈ seen ++ f :: rest := List.mem_append_right seen List.mem_cons_self
    have hf := hplaced f hmem
    have haddress := hf.addressable
    have hkind : ¬ f.locator.kind = .owner := by
      simp only [Disk.addressable, decide_eq_true_eq] at haddress
      exact haddress.2
    have hdiffer : ∀ g ∈ seen, f.locator ≠ g.locator := by
      intro g hg heq
      rw [List.map_append, List.nodup_append] at hkeys
      exact hkeys.2.2 _ (List.mem_map_of_mem hg) _ (List.mem_map_of_mem List.mem_cons_self) heq.symm
    have hseen : (seen.map (entryFor sha)).all (fun e =>
        (entryFor sha f).locator ≠ e.locator ∧ (entryFor sha f).relativePath ≠ e.relativePath) =
          true := by
      rw [List.all_eq_true]
      intro e he
      obtain ⟨g, hg, rfl⟩ := List.mem_map.mp he
      rw [decide_eq_true_eq]
      refine ⟨hdiffer g hg, fun hpath => hdiffer g hg ?_⟩
      exact storageRelativePath_injective haddress
        (hplaced g (List.mem_append_left _ hg)).addressable hpath
    rw [List.map_cons, List.sum_cons] at hbytes
    have hadd : b.add (entryFor sha f) =
        some ⟨b.bytes + f.bytes.length, b.files + 1, max b.highest f.locator.generation⟩ := by
      have hsize : (entryFor sha f).size ≤ normalBytes + reserveBytes - b.bytes := by
        show f.bytes.length ≤ normalBytes + reserveBytes - b.bytes
        omega
      have hkind' : ¬ (entryFor sha f).locator.kind = .owner := hkind
      rw [Budget.add, if_neg hkind', if_pos hsize]
      rfl
    rw [List.map_cons, budgetFrom, if_pos ⟨hf.entryValid, hseen⟩]
    simp only [hadd]
    have hshift : seen.map (entryFor sha) ++ [entryFor sha f] =
      (seen ++ [f]).map (entryFor sha) := by
      rw [List.map_append, List.map_singleton]
    rw [hshift, ih]
    · simp only [List.map_cons, List.sum_cons, List.length_cons, highestOf, Option.some.injEq,
        Budget.mk.injEq]
      omega
    · intro g hg
      rw [List.append_assoc] at hg
      exact hplaced g hg
    · rw [List.append_assoc]
      exact hkeys
    · simp only
      omega

theorem Sound.budget (h : d.Sound sha) :
    storageBudget (d.entries sha) = some ⟨d.total, d.files.length, d.highest⟩ := by
  have hcount := h.count
  have hmax : (d.entries sha).length ≤ inventoryMax := by
    rw [entries, List.length_map]
    have : normalFiles + reserveFiles < inventoryMax := by decide
    omega
  have hfrom : budgetFrom (([] : List StoredRecord).map (entryFor sha)) ⟨0, 0, 0⟩
      (d.files.map (entryFor sha)) = some ⟨0 + (d.files.map fun f => f.bytes.length).sum,
        0 + d.files.length, max 0 (highestOf d.files)⟩ :=
    budgetFrom_entries h.placed h.keys (by simpa [total] using h.bytes)
  rw [storageBudget, if_pos hmax]
  simp only [List.map_nil, Nat.zero_add, Nat.zero_max] at hfrom
  rw [entries, hfrom]
  simp only
  rw [if_pos hcount]
  rfl

end Disk

namespace TelemetryState

variable {A : TelemetryState} {m m' : Fields} {d d' : Disk}

/-- What the inventory of a sound disk lists. -/
theorem listed_iff (h : d.Sound A.sha) {entries : List StorageEntry} {b : Budget} :
    Listed A d entries b ↔
      d.files ≠ [] ∧ entries = d.entries A.sha ∧ b = ⟨d.total, d.files.length, d.highest⟩ := by
  constructor
  · rintro ⟨hinventory, hbudget⟩
    rw [h.inventory, Except.ok.injEq] at hinventory
    by_cases hempty : d.files = []
    · rw [if_pos hempty] at hinventory
      contradiction
    · rw [if_neg hempty, Option.some.injEq] at hinventory
      subst hinventory
      rw [h.budget, Option.some.injEq] at hbudget
      exact ⟨hempty, rfl, hbudget.symm⟩
  · rintro ⟨hempty, rfl, rfl⟩
    refine ⟨?_, h.budget⟩
    rw [h.inventory, if_neg hempty]

end TelemetryState

end TradeOps.Agent
