import TradeOps.EntryV3.Append

/-!
# What the statements of the v3 entry store write

One inversion lemma says what a statement does to the tables of the trades: the paper links with
their intents, allocations and settlements, and the shadow positions. No statement removes a link, a
settlement, an intent or an event.
-/

namespace TradeOps.EntryV3

open Checks Tables

/-- The trades are as before, and no event is lost. -/
structure SameTrades (a b : Database) : Prop where
  links : b.links = a.links
  shadows : b.shadows = a.shadows
  intents : b.intents = a.intents
  allocations : b.allocations = a.allocations
  settlements : b.settlements = a.settlements
  events : a.events ⊆ b.events

namespace SameTrades

theorem refl (db : Database) : SameTrades db db :=
  ⟨rfl, rfl, rfl, rfl, rfl, List.Subset.refl _⟩

theorem trans {a b c : Database} (h : SameTrades a b) (h' : SameTrades b c) : SameTrades a c where
  links := h'.links.trans h.links
  shadows := h'.shadows.trans h.shadows
  intents := h'.intents.trans h.intents
  allocations := h'.allocations.trans h.allocations
  settlements := h'.settlements.trans h.settlements
  events := List.Subset.trans h.events h'.events

end SameTrades

/-- The statements that write a table of the trades. -/
def Statement.trades : Statement → Bool
  | insertIntent _ | insertAllocation _ | insertLink _ => true
  | insertShadow _ | insertSettlement _ | terminateShadow _ => true
  | _ => false

/-- What a statement that is not refused does to the trades. -/
inductive Effect : Statement → Database → Database → Prop where
  | other {statement a b} (plain : statement.trades = false) (same : SameTrades a b) :
      Effect statement a b
  | intent {a row} (fresh : ∀ stored ∈ a.intents, stored.intentId ≠ row.intentId) :
      Effect (.insertIntent row) a { a with intents := a.intents ++ [row] }
  | allocation {a request row} (intent : row.intentId = request.intentId)
      (account : row.accountId = request.accountId)
      (stored : ∃ intent ∈ a.intents, intent.intentId = row.intentId) :
      Effect (.insertAllocation request) a { a with allocations := a.allocations ++ [row] }
  | link {a row} (fresh : ∀ stored ∈ a.links, stored.setupId ≠ row.setupId)
      (stored : ∃ intent ∈ a.intents, intent.intentId = row.intentId) :
      Effect (.insertLink row) a { a with links := a.links ++ [row] }
  | shadow {a row} : Effect (.insertShadow (some row)) a { a with shadows := a.shadows ++ [row] }
  | terminate {a termination condition} : Effect (.terminateShadow termination) a
      { a with shadows := updateWhere condition (terminated termination) a.shadows }
  | settlement {a row} (fresh : ∀ stored ∈ a.settlements, stored.intentId ≠ row.intentId)
      (stored : ∃ intent ∈ a.intents, intent.intentId = row.intentId) :
      Effect (.insertSettlement row) a { a with settlements := a.settlements ++ [row] }

section Inserts

variable {isToday : String → Bool} {db db' : Database}

theorem insertReceipt_same {row : EntryV2.ReceiptRow} (h : insertReceipt row db = .ok db') :
    SameTrades db db' := by
  simp only [insertReceipt, then_ok_iff, pure_ok_iff] at h
  obtain ⟨-, -, rfl⟩ := h
  exact { SameTrades.refl db with }

theorem insertEvent_ok {row : EventRow} (h : insertEvent row db = .ok db') :
    SameTrades db db' ∧ row ∈ db'.events := by
  simp only [insertEvent, then_ok_iff, pure_ok_iff] at h
  obtain ⟨-, -, -, rfl⟩ := h
  exact ⟨⟨rfl, rfl, rfl, rfl, rfl, List.subset_append_left _ _⟩, by simp⟩

theorem insertDisposition_same {row : DispositionRow} (h : insertDisposition row db = .ok db') :
    SameTrades db db' := by
  simp only [insertDisposition, then_ok_iff, pure_ok_iff] at h
  obtain ⟨-, -, -, rfl⟩ := h
  exact { SameTrades.refl db with }

theorem insertCandidate_same {row : CandidateRow} (h : insertCandidate db row = .ok db') :
    SameTrades db db' := by
  simp only [insertCandidate, then_ok_iff, pure_ok_iff] at h
  obtain ⟨-, -, rfl⟩ := h
  exact { SameTrades.refl db with }

theorem insertEvidenceRow_same {row : EvidenceRow} (h : insertEvidenceRow db row = .ok db') :
    SameTrades db db' := by
  simp only [insertEvidenceRow, then_ok_iff, pure_ok_iff] at h
  obtain ⟨-, -, -, rfl⟩ := h
  exact { SameTrades.refl db with }

theorem insertSelection_same {row : SelectionRow} (h : insertSelection db row = .ok db') :
    SameTrades db db' := by
  simp only [insertSelection, then_ok_iff, pure_ok_iff] at h
  obtain ⟨-, -, -, rfl⟩ := h
  exact { SameTrades.refl db with }

theorem insertMember_same {row : MemberRow} (h : insertMember db row = .ok db') :
    SameTrades db db' := by
  simp only [insertMember, then_ok_iff, pure_ok_iff] at h
  obtain ⟨-, -, rfl⟩ := h
  exact { SameTrades.refl db with }

theorem insertParityRow_same {row : ParityRow} (h : insertParityRow db row = .ok db') :
    SameTrades db db' := by
  simp only [insertParityRow, then_ok_iff, pure_ok_iff] at h
  obtain ⟨-, -, -, rfl⟩ := h
  exact { SameTrades.refl db with }

theorem insertApplication_same {row : ApplicationRow} (h : insertApplication row db = .ok db') :
    SameTrades db db' := by
  simp only [insertApplication, then_ok_iff, pure_ok_iff] at h
  obtain ⟨-, -, -, rfl⟩ := h
  exact { SameTrades.refl db with }

/-- The rows of a list are written one after the other. -/
theorem rows_same {ρ : Type} {insert : Database → ρ → Except Failure Database} {rows : List ρ}
    (hinsert : ∀ a row b, insert a row = .ok b → SameTrades a b)
    (h : rows.foldlM insert db = .ok db') : SameTrades db db' :=
  foldlM_related SameTrades.refl (fun _ _ _ => SameTrades.trans) hinsert h

theorem insertIntent_effect {row : IntentRow} (h : insertIntent row db = .ok db') :
    Effect (.insertIntent row) db db' := by
  simp only [insertIntent, then_ok_iff, failIf_ok_iff, pure_ok_iff, List.any_eq_true,
    decide_eq_true_eq] at h
  obtain ⟨-, hfresh, rfl⟩ := h
  exact .intent fun stored hmem heq => hfresh ⟨stored, hmem, heq⟩

theorem allocationRow_some {request : AllocationRequest} {row : Paper.AllocationRow}
    (h : allocationRow request db = some row) :
    row.intentId = request.intentId ∧ row.accountId = request.accountId ∧
      ∃ intent ∈ db.intents, intent.intentId = row.intentId := by
  simp only [allocationRow, Option.bind_eq_bind, Option.bind_eq_some_iff] at h
  obtain ⟨intent, hintent, account, -, h⟩ := h
  split at h
  · have hid := List.find?_some hintent
    simp only [decide_eq_true_eq] at hid
    obtain rfl := (Option.some.inj h).symm
    exact ⟨hid.1, rfl, intent, List.mem_of_find?_eq_some hintent, rfl⟩
  · cases h

theorem insertAllocation_effect {request : AllocationRequest}
    (h : insertAllocation isToday request db = .ok db') :
    Effect (.insertAllocation request) db db' := by
  rw [insertAllocation] at h
  split at h
  next => cases h
  next row hrow =>
    simp only [then_ok_iff, pure_ok_iff] at h
    obtain ⟨-, -, -, rfl⟩ := h
    obtain ⟨hintent, haccount, hstored⟩ := allocationRow_some hrow
    exact .allocation hintent haccount hstored

theorem insertLink_effect {row : LinkRow} (h : insertLink row db = .ok db') :
    Effect (.insertLink row) db db' := by
  simp only [insertLink, then_ok_iff, failIf_ok_iff, pure_ok_iff, List.any_eq_true,
    decide_eq_true_eq, not_not] at h
  obtain ⟨-, hfresh, -, -, -, hstored, rfl⟩ := h
  exact .link (fun stored hmem heq => hfresh ⟨stored, hmem, heq⟩) hstored

theorem insertShadow_effect {row : ShadowRow} (h : insertShadow row db = .ok db') :
    Effect (.insertShadow (some row)) db db' := by
  simp only [insertShadow, then_ok_iff, pure_ok_iff] at h
  obtain ⟨-, -, -, -, rfl⟩ := h
  exact .shadow

theorem insertSettlement_effect {row : SettlementRow} (h : insertSettlement row db = .ok db') :
    Effect (.insertSettlement row) db db' := by
  simp only [insertSettlement, then_ok_iff, failIf_ok_iff, pure_ok_iff, List.any_eq_true,
    decide_eq_true_eq, not_not] at h
  obtain ⟨-, -, hfresh, hstored, rfl⟩ := h
  exact .settlement (fun stored hmem heq => hfresh ⟨stored, hmem, .inr heq⟩) hstored

theorem terminateShadow_effect {termination : Termination}
    (h : terminateShadow termination db = .ok db') :
    Effect (.terminateShadow termination) db db' := by
  simp only [terminateShadow, then_ok_iff, pure_ok_iff] at h
  obtain ⟨-, -, rfl⟩ := h
  exact .terminate

end Inserts

section Exec

variable {isToday : String → Bool} {statement : Statement} {db db' : Database}

theorem exec_effect (h : exec isToday statement db = .ok db') : Effect statement db db' := by
  cases statement with
  | insertReceipt row => exact .other rfl (insertReceipt_same h)
  | insertEvent row => exact .other rfl (insertEvent_ok h).1
  | insertDisposition row => exact .other rfl (insertDisposition_same h)
  | insertCandidates rows => exact .other rfl (rows_same (fun _ _ _ => insertCandidate_same) h)
  | insertEvidence rows => exact .other rfl (rows_same (fun _ _ _ => insertEvidenceRow_same) h)
  | insertSelections rows => exact .other rfl (rows_same (fun _ _ _ => insertSelection_same) h)
  | insertMembers rows => exact .other rfl (rows_same (fun _ _ _ => insertMember_same) h)
  | insertParity rows => exact .other rfl (rows_same (fun _ _ _ => insertParityRow_same) h)
  | insertIntent row => exact insertIntent_effect h
  | insertAllocation request => exact insertAllocation_effect h
  | insertLink row => exact insertLink_effect h
  | insertShadow row =>
    cases row with
    | none => cases h
    | some row => exact insertShadow_effect h
  | insertSettlement row => exact insertSettlement_effect h
  | insertApplication row => exact .other rfl (insertApplication_same h)
  | terminateShadow termination => exact terminateShadow_effect h

end Exec

/-! ## What is never removed -/

/-- The later database still has the links, the settlements, the intents and the events. -/
structure Grows (a b : Database) : Prop where
  links : a.links ⊆ b.links
  settlements : a.settlements ⊆ b.settlements
  intents : a.intents ⊆ b.intents
  events : a.events ⊆ b.events

namespace Grows

theorem refl (db : Database) : Grows db db :=
  ⟨List.Subset.refl _, List.Subset.refl _, List.Subset.refl _, List.Subset.refl _⟩

theorem trans {a b c : Database} (h : Grows a b) (h' : Grows b c) : Grows a c where
  links := List.Subset.trans h.links h'.links
  settlements := List.Subset.trans h.settlements h'.settlements
  intents := List.Subset.trans h.intents h'.intents
  events := List.Subset.trans h.events h'.events

theorem of_effect {statement : Statement} {a b : Database} (h : Effect statement a b) :
    Grows a b := by
  cases h with
  | other _ same =>
    refine ⟨?_, ?_, ?_, same.events⟩
    · rw [same.links]
      exact List.Subset.refl _
    · rw [same.settlements]
      exact List.Subset.refl _
    · rw [same.intents]
      exact List.Subset.refl _
  | intent => exact { refl a with intents := List.subset_append_left _ _ }
  | link => exact { refl a with links := List.subset_append_left _ _ }
  | settlement => exact { refl a with settlements := List.subset_append_left _ _ }
  | allocation => exact { refl a with }
  | shadow => exact { refl a with }
  | terminate => exact { refl a with }

theorem of_batch {isToday : String → Bool} {statements : List Statement} {a b : Database}
    (h : (database isToday).batch statements a = .ok b) : Grows a b := by
  induction statements generalizing a with
  | nil =>
    obtain rfl := Except.ok.inj h
    exact refl a
  | cons statement rest ih =>
    obtain ⟨a', hfirst, hrest⟩ := bind_ok_iff.mp h
    exact (of_effect (exec_effect hfirst)).trans (ih hrest)

end Grows

end TradeOps.EntryV3
