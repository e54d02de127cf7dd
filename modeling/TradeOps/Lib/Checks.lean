import Mathlib.Tactic.Common

/-!
# Validators that stop at the first failed check

A validator is a computation in `Except ε Unit`: it runs its checks in order and returns the
message of the first one that fails. The rules below turn "the validator passed" into the
conjunction of its checks, one check at a time.
-/

namespace Checks

variable {ε α β : Type}

/-- Stop with `message` when `bad` holds: the source's `if (bad) fail(message)`. -/
def failIf (bad : Prop) [Decidable bad] (message : ε) : Except ε Unit :=
  if bad then .error message else .ok ()

/-- Run a check on an optional value, when it is there. -/
def whenSome (value : Option α) (check : α → Except ε Unit) : Except ε Unit :=
  match value with
  | none => .ok ()
  | some a => check a

/-- Run a check on every element, in order. -/
def forAll (check : α → Except ε Unit) : List α → Except ε Unit
  | [] => .ok ()
  | a :: rest => do
    check a
    forAll check rest

@[simp] theorem failIf_ok_iff {bad : Prop} [Decidable bad] {message : ε} {u : Unit} :
    failIf bad message = .ok u ↔ ¬ bad := by
  unfold failIf
  split_ifs with h <;> simp [h]

@[simp] theorem whenSome_ok_iff {value : Option α} {check : α → Except ε Unit} {u : Unit} :
    whenSome value check = .ok u ↔ ∀ a, value = some a → check a = .ok () := by
  cases value <;> simp [whenSome]

theorem bind_ok_iff {x : Except ε α} {f : α → Except ε β} {b : β} :
    (x >>= f) = .ok b ↔ ∃ a, x = .ok a ∧ f a = .ok b := by
  cases x <;> simp [bind, Except.bind]

theorem bind_error_iff {x : Except ε α} {f : α → Except ε β} {error : ε} :
    (x >>= f) = .error error ↔ x = .error error ∨ ∃ a, x = .ok a ∧ f a = .error error := by
  cases x <;> simp [bind, Except.bind]

theorem failIf_error_iff {bad : Prop} [Decidable bad] {message error : ε} :
    failIf bad message = .error error ↔ bad ∧ message = error := by
  unfold failIf
  split_ifs with h <;> simp [h]

@[simp] theorem ok_bind_eq (a : α) (f : α → Except ε β) : (Except.ok a >>= f) = f a :=
  rfl

@[simp] theorem then_ok_iff {x : Except ε Unit} {y : Except ε β} {b : β} :
    (x >>= fun _ => y) = .ok b ↔ x = .ok () ∧ y = .ok b := by
  cases x <;> simp [bind, Except.bind]

@[simp] theorem pure_ok_iff {x y : α} : (pure x : Except ε α) = .ok y ↔ x = y := by
  simp [pure, Except.pure]

theorem ite_ok_iff {p : Prop} [Decidable p] {x y : Except ε α} {a : α} :
    (if p then x else y) = .ok a ↔ (p → x = .ok a) ∧ (¬ p → y = .ok a) := by
  by_cases hp : p <;> simp [hp]

@[simp] theorem forAll_ok_iff {check : α → Except ε Unit} {as : List α} {u : Unit} :
    forAll check as = .ok u ↔ ∀ a ∈ as, check a = .ok () := by
  induction as with
  | nil => simp [forAll]
  | cons a rest ih => simp [forAll, ih]

/-- Every result of `mapM` comes from an element, and every element has a result. -/
theorem mapM_ok {f : α → Except ε β} {as : List α} {bs : List β} (h : as.mapM f = .ok bs) :
    (∀ b ∈ bs, ∃ a ∈ as, f a = .ok b) ∧ ∀ a ∈ as, ∃ b ∈ bs, f a = .ok b := by
  induction as generalizing bs with
  | nil =>
    rw [List.mapM_nil, pure_ok_iff] at h
    simp [← h]
  | cons a as ih =>
    rw [List.mapM_cons, bind_ok_iff] at h
    obtain ⟨b, hb, h⟩ := h
    obtain ⟨rest, hrest, h⟩ := bind_ok_iff.mp h
    rw [pure_ok_iff] at h
    obtain ⟨hfrom, hto⟩ := ih hrest
    rw [← h]
    constructor
    · rintro b' (_ | ⟨_, hb'⟩)
      · exact ⟨a, List.mem_cons_self, hb⟩
      · obtain ⟨a', ha', hresult⟩ := hfrom b' hb'
        exact ⟨a', List.mem_cons_of_mem a ha', hresult⟩
    · rintro a' (_ | ⟨_, ha'⟩)
      · exact ⟨b, List.mem_cons_self, hb⟩
      · obtain ⟨b', hb', hresult⟩ := hto a' ha'
        exact ⟨b', List.mem_cons_of_mem b hb', hresult⟩

/-- What each result takes over from its element, the results take over from the elements. -/
theorem mapM_map {γ : Type} {f : α → Except ε β} {g : α → γ} {g' : β → γ} {as : List α}
    {bs : List β}
    (hf : ∀ a b, f a = .ok b → g' b = g a) (h : as.mapM f = .ok bs) : bs.map g' = as.map g := by
  induction as generalizing bs with
  | nil =>
    rw [List.mapM_nil, pure_ok_iff] at h
    rw [← h]
    rfl
  | cons a as ih =>
    rw [List.mapM_cons, bind_ok_iff] at h
    obtain ⟨b, hb, h⟩ := h
    obtain ⟨rest, hrest, h⟩ := bind_ok_iff.mp h
    rw [pure_ok_iff] at h
    rw [← h, List.map_cons, List.map_cons, hf a b hb, ih hrest]

/-- Another message does not make a failed check pass. -/
theorem mapError_ok_iff {ε' : Type} {f : ε → ε'} {x : Except ε α} {a : α} :
    x.mapError f = .ok a ↔ x = .ok a := by
  cases x with
  | ok b => exact ⟨fun h => congrArg _ (Except.ok.inj h), fun h => congrArg _ (Except.ok.inj h)⟩
  | error e => exact ⟨fun h => (by cases h), fun h => (by cases h)⟩

/-- A function that never fails on the list maps it. -/
theorem mapM_eq_ok {f : α → Except ε β} {g : α → β} {as : List α}
    (h : ∀ a ∈ as, f a = .ok (g a)) : as.mapM f = .ok (as.map g) := by
  induction as with
  | nil => rfl
  | cons a as ih =>
    rw [List.mapM_cons, h a List.mem_cons_self,
      ih fun a' ha' => h a' (List.mem_cons_of_mem a ha')]
    rfl

/-- A computation ends well with a result of which `f` is `b`. -/
theorem toOption_map_eq_some {x : Except ε α} {f : α → β} {b : β} :
    x.toOption.map f = some b ↔ ∃ a, x = .ok a ∧ f a = b := by
  cases x <;> simp [Except.toOption]

/-- What every step of a fold respects, the fold respects. -/
theorem foldlM_related {R : β → β → Prop} (hrefl : ∀ b, R b b)
    (htrans : ∀ a b c, R a b → R b c → R a c) {f : β → α → Except ε β}
    (hstep : ∀ b a b', f b a = .ok b' → R b b') {as : List α} {b b' : β}
    (h : as.foldlM f b = .ok b') : R b b' := by
  induction as generalizing b with
  | nil =>
    rw [List.foldlM_nil, pure_ok_iff] at h
    exact h ▸ hrefl b
  | cons a as ih =>
    rw [List.foldlM_cons, bind_ok_iff] at h
    obtain ⟨b₁, hfirst, hrest⟩ := h
    exact htrans _ _ _ (hstep b a b₁ hfirst) (ih hrest)

end Checks
