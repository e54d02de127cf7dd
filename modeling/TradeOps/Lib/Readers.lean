import Mathlib.Control.Lawful
import Mathlib.Data.List.Basic

/-!
# Readers

A reader takes a value from the front of its input, or fails. `Reads r image a` says that `r` finds
`a` in `image` whatever follows, and leaves what follows. A reader made of parts reads the images
of its parts one after the other.
-/

abbrev Reader (σ α : Type) := StateT (List σ) Option α

namespace Reader

variable {σ α β : Type}

/-- The reader finds `a` in `image`. -/
def Reads (r : Reader σ α) (image : List σ) (a : α) : Prop :=
  ∀ rest, r.run (image ++ rest) = some (a, rest)

/-- Whether the input goes on with these symbols; they are passed if it does. -/
def taken [DecidableEq σ] (symbols : List σ) : Reader σ Bool := fun input =>
  if symbols <+: input then some (true, input.drop symbols.length) else some (false, input)

/-- Passes these symbols. -/
def take [DecidableEq σ] (symbols : List σ) : Reader σ Unit := do
  guard (← taken symbols)

/-- The longest run of such symbols. -/
def span (p : σ → Bool) : Reader σ (List σ) := fun input =>
  some (input.takeWhile p, input.dropWhile p)

/-- The next symbols, if there are as many. -/
def segment (length : Nat) : Reader σ (List σ) := fun input =>
  if length ≤ input.length then some (input.take length, input.drop length) else none

/-- So many values. -/
def times (r : Reader σ α) : Nat → Reader σ (List α)
  | 0 => pure []
  | n + 1 => do
    let a ← r
    let as ← times r n
    pure (a :: as)

variable {r : Reader σ α} {f : α → Reader σ β} {image image' : List σ} {a : α} {b : β}

theorem reads_pure (a : α) : Reads (pure a : Reader σ α) [] a := fun _ => rfl

theorem reads_guard {p : Prop} [Decidable p] (h : p) : Reads (guard p : Reader σ Unit) [] () := by
  intro rest
  rw [guard, if_pos h]
  rfl

theorem guard_bind {p : Prop} [Decidable p] (h : p) (s : Reader σ α) :
    (do guard p; s) = s := by
  rw [guard, if_pos h]
  rfl

/-- Two parts read their images one after the other. -/
theorem Reads.bind (hr : Reads r image a) (hf : Reads (f a) image' b) :
    Reads (r >>= f) (image ++ image') b := by
  intro rest
  rw [StateT.run_bind, List.append_assoc, hr (image' ++ rest)]
  exact hf rest

/-- A part that reads nothing. -/
theorem Reads.bind_nil (hr : Reads r [] a) (hf : Reads (f a) image' b) :
    Reads (r >>= f) image' b :=
  hr.bind hf

/-- The last part. -/
theorem Reads.bind_pure (hr : Reads r image a) (hf : f a = pure b) : Reads (r >>= f) image b := by
  rw [← List.append_nil image]
  refine hr.bind ?_
  rw [hf]
  exact reads_pure b

theorem reads_taken [DecidableEq σ] (symbols : List σ) : Reads (taken symbols) symbols true := by
  intro rest
  show taken symbols (symbols ++ rest) = _
  rw [taken, if_pos (List.prefix_append _ _), List.drop_left]

theorem reads_take [DecidableEq σ] (symbols : List σ) : Reads (take symbols) symbols () := by
  rw [← List.append_nil symbols, take, List.append_nil symbols]
  exact (reads_taken symbols).bind_pure rfl

/-- Other symbols are not passed. -/
theorem Reads.not_taken_bind [DecidableEq σ] {symbol next : σ} {symbols : List σ}
    {g : Bool → Reader σ β} (hne : symbol ≠ next) (hg : Reads (g false) (next :: image') b) :
    Reads (taken (symbol :: symbols) >>= g) (next :: image') b := by
  intro rest
  have hnot : ¬ (symbol :: symbols) <+: (next :: image') ++ rest := by
    rw [List.cons_append, List.cons_prefix_cons]
    exact fun h => hne h.1
  have hrun : (taken (symbol :: symbols)).run ((next :: image') ++ rest) =
      some (false, (next :: image') ++ rest) := if_neg hnot
  rw [StateT.run_bind, hrun]
  exact hg rest

theorem reads_segment (image : List σ) : Reads (segment image.length) image image := by
  intro rest
  show segment image.length (image ++ rest) = _
  rw [segment, if_pos (by simp), List.take_left, List.drop_left]

/-- A run ends in front of the first other symbol. -/
theorem Reads.span_bind {p : σ → Bool} {digits : List σ} {g : List σ → Reader σ β} {stop : σ}
    (hdigits : ∀ x ∈ digits, p x = true) (hstop : p stop = false)
    (hg : Reads (g digits) (stop :: image') b) :
    Reads (span p >>= g) (digits ++ stop :: image') b := by
  intro rest
  have hrun : (span p).run (digits ++ (stop :: (image' ++ rest))) =
      some (digits, stop :: (image' ++ rest)) := by
    show span p _ = _
    rw [span, List.takeWhile_append_of_pos hdigits, List.dropWhile_append_of_pos hdigits,
      List.takeWhile_cons_of_neg (by simp [hstop]), List.dropWhile_cons_of_neg (by simp [hstop]),
      List.append_nil]
  rw [StateT.run_bind, List.append_assoc, List.cons_append, hrun]
  exact hg rest

/-- Rows that are each read back are read back together. -/
theorem Reads.times {picture : α → List σ} {rows : List α}
    (h : ∀ a ∈ rows, Reads r (picture a) a) :
    Reads (times r rows.length) (rows.flatMap picture) rows := by
  induction rows with
  | nil => exact reads_pure []
  | cons a rows ih =>
    rw [List.flatMap_cons]
    refine (h a List.mem_cons_self).bind ?_
    exact (ih fun b hb => h b (List.mem_cons_of_mem _ hb)).bind_pure rfl

end Reader
