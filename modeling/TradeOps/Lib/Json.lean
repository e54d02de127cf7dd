import TradeOps.Lib.JsText
import Mathlib.Tactic.Common

/-!
# JSON values

The values that canonical JSON documents are built from. Numbers are integers: the canonical
profile has no fractions and no exponents. A string is a JavaScript string; the names of fields are
texts.
-/

/-- A JSON value with integer numbers; an object is the list of its fields. -/
inductive Json where
  | null
  | bool (value : Bool)
  | num (value : Int)
  | str (value : JsString)
  | arr (items : List Json)
  | obj (fields : List (String × Json))

namespace Json

/-- An absent value is `null`. -/
def ofOption {α : Type} (f : α → Json) : Option α → Json
  | none => .null
  | some a => f a

/-- An array of strings. -/
def strs (values : List JsString) : Json :=
  .arr (values.map .str)

/-- An array of integers. -/
def nums (values : List Int) : Json :=
  .arr (values.map .num)

variable (num : Int → Bool) (str : JsString → Bool)

mutual

/-- Every number and every string of a value passes its test. -/
def leaves : Json → Bool
  | .null => true
  | .bool _ => true
  | .num n => num n
  | .str s => str s
  | .arr items => leavesItems items
  | .obj fields => leavesFields fields

def leavesItems : List Json → Bool
  | [] => true
  | item :: rest => leaves item && leavesItems rest

def leavesFields : List (String × Json) → Bool
  | [] => true
  | (_, value) :: rest => leaves value && leavesFields rest

end

variable {num str}

@[simp] theorem leaves_strs {values : List JsString} :
    (strs values).leaves num str = values.all str := by
  rw [strs, leaves]
  induction values with
  | nil => rfl
  | cons value rest ih => simp [leavesItems, leaves, ih]

@[simp] theorem leaves_nums {values : List Int} :
    (nums values).leaves num str = values.all num := by
  rw [nums, leaves]
  induction values with
  | nil => rfl
  | cons value rest ih => simp [leavesItems, leaves, ih]

@[simp] theorem leaves_ofOption {α : Type} {f : α → Json} {value : Option α} :
    (ofOption f value).leaves num str = value.all fun a => (f a).leaves num str := by
  cases value <;> simp [ofOption, leaves]

end Json
