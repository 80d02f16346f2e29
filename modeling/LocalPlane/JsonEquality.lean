import LocalPlane.LineProtocol
import LocalPlane.StableSort
import Mathlib.Data.String.Basic

/-!
# When two JSON values are the same

A value is written out with its keys in one order, and two values are the same text exactly
when they are the same up to that order. Compared as values they are also equal where one
holds a truth value and the other the number it counts as.
-/

set_option linter.dupNamespace false

namespace LocalPlane
namespace LineProtocol

mutual

/-- The value with the keys of every object in order. -/
def Json.written : Json → Json
  | .arr items => .arr (writtenItems items)
  | .obj fields => .obj (sortBy Prod.fst (writtenFields fields))
  | value => value

def writtenItems : List Json → List Json
  | [] => []
  | item :: rest => item.written :: writtenItems rest

def writtenFields : Fields → Fields
  | [] => []
  | (key,value) :: rest => (key,value.written) :: writtenFields rest

end

mutual

/-- The value with a number for every truth value. -/
def Json.counted : Json → Json
  | .bool value => .num (if value then 1 else 0)
  | .arr items => .arr (countedItems items)
  | .obj fields => .obj (countedFields fields)
  | value => value

def countedItems : List Json → List Json
  | [] => []
  | item :: rest => item.counted :: countedItems rest

def countedFields : Fields → Fields
  | [] => []
  | (key,value) :: rest => (key,value.counted) :: countedFields rest

end

/-- Written the same, letter for letter. -/
def Json.SameText (a b : Json) : Prop := a.written = b.written

instance (a b : Json) : Decidable (a.SameText b) := inferInstanceAs (Decidable (a.written = b.written))

/-- Equal as values: up to the order of keys, and with true counting as one and false as zero. -/
def Json.equals (a b : Json) : Bool := a.written.counted = b.written.counted

theorem Json.equals_of_sameText {a b : Json} (h : a.SameText b) : a.equals b = true := by
  rw [Json.SameText] at h
  rw [Json.equals,h]
  exact decide_eq_true rfl

@[simp] theorem Json.equals_self (a : Json) : a.equals a = true := Json.equals_of_sameText rfl

/-- Objects with the same keys and values written the same are written the same. -/
theorem Json.sameText_obj {fields fields' : Fields}
    (h : List.Forall₂ (fun f f' => f.1 = f'.1 ∧ f.2.SameText f'.2) fields fields') :
    (Json.obj fields).SameText (.obj fields') := by
  have hw : writtenFields fields = writtenFields fields' := by
    induction h with
    | nil => rfl
    | cons hf _ ih => rw [writtenFields,writtenFields,ih,hf.1,hf.2]
  rw [Json.SameText,Json.written,Json.written,hw]

end LineProtocol
end LocalPlane
