import Mathlib.Logic.Basic

/-!
# Three-valued truth of a constraint

A column may be NULL and a comparison with NULL is unknown. A CHECK refuses a row
only when its condition is false, so an unknown condition lets the row in.
-/

set_option linter.dupNamespace false

namespace LocalPlane

/-- True, false, or unknown because a NULL took part. -/
abbrev Truth := Option Bool

namespace Truth

variable {α : Type} [DecidableEq α]

def and : Truth → Truth → Truth
  | some false,_ => some false
  | _,some false => some false
  | some true,some true => some true
  | _,_ => none

def or : Truth → Truth → Truth
  | some true,_ => some true
  | _,some true => some true
  | some false,some false => some false
  | _,_ => none

/-- `column = value`, unknown when the column is NULL. -/
def is (column : Option α) (value : α) : Truth := column.map (decide <| · = value)
def isNot (column : Option α) (value : α) : Truth := column.map (decide <| · ≠ value)
def isNull {α : Type} (column : Option α) : Truth := some column.isNone
def isNotNull {α : Type} (column : Option α) : Truth := some column.isSome

/-- Equality of two conditions, as SQLite compares their values. -/
def same : Truth → Truth → Truth
  | some a,some b => some (a == b)
  | _,_ => none

def not (t : Truth) : Truth := t.map (!·)

/-- A CHECK lets a row in unless its condition is false. -/
def accepts (t : Truth) : Bool := t != some false

@[simp] theorem accepts_and (t u : Truth) : accepts (and t u) = (accepts t && accepts u) := by
  rcases t with _ | _ | _ <;> rcases u with _ | _ | _ <;> rfl

@[simp] theorem accepts_or (t u : Truth) : accepts (or t u) = (accepts t || accepts u) := by
  rcases t with _ | _ | _ <;> rcases u with _ | _ | _ <;> rfl

theorem and_eq_true {t u : Truth} : and t u = some true ↔ t = some true ∧ u = some true := by
  rcases t with _ | _ | _ <;> rcases u with _ | _ | _ <;> simp [and]

theorem and_eq_false {t u : Truth} : and t u = some false ↔ t = some false ∨ u = some false := by
  rcases t with _ | _ | _ <;> rcases u with _ | _ | _ <;> simp [and]

theorem or_eq_true {t u : Truth} : or t u = some true ↔ t = some true ∨ u = some true := by
  rcases t with _ | _ | _ <;> rcases u with _ | _ | _ <;> simp [or]

theorem or_eq_false {t u : Truth} : or t u = some false ↔ t = some false ∧ u = some false := by
  rcases t with _ | _ | _ <;> rcases u with _ | _ | _ <;> simp [or]

theorem same_eq_false {t u : Truth} (h : same t u = some false) : ∃ a : Bool,t = some a ∧ u = some (!a) := by
  rcases t with _ | _ | _ <;> rcases u with _ | _ | _ <;> simp_all [same]

@[simp] theorem accepts_not (t : Truth) : accepts (not t) = (t != some true) := by
  rcases t with _ | _ | _ <;> rfl

@[simp] theorem accepts_some (b : Bool) : accepts (some b) = b := by cases b <;> rfl

@[simp] theorem accepts_is (column : Option α) (value : α) :
    accepts (is column value) = (column.isNone || decide (column = some value)) := by
  cases column with
  | none => rfl
  | some a => simp [is]

@[simp] theorem accepts_isNot (column : Option α) (value : α) :
    accepts (isNot column value) = decide (column ≠ some value) := by
  cases column with
  | none => simp [isNot,accepts]
  | some a => simp [isNot]

@[simp] theorem accepts_isNull {α : Type} (column : Option α) :
    accepts (isNull column) = column.isNone := by simp [isNull]

@[simp] theorem accepts_isNotNull {α : Type} (column : Option α) :
    accepts (isNotNull column) = column.isSome := by simp [isNotNull]

@[simp] theorem accepts_same_some (a b : Bool) : accepts (same (some a) (some b)) = (a == b) := by
  simp [same]

@[simp] theorem accepts_same_is (column : Option α) (value : α) (b : Bool) :
    accepts (same (is column value) (some b)) =
      (column.isNone || (decide (column = some value) == b)) := by
  cases column with
  | none => rfl
  | some a => simp [is,same]

end Truth
end LocalPlane
