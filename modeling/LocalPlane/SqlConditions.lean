import LocalPlane.ThreeValued
import Mathlib.Algebra.Group.Int.Defs
import Mathlib.Data.List.Basic

/-!
# Conditions on the cells of a row

Conditions are data over any type of references, so that the same text can be evaluated,
compared with another one and looked through for the references it makes.
-/

set_option linter.dupNamespace false

namespace LocalPlane
namespace Sql

open Truth (accepts)

/-- What a cell of a strict table holds. -/
inductive Cell where
  | null
  | integer (n : Int)
  | text (s : String)
  deriving DecidableEq

namespace Cell

/-- Comparison with a NULL is unknown; every integer comes before every text. -/
def eq : Cell → Cell → Truth
  | null,_ => none
  | _,null => none
  | a,b => some (decide (a = b))

def lt : Cell → Cell → Truth
  | null,_ => none
  | _,null => none
  | integer m,integer n => some (decide (m < n))
  | integer _,text _ => some true
  | text _,integer _ => some false
  | text s,text t => some (decide (s < t))

/-- LIKE with a trailing wildcard does not look at the case of ASCII letters. -/
def startsWith (stem : String) : Cell → Truth
  | null => none
  | integer n => some ((stem.toList.map Char.toLower).isPrefixOf ((toString n).toList.map Char.toLower))
  | text s => some ((stem.toList.map Char.toLower).isPrefixOf (s.toList.map Char.toLower))

def among (cell : Cell) (values : List Cell) : Truth :=
  values.foldr (fun v found => Truth.or (cell.eq v) found) (some false)

@[simp] theorem eq_null (c : Cell) : eq c null = none := by cases c <;> rfl
@[simp] theorem null_eq (c : Cell) : eq null c = none := rfl
@[simp] theorem lt_null (c : Cell) : lt c null = none := by cases c <;> rfl
@[simp] theorem null_lt (c : Cell) : lt null c = none := rfl

theorem eq_of_ne_null {a b : Cell} (ha : a ≠ null) (hb : b ≠ null) : eq a b = some (decide (a = b)) := by
  cases a <;> cases b <;> first | rfl | contradiction

@[simp] theorem accepts_eq (a b : Cell) : accepts (eq a b) = (decide (a = null) || decide (b = null) || decide (a = b)) := by
  by_cases ha : a = null
  · simp [ha,accepts]
  · by_cases hb : b = null
    · simp [hb,accepts]
    · simp [eq_of_ne_null ha hb,ha,hb]

theorem eq_eq_true {a b : Cell} : eq a b = some true ↔ a ≠ null ∧ a = b := by
  by_cases ha : a = null
  · simp [ha]
  · by_cases hb : b = null
    · simp [hb,ha]
    · simp [eq_of_ne_null ha hb,ha]

theorem accepts_among (cell : Cell) (values : List Cell) :
    accepts (among cell values) = values.any fun v => accepts (cell.eq v) := by
  induction values with
  | nil => rfl
  | cons v rest ih =>
    simp only [among] at ih
    simp only [among,List.foldr_cons,Truth.accepts_or,ih,List.any_cons]

end Cell

/-- What stands on one side of a comparison; `json` is a member read out of a JSON text. -/
inductive Term (R : Type) where
  | column (r : R)
  | value (v : Cell)
  | json (r : R) (path : String)
  deriving DecidableEq

inductive Condition (R : Type) where
  | isNull (t : Term R)
  | is (t u : Term R)
  | eq (t u : Term R)
  | lt (t u : Term R)
  | among (t : Term R) (values : List Cell)
  | like (t : Term R) (stem : String)
  | chosen (t : Term R) (c : Condition R) (yes no : Cell)
  | not (c : Condition R)
  | and (c d : Condition R)
  | or (c d : Condition R)
  | same (c d : Condition R)
  deriving DecidableEq

variable {R S : Type}

namespace Term

/-- `read path text` is what `json_extract` finds; it belongs to the database engine. -/
def eval (read : String → String → Cell) (row : R → Cell) : Term R → Cell
  | column r => row r
  | value v => v
  | json r path => match row r with
    | .null => .null
    | .integer n => read path (toString n)
    | .text s => read path s

def references : Term R → List R
  | column r => [r]
  | value _ => []
  | json r _ => [r]

theorem eval_congr {read : String → String → Cell} {row row' : R → Cell} (t : Term R)
    (h : ∀ r ∈ t.references,row r = row' r) : t.eval read row = t.eval read row' := by
  cases t with
  | column r => exact h r (by simp [references])
  | value v => rfl
  | json r path => simp only [eval,h r (by simp [references])]

end Term

namespace Condition

def isNotNull (t : Term R) : Condition R := .not (.isNull t)
def isNot (t u : Term R) : Condition R := .not (.is t u)
def ne (t u : Term R) : Condition R := .not (.eq t u)
def ge (t u : Term R) : Condition R := .not (.lt t u)
def gt (t u : Term R) : Condition R := .lt u t
def notLike (t : Term R) (stem : String) : Condition R := .not (.like t stem)

section Columns

variable (r r' : R)

def absent : Condition R := .isNull (.column r)
def present : Condition R := isNotNull (.column r)
def equals (s : String) : Condition R := .eq (.column r) (.value (.text s))
def differs (s : String) : Condition R := ne (.column r) (.value (.text s))
def oneOf (texts : List String) : Condition R := .among (.column r) (texts.map .text)
def equalsNumber (n : Int) : Condition R := .eq (.column r) (.value (.integer n))
def oneOfNumbers (numbers : List Int) : Condition R := .among (.column r) (numbers.map .integer)
def lessThan (n : Int) : Condition R := .lt (.column r) (.value (.integer n))
def moreThan (n : Int) : Condition R := gt (.column r) (.value (.integer n))
def atLeast (n : Int) : Condition R := ge (.column r) (.value (.integer n))
def agree : Condition R := .eq (.column r) (.column r')
def disagree : Condition R := ne (.column r) (.column r')

end Columns

def all : Condition R → List (Condition R) → Condition R := List.foldl .and
def any : Condition R → List (Condition R) → Condition R := List.foldl .or

def eval (read : String → String → Cell) (row : R → Cell) : Condition R → Truth
  | isNull t => some (decide (t.eval read row = .null))
  | is t u => some (decide (t.eval read row = u.eval read row))
  | eq t u => (t.eval read row).eq (u.eval read row)
  | lt t u => (t.eval read row).lt (u.eval read row)
  | among t values => (t.eval read row).among values
  | like t stem => (t.eval read row).startsWith stem
  | chosen t c yes no => (t.eval read row).eq (if c.eval read row = some true then yes else no)
  | not c => (c.eval read row).not
  | and c d => (c.eval read row).and (d.eval read row)
  | or c d => (c.eval read row).or (d.eval read row)
  | same c d => Truth.same (c.eval read row) (d.eval read row)

def references : Condition R → List R
  | isNull t => t.references
  | is t u => t.references ++ u.references
  | eq t u => t.references ++ u.references
  | lt t u => t.references ++ u.references
  | among t _ => t.references
  | like t _ => t.references
  | chosen t c _ _ => t.references ++ c.references
  | not c => c.references
  | and c d => c.references ++ d.references
  | or c d => c.references ++ d.references
  | same c d => c.references ++ d.references

/-- A condition sees a row through the references it makes. -/
theorem eval_congr {read : String → String → Cell} {row row' : R → Cell} (c : Condition R)
    (h : ∀ r ∈ c.references,row r = row' r) : c.eval read row = c.eval read row' := by
  induction c with
  | isNull t => simp only [eval,t.eval_congr h]
  | among t values => simp only [eval,t.eval_congr h]
  | like t stem => simp only [eval,t.eval_congr h]
  | not c ih => simp only [eval,ih h]
  | is t u | eq t u | lt t u =>
    have ht : t.eval read row = t.eval read row' := t.eval_congr fun r hr => h r (List.mem_append_left _ hr)
    have hu : u.eval read row = u.eval read row' := u.eval_congr fun r hr => h r (List.mem_append_right _ hr)
    simp only [eval,ht,hu]
  | chosen t c yes no ih =>
    have ht : t.eval read row = t.eval read row' := t.eval_congr fun r hr => h r (List.mem_append_left _ hr)
    have hc := ih fun r hr => h r (List.mem_append_right _ hr)
    simp only [eval,ht,hc]
  | and c d ihc ihd | or c d ihc ihd | same c d ihc ihd =>
    have hc := ihc fun r hr => h r (List.mem_append_left _ hr)
    have hd := ihd fun r hr => h r (List.mem_append_right _ hr)
    simp only [eval,hc,hd]

section Columns

variable (read : String → String → Cell) (row : R → Cell) (r r' : R)

theorem absent_eval : (absent r).eval read row = some (decide (row r = .null)) := rfl
theorem present_eval : (present r).eval read row = some (!decide (row r = .null)) := rfl
theorem equals_eval (s : String) : (equals r s).eval read row = (row r).eq (.text s) := rfl
theorem differs_eval (s : String) : (differs r s).eval read row = ((row r).eq (.text s)).not := rfl

@[simp] theorem accepts_present : accepts ((present r).eval read row) = decide (row r ≠ .null) := by
  simp [present_eval]

@[simp] theorem accepts_absent : accepts ((absent r).eval read row) = decide (row r = .null) := by
  simp [absent_eval]

@[simp] theorem accepts_equals (s : String) :
    accepts ((equals r s).eval read row) = (decide (row r = .null) || decide (row r = .text s)) := by
  simp [equals_eval]

@[simp] theorem accepts_differs (s : String) : accepts ((differs r s).eval read row) = decide (row r ≠ .text s) := by
  by_cases h : row r = .text s
  · simp [differs_eval,h,Cell.eq,Truth.not,accepts]
  · have hne : (row r).eq (.text s) ≠ some true := fun heq => h (Cell.eq_eq_true.mp heq).2
    simp [differs_eval,h,hne]

/-- Unknown on the left, the comparison of two conditions is unknown. -/
theorem accepts_same_equals_present (s : String) : accepts ((same (equals r s) (present r')).eval read row) =
    (decide (row r = .null) || (decide (row r = .text s) == decide (row r' ≠ .null))) := by
  by_cases h : row r = .null
  · simp [eval,equals_eval,h,Truth.same,accepts]
  · have htext : Cell.text s ≠ .null := by simp
    simp [eval,equals_eval,present_eval,Cell.eq_of_ne_null h htext,h]

end Columns

end Condition
end Sql
end LocalPlane
