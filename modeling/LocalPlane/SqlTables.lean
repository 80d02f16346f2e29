import LocalPlane.SqlConditions

/-!
# Tables, their rows and what the schema asks of them

`T` names the tables, `C` the columns and `N` the indexes and triggers. Rows are functions of the
column; what a row holds at a column its table does not have is never looked at.
-/

set_option linter.dupNamespace false

namespace LocalPlane
namespace Sql

open Truth (accepts)

abbrev Row (C : Type) := C → Cell

/-- What the rows of every table are, in the order they were inserted. -/
abbrev Content (T C : Type) := T → List (Row C)

inductive Kind where
  | integer | text
  deriving DecidableEq

structure ColumnDef (C : Type) where
  name : C
  kind : Kind
  notNull : Bool
  default : Cell
  deriving DecidableEq

namespace ColumnDef

variable {C : Type}

def nullable (kind : Kind) (name : C) : ColumnDef C := ⟨name,kind,false,.null⟩
def required (kind : Kind) (name : C) : ColumnDef C := ⟨name,kind,true,.null⟩
def orElse (kind : Kind) (name : C) (value : Cell) : ColumnDef C := ⟨name,kind,true,value⟩

/-- A strict column holds its own kind, integers of 64 bits, and NULL unless that is refused. -/
def admits (d : ColumnDef C) : Cell → Bool
  | .null => !d.notNull
  | .integer n => d.kind = .integer && decide (-2^63 ≤ n ∧ n < 2^63)
  | .text _ => d.kind = .text

theorem admits_null {d : ColumnDef C} {cell : Cell} (h : d.admits cell = true) (hd : d.notNull = true) :
    cell ≠ .null := by
  intro hc
  simp [hc,admits,hd] at h

end ColumnDef

structure Reference (T C : Type) where
  column : C
  table : T
  parent : C
  deriving DecidableEq

structure TableDef (T C : Type) where
  columns : List (ColumnDef C)
  references : List (Reference T C)
  uniques : List (List C)
  checks : List (Condition C)
  deriving DecidableEq

structure Index (T C : Type) where
  table : T
  columns : List C
  unique : Bool
  filter : Option (Condition C)
  deriving DecidableEq

/-- Whose row a trigger's condition reads: the written row, or one a subquery goes through. -/
inductive Source where
  | new | old | first | second
  deriving DecidableEq

section Sources

variable {C : Type}

def new (c : C) : Source × C := (.new,c)
def old (c : C) : Source × C := (.old,c)
def first (c : C) : Source × C := (.first,c)
def second (c : C) : Source × C := (.second,c)

end Sources

inductive When (T C : Type) where
  | always
  | holds (c : Condition (Source × C))
  | any (t : T) (c : Condition (Source × C))
  | anyJoin (t u : T) (c : Condition (Source × C))
  | not (w : When T C)
  | and (v w : When T C)
  | or (v w : When T C)
  deriving DecidableEq

/-- An update fires for the columns it sets; a trigger that names none fires for any. -/
inductive Event (C : Type) where
  | insert
  | update (columns : List C)
  | delete
  deriving DecidableEq

/-- A trigger whose body refuses the write. -/
structure Trigger (T C : Type) where
  table : T
  event : Event C
  condition : When T C
  deriving DecidableEq

structure Schema (T C N : Type) where
  tables : List (T × TableDef T C)
  indexes : List (N × Index T C)
  triggers : List (N × Trigger T C)

variable {T C N : Type}

section Rows

variable (read : String → String → Cell)

namespace TableDef

def typed (d : TableDef T C) (row : Row C) : Bool := d.columns.all fun c => c.admits (row c.name)
def checked (d : TableDef T C) (row : Row C) : Bool := d.checks.all fun c => accepts (c.eval read row)
def passes (d : TableDef T C) (row : Row C) : Bool := d.typed row && d.checked read row

theorem typed_column {d : TableDef T C} {row : Row C} (h : d.passes read row = true) {c : ColumnDef C}
    (hc : c ∈ d.columns) : c.admits (row c.name) = true := by
  simp only [passes,typed,Bool.and_eq_true,List.all_eq_true] at h
  exact h.1 c hc

theorem accepts_check {d : TableDef T C} {row : Row C} (h : d.passes read row = true) {c : Condition C}
    (hc : c ∈ d.checks) : accepts (c.eval read row) = true := by
  simp only [passes,checked,Bool.and_eq_true,List.all_eq_true] at h
  exact h.2 c hc

variable [DecidableEq C]

def column? (d : TableDef T C) (name : C) : Option (ColumnDef C) := d.columns.find? (·.name = name)

/-- A row as INSERT makes it: the given values, the defaults of the other columns. -/
def build (d : TableDef T C) (given : List (C × Cell)) : Row C := fun c =>
  match given.find? (·.1 = c) with
  | some (_,value) => value
  | none => ((d.column? c).map (·.default)).getD .null

end TableDef

/-- NULLs are distinct from each other, and a partial index looks only at the rows it covers. -/
def clash (columns : List C) (filter : Option (Condition C)) (row other : Row C) : Bool :=
  columns.all (fun c => row c ≠ .null && row c = other c) &&
    filter.all fun f => f.eval read row = some true && f.eval read other = some true

namespace Schema

variable [DecidableEq T]

def table? (s : Schema T C N) (t : T) : Option (TableDef T C) := (s.tables.find? (·.1 = t)).map (·.2)

/-- Everything that keeps two rows of a table apart. -/
def keys (s : Schema T C N) (t : T) : List (List C × Option (Condition C)) :=
  ((s.table? t).map fun d => d.uniques.map fun u => (u,none)).getD [] ++
    (s.indexes.filter fun i => i.2.table = t && i.2.unique).map fun i => (i.2.columns,i.2.filter)

def clashes (s : Schema T C N) (t : T) (row other : Row C) : Bool :=
  (s.keys t).any fun k => clash read k.1 k.2 row other

/-- Every reference of a row that is not NULL finds its parent. -/
def anchored (content : Content T C) (d : TableDef T C) (row : Row C) : Bool :=
  d.references.all fun r => row r.column = .null || (content r.table).any fun parent => parent r.parent = row r.column

def anchoredAll (s : Schema T C N) (content : Content T C) : Bool :=
  s.tables.all fun (t,d) => (content t).all fun row => anchored content d row

/-- What the CHECKs, the keys and the references say of a whole store. -/
structure Valid (s : Schema T C N) (content : Content T C) : Prop where
  passes : ∀ t d,s.table? t = some d → ∀ row ∈ content t,d.passes read row = true
  apart : ∀ t d,s.table? t = some d → (content t).Pairwise fun row other => s.clashes read t row other = false
  anchored : s.anchoredAll content = true

end Schema
end Rows

section Triggers

variable (read : String → String → Cell)

/-- The rows a condition sees. -/
structure Scope (C : Type) where
  new : Row C
  old : Row C

def Scope.row (scope : Scope C) (first second : Row C) : Source × C → Cell
  | (.new,c) => scope.new c
  | (.old,c) => scope.old c
  | (.first,c) => first c
  | (.second,c) => second c

namespace When

def eval (content : Content T C) (scope : Scope C) : When T C → Truth
  | always => some true
  | holds c => c.eval read (scope.row scope.new scope.new)
  | any t c => some ((content t).any fun first => c.eval read (scope.row first first) = some true)
  | anyJoin t u c => some ((content t).any fun first => (content u).any fun second =>
      c.eval read (scope.row first second) = some true)
  | not w => (w.eval content scope).not
  | and v w => (v.eval content scope).and (w.eval content scope)
  | or v w => (v.eval content scope).or (w.eval content scope)

end When

namespace Trigger

/-- Unknown does not fire a trigger. -/
def fires (trigger : Trigger T C) (content : Content T C) (scope : Scope C) : Bool :=
  trigger.condition.eval read content scope = some true

def onInsert [DecidableEq T] (trigger : Trigger T C) (t : T) : Bool :=
  trigger.table = t && match trigger.event with
    | .insert => true
    | _ => false

def onUpdate [DecidableEq T] [DecidableEq C] (trigger : Trigger T C) (t : T) (columns : List C) : Bool :=
  trigger.table = t && match trigger.event with
    | .update watched => watched = [] || watched.any (· ∈ columns)
    | _ => false

def onDelete [DecidableEq T] (trigger : Trigger T C) (t : T) : Bool :=
  trigger.table = t && match trigger.event with
    | .delete => true
    | _ => false

end Trigger
end Triggers
end Sql
end LocalPlane
