import LocalPlane.SqlTables
import Mathlib.Logic.Function.Basic
import Mathlib.Data.List.TakeDrop

/-!
# Writes and what the schema lets through

One row a statement. A write that is refused leaves the store as it was, so a history is any
sequence of attempts; every writer has its own connection, which enforces foreign keys or not.
-/

set_option linter.dupNamespace false

namespace LocalPlane
namespace Sql

variable {T C N : Type}

/-- `replacing` is REPLACE conflict resolution: the rows in the way are removed, firing no trigger. -/
inductive Write (T C : Type) where
  | insert (t : T) (given : List (C × Cell)) (replacing : Bool)
  | update (t : T) (position : ℕ) (set : List (C × Cell)) (replacing : Bool)
  | delete (t : T) (position : ℕ)

/-- A statement and whether its connection enforces foreign keys. -/
structure Submission (T C : Type) where
  write : Write T C
  foreignKeys : Bool

def assign [DecidableEq C] (set : List (C × Cell)) (row : Row C) : Row C := fun c =>
  match set.find? (·.1 = c) with
  | some (_,value) => value
  | none => row c

namespace Schema

variable [DecidableEq T] (read : String → String → Cell) (s : Schema T C N)

/-- The other rows of the table, none of which may stand in the row's way. -/
def cleared (t : T) (others : List (Row C)) (row : Row C) (replacing : Bool) : Option (List (Row C)) :=
  if others.any (s.clashes read t row) then
    if replacing then some (others.filter fun other => !s.clashes read t row other) else none
  else some others

def silent (content : Content T C) (scope : Sql.Scope C) (concerns : Trigger T C → Bool) : Bool :=
  s.triggers.all fun g => !(concerns g.2 && g.2.fires read content scope)

/-- Foreign keys are looked at when the statement has done the rest of its work. -/
def settle (foreignKeys : Bool) (content : Content T C) : Option (Content T C) :=
  if foreignKeys && !s.anchoredAll content then none else some content

section Statements

variable [DecidableEq C]

/-- The row a write puts into its table. -/
def written (content : Content T C) : Write T C → Option (T × Row C)
  | .insert t given _ => (s.table? t).map fun d => (t,d.build given)
  | .update t position set _ => ((content t)[position]?).map fun row => (t,assign set row)
  | .delete .. => none

def known (d : TableDef T C) (given : List (C × Cell)) : Bool := given.all fun g => (d.column? g.1).isSome

/-- What the store is after a write the schema accepts. -/
def accept (content : Content T C) (a : Submission T C) : Option (Content T C) :=
  match a.write with
  | .insert t given replacing =>
    (s.table? t).bind fun d =>
      let row := d.build given
      if known d given && s.silent read content ⟨row,fun _ => .null⟩ (·.onInsert t) && d.passes read row then
        (s.cleared read t (content t) row replacing).bind fun others =>
          s.settle a.foreignKeys (Function.update content t (others ++ [row]))
      else none
  | .update t position set replacing =>
    (s.table? t).bind fun d => (content t)[position]?.bind fun before =>
      let row := assign set before
      if known d set && s.silent read content ⟨row,before⟩ (·.onUpdate t (set.map (·.1))) && d.passes read row then
        (s.cleared read t ((content t).take position) row replacing).bind fun above =>
          (s.cleared read t ((content t).drop (position + 1)) row replacing).bind fun below =>
            s.settle a.foreignKeys (Function.update content t (above ++ row :: below))
      else none
  | .delete t position =>
    (s.table? t).bind fun _ => (content t)[position]?.bind fun before =>
      if s.silent read content ⟨before,before⟩ (·.onDelete t) then
        s.settle a.foreignKeys (Function.update content t ((content t).eraseIdx position))
      else none

def after (content : Content T C) (a : Submission T C) : Content T C := (s.accept read content a).getD content

def run (content : Content T C) (attempts : List (Submission T C)) : Content T C := attempts.foldl (s.after read) content

/-- Every store of a history, the first one included. -/
def Throughout (p : Content T C → Prop) : Content T C → List (Submission T C) → Prop
  | content,[] => p content
  | content,a :: rest => p content ∧ Throughout p (s.after read content a) rest

/-- Every accepted write of a history, by the row it puts into its table. -/
def EveryRow (p : T → Row C → Prop) : Content T C → List (Submission T C) → Prop
  | _,[] => True
  | content,a :: rest =>
    ((s.accept read content a).isSome → ∀ t row,s.written content a.write = some (t,row) → p t row) ∧
      EveryRow p (s.after read content a) rest

end Statements

/-- What holds of each row of a store. -/
def AllRows (p : T → Row C → Prop) (content : Content T C) : Prop := ∀ t row,row ∈ content t → p t row

def Passes (t : T) (row : Row C) : Prop := ∃ d,s.table? t = some d ∧ d.passes read row = true

variable {read s}

omit [DecidableEq T] in
theorem settle_eq {foreignKeys : Bool} {content content' : Content T C}
    (h : s.settle foreignKeys content = some content') : content' = content := by
  unfold settle at h
  split at h
  · contradiction
  · exact (Option.some.inj h).symm

theorem mem_of_cleared {t : T} {others kept : List (Row C)} {row : Row C} {replacing : Bool}
    (h : s.cleared read t others row replacing = some kept) {other : Row C} (hm : other ∈ kept) : other ∈ others := by
  unfold cleared at h
  split at h
  · split at h
    · obtain rfl := Option.some.inj h
      exact List.mem_of_mem_filter hm
    · contradiction
  · obtain rfl := Option.some.inj h
    exact hm

section Steps

variable [DecidableEq C]

variable (read s) in
/-- What an accepted write does: its new row passes and joins rows that were there before. -/
structure Effect (content content' : Content T C) (w : Write T C) : Prop where
  kept : ∀ t row,row ∈ content' t → row ∈ content t ∨ s.written content w = some (t,row)
  put : ∀ t row,s.written content w = some (t,row) → row ∈ content' t
  passes : ∀ t row,s.written content w = some (t,row) → s.Passes read t row

theorem effect_put {content : Content T C} {w : Write T C} {t : T} {row : Row C} {above below : List (Row C)}
    (hw : s.written content w = some (t,row)) (hp : s.Passes read t row) (ha : ∀ other ∈ above,other ∈ content t)
    (hb : ∀ other ∈ below,other ∈ content t) :
    Effect read s content (Function.update content t (above ++ row :: below)) w := by
  refine ⟨?_,?_,?_⟩
  · intro u other hother
    by_cases hu : u = t
    · subst u
      rw [Function.update_self,List.mem_append,List.mem_cons] at hother
      rcases hother with hother | rfl | hother
      · exact .inl (ha other hother)
      · exact .inr hw
      · exact .inl (hb other hother)
    · rw [Function.update_of_ne hu] at hother
      exact .inl hother
  · intro u other hother
    rw [hw,Option.some.injEq,Prod.mk.injEq] at hother
    obtain ⟨rfl,rfl⟩ := hother
    simp
  · intro u other hother
    rw [hw,Option.some.injEq,Prod.mk.injEq] at hother
    obtain ⟨rfl,rfl⟩ := hother
    exact hp

theorem effect_erase {content : Content T C} (t : T) (position : ℕ) :
    Effect read s content (Function.update content t ((content t).eraseIdx position)) (.delete t position) := by
  refine ⟨?_,by simp [written],by simp [written]⟩
  intro u row hrow
  by_cases hu : u = t
  · subst u
    rw [Function.update_self] at hrow
    exact .inl (List.mem_of_mem_eraseIdx hrow)
  · rw [Function.update_of_ne hu] at hrow
    exact .inl hrow

theorem accept_effect {content content' : Content T C} {a : Submission T C} (h : s.accept read content a = some content') :
    Effect read s content content' a.write := by
  obtain ⟨w,foreignKeys⟩ := a
  cases w with
  | insert t given replacing =>
    simp only [accept,Option.bind_eq_some_iff] at h
    obtain ⟨d,hd,h⟩ := h
    split at h
    case isFalse => contradiction
    case isTrue hguard =>
    simp only [Bool.and_eq_true] at hguard
    obtain ⟨others,hothers,h⟩ := Option.bind_eq_some_iff.mp h
    obtain rfl := settle_eq h
    apply effect_put (by simp [written,hd]) ⟨d,hd,hguard.2⟩ (fun _ => mem_of_cleared hothers)
    simp
  | update t position set replacing =>
    simp only [accept,Option.bind_eq_some_iff] at h
    obtain ⟨d,hd,before,hbefore,h⟩ := h
    split at h
    case isFalse => contradiction
    case isTrue hguard =>
    simp only [Bool.and_eq_true] at hguard
    obtain ⟨above,habove,h⟩ := Option.bind_eq_some_iff.mp h
    obtain ⟨below,hbelow,h⟩ := Option.bind_eq_some_iff.mp h
    obtain rfl := settle_eq h
    apply effect_put (by simp [written,hbefore]) ⟨d,hd,hguard.2⟩
    · exact fun other hother => List.mem_of_mem_take (mem_of_cleared habove hother)
    · exact fun other hother => List.mem_of_mem_drop (mem_of_cleared hbelow hother)
  | delete t position =>
    simp only [accept,Option.bind_eq_some_iff] at h
    obtain ⟨d,hd,before,hbefore,h⟩ := h
    split at h
    case isFalse => contradiction
    case isTrue hguard =>
    obtain rfl := settle_eq h
    exact effect_erase t position

end Steps

section Histories

variable [DecidableEq C] {p q : Content T C → Prop}

theorem after_some {content content' : Content T C} {a : Submission T C} (h : s.accept read content a = some content') :
    s.after read content a = content' := by simp [after,h]

theorem after_none {content : Content T C} {a : Submission T C} (h : s.accept read content a = none) :
    s.after read content a = content := by simp [after,h]

theorem throughout_of_step (hstep : ∀ content a,p content → p (s.after read content a)) (content : Content T C)
    (attempts : List (Submission T C)) (h : p content) : s.Throughout read p content attempts := by
  induction attempts generalizing content with
  | nil => exact h
  | cons a rest ih => exact ⟨h,ih _ (hstep content a h)⟩

theorem throughout_last {content : Content T C} {attempts : List (Submission T C)} (h : s.Throughout read p content attempts) :
    p (s.run read content attempts) := by
  induction attempts generalizing content with
  | nil => exact h
  | cons a rest ih => exact ih h.2

/-- Two properties that agree wherever an invariant holds hold of the same histories. -/
theorem throughout_congr {inv : Content T C → Prop} (hpq : ∀ content,inv content → (p content ↔ q content))
    (content : Content T C) (attempts : List (Submission T C)) (h : s.Throughout read inv content attempts) :
    s.Throughout read p content attempts ↔ s.Throughout read q content attempts := by
  induction attempts generalizing content with
  | nil => exact hpq content h
  | cons a rest ih =>
    simp only [Throughout]
    rw [hpq content h.1,ih _ h.2]

theorem passes_after (content : Content T C) (a : Submission T C) (h : AllRows (s.Passes read) content) :
    AllRows (s.Passes read) (s.after read content a) := by
  cases ha : s.accept read content a with
  | none => rwa [after_none ha]
  | some content' =>
    rw [after_some ha]
    intro t row hrow
    rcases (accept_effect ha).kept t row hrow with hrow | hrow
    · exact h t row hrow
    · exact (accept_effect ha).passes t row hrow

/-- A history keeps to a rule about single rows just where every row it writes does. -/
theorem throughout_allRows_iff {r : T → Row C → Prop} (content : Content T C) (attempts : List (Submission T C)) :
    s.Throughout read (AllRows r) content attempts ↔ AllRows r content ∧ s.EveryRow read r content attempts := by
  induction attempts generalizing content with
  | nil => simp [Throughout,EveryRow]
  | cons a rest ih =>
    simp only [Throughout,EveryRow,ih]
    apply and_congr_right
    intro hstart
    apply and_congr_left
    intro _
    cases ha : s.accept read content a with
    | none => simpa [after_none ha] using hstart
    | some content' =>
      rw [after_some ha]
      have heffect := accept_effect ha
      constructor
      · intro h _ t row hrow
        exact h t row (heffect.put t row hrow)
      · intro h t row hrow
        rcases heffect.kept t row hrow with hrow | hrow
        · exact hstart t row hrow
        · exact h rfl t row hrow

end Histories
end Schema
end Sql
end LocalPlane
