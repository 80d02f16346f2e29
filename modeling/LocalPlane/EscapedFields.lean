import Mathlib.Tactic.Common

/-!
# Fields behind an escape

A row of fields between separators, where an escape makes whatever follows it part of the
field. Printing escapes the separator and the escape itself, and splitting gives the fields back.
-/

set_option linter.dupNamespace false

namespace LocalPlane
namespace EscapedFields

variable {α : Type} [DecidableEq α] (esc sep : α)

/-- The fields from inside one of them, right after an escape or not. -/
def splitFrom (current : List α) : Bool → List α → List (List α)
  | _,[] => [current]
  | true,a :: xs => splitFrom (current ++ [a]) false xs
  | false,a :: xs =>
    if a = esc then splitFrom current true xs
    else if a = sep then current :: splitFrom [] false xs
    else splitFrom (current ++ [a]) false xs

def split (xs : List α) : List (List α) := splitFrom esc sep [] false xs

def escape (value : List α) : List α := value.flatMap fun a => if a = esc ∨ a = sep then [esc,a] else [a]

/-- A first field and the others behind a separator each. -/
def print (first : List α) (rest : List (List α)) : List α :=
  escape esc sep first ++ rest.flatMap fun value => sep :: escape esc sep value

/-- How many separators no escape stands in front of. -/
def bare : Bool → List α → ℕ
  | _,[] => 0
  | true,_ :: xs => bare false xs
  | false,a :: xs =>
    if a = esc then bare true xs
    else if a = sep then bare false xs + 1
    else bare false xs

variable {esc sep} {a : α} {current value xs : List α} {escaped : Bool}

theorem length_splitFrom : (splitFrom esc sep current escaped xs).length = bare esc sep escaped xs + 1 := by
  fun_induction splitFrom esc sep current escaped xs <;> simp_all [bare]

omit [DecidableEq α] in
theorem mem_of_mem_append_one {b : α} (h : a ∈ current ++ [b]) : a ∈ current ∨ a ∈ b :: xs := by
  rcases List.mem_append.mp h with h | h
  · exact .inl h
  · obtain rfl := List.mem_singleton.mp h
    exact .inr List.mem_cons_self

theorem mem_of_mem_splitFrom {field : List α} (hf : field ∈ splitFrom esc sep current escaped xs) (ha : a ∈ field) :
    a ∈ current ∨ a ∈ xs := by
  fun_induction splitFrom esc sep current escaped xs with
  | case1 current escaped =>
    obtain rfl := List.mem_singleton.mp hf
    exact .inl ha
  | case2 current b xs ih =>
    rcases ih hf with h | h
    · exact mem_of_mem_append_one h
    · exact .inr (List.mem_cons_of_mem _ h)
  | case3 current xs ih => exact (ih hf).imp_right (List.mem_cons_of_mem _)
  | case4 current xs hne ih =>
    rcases List.mem_cons.mp hf with rfl | hf
    · exact .inl ha
    · rcases ih hf with h | h
      · exact absurd h List.not_mem_nil
      · exact .inr (List.mem_cons_of_mem _ h)
  | case5 current b xs hesc hsep ih =>
    rcases ih hf with h | h
    · exact mem_of_mem_append_one h
    · exact .inr (List.mem_cons_of_mem _ h)

theorem mem_of_mem_split {field : List α} (hf : field ∈ split esc sep xs) (ha : a ∈ field) : a ∈ xs :=
  (mem_of_mem_splitFrom hf ha).resolve_left List.not_mem_nil

/-- What is read so far begins the first field. -/
theorem splitFrom_head (esc sep : α) (current : List α) (escaped : Bool) (xs : List α) :
    ∃ more rest,splitFrom esc sep current escaped xs = (current ++ more) :: rest := by
  fun_induction splitFrom esc sep current escaped xs with
  | case1 current escaped => exact ⟨[],[],by simp⟩
  | case2 current b xs ih =>
    obtain ⟨more,rest,h⟩ := ih
    exact ⟨b :: more,rest,by simp [h]⟩
  | case3 current xs ih => exact ih
  | case4 current xs => exact ⟨[],_,by rw [List.append_nil]⟩
  | case5 current b xs hesc hsep ih =>
    obtain ⟨more,rest,h⟩ := ih
    exact ⟨b :: more,rest,by simp [h]⟩

/-- Among several fields the first is empty exactly when the separator opens the row. -/
theorem split_head_nil (hne : esc ≠ sep) (hb : 0 < bare esc sep false xs) :
    (∃ rest,split esc sep xs = [] :: rest) ↔ xs.head? = some sep := by
  cases xs with
  | nil => simp [bare] at hb
  | cons a xs =>
    rw [split,splitFrom]
    by_cases hesc : a = esc
    · subst hesc
      rw [if_pos rfl]
      cases xs with
      | nil => simp [bare] at hb
      | cons b xs =>
        obtain ⟨more,rest,h⟩ := splitFrom_head a sep ([] ++ [b]) false xs
        rw [splitFrom,h]
        simp [hne]
    · rw [if_neg hesc]
      by_cases hsep : a = sep
      · simp [hsep]
      · obtain ⟨more,rest,h⟩ := splitFrom_head esc sep ([] ++ [a]) false xs
        rw [if_neg hsep,h]
        simp [hsep]

theorem splitFrom_escape (current value xs : List α) :
    splitFrom esc sep current false (escape esc sep value ++ xs) = splitFrom esc sep (current ++ value) false xs := by
  induction value generalizing current with
  | nil => simp [escape]
  | cons a value ih =>
    have hvalue : escape esc sep (a :: value) ++ xs =
        (if a = esc ∨ a = sep then [esc,a] else [a]) ++ (escape esc sep value ++ xs) := by simp [escape]
    have hstep : splitFrom esc sep current false (escape esc sep (a :: value) ++ xs) =
        splitFrom esc sep (current ++ [a]) false (escape esc sep value ++ xs) := by
      rw [hvalue]
      by_cases h : a = esc ∨ a = sep
      · simp [h,splitFrom]
      · obtain ⟨hesc,hsep⟩ := not_or.mp h
        simp [splitFrom,hesc,hsep]
    rw [hstep,ih,List.append_assoc,List.singleton_append]

/-- Splitting what was printed gives every field back. -/
theorem split_print (hne : esc ≠ sep) (first : List α) (rest : List (List α)) :
    split esc sep (print esc sep first rest) = first :: rest := by
  rw [split,print,splitFrom_escape,List.nil_append]
  induction rest generalizing first with
  | nil => rfl
  | cons value rest ih =>
    rw [List.flatMap_cons,List.cons_append,splitFrom,if_neg hne.symm,if_pos rfl,splitFrom_escape,List.nil_append,ih]

theorem mem_escape (h : a ∈ escape esc sep value) : a = esc ∨ a ∈ value := by
  obtain ⟨b,hb,ha⟩ := List.mem_flatMap.mp h
  split at ha
  · rcases List.mem_cons.mp ha with rfl | ha
    · exact .inl rfl
    · exact .inr (List.mem_singleton.mp ha ▸ hb)
  · exact .inr (List.mem_singleton.mp ha ▸ hb)

theorem mem_print {first : List α} {rest : List (List α)} (h : a ∈ print esc sep first rest) :
    a = esc ∨ a = sep ∨ ∃ value ∈ first :: rest,a ∈ value := by
  rcases List.mem_append.mp h with h | h
  · exact (mem_escape h).imp_right fun h => .inr ⟨first,List.mem_cons_self,h⟩
  · obtain ⟨value,hvalue,ha⟩ := List.mem_flatMap.mp h
    rcases List.mem_cons.mp ha with rfl | ha
    · exact .inr (.inl rfl)
    · exact (mem_escape ha).imp_right fun h => .inr ⟨value,List.mem_cons_of_mem _ hvalue,h⟩

end EscapedFields
end LocalPlane
