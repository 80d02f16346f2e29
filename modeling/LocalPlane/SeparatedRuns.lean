import Mathlib.Data.List.TakeWhile
import Mathlib.Tactic.Common

/-!
# Runs between separators

What stands between the separators of a sequence, empty runs left out. A sequence that comes
in pieces has the runs of its pieces exactly when no piece ends inside a run.
-/

set_option linter.dupNamespace false

namespace LocalPlane
namespace SeparatedRuns

variable {α : Type} (p : α → Bool)

def runs (xs : List α) : List (List α) := (xs.splitOnP p).filter (!·.isEmpty)

/-- Something stands on both sides that is no separator. -/
def Cut (xs ys : List α) : Prop := xs.getLast?.any (!p ·) = true ∧ ys.head?.any (!p ·) = true

instance (xs ys : List α) : Decidable (Cut p xs ys) := inferInstanceAs (Decidable (_ ∧ _))

/-- No piece ends inside a run. -/
def Whole : List (List α) → Prop
  | [] => True
  | xs :: rest => ¬Cut p xs rest.flatten ∧ Whole rest

instance decidableWhole : (pieces : List (List α)) → Decidable (Whole p pieces)
  | [] => .isTrue trivial
  | _ :: rest => @instDecidableAnd _ _ inferInstance (decidableWhole rest)

variable {p} {x : α} {xs ys : List α}

@[simp] theorem runs_nil : runs p [] = [] := by simp [runs,List.splitOnP_nil]

theorem runs_separator (hx : p x = true) : runs p (x :: xs) = runs p xs := by
  simp [runs,List.splitOnP_cons_eq_if_modifyHead,hx]

theorem runs_append_separator (hx : p x = true) : runs p (xs ++ x :: ys) = runs p xs ++ runs p ys := by
  simp [runs,List.splitOnP_append_cons _ _ hx]

theorem runs_plain (h : ∀ x ∈ xs, p x = false) (hne : xs ≠ []) : runs p xs = [xs] := by
  rw [runs,List.splitOnP_eq_singleton h]
  cases xs with
  | nil => exact absurd rfl hne
  | cons y ys => rfl

/-- An element in front of a run makes it longer, and one in front of a separator is a run of its own. -/
theorem length_runs_cons (hx : p x = false) : (runs p (x :: xs)).length =
    (runs p xs).length + if xs.head?.any (!p ·) then 0 else 1 := by
  cases xs with
  | nil => simp [runs,List.splitOnP_cons_eq_if_modifyHead,hx,List.splitOnP_nil]
  | cons y ys =>
    obtain ⟨run,rest,hsplit⟩ := List.exists_cons_of_ne_nil (List.splitOnP_ne_nil p ys)
    by_cases hy : p y = true
    · simp [runs,List.splitOnP_cons_eq_if_modifyHead,hx,hy]
    · simp [runs,List.splitOnP_cons_eq_if_modifyHead,hx,hy,hsplit]

theorem runs_append (h : ¬Cut p xs ys) : runs p (xs ++ ys) = runs p xs ++ runs p ys := by
  cases ys with
  | nil => simp
  | cons y ys =>
    by_cases hy : p y = true
    · rw [runs_append_separator hy,runs_separator hy]
    · rcases List.eq_nil_or_concat xs with rfl | ⟨zs,z,rfl⟩
      · simp
      · have hz : p z = true := by
          by_contra hz
          exact h ⟨by simp [hz],by simp [hy]⟩
        rw [List.concat_eq_append,List.append_assoc,List.singleton_append,runs_append_separator hz,
          runs_append_separator hz,runs_nil,List.append_nil]

/-- A run that is cut counts twice. -/
theorem length_runs_cut (h : Cut p xs ys) : (runs p (xs ++ ys)).length + 1 = (runs p xs).length + (runs p ys).length := by
  induction xs with
  | nil => simp [Cut] at h
  | cons x xs ih =>
    cases hxs : xs with
    | nil =>
      subst hxs
      have hx : p x = false := by simpa [Cut] using h.1
      rw [List.singleton_append,length_runs_cons hx,length_runs_cons hx,if_pos h.2]
      simp
      omega
    | cons y zs =>
      rw [← hxs]
      have hcut : Cut p xs ys := ⟨by simpa [Cut,hxs] using h.1,h.2⟩
      have hhead : (xs ++ ys).head? = xs.head? := by simp [hxs]
      by_cases hx : p x = true
      · rw [List.cons_append,runs_separator hx,runs_separator hx]
        exact ih hcut
      · have hx : p x = false := by simpa using hx
        rw [List.cons_append,length_runs_cons hx,length_runs_cons hx,hhead]
        have := ih hcut
        omega

theorem runs_flatten {pieces : List (List α)} (h : Whole p pieces) : runs p pieces.flatten = pieces.flatMap (runs p) := by
  induction pieces with
  | nil => simp
  | cons xs rest ih => rw [List.flatten_cons,runs_append h.1,ih h.2,List.flatMap_cons]

theorem length_runs_flatten_le (pieces : List (List α)) :
    (runs p pieces.flatten).length ≤ (pieces.flatMap (runs p)).length := by
  induction pieces with
  | nil => simp
  | cons xs rest ih =>
    rw [List.flatten_cons,List.flatMap_cons,List.length_append]
    by_cases hcut : Cut p xs rest.flatten
    · have := length_runs_cut hcut
      omega
    · rw [runs_append hcut,List.length_append]
      omega

theorem whole_of_length {pieces : List (List α)} (h : (pieces.flatMap (runs p)).length ≤ (runs p pieces.flatten).length) :
    Whole p pieces := by
  induction pieces with
  | nil => trivial
  | cons xs rest ih =>
    rw [List.flatten_cons,List.flatMap_cons,List.length_append] at h
    have hle := length_runs_flatten_le (p := p) rest
    by_cases hcut : Cut p xs rest.flatten
    · have := length_runs_cut hcut
      omega
    · rw [runs_append hcut,List.length_append] at h
      exact ⟨hcut,ih (by omega)⟩

/-- What holds of a last run, and of a run and the separator after it in front of anything, holds of everything. -/
theorem induction_runs {P : List α → Prop} (hlast : ∀ xs, (∀ x ∈ xs, p x = false) → P xs)
    (hrun : ∀ xs x ys, (∀ x ∈ xs, p x = false) → p x = true → P ys → P (xs ++ x :: ys)) (xs : List α) : P xs := by
  induction hn : xs.length using Nat.strongRecOn generalizing xs with
  | ind n ih =>
    have hsplit := List.takeWhile_append_dropWhile (p := (!p ·)) (l := xs)
    have hplain : ∀ x ∈ xs.takeWhile (!p ·), p x = false := fun x hx => by simpa using List.mem_takeWhile_imp hx
    cases hrest : xs.dropWhile (!p ·) with
    | nil =>
      rw [hrest,List.append_nil] at hsplit
      exact hsplit ▸ hlast _ hplain
    | cons x ys =>
      have hx : p x = true := by
        have := List.head_dropWhile_not (!p ·) (w := by rw [hrest]; simp)
        simpa [hrest] using this
      rw [hrest] at hsplit
      have hlt : ys.length < n := by
        rw [← hn,← hsplit,List.length_append,List.length_cons]
        omega
      exact hsplit ▸ hrun _ x ys hplain hx (ih _ hlt ys rfl)

end SeparatedRuns
end LocalPlane
