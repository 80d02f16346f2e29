import Mathlib.Data.List.MinMax
import Mathlib.Data.Nat.Notation

/-!
# The latest row of an append-only table

`ORDER BY key DESC, rowid DESC LIMIT 1` over rows listed in the order they were inserted:
the greatest key wins, and among rows that share it the one inserted last.
-/

set_option linter.dupNamespace false

namespace LocalPlane
namespace Table

variable {α κ : Type} [LinearOrder κ]

def latest (key : α → κ) (rows : List α) : Option α := rows.reverse.argmax key

variable {key : α → κ} {rows added : List α} {a b : α}

@[simp] theorem latest_nil : latest key [] = none := rfl

theorem latest_mem (h : latest key rows = some a) : a ∈ rows := List.mem_reverse.mp (List.argmax_mem h)

theorem le_latest (h : latest key rows = some a) (hb : b ∈ rows) : key b ≤ key a :=
  List.le_of_mem_argmax (List.mem_reverse.mpr hb) h

@[simp] theorem latest_eq_none : latest key rows = none ↔ rows = [] := by simp [latest]

/-- A new row is the latest unless a stored one has a greater key. -/
theorem latest_concat (rows : List α) (a : α) : latest key (rows ++ [a]) =
    Option.casesOn (latest key rows) (some a) fun c => if key a < key c then some c else some a := by
  simp [latest,List.argmax_cons]

theorem latest_concat_of_le (h : ∀ b ∈ rows, key b ≤ key a) : latest key (rows ++ [a]) = some a := by
  rw [latest_concat]
  cases hc : latest key rows with
  | none => rfl
  | some c => exact if_neg (not_lt.mpr (h c (latest_mem hc)))

theorem latest_concat_of_lt (h : latest key rows = some b) (hlt : key a < key b) :
    latest key (rows ++ [a]) = some b := by
  rw [latest_concat,h]
  exact if_pos hlt

/-- Rows added later than every stored one hold the latest among them. -/
theorem latest_append_added (hb : b ∈ added) (h : ∀ a ∈ rows, key a ≤ key b) :
    ∃ c ∈ added, latest key (rows ++ added) = some c := by
  induction added using List.reverseRecOn with
  | nil => cases hb
  | append_singleton added a ih =>
    rw [← List.append_assoc,latest_concat]
    rcases hc : latest key (rows ++ added) with _ | c
    · exact ⟨a,by simp,rfl⟩
    · show ∃ d ∈ _, (if key a < key c then some c else some a) = some d
      split
      · next hlt =>
        rcases List.mem_append.mp hb with hb | hb
        · obtain ⟨d,hd,he⟩ := ih hb
          exact ⟨c,List.mem_append_left _ ((Option.some.inj (hc.symm.trans he)) ▸ hd),rfl⟩
        · -- a row below a stored one cannot be the row above them all
          obtain rfl := List.mem_singleton.mp hb
          rcases List.mem_append.mp (latest_mem hc) with hc' | hc'
          · exact absurd hlt (not_lt.mpr (h c hc'))
          · exact ⟨c,List.mem_append_left _ hc',rfl⟩
      · exact ⟨a,by simp,rfl⟩

/-- Rows added below the latest one leave it the latest. -/
theorem latest_append_below (h : latest key rows = some a) (hlt : ∀ b ∈ added, key b < key a) :
    latest key (rows ++ added) = some a := by
  induction added using List.reverseRecOn with
  | nil => rwa [List.append_nil]
  | append_singleton added b ih =>
    rw [← List.append_assoc]
    exact latest_concat_of_lt (ih fun c hc => hlt c (List.mem_append_left _ hc)) (hlt b (by simp))

/-- The latest row is above everything that was added after it. -/
theorem lt_latest (h : latest key (rows ++ added) = some a) (ha : a ∉ added) (hb : b ∈ added) : key b < key a := by
  induction added using List.reverseRecOn with
  | nil => cases hb
  | append_singleton added c ih =>
    rw [← List.append_assoc,latest_concat] at h
    have hadded : a ∉ added := fun h => ha (List.mem_append_left _ h)
    have hlast : a ∉ [c] := fun h => ha (List.mem_append_right _ h)
    cases hlatest : latest key (rows ++ added) with
    | none =>
      rw [hlatest] at h
      exact absurd (List.mem_singleton.mpr (Option.some.inj h).symm) hlast
    | some d =>
      rw [hlatest] at h
      replace h : (if key c < key d then some d else some c) = some a := h
      split at h
      · next hlt =>
        cases h
        rcases List.mem_append.mp hb with hb | hb
        · exact ih hlatest hadded hb
        · exact (List.mem_singleton.mp hb) ▸ hlt
      · exact absurd (List.mem_singleton.mpr (Option.some.inj h).symm) hlast

/-- The latest row is one of some rows when one of them is above all after them and no lower than those before. -/
theorem latest_mem_between {before middle after : List α} (hdisjoint : ∀ a ∈ middle, a ∉ after) :
    (∃ a ∈ middle, latest key (before ++ middle ++ after) = some a) ↔
      ∃ a ∈ middle, (∀ b ∈ before, key b ≤ key a) ∧ ∀ b ∈ after, key b < key a := by
  constructor
  · rintro ⟨a,ha,h⟩
    exact ⟨a,ha,fun b hb => le_latest h (by simp [hb]),fun b hb => lt_latest h (hdisjoint a ha) hb⟩
  · rintro ⟨a,ha,hbefore,hafter⟩
    obtain ⟨c,hc,h⟩ := latest_append_added ha hbefore
    have hle : key a ≤ key c := le_latest h (List.mem_append_right _ ha)
    exact ⟨c,hc,latest_append_below h fun b hb => (hafter b hb).trans_le hle⟩

end Table
end LocalPlane
