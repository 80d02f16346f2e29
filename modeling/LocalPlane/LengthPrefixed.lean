import Mathlib.Data.Nat.Notation
import Mathlib.Data.List.Infix

/-!
# Records that state their length

A buffer of records, each with a header that states the record's length and each starting on
a boundary of its own. The walk takes records off the front for as long as they fit; what is
left over is empty exactly when the buffer is nothing but records.
-/

set_option linter.dupNamespace false

namespace LocalPlane

/-- How records lie in a buffer: the size of their header, what length it states, and the
alignment of their starts. -/
structure Layout (β : Type) where
  header : ℕ
  stated : List β → ℕ
  alignment : ℕ
  headed : 0 < header
  aligned : 0 < alignment

namespace Layout

variable {β : Type} (L : Layout β)

/-- From the start of one record to the start of the next. -/
def stride (n : ℕ) : ℕ := (n + (L.alignment - 1)) / L.alignment * L.alignment

/-- A record starts here and fits. -/
def Fits (b : List β) : Prop := L.header ≤ b.length ∧ L.header ≤ L.stated b ∧ L.stated b ≤ b.length

instance (b : List β) : Decidable (L.Fits b) := inferInstanceAs (Decidable (_ ∧ _ ∧ _))

/-- The records at the front and what is left over; the bound is on their number. -/
def walkFrom : ℕ → List β → List (List β) × List β
  | 0,b => ([],b)
  | n+1,b =>
    if L.Fits b then
      let rest := walkFrom n (b.drop (L.stride (L.stated b)))
      (b.take (L.stated b) :: rest.1,rest.2)
    else ([],b)

def walk (b : List β) : List (List β) × List β := L.walkFrom b.length b

def records (b : List β) : List (List β) := (L.walk b).1
def leftover (b : List β) : List β := (L.walk b).2

/-- A buffer that is nothing but these records. -/
inductive Splits : List β → List (List β) → Prop
  | nil : Splits [] []
  | cons {b rs} (hf : L.Fits b) (h : Splits (b.drop (L.stride (L.stated b))) rs) : Splits b (b.take (L.stated b) :: rs)

variable {L} {b r : List β} {rs : List (List β)}

theorem le_stride (L : Layout β) (n : ℕ) : n ≤ L.stride n := by
  have h := Nat.lt_div_mul_add L.aligned (a := n + (L.alignment - 1))
  have ha := L.aligned
  unfold stride
  omega

theorem stride_pos (h : L.Fits b) : 0 < L.stride (L.stated b) :=
  Nat.lt_of_lt_of_le L.headed (h.2.1.trans (L.le_stride _))

/-- The buffer runs out before the bound does. -/
theorem walkFrom_bound {n m : ℕ} (hn : b.length ≤ n) (hm : b.length ≤ m) : L.walkFrom n b = L.walkFrom m b := by
  induction n generalizing b m with
  | zero =>
    obtain rfl := List.length_eq_zero_iff.mp (Nat.le_zero.mp hn)
    have hf : ¬L.Fits ([] : List β) := fun h => Nat.not_lt.mpr h.1 L.headed
    cases m with
    | zero => rfl
    | succ m => rw [walkFrom,walkFrom,if_neg hf]
  | succ n ih =>
    by_cases hf : L.Fits b
    · have hpos := stride_pos hf
      have hlen : 0 < b.length := Nat.lt_of_lt_of_le L.headed hf.1
      have hdrop : (b.drop (L.stride (L.stated b))).length < b.length := by
        rw [List.length_drop]
        omega
      cases m with
      | zero => omega
      | succ m => rw [walkFrom,walkFrom,if_pos hf,if_pos hf,ih (m := m) (by omega) (by omega)]
    · cases m with
      | zero => rw [walkFrom,walkFrom,if_neg hf]
      | succ m => rw [walkFrom,walkFrom,if_neg hf,if_neg hf]

theorem walk_stop (h : ¬L.Fits b) : L.walk b = ([],b) := by
  unfold walk
  cases hn : b.length with
  | zero => rfl
  | succ n => rw [walkFrom,if_neg h]

theorem walk_step (h : L.Fits b) : L.walk b =
    (b.take (L.stated b) :: L.records (b.drop (L.stride (L.stated b))),L.leftover (b.drop (L.stride (L.stated b)))) := by
  have hpos := stride_pos h
  have hlen : 0 < b.length := Nat.lt_of_lt_of_le L.headed h.1
  unfold walk records leftover walk
  obtain ⟨n,hn⟩ := Nat.exists_eq_succ_of_ne_zero hlen.ne'
  rw [hn,walkFrom,if_pos h,walkFrom_bound (n := n) (m := (b.drop (L.stride (L.stated b))).length) (by
    rw [List.length_drop]
    omega) (Nat.le_refl _)]

/-- A walk goes record by record: what holds of an empty rest and is carried over one record holds
of every walk. -/
theorem walk_induction (L : Layout β) {P : List β → List (List β) → List β → Prop} (hstop : ∀ b, ¬L.Fits b → P b [] b)
    (hstep : ∀ b rs left, L.Fits b → P (b.drop (L.stride (L.stated b))) rs left → P b (b.take (L.stated b) :: rs) left)
    (b : List β) : P b (L.records b) (L.leftover b) := by
  induction hn : b.length using Nat.strongRecOn generalizing b with
  | ind n ih =>
    by_cases hf : L.Fits b
    · have hpos := stride_pos hf
      have hlen : 0 < b.length := Nat.lt_of_lt_of_le L.headed hf.1
      have hrest := ih _ (by rw [← hn,List.length_drop]; omega) (b.drop (L.stride (L.stated b))) rfl
      rw [records,leftover,walk_step hf]
      exact hstep _ _ _ hf hrest
    · rw [records,leftover,walk_stop hf]
      exact hstop _ hf

/-- Nothing is left over exactly when the buffer is nothing but records. -/
theorem splits_iff : L.Splits b rs ↔ L.records b = rs ∧ L.leftover b = [] := by
  constructor
  · intro h
    induction h with
    | nil =>
      have hf : ¬L.Fits ([] : List β) := fun h => Nat.not_lt.mpr h.1 L.headed
      rw [records,leftover,walk_stop hf]
      exact ⟨rfl,rfl⟩
    | cons hf _ ih =>
      rw [records,leftover,walk_step hf]
      exact ⟨by rw [ih.1],ih.2⟩
  · rintro ⟨rfl,hleft⟩
    have h := L.walk_induction (P := fun b rs left => left = [] → L.Splits b rs)
      (fun b _ hb => by subst hb; exact .nil) (fun b rs left hf ih hl => .cons hf (ih hl)) b
    exact h hleft

/-- Every record lies within the buffer and holds a header at least. -/
theorem record_within (hr : r ∈ L.records b) : r <:+: b ∧ L.header ≤ r.length := by
  refine L.walk_induction (P := fun b rs _ => ∀ r ∈ rs, r <:+: b ∧ L.header ≤ r.length) ?_ ?_ b r hr
  · intro b _ r hr
    cases hr
  · intro b rs left hf ih r hr
    cases hr with
    | head => exact ⟨(List.take_prefix _ _).isInfix,by rw [List.length_take]; exact Nat.le_min.mpr ⟨hf.2.1,hf.1⟩⟩
    | tail _ hr =>
      obtain ⟨hin,hlen⟩ := ih r hr
      exact ⟨hin.trans (List.drop_suffix _ _).isInfix,hlen⟩

end Layout
end LocalPlane
