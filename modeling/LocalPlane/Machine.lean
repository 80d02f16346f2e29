import Mathlib.Data.Nat.Notation

/-!
# Machines that take one labelled step at a time

A machine is a partial step function on labelled actions. What it may reach is taken
under a rule on which action may be taken in which state, so that a property can be
shown of every run, or of exactly the runs that keep to a condition.
-/

set_option linter.dupNamespace false

namespace LocalPlane

structure Machine where
  State : Type
  Act : Type
  initial : State → Prop
  step : Act → State → Option State

namespace Machine

inductive Reach (M : Machine) (R : M.State → M.Act → Prop) : M.State → Prop
  | start {s} (hs : M.initial s) : Reach M R s
  | step {s s' a} (hs : Reach M R s) (ha : R s a) (h : M.step a s = some s') : Reach M R s'

/-- Where a run may go on to from a state it has reached. -/
inductive Steps (M : Machine) (R : M.State → M.Act → Prop) (s : M.State) : M.State → Prop
  | refl : Steps M R s s
  | step {t t' a} (ht : Steps M R s t) (ha : R t a) (h : M.step a t = some t') : Steps M R s t'

variable {M : Machine} {R : M.State → M.Act → Prop} {s s' : M.State}

/-- Every action in every state. -/
def free : M.State → M.Act → Prop := fun _ _ => True

/-- What holds at the start and is kept by every allowed step holds wherever a run gets to. -/
theorem Reach.invariant {I : M.State → Prop} (hinit : ∀ s, M.initial s → I s)
    (hstep : ∀ a s s', I s → R s a → M.step a s = some s' → I s') (h : Reach M R s) : I s := by
  induction h with
  | start hs => exact hinit _ hs
  | step _ ha hm ih => exact hstep _ _ _ ih ha hm

theorem Reach.steps (hs : Reach M R s) (h : Steps M R s s') : Reach M R s' := by
  induction h with
  | refl => exact hs
  | step _ ha hm ih => exact .step ih ha hm

/-- A relation kept by every allowed step from a reachable state is kept by every run from one. -/
theorem Steps.relation {K : M.State → M.State → Prop} (hrefl : ∀ s, K s s)
    (htrans : ∀ s t u, K s t → K t u → K s u)
    (hstep : ∀ a t t', Reach M R t → R t a → M.step a t = some t' → K t t') (hs : Reach M R s)
    (h : Steps M R s s') : K s s' := by
  induction h with
  | refl => exact hrefl s
  | step ht ha hm ih => exact htrans _ _ _ ih (hstep _ _ _ (hs.steps ht) ha hm)

section Played

variable (R) [∀ s a, Decidable (R s a)]

/-- Take actions for as long as the rule allows them. -/
def play : List M.Act → M.State → Option M.State
  | [],s => some s
  | a :: as,s => if R s a then (M.step a s).bind (play as) else none

variable {R}

theorem Reach.play (hs : Reach M R s) {as : List M.Act} (h : Machine.play R as s = some s') : Reach M R s' := by
  induction as generalizing s with
  | nil => exact (Option.some.inj h) ▸ hs
  | cons a as ih =>
    simp only [Machine.play] at h
    split at h
    · next ha =>
      obtain ⟨t,ht,h⟩ := Option.bind_eq_some_iff.mp h
      exact ih (.step hs ha ht) h
    · cases h

theorem exists_of_play (hs : M.initial s) (as : List M.Act) (p : M.State → Bool)
    (h : (Machine.play R as s).any p = true) : ∃ s, Reach M R s ∧ p s = true := by
  obtain ⟨t,ht,hp⟩ := (Option.any_eq_true ..).mp h
  exact ⟨t,(Reach.start hs).play ht,hp⟩

end Played

instance : ∀ (s : M.State) (a : M.Act), Decidable (free s a) := fun _ _ => .isTrue trivial

end Machine
end LocalPlane
