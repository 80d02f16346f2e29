import LocalPlane.Sequential

/-!
# One request watched through its own answers

Whatever runs beside a request, its program only sees the answers it gets. Where every
answer a regime lets it get is one a view allows, the program keeps to that view in every
run under the regime.
-/

set_option linter.dupNamespace false

namespace LocalPlane
namespace Interleaved

variable {S : Interleaved}

/-- A request a view is right about while it is of the watched kind. -/
structure Watch (R : Regime S) (i : ℕ) (V : View S.sig) where
  watched : S.World → Prop
  entered : ∀ {q w w'}, S.enter q w = some (i,w') → watched w' → ∃ s, V.Safe (S.program i q) (fun _ _ => True) s
  before : ∀ {q w w' j}, S.enter q w = some (j,w') → i ≠ j → watched w' → watched w
  performed : ∀ {j op a w}, watched (S.perform j op a w).2 → watched w
  outside : ∀ {e w w'}, S.outer e w = some w' → watched w' → watched w
  answers : ∀ {op a w s}, watched w → R.step i op a w → V.answers op s (S.perform i op a w).1

/-- What is left of a watched program keeps to its view. -/
theorem Watch.safe {R : Regime S} {i : ℕ} {V : View S.sig} (W : Watch R i V) {c : S.Config} (hc : Reach R c)
    (hw : W.watched c.world) {p : S.Code} (hp : c.pool i = some p) : ∃ s, V.Safe p (fun _ _ => True) s := by
  induction hc generalizing p with
  | start h => simp [start] at hp
  | @move c c' m hc ha hm ih =>
    cases m with
    | enter q =>
      simp only [move,Option.map_eq_some_iff] at hm
      obtain ⟨⟨j,w'⟩,he,rfl⟩ := hm
      by_cases hj : i = j
      · subst hj
        simp only [Function.update_self,Option.some.injEq] at hp
        exact hp ▸ W.entered he hw
      · simp only [Function.update_of_ne hj] at hp
        exact ih (W.before he hj hw) hp
    | step j a =>
      cases ha with
      | step hj hR =>
        simp only [move,hj,Option.some.injEq] at hm
        subst hm
        have hbefore := W.performed hw
        by_cases hij : i = j
        · subst hij
          simp only [Function.update_self,Option.some.injEq] at hp
          obtain ⟨s,hs⟩ := ih hbefore hj
          exact hp ▸ ⟨_,hs.2 _ (W.answers hbefore hR)⟩
        · simp only [Function.update_of_ne hij] at hp
          exact ih hbefore hp
    | outer e =>
      simp only [move,Option.map_eq_some_iff] at hm
      obtain ⟨w',he,rfl⟩ := hm
      exact ih (W.outside he hw) hp
    | crash =>
      cases hm
      cases hp

end Interleaved
end LocalPlane
