import LocalPlane.Interleaving

/-!
# One request after another

When requests do not overlap, a program can be judged on its own against a view of the
world: what the view says each operation may answer, and what it makes of the view. A
program that asks only for operations its view allows goes on doing so in every run in
which the latest request is the only one that moves.
-/

set_option linter.dupNamespace false

namespace LocalPlane
namespace Interleaved

/-- What a program can see of the world and which operations it may ask for then. -/
structure View (S : Signature) where
  State : Type
  fits : S.Op → State → Prop
  answers : (op : S.Op) → State → S.Ret op → Prop
  after : (op : S.Op) → State → S.Ret op → State

namespace View

variable {S : Signature} {ε α β : Type} (V : View S)

/-- Whatever is answered, the program asks only for what fits and ends as stated. -/
def Safe : Program S ε α → (Except ε α → V.State → Prop) → V.State → Prop
  | .ret x,Q,s => Q x s
  | .act op next,Q,s => V.fits op s ∧ ∀ a, V.answers op s a → Safe (next a) Q (V.after op s a)

variable {V}

theorem Safe.mono {p : Program S ε α} {Q Q' : Except ε α → V.State → Prop} (h : ∀ x s, Q x s → Q' x s) {s : V.State}
    (hp : V.Safe p Q s) : V.Safe p Q' s := by
  induction p generalizing s with
  | ret x => exact h x s hp
  | act op next ih => exact ⟨hp.1,fun a ha => ih a (hp.2 a ha)⟩

/-- What the rest of a computation owes after its first part ended in `x`. -/
def After (f : α → Program S ε β) (Q : Except ε β → V.State → Prop) : Except ε α → V.State → Prop
  | .ok a,s => V.Safe (f a) Q s
  | .error e,s => Q (.error e) s

theorem Safe.bind {p : Program S ε α} {f : α → Program S ε β} {Q : Except ε β → V.State → Prop} {s : V.State}
    (h : V.Safe p (After f Q) s) : V.Safe (p >>= f) Q s := by
  induction p generalizing s with
  | ret x =>
    cases x with
    | ok a => exact h
    | error e => exact h
  | act op next ih => exact ⟨h.1,fun a ha => ih a (h.2 a ha)⟩

/-- What a handler owes after the computation it guards ended in `x`. -/
def Handled (f : ε → Program S ε α) (Q : Except ε α → V.State → Prop) : Except ε α → V.State → Prop
  | .ok a,s => Q (.ok a) s
  | .error e,s => V.Safe (f e) Q s

theorem Safe.tryCatch {p : Program S ε α} {f : ε → Program S ε α} {Q : Except ε α → V.State → Prop} {s : V.State}
    (h : V.Safe p (Handled f Q) s) : V.Safe (MonadExcept.tryCatch p f) Q s := by
  induction p generalizing s with
  | ret x =>
    cases x with
    | ok a => exact h
    | error e => exact h
  | act op next ih => exact ⟨h.1,fun a ha => ih a (h.2 a ha)⟩

variable (V) in
/-- Ends as stated when it ends without an error. -/
def Leads (p : Program S ε α) (s : V.State) (R : α → V.State → Prop) : Prop :=
  V.Safe p (fun x s' => ∀ a, x = .ok a → R a s') s

theorem Leads.ret {a : α} {s : V.State} {R : α → V.State → Prop} (h : R a s) :
    V.Leads (.ret (.ok a) : Program S ε α) s R := fun _ hb => Except.ok.inj hb ▸ h

theorem Leads.error {e : ε} {s : V.State} {R : α → V.State → Prop} :
    V.Leads (.ret (.error e) : Program S ε α) s R := fun _ hb => by cases hb

theorem Leads.bind {p : Program S ε α} {f : α → Program S ε β} {s : V.State} {R : α → V.State → Prop}
    {R' : β → V.State → Prop} (hp : V.Leads p s R) (hf : ∀ a s', R a s' → V.Leads (f a) s' R') :
    V.Leads (p >>= f) s R' := by
  refine Safe.bind (Safe.mono (fun x s' hx => ?_) hp)
  cases x with
  | ok a => exact hf a s' (hx a rfl)
  | error e => exact fun _ hb => by cases hb

theorem Leads.mono {p : Program S ε α} {s : V.State} {R R' : α → V.State → Prop} (hp : V.Leads p s R)
    (h : ∀ a s', R a s' → R' a s') : V.Leads p s R' :=
  Safe.mono (fun _ _ hx a ha => h a _ (hx a ha)) hp

/-- A handler that is safe wherever it starts needs nothing from the computation it guards. -/
theorem Leads.handle {p : Program S ε α} {f : ε → Program S ε α} {s : V.State} {R : α → V.State → Prop}
    (hp : V.Leads p s R) (hf : ∀ e s', V.Leads (f e) s' R) : V.Leads (MonadExcept.tryCatch p f) s R := by
  refine Safe.tryCatch (Safe.mono (fun x s' hx => ?_) hp)
  cases x with
  | ok a => exact hx
  | error e => exact hf e s'

/-- One safe body after another is safe, whatever each leaves behind. -/
theorem Leads.forEach {γ : Type} {body : γ → Program S ε Unit}
    (hbody : ∀ c s, V.Leads (body c) s fun _ _ => True) (l : List γ) (s : V.State) :
    V.Leads (Program.forEach l body) s fun _ _ => True := by
  induction l generalizing s with
  | nil => exact .ret trivial
  | cons c rest ih => exact (hbody c s).bind fun _ s' _ => ih s'

end View

variable {S : Interleaved}

/-- How a view is read off the world, and who the latest request is. -/
structure Sighting (S : Interleaved) (V : View S.sig) where
  see : S.World → V.State
  latest : S.World → ℕ → Prop
  unique : ∀ {w i j}, latest w i → latest w j → i = j
  answers : ∀ i op a w, V.answers op (see w) (S.perform i op a w).1
  after : ∀ i op a w, see (S.perform i op a w).2 = V.after op (see w) (S.perform i op a w).1
  stays : ∀ i op a w j, latest (S.perform i op a w).2 j ↔ latest w j
  entered : ∀ {q w i w'}, S.enter q w = some (i,w') → latest w' i
  outer : ∀ {e w w'}, S.outer e w = some w' → see w' = see w ∧ ∀ j, latest w' j ↔ latest w j
  safe : ∀ {q w i w'}, S.enter q w = some (i,w') → V.Safe (S.program i q) (fun _ _ => True) (see w')

namespace Sighting

variable {V : View S.sig} (L : Sighting S V)

/-- Only the latest request moves; the ones before it have ended or were dropped. -/
def sequential : Regime S where
  step i _ _ w := L.latest w i

/-- In a sequential run what is left of the latest request is safe for what it can see. -/
theorem safe_of_reach {c : S.Config} (hc : Reach L.sequential c) :
    ∀ i p, c.pool i = some p → L.latest c.world i → V.Safe p (fun _ _ => True) (L.see c.world) := by
  induction hc with
  | start h => exact fun i p hp => absurd hp (by simp [Interleaved.start])
  | @move c c' m hc ha hm ih =>
    cases m with
    | enter q =>
      simp only [Interleaved.move,Option.map_eq_some_iff] at hm
      obtain ⟨⟨n,w⟩,he,rfl⟩ := hm
      intro j p hp hj
      obtain rfl : j = n := L.unique hj (L.entered he)
      simp only [Function.update_self,Option.some.injEq] at hp
      exact hp ▸ L.safe he
    | step i a =>
      cases ha with
      | @step _ _ op next hp hcond =>
        simp only [Interleaved.move,hp,Option.some.injEq] at hm
        subst hm
        intro j p hj hlatest
        obtain rfl : j = i := L.unique ((L.stays i op a c.world j).mp hlatest) hcond
        simp only [Function.update_self,Option.some.injEq] at hj
        subst hj
        have hthis := (ih j _ hp hcond).2 _ (L.answers j op a c.world)
        rwa [← L.after] at hthis
    | outer e =>
      cases ha with
      | outer hcond =>
        simp only [Interleaved.move,Option.map_eq_some_iff] at hm
        obtain ⟨w,he,rfl⟩ := hm
        obtain ⟨hsee,hlatest⟩ := L.outer he
        intro j p hp hj
        rw [hsee]
        exact ih j p hp ((hlatest j).mp hj)
    | crash =>
      cases ha with
      | crash hcond =>
        simp only [Interleaved.move,Option.some.injEq] at hm
        subst hm
        exact fun i p hp => absurd hp (by simp)

/-- Every operation of a sequential run fits what could be seen when it was asked for. -/
theorem fits_of_reach {c : S.Config} (hc : Reach L.sequential c) {i : ℕ} {op : S.sig.Op}
    {next : S.sig.Ret op → S.Code} (hp : c.pool i = some (.act op next)) (hi : L.latest c.world i) :
    V.fits op (L.see c.world) := (L.safe_of_reach hc i _ hp hi).1

/-- What holds initially and is kept by operations that fit holds in every sequential run. -/
theorem invariant {J : S.World → Prop} (hinit : ∀ {w}, S.initial w → J w)
    (hstep : ∀ {i op w} a, V.fits op (L.see w) → J w → J (S.perform i op a w).2)
    (henter : ∀ {q w i w'}, S.enter q w = some (i,w') → J w → J w')
    (houter : ∀ {e w w'}, S.outer e w = some w' → J w → J w') (hcrash : ∀ {w}, J w → J (S.crash w))
    {c : S.Config} (hc : Reach L.sequential c) : J c.world := by
  induction hc with
  | start h => exact hinit h
  | @move c c' m hc ha hm ih =>
    cases ha with
    | enter q =>
      simp only [Interleaved.move,Option.map_eq_some_iff] at hm
      obtain ⟨⟨n,w⟩,he,rfl⟩ := hm
      exact henter he ih
    | step hp hcond =>
      have hfits := L.fits_of_reach hc hp hcond
      simp only [Interleaved.move,hp,Option.some.injEq] at hm
      subst hm
      exact hstep _ hfits ih
    | outer hcond =>
      simp only [Interleaved.move,Option.map_eq_some_iff] at hm
      obtain ⟨w,he,rfl⟩ := hm
      exact houter he ih
    | crash hcond =>
      simp only [Interleaved.move,Option.some.injEq] at hm
      subst hm
      exact hcrash ih

end Sighting
end Interleaved
end LocalPlane
