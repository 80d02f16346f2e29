import LocalPlane.Interleaving

/-!
# Contracts between interleaved programs

A contract states an invariant of the world, what each request may rely on while
others move, and when it is licensed to perform an operation. A program that keeps
to its licences whatever the others do is sound, and then so is every run.
-/

set_option linter.dupNamespace false

namespace LocalPlane
namespace Interleaved

variable {S : Interleaved} {α β : Type}

structure Contract (S : Interleaved) where
  regime : Regime S
  Inv : S.World → Prop
  Rely : ℕ → S.World → S.World → Prop
  Licence : ℕ → S.sig.Op → S.World → Prop
  Post : ℕ → Except S.Error S.Response → S.World → Prop

namespace Contract

variable (C : Contract S) (i : ℕ)

/-- The program keeps to its licences from here, with anything its rely permits happening
before each operation, and its result satisfies the postcondition. -/
def Ok : Program S.sig S.Error α → (Except S.Error α → S.World → Prop) → S.World → Prop
  | .ret x,Q => fun w => ∀ w', C.Rely i w w' → C.Inv w' → Q x w'
  | .act op next,Q => fun w => ∀ w', C.Rely i w w' → C.Inv w' →
      C.Licence i op w' ∧ ∀ a, C.regime.step i op a w' →
        Ok (next (S.perform i op a w').1) Q (S.perform i op a w').2

/-- What every single operation owes, before any program is looked at. -/
structure Lawful : Prop where
  refl : ∀ i w, C.Rely i w w
  trans : ∀ {i u v w}, C.Rely i u v → C.Rely i v w → C.Rely i u w
  initial : ∀ {w}, S.initial w → C.Inv w
  step : ∀ {i op w} a, C.Inv w → C.Licence i op w → C.regime.step i op a w →
    C.Inv (S.perform i op a w).2 ∧ ∀ j, j ≠ i → C.Rely j w (S.perform i op a w).2
  enter : ∀ {q w i w'}, C.Inv w → S.enter q w = some (i,w') →
    C.Inv w' ∧ ∀ j, j ≠ i → C.Rely j w w'
  outer : ∀ {e w w'}, C.Inv w → C.regime.outer e w → S.outer e w = some w' →
    C.Inv w' ∧ ∀ j, C.Rely j w w'
  crash : ∀ {w}, C.Inv w → C.regime.crash w → C.Inv (S.crash w)

structure Sound : Prop extends Lawful C where
  started : ∀ {q w i w'}, C.Inv w → S.enter q w = some (i,w') →
    C.Ok i (S.program i q) (C.Post i) w'

variable {C} {i}

theorem Ok.rely (hC : C.Lawful) {p : Program S.sig S.Error α} {Q} {w w' : S.World}
    (h : C.Ok i p Q w) (hr : C.Rely i w w') : C.Ok i p Q w' := by
  cases p with
  | ret x => exact fun v hv => h v (hC.trans hr hv)
  | act op next => exact fun v hv => h v (hC.trans hr hv)

theorem Ok.mono {p : Program S.sig S.Error α} {Q Q' : Except S.Error α → S.World → Prop}
    {w : S.World} (h : C.Ok i p Q w) (hq : ∀ x v, C.Inv v → Q x v → Q' x v) : C.Ok i p Q' w := by
  induction p generalizing w with
  | ret x => exact fun v hr hI => hq x v hI (h v hr hI)
  | act op next ih => exact fun v hr hI => ⟨(h v hr hI).1,fun a ha => ih _ ((h v hr hI).2 a ha)⟩

/-- What the rest of a computation owes after its first part ended in `x`. -/
def After (C : Contract S) (i : ℕ) (f : α → Program S.sig S.Error β)
    (Q : Except S.Error β → S.World → Prop) : Except S.Error α → S.World → Prop
  | .ok a => C.Ok i (f a) Q
  | .error e => C.Ok i (.ret (.error e)) Q

theorem Ok.bind (hC : C.Lawful) {p : Program S.sig S.Error α} {f : α → Program S.sig S.Error β}
    {Q : Except S.Error β → S.World → Prop} {w : S.World} (hI : C.Inv w)
    (h : C.Ok i p (C.After i f Q) w) : C.Ok i (p >>= f) Q w := by
  induction p generalizing w with
  | ret x =>
    cases x with
    | ok a => exact h w (hC.refl i w) hI
    | error e => exact h w (hC.refl i w) hI
  | act op next ih =>
    intro v hr hv
    obtain ⟨hl,hn⟩ := h v hr hv
    exact ⟨hl,fun a ha => ih _ (hC.step a hv hl ha).1 (hn a ha)⟩

/-- A program may be followed by a handler that takes over after an error. -/
theorem Ok.tryCatch (hC : C.Lawful) {p : Program S.sig S.Error α} {f : S.Error → Program S.sig S.Error α}
    {Q : Except S.Error α → S.World → Prop} {w : S.World} (hI : C.Inv w)
    (h : C.Ok i p (fun x => match x with
      | .ok a => C.Ok i (.ret (.ok a)) Q
      | .error e => C.Ok i (f e) Q) w) : C.Ok i (MonadExcept.tryCatch p f) Q w := by
  induction p generalizing w with
  | ret x =>
    cases x with
    | ok a => exact h w (hC.refl i w) hI
    | error e => exact h w (hC.refl i w) hI
  | act op next ih =>
    intro v hr hv
    obtain ⟨hl,hn⟩ := h v hr hv
    exact ⟨hl,fun a ha => ih _ (hC.step a hv hl ha).1 (hn a ha)⟩

/-- An assertion others do not falsify. -/
def Stable (C : Contract S) (i : ℕ) (A : S.World → Prop) : Prop :=
  ∀ {w w'}, C.Rely i w w' → A w → A w'

/-- From every world satisfying the assertion the program is sound and ends as stated. -/
def Triple (C : Contract S) (i : ℕ) (A : S.World → Prop) (p : Program S.sig S.Error α)
    (B : Except S.Error α → S.World → Prop) : Prop :=
  ∀ w, C.Inv w → A w → C.Ok i p B w

section Triples

variable {A A' : S.World → Prop} {B B' : Except S.Error α → S.World → Prop} {p : Program S.sig S.Error α}

theorem Triple.ret {x : Except S.Error α} (hA : C.Stable i A) (h : ∀ {w}, C.Inv w → A w → B x w) :
    C.Triple i A (.ret x) B :=
  fun _ _ hw _ hr hv => h hv (hA hr hw)

theorem Triple.act (hC : C.Lawful) {op : S.sig.Op} {next : S.sig.Ret op → Program S.sig S.Error α}
    (hA : C.Stable i A) (hl : ∀ {w}, C.Inv w → A w → C.Licence i op w)
    (h : ∀ answer, C.Triple i (fun v => ∃ w a, C.Inv w ∧ A w ∧ C.regime.step i op a w ∧
      S.perform i op a w = (answer,v)) (next answer) B) : C.Triple i A (.act op next) B := by
  intro w _ hw v hr hv
  have hAv := hA hr hw
  refine ⟨hl hv hAv,fun a ha => ?_⟩
  exact h _ _ (hC.step a hv (hl hv hAv) ha).1 ⟨v,a,hv,hAv,ha,rfl⟩

theorem Triple.conseq (h : C.Triple i A p B) (hA : ∀ {w}, C.Inv w → A' w → A w)
    (hB : ∀ x w, C.Inv w → B x w → B' x w) : C.Triple i A' p B' :=
  fun w hI hw => (h w hI (hA hI hw)).mono hB

theorem Triple.bind (hC : C.Lawful) {M : Except S.Error α → S.World → Prop} {f : α → Program S.sig S.Error β}
    {B : Except S.Error β → S.World → Prop} (hp : C.Triple i A p M)
    (hf : ∀ a, C.Triple i (M (.ok a)) (f a) B) (he : ∀ e, C.Triple i (M (.error e)) (.ret (.error e)) B) :
    C.Triple i A (p >>= f) B := by
  intro w hI hw
  refine Ok.bind hC hI ((hp w hI hw).mono fun x v hv hx => ?_)
  cases x with
  | ok a => exact hf a v hv hx
  | error e => exact he e v hv hx

theorem Triple.tryCatch (hC : C.Lawful) {M : Except S.Error α → S.World → Prop}
    {f : S.Error → Program S.sig S.Error α} (hp : C.Triple i A p M)
    (ho : ∀ a, C.Triple i (M (.ok a)) (.ret (.ok a)) B) (he : ∀ e, C.Triple i (M (.error e)) (f e) B) :
    C.Triple i A (MonadExcept.tryCatch p f) B := by
  intro w hI hw
  refine Ok.tryCatch hC hI ((hp w hI hw).mono fun x v hv hx => ?_)
  cases x with
  | ok a => exact ho a v hv hx
  | error e => exact he e v hv hx

/-- One round keeps the invariant of the rounds that are left, whatever it was about. -/
theorem Triple.forEach (hC : C.Lawful) {γ : Type} {body : γ → Program S.sig S.Error Unit}
    {I : List γ → S.World → Prop} {B : Except S.Error Unit → S.World → Prop}
    (hnil : C.Triple i (I []) (.ret (.ok ())) B)
    (hcons : ∀ a rest, C.Triple i (I (a :: rest)) (body a) (fun x => match x with
      | .ok _ => I rest
      | .error e => C.Ok i (.ret (.error e)) B)) (l : List γ) :
    C.Triple i (I l) (Program.forEach l body) B := by
  induction l with
  | nil => exact hnil
  | cons a rest ih =>
    intro w hI hw
    refine Ok.bind hC hI ((hcons a rest w hI hw).mono fun x v hv hx => ?_)
    cases x with
    | ok _ => exact ih v hv hx
    | error e => exact hx

end Triples

/-- The world is in the invariant and every running program is still sound. -/
def Holds (C : Contract S) (c : S.Config) : Prop :=
  C.Inv c.world ∧ ∀ i p, c.pool i = some p → C.Ok i p (C.Post i) c.world

theorem Sound.holds (hC : C.Sound) {c : S.Config} (hc : Reach C.regime c) : C.Holds c := by
  induction hc with
  | start h => exact ⟨hC.initial h,fun i p hp => by simp [Interleaved.start] at hp⟩
  | @move c c' m hc ha hm ih =>
    obtain ⟨hI,hP⟩ := ih
    cases m with
    | enter q =>
      simp only [Interleaved.move,Option.map_eq_some_iff] at hm
      obtain ⟨⟨n,w⟩,he,rfl⟩ := hm
      obtain ⟨hI',hR⟩ := hC.enter hI he
      have hn := hC.started hI he
      refine ⟨hI',fun j p hp => ?_⟩
      by_cases hj : j = n
      · subst hj; simp only [Function.update_self,Option.some.injEq] at hp; exact hp ▸ hn
      · simp only [Function.update_of_ne hj] at hp; exact (hP j p hp).rely hC.toLawful (hR j hj)
    | step i a =>
      cases ha with
      | step hp hcond =>
        simp only [Interleaved.move,hp,Option.some.injEq] at hm
        subst hm
        have hthis := hP i _ hp
        obtain ⟨hl,hn⟩ := hthis _ (hC.refl i _) hI
        obtain ⟨hI',hR⟩ := hC.step a hI hl hcond
        refine ⟨hI',fun j p hj => ?_⟩
        by_cases hji : j = i
        · subst hji; simp only [Function.update_self,Option.some.injEq] at hj; exact hj ▸ hn a hcond
        · simp only [Function.update_of_ne hji] at hj; exact (hP j p hj).rely hC.toLawful (hR j hji)
    | outer e =>
      cases ha with
      | outer hcond =>
        simp only [Interleaved.move,Option.map_eq_some_iff] at hm
        obtain ⟨w,he,rfl⟩ := hm
        obtain ⟨hI',hR⟩ := hC.outer hI hcond he
        exact ⟨hI',fun j p hp => (hP j p hp).rely hC.toLawful (hR j)⟩
    | crash =>
      cases ha with
      | crash hcond =>
        simp only [Interleaved.move,Option.some.injEq] at hm
        subst hm
        exact ⟨hC.crash hI hcond,fun i p hp => by simp at hp⟩

/-- Every operation a run performs is licensed at the moment it is performed. -/
theorem Sound.licensed (hC : C.Sound) {c : S.Config} (hc : Reach C.regime c) {op : S.sig.Op}
    {next : S.sig.Ret op → S.Code} (hp : c.pool i = some (.act op next)) : C.Licence i op c.world :=
  ((hC.holds hc).2 i _ hp _ (hC.refl i _) (hC.holds hc).1).1

theorem Sound.returned (hC : C.Sound) {c : S.Config} (hc : Reach C.regime c)
    {x : Except S.Error S.Response} (hp : c.pool i = some (.ret x)) : C.Post i x c.world :=
  (hC.holds hc).2 i _ hp _ (hC.refl i _) (hC.holds hc).1

/-- What a further property of the world needs so that runs of a narrower regime keep it:
each licensed operation preserves it where the regime lets the operation be taken. -/
structure Preserved (C : Contract S) (R : Regime S) (J : S.World → Prop) : Prop where
  initial : ∀ {w}, S.initial w → J w
  step : ∀ {i op w} a, C.Inv w → C.Licence i op w → R.step i op a w → J w → J (S.perform i op a w).2
  enter : ∀ {q w i w'}, C.Inv w → S.enter q w = some (i,w') → J w → J w'
  outer : ∀ {e w w'}, C.Inv w → R.outer e w → S.outer e w = some w' → J w → J w'
  crash : ∀ {w}, C.Inv w → R.crash w → J w → J (S.crash w)

theorem Preserved.reach {R : Regime S} {J : S.World → Prop} (hC : C.Sound)
    (hf : C.regime = .free) (hJ : C.Preserved R J) {c : S.Config} (hc : Reach R c) : J c.world := by
  induction hc with
  | start h => exact hJ.initial h
  | @move c c' m hc ha hm ih =>
    have hreach : Reach C.regime c := hf ▸ hc.free
    have hI := (hC.holds hreach).1
    cases ha with
    | enter q =>
      simp only [Interleaved.move,Option.map_eq_some_iff] at hm
      obtain ⟨⟨n,w⟩,he,rfl⟩ := hm
      exact hJ.enter hI he ih
    | step hp hcond =>
      have hl := hC.licensed hreach hp
      simp only [Interleaved.move,hp,Option.some.injEq] at hm
      subst hm
      exact hJ.step _ hI hl hcond ih
    | outer hcond =>
      simp only [Interleaved.move,Option.map_eq_some_iff] at hm
      obtain ⟨w,he,rfl⟩ := hm
      exact hJ.outer hI hcond he ih
    | crash hcond =>
      simp only [Interleaved.move,Option.some.injEq] at hm
      subst hm
      exact hJ.crash hI hcond ih

/-- What may happen to the world in one move of a run, given what holds before it. -/
structure Guaranteed (C : Contract S) (R : Regime S) (J : S.World → Prop) (T : S.World → S.World → Prop) : Prop where
  refl : ∀ w, T w w
  trans : ∀ {u v w}, T u v → T v w → T u w
  step : ∀ {i op w} a, C.Inv w → C.Licence i op w → R.step i op a w → J w → T w (S.perform i op a w).2
  enter : ∀ {q w i w'}, C.Inv w → S.enter q w = some (i,w') → J w → T w w'
  outer : ∀ {e w w'}, C.Inv w → R.outer e w → S.outer e w = some w' → J w → T w w'
  crash : ∀ {w}, C.Inv w → R.crash w → J w → T w (S.crash w)

theorem Guaranteed.steps {R : Regime S} {J : S.World → Prop} {T : S.World → S.World → Prop} (hC : C.Sound)
    (hf : C.regime = .free) (hJ : C.Preserved R J) (hT : C.Guaranteed R J T) {c d : S.Config} (hc : Reach R c)
    (hd : Steps R c d) : T c.world d.world := by
  induction hd with
  | refl => exact hT.refl _
  | @step d e m hd ha hm ih =>
    have hreach := hc.steps hd
    have hfree : Reach C.regime d := hf ▸ hreach.free
    have hI := (hC.holds hfree).1
    have hj := hJ.reach hC hf hreach
    refine hT.trans ih ?_
    cases ha with
    | enter q =>
      simp only [Interleaved.move,Option.map_eq_some_iff] at hm
      obtain ⟨⟨n,w⟩,he,rfl⟩ := hm
      exact hT.enter hI he hj
    | step hp hcond =>
      have hl := hC.licensed hfree hp
      simp only [Interleaved.move,hp,Option.some.injEq] at hm
      subst hm
      exact hT.step _ hI hl hcond hj
    | outer hcond =>
      simp only [Interleaved.move,Option.map_eq_some_iff] at hm
      obtain ⟨w,he,rfl⟩ := hm
      exact hT.outer hI hcond he hj
    | crash hcond =>
      simp only [Interleaved.move,Option.some.injEq] at hm
      subst hm
      exact hT.crash hI hcond hj

end Contract
end Interleaved
end LocalPlane
