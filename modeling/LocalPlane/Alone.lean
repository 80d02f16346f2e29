import LocalPlane.Sequential

/-!
# A program with nobody beside it

Each operation meets the world the one before it left, and the outside answers as it
likes. A program that is safe for a view of the world is safe in every world that fits
the view.
-/

set_option linter.dupNamespace false

namespace LocalPlane
namespace Program

variable {S : Signature} {ε α β γ W O : Type} {perform : (op : S.Op) → O → W → S.Ret op × W}
  {allowed : S.Op → O → W → Prop}

/-- One thing is owed after a result, another after an error. -/
def Either (Q : α → W → Prop) (E : ε → W → Prop) : Except ε α → W → Prop
  | .ok a => Q a
  | .error e => E e

variable (perform allowed) in
/-- However the outside answers within what is allowed, the program ends as stated. -/
def Always : Program S ε α → (Except ε α → W → Prop) → W → Prop
  | .ret x,Q => Q x
  | .act op next,Q => fun w => ∀ o, allowed op o w → Always (next (perform op o w).1) Q (perform op o w).2

theorem Always.mono {p : Program S ε α} {Q Q' : Except ε α → W → Prop} {w : W} (hp : p.Always perform allowed Q w)
    (h : ∀ x v, Q x v → Q' x v) : p.Always perform allowed Q' w := by
  induction p generalizing w with
  | ret x => exact h x w hp
  | act op next ih => exact fun o ho => ih _ (hp o ho)

theorem Always.bind {p : Program S ε α} {f : α → Program S ε β} {Q : Except ε β → W → Prop} {w : W}
    (hp : p.Always perform allowed (Either (fun a => (f a).Always perform allowed Q) fun e => Q (.error e)) w) : (p >>= f).Always perform allowed Q w := by
  induction p generalizing w with
  | ret x =>
    cases x with
    | ok a => exact hp
    | error e => exact hp
  | act op next ih => exact fun o ho => ih _ (hp o ho)

/-- A loop whose rounds end well, each leaving what the rest needs. -/
theorem Always.forEach {body : γ → Program S ε Unit} {I : List γ → W → Prop} {Q : Except ε Unit → W → Prop}
    (hnil : ∀ w, I [] w → Q (.ok ()) w)
    (hcons : ∀ c rest w, I (c :: rest) w → (body c).Always perform allowed (Either (fun _ => I rest) fun e => Q (.error e)) w)
    (l : List γ) {w : W} (h : I l w) : (Program.forEach l body).Always perform allowed Q w := by
  induction l generalizing w with
  | nil => exact hnil w h
  | cons c rest ih =>
    refine Always.bind ((hcons c rest w h).mono fun x v hx => ?_)
    cases x with
    | ok _ => exact ih hx
    | error e => exact hx

/-- What always holds holds on every sequence of answers. -/
theorem Always.exec {p : Program S ε α} {Q : Except ε α → W → Prop} {w : W}
    (hp : p.Always perform (fun _ _ _ => True) Q w) (oracle : ℕ → O) :
    Q (p.exec perform oracle w).1 (p.exec perform oracle w).2 := by
  induction p generalizing w oracle with
  | ret x => exact hp
  | act op next ih => exact ih _ (hp (oracle 0) trivial) _

/-- Safety for a view the world keeps fitting. -/
theorem Always.of_safe {V : Interleaved.View S} {sees : W → V.State → Prop}
    (h : ∀ {w s} op o, sees w s → V.fits op s → allowed op o w →
      V.answers op s (perform op o w).1 ∧ sees (perform op o w).2 (V.after op s (perform op o w).1))
    {p : Program S ε α} {Q : Except ε α → V.State → Prop} {w : W} {s : V.State} (hs : sees w s) (hp : V.Safe p Q s) :
    p.Always perform allowed (fun x v => ∃ t, sees v t ∧ Q x t) w := by
  induction p generalizing w s with
  | ret x => exact ⟨s,hs,hp⟩
  | act op next ih =>
    intro o ho
    obtain ⟨ha,hn⟩ := h op o hs hp.1 ho
    exact ih _ hn (hp.2 _ ha)

end Program
end LocalPlane
