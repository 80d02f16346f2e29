import LocalPlane.Alone

/-!
# Operations that raise, and rules on what the outside answers

An operation may raise instead of answering, past every handler of the program that asked
for it. A rule on what the outside answers parts the runs of a program in two; a monitor
beside the world says which of the two a run is in.
-/

set_option linter.dupNamespace false

namespace LocalPlane

/-- The same operations, each of which may raise instead of answering. -/
abbrev Signature.faulty (S : Signature) (ε : Type) : Signature := ⟨S.Op,fun op => Except ε (S.Ret op)⟩

namespace Program

variable {S : Signature} {ε α β W O : Type}

/-- What an operation raises ends the program. Its handlers are for the errors it has itself. -/
def fallible : Program S ε α → Program (S.faulty ε) ε α
  | .ret x => .ret x
  | .act op next => .act op fun answer : Except ε (S.Ret op) =>
    match answer with
    | .ok answer => (next answer).fallible
    | .error e => .ret (.error e)

@[simp] theorem fallible_ret (x : Except ε α) : (.ret x : Program S ε α).fallible = .ret x := rfl

@[simp] theorem fallible_bind (p : Program S ε α) (f : α → Program S ε β) :
    (p >>= f).fallible = p.fallible >>= fun a => (f a).fallible := by
  induction p with
  | ret x => cases x <;> rfl
  | act op next ih =>
    simp only [bind_act,fallible]
    congr 1
    funext answer
    cases answer with
    | ok answer => exact ih answer
    | error e => rfl

section Watching

variable (perform : (op : S.Op) → O → W → S.Ret op × W) (rule : S.Op → O → W → Prop)

/-- Everything the outside answers the program is within the rule. -/
def Within : Program S ε α → (ℕ → O) → W → Prop
  | .ret _,_,_ => True
  | .act op next,oracle,w => rule op (oracle 0) w ∧
    Within (next (perform op (oracle 0) w).1) (fun n => oracle (n+1)) (perform op (oracle 0) w).2

variable [∀ op o w, Decidable (rule op o w)]

instance decidableWithin : ∀ (p : Program S ε α) (oracle : ℕ → O) (w : W), Decidable (p.Within perform rule oracle w)
  | .ret _,_,_ => isTrue trivial
  | .act _ next,_,_ => @instDecidableAnd _ _ _ (decidableWithin (next _) _ _)

/-- Beside the world, whether everything was within the rule so far. -/
def watched (op : S.Op) (o : O) (w : W × Bool) : S.Ret op × (W × Bool) :=
  ((perform op o w.1).1,((perform op o w.1).2,w.2 && decide (rule op o w.1)))

/-- A run goes its way whether it is watched or not. -/
theorem exec_watched (p : Program S ε α) (oracle : ℕ → O) (w : W) (kept : Bool) :
    ∃ kept', p.exec (watched perform rule) oracle (w,kept) = ((p.exec perform oracle w).1,((p.exec perform oracle w).2,kept')) ∧
      (kept' = true ↔ kept = true ∧ p.Within perform rule oracle w) := by
  induction p generalizing oracle w kept with
  | ret x => exact ⟨kept,rfl,by simp [Within]⟩
  | act op next ih =>
    obtain ⟨kept',hexec,hkept⟩ := ih (perform op (oracle 0) w).1 (fun n => oracle (n+1)) (perform op (oracle 0) w).2
      (kept && decide (rule op (oracle 0) w))
    refine ⟨kept',hexec,hkept.trans ?_⟩
    rw [Bool.and_eq_true,decide_eq_true_eq,and_assoc]
    rfl

variable {perform rule}

/-- One step of a program that may fail: it goes on with an answer, and ends with what was raised. -/
theorem Always.fallible_act {perform : (op : S.Op) → O → W → Except ε (S.Ret op) × W}
    {op : S.Op} {next : S.Ret op → Program S ε α} {Q : Except ε α → W × Bool → Prop} {w : W} {kept : Bool}
    (hok : ∀ o answer, (perform op o w).1 = .ok answer →
      (next answer).fallible.Always (watched (S := S.faulty ε) perform rule) (fun _ _ _ => True) Q
        ((perform op o w).2,kept && decide (rule op o w)))
    (herror : ∀ o e, (perform op o w).1 = .error e → Q (.error e) ((perform op o w).2,kept && decide (rule op o w))) :
    (Program.act op next).fallible.Always (watched (S := S.faulty ε) perform rule) (fun _ _ _ => True) Q (w,kept) := by
  rw [fallible]
  show ∀ o, True → Always _ _ _ _ _
  intro o _
  cases ha : (perform op o w).1 with
  | ok answer =>
    simp only [watched,ha]
    exact hok o answer ha
  | error e =>
    simp only [watched,ha]
    exact herror o e ha

/-- Where nothing is raised, a handler sees the errors of the program and no others. -/
theorem Always.fallible_tryCatch {perform : (op : S.Op) → O → W → Except ε (S.Ret op) × W} {p : Program S ε α}
    {handler : ε → Program S ε α} {Q : Except ε α → W × Bool → Prop} {w : W} {kept : Bool}
    (hsafe : p.All fun op => ∀ o w e, (perform op o w).1 ≠ .error e)
    (hp : p.fallible.Always (watched (S := S.faulty ε) perform rule) (fun _ _ _ => True)
      (Either (fun a => Q (.ok a)) fun e v => (handler e).fallible.Always (watched (S := S.faulty ε) perform rule)
        (fun _ _ _ => True) Q v) (w,kept)) :
    (MonadExcept.tryCatch p handler : Program S ε α).fallible.Always (watched (S := S.faulty ε) perform rule)
      (fun _ _ _ => True) Q (w,kept) := by
  induction p generalizing w kept with
  | ret x =>
    cases x with
    | ok a => exact hp
    | error e => exact hp
  | act op next ih =>
    refine Always.fallible_act (fun o answer ha => ?_) (fun o e he => absurd he (hsafe.1 o w e))
    rw [fallible] at hp
    have hnext := hp o trivial
    simp only [watched,ha] at hnext
    exact ih answer (hsafe.2 answer) hnext

/-- What holds at the end of every watched run exactly where the monitor is quiet holds exactly of the runs within the rule. -/
theorem within_iff {p : Program S ε α} {Q : Except ε α → W → Prop} {w : W}
    (h : p.Always (watched perform rule) (fun _ _ _ => True) (fun x v => Q x v.1 ↔ v.2 = true) (w,true)) (oracle : ℕ → O) :
    Q (p.exec perform oracle w).1 (p.exec perform oracle w).2 ↔ p.Within perform rule oracle w := by
  have hends := h.exec oracle
  obtain ⟨kept,hexec,hkept⟩ := exec_watched perform rule p oracle w true
  rw [hexec] at hends
  exact hends.trans (hkept.trans (and_iff_right rfl))

end Watching

end Program
end LocalPlane
