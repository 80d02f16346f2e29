import LocalPlane.CollectorStreams
import LocalPlane.JournalAnswers
import LocalPlane.KernelEvidence
import LocalPlane.RelyGuarantee
import LocalPlane.Scopes

/-!
# One child at a time

Filesystems and the journal are read by a child process that the agent forks for each call.
One lock, which is never waited for, and one slot are shared by all calls. A kill is only a
request, so the slot keeps the child until its exit was observed, and until then no other is
started. Calls overlap as they like, children exit when they like, and numbers of processes
that are gone are used again.
-/

set_option linter.dupNamespace false

namespace LocalPlane

namespace Program

variable {S : Signature} {ε α : Type}

/-- `try … finally`: what the last part raises replaces the way out. -/
def ensuring (p : Program S ε α) (last : Program S ε Unit) : Program S ε α :=
  p.settle fun x => last >>= fun _ => .ret x

end Program

namespace Interleaved.Contract

variable {S : Interleaved} {C : Contract S} {i : ℕ} {α β : Type}

theorem Ok.settle (hC : C.Lawful) {p : Program S.sig S.Error α} {k : Except S.Error α → Program S.sig S.Error β}
    {Q : Except S.Error β → S.World → Prop} {w : S.World} (hI : C.Inv w)
    (h : C.Ok i p (fun x => C.Ok i (k x) Q) w) : C.Ok i (p.settle k) Q w := by
  induction p generalizing w with
  | ret x => exact h w (hC.refl i w) hI
  | act op next ih =>
    intro v hr hv
    obtain ⟨hl,hn⟩ := h v hr hv
    exact ⟨hl,fun a ha => ih _ (hC.step a hv hl ha).1 (hn a ha)⟩

/-- Whichever way the first part ends, the last part starts from there. -/
theorem Triple.ensuring (hC : C.Lawful) {A : S.World → Prop} {p : Program S.sig S.Error α}
    {last : Program S.sig S.Error Unit} {M : Except S.Error α → S.World → Prop} {B : Except S.Error α → S.World → Prop}
    (hp : C.Triple i A p M) (hlast : ∀ x, C.Triple i (M x) (last >>= fun _ => .ret x) B) : C.Triple i A (p.ensuring last) B :=
  fun w hI hw => Ok.settle hC hI ((hp w hI hw).mono fun x v hv hx => hlast x v hv hx)

end Interleaved.Contract

namespace Collection

open Interleaved Interleaved.Contract

section Source

variable (J A : Type)

/-- What a collector does between two moments another thread can tell apart. -/
inductive Op where
  | tryLock | release | held | poll | clear | fork
  | keep (pid : ℕ)
  | receive | kill | close

abbrev Op.Answer : Op → Type
  | tryLock | held | poll => Bool
  | fork => Except Failure ℕ
  | receive => Except Failure J
  | close => Except Failure Unit
  | _ => Unit

abbrev sig : Signature := ⟨Op,Op.Answer J⟩

/-- What tells the two collectors apart. A failure that is not caught leaves the call. -/
structure Mode where
  underway : A
  retained : A
  accept : J → Except Failure A
  caught : Failure → Option A

variable {J A}

def ask (op : Op) : Program (sig J) Failure (op.Answer J) := .act op fun answer => .ret (.ok answer)

namespace Mode

variable (m : Mode J A)

def handled (e : Failure) : Program (sig J) Failure A :=
  match m.caught e with
  | some a => pure a
  | none => throw e

def attempt : Program (sig J) Failure A :=
  tryCatch (do
    let pid ← ask .fork >>= Program.ret
    ask (.keep pid)
    let heard ← ask .receive >>= Program.ret
    Program.ret (m.accept heard)) m.handled

end Mode

def giveUp : Program (sig J) Failure Unit := do
  ask .close >>= Program.ret
  if ← ask .poll then ask .clear else pure ()

/-- The child is asked to end, and given up only where its end was observed. -/
def cleanup : Program (sig J) Failure Unit := do
  if ← ask .held then
    if ← ask .poll then giveUp
    else
      ask .kill
      giveUp
  else pure ()

namespace Mode

variable (m : Mode J A)

def started : Program (sig J) Failure A := m.attempt.ensuring cleanup

def locked : Program (sig J) Failure A := do
  if ← ask .held then
    if ← ask .poll then
      ask .clear
      m.started
    else pure m.retained
  else m.started

def collect : Program (sig J) Failure A := do
  if ← ask .tryLock then m.locked.ensuring (ask .release) else pure m.underway

end Mode

/-- What is asked for may be refused before the lock is looked at. -/
def respond : Except A (Mode J A) → Program (sig J) Failure A
  | .ok m => m.collect
  | .error a => .ret (.ok a)

end Source

/-- A process: a child that a collector forked and nobody has reaped, exited or not, or any other. -/
inductive Process where
  | own (exited : Bool)
  | other
  deriving DecidableEq

/-- A child as its object knows it: whether `returncode` was set. -/
structure Child where
  pid : ℕ
  returned : Bool
  deriving DecidableEq

structure Agent where
  processes : ℕ → Option Process
  lock : Option ℕ
  child : Option Child
  calls : ℕ

/-- What the outside has a say in. -/
structure Outside (X : Type) where
  heard : X
  pid : Option ℕ := none
  gone : Bool := true
  closes : Bool := true

namespace Agent

variable (w : Agent)

/-- A forked child that nobody has reaped. -/
def Unreaped (pid : ℕ) : Prop := ∃ exited, w.processes pid = some (.own exited)

def returned (c : Child) : Agent := { w with child := some { c with returned := true } }

/-- `poll`: a number that is no child's any more reads as exited. -/
def poll (gone : Bool) : Bool × Agent :=
  match w.child with
  | none => (false,w)
  | some c =>
    if c.returned then (true,w)
    else match w.processes c.pid with
      | some (.own false) => (false,w)
      | some (.own true) => (true,{ w.returned c with processes := Function.update w.processes c.pid none })
      | some .other => if gone then (true,w.returned c) else (false,w)
      | none => (true,w.returned c)

def fork (pid : Option ℕ) : Except Failure ℕ × Agent :=
  match pid with
  | some pid =>
    if w.processes pid = none then (.ok pid,{ w with processes := Function.update w.processes pid (some (.own false)) })
    else (.error .os,w)
  | none => (.error .os,w)

variable {J X : Type} (hears : X → Except Failure J)

def perform (i : ℕ) : (op : Op) → Outside X → op.Answer J × Agent
  | .tryLock,_ => if w.lock.isNone then (true,{ w with lock := some i }) else (false,w)
  | .release,_ => ((),{ w with lock := none })
  | .held,_ => (w.child.isSome,w)
  | .poll,x => w.poll x.gone
  | .clear,_ => ((),{ w with child := none })
  | .fork,x => w.fork x.pid
  | .keep pid,_ => ((),{ w with child := some ⟨pid,false⟩ })
  | .receive,x => (hears x.heard,w)
  | .kill,_ => ((),w)
  | .close,x => (if x.closes then .ok () else .error .os,w)

end Agent

/-- What happens to processes without the collector. -/
inductive Elsewhere where
  | exits (pid : ℕ) | reaped (pid : ℕ) | starts (pid : ℕ) | ends (pid : ℕ)
  deriving DecidableEq

def Elsewhere.pid : Elsewhere → ℕ
  | exits pid | reaped pid | starts pid | ends pid => pid

/-- What becomes of the process, if this can happen to it. -/
def Elsewhere.becomes : Elsewhere → Option Process → Option (Option Process)
  | exits _,some (.own false) => some (some (.own true))
  | reaped _,some (.own true) => some none
  | starts _,none => some (some .other)
  | ends _,some .other => some none
  | _,_ => none

def Agent.elsewhere (w : Agent) (e : Elsewhere) : Option Agent :=
  (e.becomes (w.processes e.pid)).map fun p => { w with processes := Function.update w.processes e.pid p }

/-- The agent dies: whatever it had forked is a process like any other to the next one. -/
def Agent.crash (w : Agent) : Agent :=
  { w with processes := fun pid => (w.processes pid).map fun _ => .other, lock := none, child := none }

def Agent.Initial (w : Agent) : Prop := (∀ pid, ¬w.Unreaped pid) ∧ w.lock = none ∧ w.child = none

/-- Calls of one collector. -/
abbrev calls {J A X Q : Type} (hears : X → Except Failure J) (service : Q → Except A (Mode J A)) : Interleaved where
  sig := sig J
  World := Agent
  Outside := Outside X
  Request := Q
  External := Elsewhere
  Error := Failure
  Response := A
  initial := Agent.Initial
  enter _ w := some (w.calls,{ w with calls := w.calls + 1 })
  program _ q := respond (service q)
  perform i op x w := w.perform hears i op x
  outer e w := w.elsewhere e
  crash := Agent.crash

section Sharing

variable {J A X Q : Type} {hears : X → Except Failure J} {service : Q → Except A (Mode J A)} {w w' : Agent} {i j pid : ℕ}

/-- Nothing is unreaped, unless it is the child in the slot. -/
def Agent.Covered (w : Agent) : Prop := ∀ pid, w.Unreaped pid → w.child = some ⟨pid,false⟩

variable (reaping : Bool)

/-- Whether the rest of the agent leaves the collector's children to it. -/
def leaving : Regime (calls hears service) where
  outer e _ := reaping = true ∨ ∀ pid, e ≠ .reaped pid

structure Agent.Inv (w : Agent) : Prop where
  single : ∀ p q, w.Unreaped p → w.Unreaped q → p = q
  slot : w.lock = none → w.Covered
  kept : reaping = false → ∀ c, w.child = some c → c.returned = false → w.Unreaped c.pid
  fresh : ∀ i, w.lock = some i → i < w.calls

structure Others (i : ℕ) (w w' : Agent) : Prop where
  calls : w.calls ≤ w'.calls
  free : w.lock ≠ some i → w'.lock ≠ some i
  lock : w.lock = some i → w'.lock = some i
  child : w.lock = some i → w'.child = w.child
  gone : w.lock = some i → ∀ pid, w'.Unreaped pid → w.Unreaped pid
  stays : reaping = false → w.lock = some i → ∀ pid, w.Unreaped pid → w'.Unreaped pid

def Licensed (i : ℕ) (op : Op) (w : Agent) : Prop :=
  match op with
  | .held | .receive | .close => True
  | .tryLock => i < w.calls
  | .release => w.lock = some i ∧ w.Covered
  | .poll => w.lock = some i
  | .clear | .fork => w.lock = some i ∧ ∀ pid, ¬w.Unreaped pid
  | .keep pid => w.lock = some i ∧ (∀ p, w.Unreaped p → p = pid) ∧ (reaping = false → w.Unreaped pid)
  | .kill => w.lock = some i ∧ (reaping = false → ∃ c, w.child = some c ∧ w.Unreaped c.pid)

variable {reaping}

theorem Others.refl (w : Agent) : Others reaping i w w := ⟨Nat.le_refl _,id,id,fun _ => rfl,fun _ _ h => h,fun _ _ _ h => h⟩

theorem Others.trans {u : Agent} (h : Others reaping i w w') (h' : Others reaping i w' u) : Others reaping i w u where
  calls := h.calls.trans h'.calls
  free hw := h'.free (h.free hw)
  lock hw := h'.lock (h.lock hw)
  child hw := (h'.child (h.lock hw)).trans (h.child hw)
  gone hw pid hp := h.gone hw pid (h'.gone (h.lock hw) pid hp)
  stays hr hw pid hp := h'.stays hr (h.lock hw) pid (h.stays hr hw pid hp)

/-- Whoever does not hold the lock sees that it is still not his. -/
theorem others_of_lock (hlock : w.lock = some i) (hj : j ≠ i) (hcalls : w'.calls = w.calls)
    (h : w'.lock = some i ∨ w'.lock = none) : Others reaping j w w' := by
  have hnot : w.lock ≠ some j := by
    rw [hlock]
    exact fun h => hj (Option.some.inj h).symm
  refine ⟨hcalls.ge,fun _ => ?_,fun h => absurd h hnot,fun h => absurd h hnot,fun h => absurd h hnot,fun _ h => absurd h hnot⟩
  rcases h with h | h
  · rw [h,← hlock]
    exact hnot
  · simp [h]

theorem unreaped_update {p : Option Process} {q : ℕ} : ({ w with processes := Function.update w.processes pid p } : Agent).Unreaped q ↔
    if q = pid then ∃ exited, p = some (.own exited) else w.Unreaped q := by
  unfold Agent.Unreaped
  by_cases hq : q = pid
  · subst hq
    simp
  · simp [hq]

/-- Everything a poll can do. -/
theorem poll_cases (gone : Bool) (w : Agent) : (w.child = none ∧ w.poll gone = (false,w)) ∨ ∃ c, w.child = some c ∧
    ((c.returned = true ∧ w.poll gone = (true,w)) ∨ (c.returned = false ∧ w.poll gone = (false,w)) ∨
      (¬w.Unreaped c.pid ∧ w.poll gone = (true,w.returned c)) ∨
      w.poll gone = (true,{ w.returned c with processes := Function.update w.processes c.pid none })) := by
  cases hc : w.child with
  | none => exact .inl ⟨rfl,by simp [Agent.poll,hc]⟩
  | some c =>
    refine .inr ⟨c,rfl,?_⟩
    cases hr : c.returned with
    | true => exact .inl ⟨rfl,by simp [Agent.poll,hc,hr]⟩
    | false =>
      refine .inr ?_
      cases hp : w.processes c.pid with
      | none => exact .inr (.inl ⟨by simp [Agent.Unreaped,hp],by simp [Agent.poll,hc,hr,hp]⟩)
      | some process =>
        cases process with
        | other =>
          cases gone with
          | true => exact .inr (.inl ⟨by simp [Agent.Unreaped,hp],by simp [Agent.poll,hc,hr,hp]⟩)
          | false => exact .inl ⟨rfl,by simp [Agent.poll,hc,hr,hp]⟩
        | own exited =>
          cases exited with
          | false => exact .inl ⟨rfl,by simp [Agent.poll,hc,hr,hp]⟩
          | true => exact .inr (.inr (by simp [Agent.poll,hc,hr,hp]))

/-- What a poll leaves, and what it tells. -/
structure Polled (gone : Bool) (w : Agent) : Prop where
  lock : (w.poll gone).2.lock = w.lock
  calls : (w.poll gone).2.calls = w.calls
  holds : w.child.isSome → (w.poll gone).2.child.isSome
  same : ∀ c, (w.poll gone).2.child = some c → c.returned = false → (w.poll gone).2 = w
  fewer : ∀ pid, (w.poll gone).2.Unreaped pid → w.Unreaped pid
  waits : (w.poll gone).1 = false → (w.poll gone).2 = w
  unknown : (w.poll gone).1 = false → ∀ c, w.child = some c → c.returned = false
  ended : w.child.isSome → w.Covered → (w.poll gone).1 = true → ∀ pid, ¬(w.poll gone).2.Unreaped pid

theorem polled (gone : Bool) (w : Agent) : Polled gone w := by
  rcases poll_cases gone w with ⟨hc,h⟩ | ⟨c,hc,⟨hr,h⟩ | ⟨hr,h⟩ | ⟨hnot,h⟩ | h⟩
  · constructor <;> simp [h,hc]
  · constructor <;> simp only [h,imp_self,implies_true,reduceCtorEq,false_imp_iff]
    intro _ hcovered _ pid hp
    have hslot := hcovered pid hp
    rw [hc] at hslot
    cases hslot
    cases hr
  · constructor <;> simp [h,hc,hr]
  · constructor <;> simp only [h,reduceCtorEq,false_imp_iff]
    · rfl
    · rfl
    · exact fun _ => rfl
    · intro d hd hr
      cases hd
      cases hr
    · exact fun pid hp => hp
    · intro _ hcovered _ pid hp
      have hslot : w.child = some ⟨pid,false⟩ := hcovered pid hp
      rw [hc] at hslot
      cases hslot
      exact hnot hp
  · have hfewer : ∀ pid, ({ w.returned c with processes := Function.update w.processes c.pid none } : Agent).Unreaped pid →
        pid ≠ c.pid ∧ w.Unreaped pid := by
      intro pid hp
      have hp := (@unreaped_update (w.returned c) c.pid none pid).mp hp
      split at hp
      · simp at hp
      · next hne => exact ⟨hne,hp⟩
    constructor <;> simp only [h,reduceCtorEq,false_imp_iff]
    · rfl
    · rfl
    · exact fun _ => rfl
    · intro d hd hr
      cases hd
      cases hr
    · exact fun pid hp => (hfewer pid hp).2
    · intro _ hcovered _ pid hp
      obtain ⟨hne,hp⟩ := hfewer pid hp
      have hslot := hcovered pid hp
      rw [hc] at hslot
      cases hslot
      exact hne rfl

theorem polled_covered (gone : Bool) (hsome : w.child.isSome) (h : w.Covered) : (w.poll gone).2.Covered := by
  cases hb : (w.poll gone).1 with
  | false => rwa [(polled gone w).waits hb]
  | true => exact fun pid hp => absurd hp ((polled gone w).ended hsome h hb pid)

theorem fork_cases (pid : Option ℕ) (w : Agent) : w.fork pid = (.error .os,w) ∨ ∃ p, w.processes p = none ∧
    w.fork pid = (.ok p,{ w with processes := Function.update w.processes p (some (.own false)) }) := by
  unfold Agent.fork
  cases pid with
  | none => exact .inl rfl
  | some p =>
    by_cases hp : w.processes p = none
    · exact .inr ⟨p,hp,by simp [hp]⟩
    · exact .inl (by simp [hp])

/-- No operation the caller is licensed to disturbs another call, or starts a second child. -/
theorem perform_kept {op : Op} {x : Outside X} (hI : w.Inv reaping) (hl : Licensed reaping i op w) :
    (w.perform hears i op x).2.Inv reaping ∧ ∀ j, j ≠ i → Others reaping j w (w.perform hears i op x).2 := by
  cases op with
  | held => exact ⟨hI,fun j _ => .refl w⟩
  | receive => exact ⟨hI,fun j _ => .refl w⟩
  | close => exact ⟨hI,fun j _ => .refl w⟩
  | kill => exact ⟨hI,fun j _ => .refl w⟩
  | tryLock =>
    unfold Agent.perform
    split
    · next hnone =>
      rw [Option.isNone_iff_eq_none] at hnone
      refine ⟨⟨hI.single,fun h => (by cases h),hI.kept,fun k hk => ?_⟩,fun j hj => ?_⟩
      · cases hk
        exact hl
      · exact ⟨Nat.le_refl _,fun _ h => hj (Option.some.inj h).symm,fun h => by simp [hnone] at h,fun h => by simp [hnone] at h,
          fun _ _ h => h,fun _ _ _ h => h⟩
    · exact ⟨hI,fun j _ => .refl w⟩
  | release =>
    obtain ⟨hlock,hcovered⟩ := hl
    exact ⟨⟨hI.single,fun _ => hcovered,hI.kept,fun _ h => (by cases h)⟩,fun j hj => others_of_lock hlock hj rfl (.inr rfl)⟩
  | poll =>
    have h := polled x.gone w
    have hlock : w.lock = some i := hl
    refine ⟨⟨fun p q hp hq => hI.single p q (h.fewer p hp) (h.fewer q hq),fun hnone => ?_,fun hr c hc hc' => ?_,fun k hk => ?_⟩,
      fun j hj => others_of_lock hlock hj h.calls (.inl (h.lock.trans hlock))⟩
    · exact absurd ((h.lock.symm.trans hnone).symm.trans hlock) (by simp)
    · have hsame := h.same c hc hc'
      have hpoll : (w.perform hears i .poll x).2 = w := hsame
      rw [hpoll] at hc ⊢
      exact hI.kept hr c hc hc'
    · exact h.calls.symm ▸ hI.fresh k (h.lock.symm.trans hk)
  | clear =>
    obtain ⟨hlock,hnone⟩ := hl
    exact ⟨⟨hI.single,fun h => absurd h (by simp [Agent.perform,hlock]),fun _ _ h => (by cases h),hI.fresh⟩,
      fun j hj => others_of_lock hlock hj rfl (.inl hlock)⟩
  | fork =>
    obtain ⟨hlock,hnone⟩ := hl
    have hfork : (w.perform hears i .fork x).2 = (w.fork x.pid).2 := rfl
    rw [hfork]
    rcases fork_cases x.pid w with h | ⟨p,hp,h⟩
    · rw [h]
      exact ⟨hI,fun j _ => .refl w⟩
    · rw [h]
      have honly : ∀ q, ({ w with processes := Function.update w.processes p (some (.own false)) } : Agent).Unreaped q → q = p := by
        intro q hq
        have hq := unreaped_update.mp hq
        split at hq
        · assumption
        · exact absurd hq (hnone q)
      refine ⟨⟨fun a b ha hb => (honly a ha).trans (honly b hb).symm,fun hfree => ?_,fun hr c hc hc' => ?_,hI.fresh⟩,
        fun j hj => others_of_lock hlock hj rfl (.inl hlock)⟩
      · exact absurd hfree (by simp [hlock])
      · exact absurd (hI.kept hr c hc hc') (hnone c.pid)
  | keep pid =>
    obtain ⟨hlock,honly,hkept⟩ := hl
    refine ⟨⟨hI.single,fun hfree => absurd hfree (by simp [Agent.perform,hlock]),fun hr c hc _ => ?_,hI.fresh⟩,
      fun j hj => others_of_lock hlock hj rfl (.inl hlock)⟩
    cases hc
    exact hkept hr

theorem becomes_own {e : Elsewhere} {p q : Option Process} (h : e.becomes p = some q) :
    ((∃ b, q = some (.own b)) → ∃ b, p = some (.own b)) ∧
      ((∀ pid, e ≠ .reaped pid) → (∃ b, p = some (.own b)) → ∃ b, q = some (.own b)) := by
  unfold Elsewhere.becomes at h
  split at h
  · cases h
    exact ⟨fun _ => ⟨false,rfl⟩,fun _ _ => ⟨true,rfl⟩⟩
  · next pid => exact ⟨fun _ => ⟨true,rfl⟩,fun he => absurd rfl (he pid)⟩
  · cases h
    exact ⟨fun ⟨_,hb⟩ => (by cases hb),fun _ ⟨_,hb⟩ => (by cases hb)⟩
  · cases h
    exact ⟨fun ⟨_,hb⟩ => (by cases hb),fun _ ⟨_,hb⟩ => (by cases hb)⟩
  · cases h

/-- Processes come and go under every call. -/
theorem elsewhere_kept {e : Elsewhere} (hI : w.Inv reaping) (hr : reaping = true ∨ ∀ pid, e ≠ .reaped pid)
    (h : w.elsewhere e = some w') : w'.Inv reaping ∧ ∀ j, Others reaping j w w' := by
  obtain ⟨p,hp,rfl⟩ := Option.map_eq_some_iff.mp h
  obtain ⟨hfewer,hstays⟩ := becomes_own hp
  have hgone : ∀ q, ({ w with processes := Function.update w.processes e.pid p } : Agent).Unreaped q → w.Unreaped q := by
    intro q hq
    have hq := unreaped_update.mp hq
    split at hq
    · next heq => exact heq ▸ hfewer hq
    · exact hq
  have hkept : reaping = false → ∀ q, w.Unreaped q →
      ({ w with processes := Function.update w.processes e.pid p } : Agent).Unreaped q := by
    intro hfalse q hq
    have hnot : ∀ pid, e ≠ .reaped pid := hr.resolve_left (by simp [hfalse])
    refine unreaped_update.mpr ?_
    split
    · next heq => exact hstays hnot (heq ▸ hq)
    · exact hq
  refine ⟨⟨fun a b ha hb => hI.single a b (hgone a ha) (hgone b hb),fun hfree q hq => hI.slot hfree q (hgone q hq),
    fun hfalse c hc hc' => hkept hfalse c.pid (hI.kept hfalse c hc hc'),hI.fresh⟩,fun j => ?_⟩
  exact ⟨Nat.le_refl _,id,id,fun _ => rfl,fun _ => hgone,fun hfalse _ => hkept hfalse⟩

variable (hears service reaping) in
def sharing : Contract (calls hears service) where
  regime := leaving reaping
  Inv := Agent.Inv reaping
  Rely := Others reaping
  Licence := Licensed reaping
  Post i _ w := w.lock ≠ some i

theorem sharing_lawful : (sharing hears service reaping).Lawful where
  refl _ w := .refl w
  trans h h' := h.trans h'
  initial h := ⟨fun p _ hp => absurd hp (h.1 p),fun _ p hp => absurd hp (h.1 p),fun _ c hc => by simp [h.2.2] at hc,
    fun k hk => by simp [h.2.1] at hk⟩
  step _ hI hl _ := perform_kept hI hl
  enter hI h := by
    cases h
    refine ⟨⟨hI.single,hI.slot,hI.kept,fun k hk => Nat.lt_succ_of_lt (hI.fresh k hk)⟩,fun j _ => ?_⟩
    exact ⟨Nat.le_succ _,id,id,fun _ => rfl,fun _ _ h => h,fun _ _ _ h => h⟩
  outer hI hr h := elsewhere_kept hI hr h
  crash {w} hI _ := by
    have hnone : ∀ p, ¬w.crash.Unreaped p := by
      rintro p ⟨b,hb⟩
      obtain ⟨_,_,hother⟩ := Option.map_eq_some_iff.mp hb
      cases hother
    exact ⟨fun p _ hp => absurd hp (hnone p),fun _ p hp => absurd hp (hnone p),fun _ c hc => (by cases hc),fun k hk => (by cases hk)⟩

section Programs

abbrev Spec (reaping : Bool) (hears : X → Except Failure J) (service : Q → Except A (Mode J A)) (i : ℕ)
    (P : Agent → Prop) {α : Type} (p : Program (sig J) Failure α) (R : Except Failure α → Agent → Prop) : Prop :=
  (sharing hears service reaping).Triple i P p R

/-- The caller holds the lock, and nothing is unreaped but the child in the slot. -/
def Holding (i : ℕ) (w : Agent) : Prop := w.lock = some i ∧ w.Covered

/-- The caller holds the lock, and nothing is unreaped. -/
def Clear (i : ℕ) (w : Agent) : Prop := w.lock = some i ∧ ∀ pid, ¬w.Unreaped pid

variable (reaping) in
/-- The child in the slot was not seen to exit. -/
def Running (i : ℕ) (w : Agent) : Prop :=
  Holding i w ∧ w.child.isSome ∧ (reaping = false → ∃ c, w.child = some c ∧ w.Unreaped c.pid)

variable (reaping) in
/-- The child was forked and is not in the slot yet. -/
def Forked (i pid : ℕ) (w : Agent) : Prop :=
  w.lock = some i ∧ (∀ p, w.Unreaped p → p = pid) ∧ (reaping = false → w.Unreaped pid)

theorem holding_stable (h : Others reaping i w w') (hw : Holding i w) : Holding i w' :=
  ⟨h.lock hw.1,fun p hp => (h.child hw.1).trans (hw.2 p (h.gone hw.1 p hp))⟩

theorem clear_stable (h : Others reaping i w w') (hw : Clear i w) : Clear i w' :=
  ⟨h.lock hw.1,fun p hp => hw.2 p (h.gone hw.1 p hp)⟩

theorem running_stable (h : Others reaping i w w') (hw : Running reaping i w) : Running reaping i w' := by
  obtain ⟨hh,hsome,halive⟩ := hw
  refine ⟨holding_stable h hh,(h.child hh.1).symm ▸ hsome,fun hr => ?_⟩
  obtain ⟨c,hc,hu⟩ := halive hr
  exact ⟨c,(h.child hh.1).trans hc,h.stays hr hh.1 c.pid hu⟩

theorem forked_stable (h : Others reaping i w w') (hw : Forked reaping i pid w) : Forked reaping i pid w' :=
  ⟨h.lock hw.1,fun p hp => hw.2.1 p (h.gone hw.1 p hp),fun hr => h.stays hr hw.1 pid (hw.2.2 hr)⟩

theorem Clear.holding (h : Clear i w) : Holding i w := ⟨h.1,fun p hp => absurd hp (h.2 p)⟩

section Rules

variable {α : Type} {P : Agent → Prop} {R : Except Failure α → Agent → Prop}

/-- One operation, and what it leaves for each answer. -/
theorem asked {op : Op} {k : op.Answer J → Program (sig J) Failure α} (M : op.Answer J → Agent → Prop)
    (hP : ∀ {w w'}, Others reaping i w w' → P w → P w') (hl : ∀ {w : Agent}, w.Inv reaping → P w → Licensed reaping i op w)
    (hM : ∀ {w : Agent} (x : Outside X), w.Inv reaping → P w → M (w.perform hears i op x).1 (w.perform hears i op x).2)
    (hk : ∀ answer, Spec reaping hears service i (M answer) (k answer) R) : Spec reaping hears service i P (ask op >>= k) R := by
  refine Triple.act sharing_lawful hP hl fun answer => (hk answer).conseq ?_ fun _ _ _ h => h
  rintro v _ ⟨w,x,hI,hw,_,hperform⟩
  have hmid := hM x hI hw
  have heq : w.perform hears i op x = (answer,v) := hperform
  rw [heq] at hmid
  exact hmid

theorem raised {x : Except Failure α} (hP : ∀ {w w'}, Others reaping i w w' → P w → P w') (h : ∀ w, P w → R x w) :
    Spec reaping hears service i P (.ret x) R :=
  Triple.ret hP fun _ hw => h _ hw

end Rules

/-- The caller holds the lock, and a child. -/
def Kept (i : ℕ) (w : Agent) : Prop := Holding i w ∧ w.child.isSome

theorem kept_stable (h : Others reaping i w w') (hw : Kept i w) : Kept i w' :=
  ⟨holding_stable h hw.1,(h.child hw.1.1).symm ▸ hw.2⟩

theorem Running.kept (h : Running reaping i w) : Kept i w := ⟨h.1,h.2.1⟩

/-- What a poll tells the holder of a child. -/
theorem polled_kept {gone : Bool} (hI : w.Inv reaping) (h : Kept i w) :
    ((w.poll gone).1 = true → Kept i (w.poll gone).2 ∧ Clear i (w.poll gone).2) ∧
      ((w.poll gone).1 = false → Running reaping i (w.poll gone).2) := by
  have hpoll := polled gone w
  refine ⟨fun htrue => ?_,fun hfalse => ?_⟩
  · have hclear : Clear i (w.poll gone).2 := ⟨hpoll.lock.trans h.1.1,hpoll.ended h.2 h.1.2 htrue⟩
    exact ⟨⟨hclear.holding,hpoll.holds h.2⟩,hclear⟩
  · rw [hpoll.waits hfalse]
    refine ⟨h.1,h.2,fun hr => ?_⟩
    obtain ⟨c,hc⟩ := Option.isSome_iff_exists.mp h.2
    exact ⟨c,hc,hI.kept hr c hc (hpoll.unknown hfalse c hc)⟩

section Specs

variable {α : Type} {R : Except Failure α → Agent → Prop} {k : Bool → Program (sig J) Failure α}

theorem polling (hyes : Spec reaping hears service i (fun w => Kept i w ∧ Clear i w) (k true) R)
    (hno : Spec reaping hears service i (Running reaping i) (k false) R) :
    Spec reaping hears service i (Kept i) (ask .poll >>= k) R := by
  refine asked (fun exited w => (exited = true → Kept i w ∧ Clear i w) ∧ (exited = false → Running reaping i w)) kept_stable
    (fun _ h => h.1.1) (fun x hI h => polled_kept hI h) fun exited => ?_
  cases exited with
  | true => exact hyes.conseq (fun _ h => h.1 rfl) fun _ _ _ h => h
  | false => exact hno.conseq (fun _ h => h.2 rfl) fun _ _ _ h => h

/-- The slot is looked at: what is not in it has been reaped. -/
theorem holding (hyes : Spec reaping hears service i (Kept i) (k true) R)
    (hno : Spec reaping hears service i (Clear i) (k false) R) :
    Spec reaping hears service i (Holding i) (ask .held >>= k) R := by
  refine asked (fun held w => Holding i w ∧ w.child.isSome = held) holding_stable (fun _ _ => trivial) (fun _ _ h => ⟨h,rfl⟩)
    fun held => ?_
  cases held with
  | true => exact hyes.conseq (fun _ h => ⟨h.1,h.2⟩) fun _ _ _ h => h
  | false =>
    refine hno.conseq (fun {w} _ h => ⟨h.1.1,fun pid hp => ?_⟩) fun _ _ _ h => h
    have hslot := h.1.2 pid hp
    simp [hslot] at h

end Specs

theorem clear_spec : Spec reaping hears service i (Clear i) (ask .clear : Program (sig J) Failure Unit) (fun _ => Clear i) :=
  asked (fun _ => Clear i) clear_stable (fun _ h => h) (fun _ _ h => h) fun _ => raised clear_stable fun _ h => h

theorem giveUp_spec : Spec reaping hears service i (Kept i) (giveUp : Program (sig J) Failure Unit) (fun _ => Holding i) := by
  refine Triple.bind sharing_lawful (M := fun _ => Kept i) ?_ (fun _ => ?_) fun _ => raised kept_stable fun w h => h.1
  · exact asked (fun _ => Kept i) kept_stable (fun _ _ => trivial) (fun _ _ h => h) fun _ => raised kept_stable fun _ h => h
  · refine polling ?_ ?_
    · exact clear_spec.conseq (fun _ h => h.2) fun _ _ _ h => h.holding
    · exact raised running_stable fun _ h => h.1

theorem cleanup_spec : Spec reaping hears service i (Holding i) (cleanup : Program (sig J) Failure Unit) (fun _ => Holding i) := by
  refine holding (polling ?_ ?_) ?_
  · exact giveUp_spec.conseq (fun _ h => h.1) fun _ _ _ h => h
  · refine asked (fun _ => Kept i) running_stable (fun _ h => ⟨h.1.1,h.2.2⟩) (fun _ _ h => h.kept) fun _ => ?_
    exact giveUp_spec
  · exact raised clear_stable fun _ h => h.holding

theorem handled_spec (m : Mode J A) (e : Failure) : Spec reaping hears service i (Holding i) (m.handled e) (fun _ => Holding i) := by
  unfold Mode.handled
  cases m.caught e with
  | some a => exact raised holding_stable fun _ h => h
  | none => exact raised holding_stable fun _ h => h

variable (reaping) in
/-- What a fork leaves, for either answer. -/
def AfterFork (i : ℕ) : Except Failure ℕ → Agent → Prop
  | .ok pid => Forked reaping i pid
  | .error _ => Clear i

theorem forked (x : Option ℕ) (h : Clear i w) : AfterFork reaping i (w.fork x).1 (w.fork x).2 := by
  rcases fork_cases x w with hfork | ⟨p,-,hfork⟩
  · rw [hfork]
    exact h
  · rw [hfork]
    refine ⟨h.1,fun q hq => ?_,fun _ => unreaped_update.mpr (by simp)⟩
    have hq := unreaped_update.mp hq
    split at hq
    · assumption
    · exact absurd hq (h.2 q)

theorem attempt_spec (m : Mode J A) : Spec reaping hears service i (Clear i) m.attempt (fun _ => Holding i) := by
  refine Triple.tryCatch sharing_lawful (M := fun _ => Holding i) ?_ (fun _ => raised holding_stable fun _ h => h) (handled_spec m)
  refine asked (AfterFork reaping i) clear_stable (fun _ h => h) (fun x _ h => forked x.pid h) fun answer => ?_
  cases answer with
  | error e => exact raised clear_stable fun _ h => h.holding
  | ok pid =>
    refine asked (fun _ => Holding i) forked_stable (fun _ h => h) (fun x _ h => ⟨h.1,fun p hp => ?_⟩) fun _ => ?_
    · exact congrArg (fun q => some (Child.mk q false)) (h.2.1 p hp).symm
    · refine asked (fun _ => Holding i) holding_stable (fun _ _ => trivial) (fun _ _ h => h) fun heard => ?_
      cases heard with
      | error e => exact raised holding_stable fun _ h => h
      | ok j => exact raised holding_stable fun _ h => h

theorem started_spec (m : Mode J A) : Spec reaping hears service i (Clear i) m.started (fun _ => Holding i) := by
  refine Triple.ensuring sharing_lawful (attempt_spec m) fun x => ?_
  exact Triple.bind sharing_lawful cleanup_spec (fun _ => raised holding_stable fun _ h => h)
    fun _ => raised holding_stable fun _ h => h

theorem locked_spec (m : Mode J A) : Spec reaping hears service i (Holding i) m.locked (fun _ => Holding i) := by
  refine holding (polling ?_ ?_) (started_spec m)
  · refine Triple.bind sharing_lawful (clear_spec.conseq (fun _ h => h.2) fun _ _ _ h => h) (fun _ => started_spec m) fun _ => ?_
    exact raised clear_stable fun _ h => h.holding
  · exact raised running_stable fun _ h => h.1

/-- The caller has been numbered and does not hold the lock. -/
def Outsider (i : ℕ) (w : Agent) : Prop := w.lock ≠ some i ∧ i < w.calls

theorem outsider_stable (h : Others reaping i w w') (hw : Outsider i w) : Outsider i w' :=
  ⟨h.free hw.1,hw.2.trans_le h.calls⟩

theorem collect_spec (m : Mode J A) : Spec reaping hears service i (Outsider i) m.collect (fun _ w => w.lock ≠ some i) := by
  refine asked (fun acquired w => (acquired = true → Holding i w) ∧ (acquired = false → Outsider i w)) outsider_stable
    (fun _ h => h.2) (fun {w} x hI h => ?_) fun acquired => ?_
  · unfold Agent.perform
    split
    · next hnone =>
      exact ⟨fun _ => ⟨rfl,hI.slot (Option.isNone_iff_eq_none.mp hnone)⟩,fun hf => (by cases hf)⟩
    · exact ⟨fun hf => (by cases hf),fun _ => h⟩
  · cases acquired with
    | true =>
      have hlocked : Spec reaping hears service i (Holding i) (m.locked.ensuring (ask .release)) (fun _ w => w.lock ≠ some i) := by
        refine Triple.ensuring sharing_lawful (locked_spec m) fun x => ?_
        refine asked (fun _ w => w.lock ≠ some i) holding_stable (fun _ h => h) (fun _ _ _ h => (by cases h)) fun _ => ?_
        exact raised (fun h => h.free) fun _ h => h
      exact hlocked.conseq (fun _ h => h.1 rfl) fun _ _ _ h => h
    | false => exact (raised outsider_stable fun _ h => h.1).conseq (fun _ h => h.2 rfl) fun _ _ _ h => h

theorem sharing_sound : (sharing hears service reaping).Sound where
  toLawful := sharing_lawful
  started {q w i w'} hI h := by
    cases h
    have houtsider : Outsider w.calls { w with calls := w.calls + 1 } :=
      ⟨fun hlock => absurd (hI.fresh _ hlock) (Nat.lt_irrefl _),Nat.lt_succ_self _⟩
    have hinv := ((@sharing_lawful J A X Q hears service reaping).enter (q := q) hI rfl).1
    change (sharing hears service reaping).Ok w.calls (respond (service q)) _ _
    cases service q with
    | ok m => exact collect_spec m _ hinv houtsider
    | error a => exact (raised outsider_stable fun _ h => h.1) _ hinv houtsider

end Programs

/-- Only the call that takes the lock comes to hold it. -/
theorem perform_lock {op : Op} {x : Outside X} (h : (w.perform hears i op x).2.lock = some j) : j = i ∨ w.lock = some j := by
  cases op with
  | tryLock =>
    have htry : w.perform hears i .tryLock x = if w.lock.isNone then (true,{ w with lock := some i }) else (false,w) := rfl
    rw [htry] at h
    split at h
    · exact .inl (Option.some.inj h).symm
    · exact .inr h
  | release => cases h
  | poll => exact .inr ((polled x.gone w).lock.symm.trans h)
  | fork =>
    refine .inr ?_
    rcases fork_cases x.pid w with hfork | ⟨p,-,hfork⟩
    · have hsame : (w.perform hears i .fork x).2 = w := congrArg Prod.snd hfork
      rwa [hsame] at h
    · have hsame : (w.perform hears i .fork x).2.lock = w.lock := congrArg (fun r => r.2.lock) hfork
      rwa [hsame] at h
  | held | clear | keep | receive | kill | close => exact .inr h

/-- The lock is held by a call that is still known. -/
theorem holder_known {c : (calls hears service).Config} (hc : Reach .free c) :
    ∀ i, Agent.lock c.world = some i → ∃ p, c.pool i = some p := by
  induction hc with
  | start h => exact fun i hlock => absurd (h.2.1.symm.trans hlock) (by simp)
  | @move c c' m hc ha hm ih =>
    intro i hlock
    cases m with
    | enter q =>
      simp only [Interleaved.move,Option.map_eq_some_iff] at hm
      obtain ⟨⟨n,w⟩,he,rfl⟩ := hm
      cases he
      by_cases hi : i = Agent.calls c.world
      · exact ⟨_,by simp [hi]; rfl⟩
      · obtain ⟨p,hp⟩ := ih i hlock
        exact ⟨p,by simpa [hi] using hp⟩
    | step j x =>
      cases ha with
      | step hp _ =>
        simp only [Interleaved.move,hp,Option.some.injEq] at hm
        subst hm
        by_cases hi : i = j
        · exact ⟨_,by simp [hi]; rfl⟩
        · rcases perform_lock hlock with heq | hbefore
          · exact absurd heq hi
          · obtain ⟨p,hknown⟩ := ih i hbefore
            exact ⟨p,by simpa [hi] using hknown⟩
    | outer e =>
      simp only [Interleaved.move,Option.map_eq_some_iff] at hm
      obtain ⟨w,he,rfl⟩ := hm
      obtain ⟨p,-,rfl⟩ := Option.map_eq_some_iff.mp he
      exact ih i hlock
    | crash =>
      cases hm
      cases hlock

end Sharing

end Collection
end LocalPlane
