import LocalPlane.Program

/-!
# Routines that raise, and the scopes they leave

A routine has local variables that survive an exception, and asks the outside one question
at a time. What it guarantees is stated of every history of questions and answers. A scope
is left on every way out of it, and an exception raised there replaces the way out.
-/

set_option linter.dupNamespace false

namespace LocalPlane

abbrev Exchange (S : Signature) := (op : S.Op) × S.Ret op

namespace Program

variable {S : Signature} {ε ε' α β : Type}

/-- A history of questions and answers after which the program stops. -/
inductive Runs : Program S ε α → List (Exchange S) → Except ε α → Prop
  | ret (x : Except ε α) : Runs (.ret x) [] x
  | act {op : S.Op} {next : S.Ret op → Program S ε α} {r : S.Ret op} {h : List (Exchange S)} {x : Except ε α}
      (hr : Runs (next r) h x) : Runs (.act op next) (⟨op,r⟩ :: h) x

/-- Whatever is answered from here on, the program stops in `Q`. -/
def wp (Q : List (Exchange S) → Except ε α → Prop) : Program S ε α → List (Exchange S) → Prop
  | .ret x,h => Q h x
  | .act op next,h => ∀ r, (next r).wp Q (h ++ [⟨op,r⟩])

/-- Go on after either way out of a program. -/
def settle (k : Except ε α → Program S ε' β) : Program S ε α → Program S ε' β
  | .ret x => k x
  | .act op next => .act op fun r => (next r).settle k

variable {p : Program S ε α} {Q Q' : List (Exchange S) → Except ε α → Prop} {h : List (Exchange S)}

theorem wp_mono (hp : p.wp Q h) (hQ : ∀ h x, Q h x → Q' h x) : p.wp Q' h := by
  induction p generalizing h with
  | ret x => exact hQ _ _ hp
  | act op next ih => exact fun r => ih r (hp r)

theorem wp_and (hp : p.wp Q h) (hp' : p.wp Q' h) : p.wp (fun h x => Q h x ∧ Q' h x) h := by
  induction p generalizing h with
  | ret x => exact ⟨hp,hp'⟩
  | act op next ih => exact fun r => ih r (hp r) (hp' r)

theorem wp_settle {k : Except ε α → Program S ε' β} {R : List (Exchange S) → Except ε' β → Prop} :
    (p.settle k).wp R h ↔ p.wp (fun h x => (k x).wp R h) h := by
  induction p generalizing h with
  | ret x => rfl
  | act op next ih => exact forall_congr' fun r => ih r

theorem wp_iff : p.wp Q h ↔ ∀ t x, p.Runs t x → Q (h ++ t) x := by
  induction p generalizing h with
  | ret x =>
    constructor
    · intro hq t y hr
      cases hr
      rwa [List.append_nil]
    · intro hall
      simpa only [List.append_nil,wp] using hall [] x (.ret x)
  | act op next ih =>
    constructor
    · intro hq t y hr
      cases hr with
      | act hr => simpa only [List.append_assoc,List.singleton_append] using (ih _).mp (hq _) _ y hr
    · intro hall r
      refine (ih r).mpr fun t y hr => ?_
      simpa only [List.append_assoc,List.singleton_append] using hall (⟨op,r⟩ :: t) y (.act hr)

/-- A history of a program that goes on is one of the program and one of what came after. -/
theorem runs_settle {k : Except ε α → Program S ε' β} {t : List (Exchange S)} {x : Except ε' β} (hr : (p.settle k).Runs t x) :
    ∃ y t₁ t₂, p.Runs t₁ y ∧ (k y).Runs t₂ x ∧ t = t₁ ++ t₂ := by
  induction p generalizing t with
  | ret y => exact ⟨y,[],t,.ret y,hr,rfl⟩
  | act op next ih =>
    cases hr with
    | act hr =>
      obtain ⟨y,t₁,t₂,hy,hx,rfl⟩ := ih _ hr
      exact ⟨y,_,t₂,.act hy,hx,rfl⟩

theorem runs_bind {f : α → Program S ε β} {t : List (Exchange S)} {x : Except ε β} (hr : (p >>= f).Runs t x) :
    (∃ e, p.Runs t (.error e) ∧ x = .error e) ∨ ∃ a t₁ t₂, p.Runs t₁ (.ok a) ∧ (f a).Runs t₂ x ∧ t = t₁ ++ t₂ := by
  induction p generalizing t with
  | ret y =>
    cases y with
    | ok a => exact .inr ⟨a,[],t,.ret _,hr,rfl⟩
    | error e =>
      cases hr
      exact .inl ⟨e,.ret _,rfl⟩
  | act op next ih =>
    cases hr with
    | act hr =>
      rcases ih _ hr with ⟨e,he,rfl⟩ | ⟨a,t₁,t₂,ha,hx,rfl⟩
      · exact .inl ⟨e,.act he,rfl⟩
      · exact .inr ⟨a,_,t₂,.act ha,hx,rfl⟩

/-- A result comes from both halves. -/
theorem runs_bind_ok {f : α → Program S ε β} {t : List (Exchange S)} {b : β} (hr : (p >>= f).Runs t (.ok b)) :
    ∃ a t₁ t₂, p.Runs t₁ (.ok a) ∧ (f a).Runs t₂ (.ok b) ∧ t = t₁ ++ t₂ := by
  rcases runs_bind hr with ⟨e,-,he⟩ | h
  · cases he
  · exact h

theorem runs_tryCatch {handler : ε → Program S ε α} {t : List (Exchange S)} {x : Except ε α} (hr : (p.tryCatch handler).Runs t x) :
    (∃ a, p.Runs t (.ok a) ∧ x = .ok a) ∨ ∃ e t₁ t₂, p.Runs t₁ (.error e) ∧ (handler e).Runs t₂ x ∧ t = t₁ ++ t₂ := by
  induction p generalizing t with
  | ret y =>
    cases y with
    | ok a =>
      cases hr
      exact .inl ⟨a,.ret _,rfl⟩
    | error e => exact .inr ⟨e,[],t,.ret _,hr,rfl⟩
  | act op next ih =>
    cases hr with
    | act hr =>
      rcases ih _ hr with ⟨a,ha,rfl⟩ | ⟨e,t₁,t₂,he,hx,rfl⟩
      · exact .inl ⟨a,.act ha,rfl⟩
      · exact .inr ⟨e,_,t₂,.act he,hx,rfl⟩

/-- The history of a program against a party that answers each question one way, and what it stops with. -/
def against (party : (op : S.Op) → S.Ret op) : Program S ε α → List (Exchange S) × Except ε α
  | .ret x => ([],x)
  | .act op next =>
    let rest := (next (party op)).against party
    (⟨op,party op⟩ :: rest.1,rest.2)

theorem runs_against (party : (op : S.Op) → S.Ret op) (p : Program S ε α) : p.Runs (p.against party).1 (p.against party).2 := by
  induction p with
  | ret x => exact .ret x
  | act op next ih => exact .act (ih (party op))

theorem against_answers (party : (op : S.Op) → S.Ret op) (p : Program S ε α) {op : S.Op} {r : S.Ret op}
    (hmem : ⟨op,r⟩ ∈ (p.against party).1) : r = party op := by
  induction p with
  | ret x => cases hmem
  | act asked next ih =>
    rcases List.mem_cons.mp hmem with heq | hmem
    · cases heq
      rfl
    · exact ih _ hmem

end Program

/-- A program with local variables `σ`, which what it raises carries along. -/
def Routine (S : Signature) (σ ε α : Type) : Type := σ → Program S (ε × σ) (α × σ)

namespace Routine

variable {S : Signature} {σ ε α β : Type}

def pure (a : α) : Routine S σ ε α := fun s => .ret (.ok (a,s))

def raise (e : ε) : Routine S σ ε α := fun s => .ret (.error (e,s))

def bind (p : Routine S σ ε α) (f : α → Routine S σ ε β) : Routine S σ ε β := fun s =>
  (p s).settle fun x => match x with
    | .ok (a,s') => f a s'
    | .error e => .ret (.error e)

instance : Monad (Routine S σ ε) where
  pure := pure
  bind := bind

def perform (op : S.Op) : Routine S σ ε (S.Ret op) := fun s => .act op fun r => .ret (.ok (r,s))

def modify (f : σ → σ) : Routine S σ ε Unit := fun s => .ret (.ok ((),f s))

def locals : Routine S σ ε σ := fun s => .ret (.ok (s,s))

/-- An answer that may be an exception. -/
def lift : Except ε α → Routine S σ ε α
  | .ok a => pure a
  | .error e => raise e

/-- `with`: the scope is left on both ways out of the body. -/
def within (leave : Routine S σ ε Unit) (body : Routine S σ ε α) : Routine S σ ε α := fun s =>
  (body s).settle fun x => match x with
    | .ok (a,s') => (leave >>= fun _ => (pure a : Routine S σ ε α)) s'
    | .error (e,s') => (leave >>= fun _ => (raise e : Routine S σ ε α)) s'

/-- `try`: what is raised in the body goes to the handler. -/
def handle (body : Routine S σ ε α) (handler : ε → Routine S σ ε α) : Routine S σ ε α := fun s =>
  (body s).settle fun x => match x with
    | .ok a => .ret (.ok a)
    | .error (e,s') => handler e s'

/-- What is said of every way out of a routine: its result, its locals and the history. -/
abbrev Post (S : Signature) (σ ε α : Type) := Except ε α → σ → List (Exchange S) → Prop

def Post.lift (Q : Post S σ ε α) (h : List (Exchange S)) : Except (ε × σ) (α × σ) → Prop
  | .ok (a,s) => Q (.ok a) s h
  | .error (e,s) => Q (.error e) s h

def wp (p : Routine S σ ε α) (Q : Post S σ ε α) (s : σ) (h : List (Exchange S)) : Prop := (p s).wp Q.lift h

variable {Q Q' : Post S σ ε α} {s : σ} {h : List (Exchange S)} {p : Routine S σ ε α}

theorem wp_mono (hp : p.wp Q s h) (hQ : ∀ x s h, Q x s h → Q' x s h) : p.wp Q' s h :=
  Program.wp_mono hp fun h x => match x with
    | .ok (a,s) => hQ (.ok a) s h
    | .error (e,s) => hQ (.error e) s h

theorem wp_and (hp : p.wp Q s h) (hp' : p.wp Q' s h) : p.wp (fun x s h => Q x s h ∧ Q' x s h) s h :=
  Program.wp_mono (Program.wp_and hp hp') fun _ x hx => match x,hx with
    | .ok (_,_),hx => hx
    | .error (_,_),hx => hx

@[simp] theorem wp_pure {a : α} : (Pure.pure a : Routine S σ ε α).wp Q s h ↔ Q (.ok a) s h := Iff.rfl

@[simp] theorem wp_raise {e : ε} : (raise e : Routine S σ ε α).wp Q s h ↔ Q (.error e) s h := Iff.rfl

@[simp] theorem wp_lift {x : Except ε α} : (lift x : Routine S σ ε α).wp Q s h ↔ Q x s h := by cases x <;> rfl

@[simp] theorem wp_perform {op : S.Op} {R : Post S σ ε (S.Ret op)} :
    (perform op : Routine S σ ε (S.Ret op)).wp R s h ↔ ∀ r, R (.ok r) s (h ++ [⟨op,r⟩]) := Iff.rfl

@[simp] theorem wp_modify {f : σ → σ} {R : Post S σ ε Unit} : (modify f : Routine S σ ε Unit).wp R s h ↔ R (.ok ()) (f s) h :=
  Iff.rfl

@[simp] theorem wp_locals {R : Post S σ ε σ} : (locals : Routine S σ ε σ).wp R s h ↔ R (.ok s) s h := Iff.rfl

/-- The rule for sequencing: an exception skips what follows. -/
theorem wp_bind {f : α → Routine S σ ε β} {R : Post S σ ε β} : (p >>= f).wp R s h ↔
    p.wp (fun x s h => match x with
      | .ok a => (f a).wp R s h
      | .error e => R (.error e) s h) s h := by
  refine Program.wp_settle.trans ⟨fun hp => ?_,fun hp => ?_⟩ <;>
    exact Program.wp_mono hp fun h x hx => by rcases x with ⟨e,s⟩ | ⟨a,s⟩ <;> exact hx

/-- The rule for scopes: what leaving raises replaces the way out. -/
theorem wp_within {leave : Routine S σ ε Unit} : (within leave p).wp Q s h ↔
    p.wp (fun x s h => leave.wp (fun y s h => match y with
      | .ok _ => Q x s h
      | .error e => Q (.error e) s h) s h) s h := by
  refine Program.wp_settle.trans ⟨fun hp => ?_,fun hp => ?_⟩
  · refine Program.wp_mono hp fun h x hx => ?_
    rcases x with ⟨e,s⟩ | ⟨a,s⟩ <;> exact wp_bind.mp hx
  · refine Program.wp_mono hp fun h x hx => ?_
    rcases x with ⟨e,s⟩ | ⟨a,s⟩ <;> exact wp_bind.mpr hx

theorem wp_handle {handler : ε → Routine S σ ε α} : (handle p handler).wp Q s h ↔
    p.wp (fun x s h => match x with
      | .ok a => Q (.ok a) s h
      | .error e => (handler e).wp Q s h) s h := by
  refine Program.wp_settle.trans ⟨fun hp => ?_,fun hp => ?_⟩ <;>
    exact Program.wp_mono hp fun h x hx => by rcases x with ⟨e,s⟩ | ⟨a,s⟩ <;> exact hx

end Routine
end LocalPlane
