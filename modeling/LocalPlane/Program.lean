import Mathlib.Data.Set.Basic

/-!
# Programs over a signature of atomic operations

A program is a finite tree: it stops with a result or asks for one atomic
operation and continues with the answer. What an operation does is left to the
system that runs the program, so one program text serves every interpretation.
-/

set_option linter.dupNamespace false

namespace LocalPlane

/-- The atomic operations a program may ask for, and the type each is answered in. -/
structure Signature where
  Op : Type
  Ret : Op → Type

inductive Program (S : Signature) (ε α : Type) : Type where
  | ret (result : Except ε α)
  | act (op : S.Op) (next : S.Ret op → Program S ε α)

namespace Program

variable {S : Signature} {ε α β : Type}

def bind : Program S ε α → (α → Program S ε β) → Program S ε β
  | .ret (.ok a),f => f a
  | .ret (.error e),_ => .ret (.error e)
  | .act op next,f => .act op (fun r => (next r).bind f)

/-- An error raised anywhere in the first program is handed to the handler. -/
def tryCatch : Program S ε α → (ε → Program S ε α) → Program S ε α
  | .ret (.ok a),_ => .ret (.ok a)
  | .ret (.error e),handler => handler e
  | .act op next,handler => .act op (fun r => (next r).tryCatch handler)

def throw (e : ε) : Program S ε α := .ret (.error e)

instance : Monad (Program S ε) where
  pure a := .ret (.ok a)
  bind := bind

instance : MonadExceptOf ε (Program S ε) where
  throw := throw
  tryCatch := tryCatch

@[simp] theorem pure_eq (a : α) : (pure a : Program S ε α) = .ret (.ok a) := rfl
@[simp] theorem bind_ok (a : α) (f : α → Program S ε β) : (.ret (.ok a) >>= f) = f a := rfl
@[simp] theorem bind_error (e : ε) (f : α → Program S ε β) :
    ((.ret (.error e) : Program S ε α) >>= f) = .ret (.error e) := rfl
@[simp] theorem bind_act (op : S.Op) (next : S.Ret op → Program S ε α) (f : α → Program S ε β) :
    (.act op next >>= f) = .act op (fun r => next r >>= f) := rfl
@[simp] theorem throw_eq (e : ε) : (MonadExcept.throw e : Program S ε α) = .ret (.error e) := rfl
@[simp] theorem throwThe_eq (e : ε) : (throwThe ε e : Program S ε α) = .ret (.error e) := rfl
@[simp] theorem tryCatch_ok (a : α) (h : ε → Program S ε α) :
    MonadExcept.tryCatch (.ret (.ok a) : Program S ε α) h = .ret (.ok a) := rfl
@[simp] theorem tryCatch_error (e : ε) (h : ε → Program S ε α) :
    MonadExcept.tryCatch (.ret (.error e) : Program S ε α) h = h e := rfl
@[simp] theorem tryCatch_act (op : S.Op) (next : S.Ret op → Program S ε α) (h : ε → Program S ε α) :
    MonadExcept.tryCatch (.act op next) h = .act op (fun r => MonadExcept.tryCatch (next r) h) := rfl

theorem bind_assoc {γ : Type} (p : Program S ε α) (f : α → Program S ε β) (g : β → Program S ε γ) :
    (p >>= f) >>= g = p >>= fun a => f a >>= g := by
  induction p with
  | ret x => cases x <;> rfl
  | act op next ih => exact congrArg (act op) (funext ih)

/-- Every operation the program may ask for, on whatever answers, is one of these. -/
def All (ok : S.Op → Prop) : Program S ε α → Prop
  | .ret _ => True
  | .act op next => ok op ∧ ∀ r, (next r).All ok

theorem All.bind {ok : S.Op → Prop} {p : Program S ε α} {f : α → Program S ε β} (hp : p.All ok)
    (hf : ∀ a, (f a).All ok) : (p >>= f).All ok := by
  induction p with
  | ret x => cases x with
    | ok a => exact hf a
    | error e => trivial
  | act op next ih => exact ⟨hp.1,fun r => ih r (hp.2 r)⟩

theorem All.mono {ok ok' : S.Op → Prop} (h : ∀ op, ok op → ok' op) {p : Program S ε α} (hp : p.All ok) :
    p.All ok' := by
  induction p with
  | ret x => trivial
  | act op next ih => exact ⟨h op hp.1,fun r => ih r (hp.2 r)⟩

theorem All.tryCatch {ok : S.Op → Prop} {p : Program S ε α} {f : ε → Program S ε α} (hp : p.All ok)
    (hf : ∀ e, (f e).All ok) : (MonadExcept.tryCatch p f : Program S ε α).All ok := by
  induction p with
  | ret x => cases x with
    | ok a => trivial
    | error e => exact hf e
  | act op next ih => exact ⟨hp.1,fun r => ih r (hp.2 r)⟩

/-- On every path at most one operation is not one of these. -/
def Once (ok : S.Op → Prop) : Program S ε α → Prop
  | .ret _ => True
  | .act op next => (ok op ∧ ∀ r, (next r).Once ok) ∨ ∀ r, (next r).All ok

theorem All.once {ok : S.Op → Prop} {p : Program S ε α} (hp : p.All ok) : p.Once ok := by
  induction p with
  | ret x => trivial
  | act op next ih => exact .inl ⟨hp.1,fun r => ih r (hp.2 r)⟩

theorem All.bind_once {ok : S.Op → Prop} {p : Program S ε α} {f : α → Program S ε β} (hp : p.All ok)
    (hf : ∀ a, (f a).Once ok) : (p >>= f).Once ok := by
  induction p with
  | ret x => cases x with
    | ok a => exact hf a
    | error e => trivial
  | act op next ih => exact .inl ⟨hp.1,fun r => ih r (hp.2 r)⟩

theorem Once.bind {ok : S.Op → Prop} {p : Program S ε α} {f : α → Program S ε β} (hp : p.Once ok)
    (hf : ∀ a, (f a).All ok) : (p >>= f).Once ok := by
  induction p with
  | ret x => cases x with
    | ok a => exact (hf a).once
    | error e => trivial
  | act op next ih =>
    rcases hp with ⟨hop,hrest⟩ | hrest
    · exact .inl ⟨hop,fun r => ih r (hrest r)⟩
    · exact .inr fun r => (hrest r).bind hf

/-- One program for each element, in order; the first error ends the loop. -/
def forEach : List α → (α → Program S ε Unit) → Program S ε Unit
  | [],_ => .ret (.ok ())
  | a :: rest,body => (body a).bind fun _ => forEach rest body

theorem All.forEach {ok : S.Op → Prop} {body : α → Program S ε Unit} (h : ∀ a, (body a).All ok) (l : List α) :
    (Program.forEach l body).All ok := by
  induction l with
  | nil => trivial
  | cons a rest ih => exact (h a).bind fun _ => ih

/-- Run a program with nothing else running: each operation meets the world the
previous one left, and the oracle supplies what the outside answers. -/
def exec {W O : Type} (perform : (op : S.Op) → O → W → S.Ret op × W) :
    Program S ε α → (ℕ → O) → W → Except ε α × W
  | .ret x,_,w => (x,w)
  | .act op next,oracle,w =>
    let answered := perform op (oracle 0) w
    (next answered.1).exec perform (fun n => oracle (n+1)) answered.2

end Program
end LocalPlane
