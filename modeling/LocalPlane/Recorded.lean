import LocalPlane.Faults
import LocalPlane.Scopes

/-!
# Calls that raise, and the record of a run

A call may raise instead of answering, and a program may look at what another came to. The
outside answers a program's operations one after another, in any way, and the program has a
history of all it asked and was answered.
-/

set_option linter.dupNamespace false

namespace LocalPlane
namespace Program

variable {S : Signature} {ε δ α : Type}

/-- One operation, which may raise. -/
def call (op : S.Op) : Program (S.faulty ε) ε (S.Ret op) := .act op fun answer : Except ε (S.Ret op) => .ret answer

/-- What the program comes to, an error included. -/
def attempt (p : Program S ε α) : Program S δ (Except ε α) := p.settle fun x => .ret (.ok x)

def mapError (f : ε → δ) (p : Program S ε α) : Program S δ α := p.settle fun x => .ret (x.mapError f)

variable {p : Program S ε α} {log : List (Exchange S)}

@[simp] theorem runs_ret {x y : Except ε α} : (.ret x : Program S ε α).Runs log y ↔ log = [] ∧ y = x := by
  constructor
  · rintro ⟨⟩
    exact ⟨rfl,rfl⟩
  · rintro ⟨rfl,rfl⟩
    exact .ret _

theorem Runs.of_call {op : S.Op} {log : List (Exchange (S.faulty ε))} {x : Except ε (S.Ret op)} (h : (call op).Runs log x) :
    log = [⟨op,x⟩] := by
  cases h with
  | act hr =>
    obtain ⟨rfl,rfl⟩ := runs_ret.mp hr
    rfl

theorem Runs.of_attempt {x : Except δ (Except ε α)} (h : (p.attempt : Program S δ (Except ε α)).Runs log x) :
    ∃ y, x = .ok y ∧ p.Runs log y := by
  obtain ⟨y,first,rest,hy,hrest,rfl⟩ := runs_settle h
  obtain ⟨rfl,rfl⟩ := runs_ret.mp hrest
  exact ⟨y,rfl,by rwa [List.append_nil]⟩

theorem Runs.of_mapError {f : ε → δ} {x : Except δ α} (h : (p.mapError f).Runs log x) :
    ∃ y, p.Runs log y ∧ x = y.mapError f := by
  obtain ⟨y,first,rest,hy,hrest,rfl⟩ := runs_settle h
  obtain ⟨rfl,rfl⟩ := runs_ret.mp hrest
  exact ⟨y,by rwa [List.append_nil],rfl⟩

/-- A program asks for nothing but what it may ask for. -/
theorem Runs.all {ok : S.Op → Prop} {x : Except ε α} (h : p.Runs log x) (hp : p.All ok) : ∀ e ∈ log, ok e.1 := by
  induction h with
  | ret => simp
  | act _ ih =>
    intro e he
    rcases List.mem_cons.mp he with rfl | he
    · exact hp.1
    · exact ih (hp.2 _) e he

theorem All.attempt {ok : S.Op → Prop} (hp : p.All ok) : (p.attempt : Program S δ (Except ε α)).All ok := by
  induction p with
  | ret x => trivial
  | act op next ih => exact ⟨hp.1,fun r => ih r (hp.2 r)⟩

/-- The outside answers the operations one after another, and the record is kept. -/
def transcript (p : Program S ε α) (answers : ℕ → (op : S.Op) → S.Ret op) : Except ε α × List (Exchange S) :=
  p.exec (fun op (o : (op : S.Op) → S.Ret op) log => (o op,log ++ [⟨op,o op⟩])) answers []

/-- Whatever the outside answers, the program has a run. -/
theorem runs_transcript (p : Program S ε α) (answers : ℕ → (op : S.Op) → S.Ret op) :
    p.Runs (p.transcript answers).2 (p.transcript answers).1 := by
  suffices h : ∀ (p : Program S ε α) (answers : ℕ → (op : S.Op) → S.Ret op) before, ∃ log x,
      p.exec (fun op (o : (op : S.Op) → S.Ret op) log => (o op,log ++ [⟨op,o op⟩])) answers before = (x,before ++ log) ∧ p.Runs log x by
    obtain ⟨log,x,hexec,hruns⟩ := h p answers []
    simpa only [transcript,hexec,List.nil_append] using hruns
  intro p
  induction p with
  | ret x => exact fun _ before => ⟨[],x,by simp [exec],.ret x⟩
  | act op next ih =>
    intro answers before
    obtain ⟨log,x,hexec,hruns⟩ := ih (answers 0 op) (fun n => answers (n+1)) (before ++ [⟨op,answers 0 op⟩])
    exact ⟨⟨op,answers 0 op⟩ :: log,x,by simpa [exec] using hexec,.act hruns⟩

end Program
end LocalPlane
