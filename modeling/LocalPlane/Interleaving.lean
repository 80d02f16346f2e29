import LocalPlane.Program
import Mathlib.Logic.Function.Basic

/-!
# Interleaved execution of programs

Requests enter at any time and run their programs one atomic operation at a
time, in any order. Between two operations the outside may move the world, and a
crash may drop every program that is still running.
-/

set_option linter.dupNamespace false

namespace LocalPlane

structure Interleaved where
  sig : Signature
  World : Type
  Outside : Type
  Request : Type
  External : Type
  Error : Type
  Response : Type
  initial : World → Prop
  enter : Request → World → Option (ℕ × World)
  program : ℕ → Request → Program sig Error Response
  perform : ℕ → (op : sig.Op) → Outside → World → sig.Ret op × World
  outer : External → World → Option World
  crash : World → World

namespace Interleaved

variable (S : Interleaved)

abbrev Code := Program S.sig S.Error S.Response

/-- The world and, for each request that is still known, what is left of its program. -/
structure Config where
  world : S.World
  pool : ℕ → Option S.Code

inductive Move where
  | enter (request : S.Request)
  | step (thread : ℕ) (answer : S.Outside)
  | outer (event : S.External)
  | crash

variable {S}

def start (w : S.World) : S.Config := ⟨w,fun _ => none⟩

def move : S.Move → S.Config → Option S.Config
  | .enter q,c => (S.enter q c.world).map fun entered =>
      ⟨entered.2,Function.update c.pool entered.1 (some (S.program entered.1 q))⟩
  | .step i a,c =>
    match c.pool i with
    | some (.act op next) =>
      let answered := S.perform i op a c.world
      some ⟨answered.2,Function.update c.pool i (some (next answered.1))⟩
    | _ => none
  | .outer e,c => (S.outer e c.world).map fun w => ⟨w,c.pool⟩
  | .crash,c => some ⟨S.crash c.world,fun _ => none⟩

/-- Play a list of moves, failing at the first one that is not possible. -/
def play : List S.Move → S.Config → Option S.Config
  | [],c => some c
  | m :: ms,c => (move m c).bind (play ms)

/-- Which moves the runs under consideration may take, judged before each is taken. -/
structure Regime (S : Interleaved) where
  step : ℕ → (op : S.sig.Op) → S.Outside → S.World → Prop := fun _ _ _ _ => True
  outer : S.External → S.World → Prop := fun _ _ => True
  crash : S.World → Prop := fun _ => True

def Regime.free : Regime S := {}

inductive Regime.Allows (R : Regime S) : S.Config → S.Move → Prop
  | enter (c q) : Allows R c (.enter q)
  | step {c i a op next} (hp : c.pool i = some (.act op next)) (hc : R.step i op a c.world) :
      Allows R c (.step i a)
  | outer {c e} (hc : R.outer e c.world) : Allows R c (.outer e)
  | crash {c} (hc : R.crash c.world) : Allows R c .crash

/-- Everything a run under the regime may reach from an initial world with no request running. -/
inductive Reach (R : Regime S) : S.Config → Prop
  | start {w} (h : S.initial w) : Reach R (start w)
  | move {c c' m} (hc : Reach R c) (ha : R.Allows c m) (hm : move m c = some c') : Reach R c'

@[simp] theorem play_nil (c : S.Config) : play [] c = some c := rfl

@[simp] theorem play_cons (m : S.Move) (ms : List S.Move) (c : S.Config) :
    play (m :: ms) c = (move m c).bind (play ms) := rfl

theorem free_allows {c c' : S.Config} {m : S.Move} (h : move m c = some c') :
    (Regime.free : Regime S).Allows c m := by
  cases m with
  | enter q => exact .enter c q
  | outer e => exact .outer trivial
  | crash => exact .crash trivial
  | step i a =>
    simp only [move] at h
    cases hp : c.pool i with
    | none => simp [hp] at h
    | some p =>
      cases p with
      | ret x => simp [hp] at h
      | act op next => exact .step hp trivial

theorem Reach.play {c c' : S.Config} (hc : Reach .free c) {ms : List S.Move}
    (h : Interleaved.play ms c = some c') : Reach .free c' := by
  induction ms generalizing c with
  | nil => simp only [play_nil,Option.some.injEq] at h; exact h ▸ hc
  | cons m ms ih =>
    cases hm : Interleaved.move m c with
    | none => simp [hm] at h
    | some d =>
      simp only [play_cons,hm,Option.bind_some] at h
      exact ih (.move hc (free_allows hm) hm) h

theorem Reach.mono {R R' : Regime S} (h : ∀ c m, R.Allows c m → R'.Allows c m) {c : S.Config}
    (hc : Reach R c) : Reach R' c := by
  induction hc with
  | start hw => exact .start hw
  | move _ ha hm ih => exact .move ih (h _ _ ha) hm

theorem Reach.free {R : Regime S} {c : S.Config} (hc : Reach R c) : Reach .free c := by
  induction hc with
  | start hw => exact .start hw
  | move _ _ hm ih => exact .move ih (free_allows hm) hm

/-- What a run under the regime may go on to from a configuration. -/
inductive Steps (R : Regime S) (c : S.Config) : S.Config → Prop
  | refl : Steps R c c
  | step {d e m} (hd : Steps R c d) (ha : R.Allows d m) (hm : move m d = some e) : Steps R c e

theorem Reach.steps {R : Regime S} {c d : S.Config} (hc : Reach R c) (hd : Steps R c d) : Reach R d := by
  induction hd with
  | refl => exact hc
  | step _ ha hm ih => exact .move ih ha hm

theorem Steps.play {c c' : S.Config} {ms : List S.Move} (h : Interleaved.play ms c = some c') : Steps .free c c' := by
  have hgo : ∀ {ms d}, Steps .free c d → Interleaved.play ms d = some c' → Steps .free c c' := by
    intro ms
    induction ms with
    | nil => intro d hd h; simp only [play_nil,Option.some.injEq] at h; exact h ▸ hd
    | cons m ms ih =>
      intro d hd h
      cases hm : Interleaved.move m d with
      | none => simp [hm] at h
      | some e =>
        simp only [play_cons,hm,Option.bind_some] at h
        exact ih (.step hd (free_allows hm) hm) h
  exact hgo .refl h

section Checked

variable (R : Regime S) [∀ i op a w, Decidable (R.step i op a w)] [∀ e w, Decidable (R.outer e w)]
  [∀ w, Decidable (R.crash w)]

/-- Whether the regime lets a move be taken. -/
def Regime.lets : S.Config → S.Move → Bool
  | _,.enter _ => true
  | c,.step i a =>
    match c.pool i with
    | some (.act op _) => decide (R.step i op a c.world)
    | _ => false
  | c,.outer e => decide (R.outer e c.world)
  | c,.crash => decide (R.crash c.world)

/-- Play moves for as long as the regime lets them be taken. -/
def playUnder : List S.Move → S.Config → Option S.Config
  | [],c => some c
  | m :: ms,c => if R.lets c m then (move m c).bind (playUnder ms) else none

variable {R}

theorem Regime.allows_of_lets {c : S.Config} {m : S.Move} (h : R.lets c m = true) : R.Allows c m := by
  cases m with
  | enter q => exact .enter c q
  | outer e => exact .outer (of_decide_eq_true h)
  | crash => exact .crash (of_decide_eq_true h)
  | step i a =>
    simp only [Regime.lets] at h
    split at h
    · next hp => exact .step hp (of_decide_eq_true h)
    · cases h

theorem Reach.playUnder {c c' : S.Config} (hc : Reach R c) {ms : List S.Move}
    (h : Interleaved.playUnder R ms c = some c') : Reach R c' := by
  induction ms generalizing c with
  | nil => simp only [Interleaved.playUnder,Option.some.injEq] at h; exact h ▸ hc
  | cons m ms ih =>
    simp only [Interleaved.playUnder] at h
    split at h
    · next hl =>
      obtain ⟨d,hd,h⟩ := Option.bind_eq_some_iff.mp h
      exact ih (.move hc (Regime.allows_of_lets hl) hd) h
    · cases h

theorem Steps.playUnder {c c' : S.Config} {ms : List S.Move} (h : Interleaved.playUnder R ms c = some c') :
    Steps R c c' := by
  have hgo : ∀ {ms d}, Steps R c d → Interleaved.playUnder R ms d = some c' → Steps R c c' := by
    intro ms
    induction ms with
    | nil => intro d hd h; simp only [Interleaved.playUnder,Option.some.injEq] at h; exact h ▸ hd
    | cons m ms ih =>
      intro d hd h
      simp only [Interleaved.playUnder] at h
      split at h
      · next hl =>
        obtain ⟨e,he,h⟩ := Option.bind_eq_some_iff.mp h
        exact ih (.step hd (Regime.allows_of_lets hl) he) h
      · cases h
  exact hgo .refl h

end Checked

end Interleaved

open Interleaved

theorem exists_of_play {S : Interleaved} {w : S.World} (hw : S.initial w) (ms : List S.Move) (p : S.Config → Bool)
    (h : (play ms (start w)).any p = true) : ∃ c, Reach .free c ∧ p c = true := by
  obtain ⟨c,hc,hp⟩ := (Option.any_eq_true ..).mp h
  exact ⟨c,(Reach.start hw).play hc,hp⟩

theorem exists_of_playUnder {S : Interleaved} (R : Regime S) [∀ i op a w, Decidable (R.step i op a w)]
    [∀ e w, Decidable (R.outer e w)] [∀ w, Decidable (R.crash w)] {w : S.World} (hw : S.initial w)
    (ms : List S.Move) (p : S.Config → Bool) (h : (playUnder R ms (start w)).any p = true) :
    ∃ c, Reach R c ∧ p c = true := by
  obtain ⟨c,hc,hp⟩ := (Option.any_eq_true ..).mp h
  exact ⟨c,(Reach.start hw).playUnder hc,hp⟩

/-- The same of two configurations one run goes through. -/
theorem exists_of_play_on {S : Interleaved} {w : S.World} (hw : S.initial w) (ms ns : List S.Move)
    (p : S.Config → S.Config → Bool) (h : ((play ms (start w)).any fun c => (play ns c).any (p c)) = true) :
    ∃ c d, Reach .free c ∧ Steps .free c d ∧ p c d = true := by
  obtain ⟨c,hc,hp⟩ := (Option.any_eq_true ..).mp h
  obtain ⟨d,hd,hp⟩ := (Option.any_eq_true ..).mp hp
  exact ⟨c,d,(Reach.start hw).play hc,.play hd,hp⟩

theorem exists_of_playUnder_on {S : Interleaved} (R : Regime S) [∀ i op a w, Decidable (R.step i op a w)]
    [∀ e w, Decidable (R.outer e w)] [∀ w, Decidable (R.crash w)] {w : S.World} (hw : S.initial w)
    (ms ns : List S.Move) (p : S.Config → S.Config → Bool)
    (h : ((playUnder R ms (start w)).any fun c => (playUnder R ns c).any (p c)) = true) :
    ∃ c d, Reach R c ∧ Steps R c d ∧ p c d = true := by
  obtain ⟨c,hc,hp⟩ := (Option.any_eq_true ..).mp h
  obtain ⟨d,hd,hp⟩ := (Option.any_eq_true ..).mp hp
  exact ⟨c,d,(Reach.start hw).playUnder hc,.playUnder hd,hp⟩

end LocalPlane
