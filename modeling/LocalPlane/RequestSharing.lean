import LocalPlane.UrlText
import Mathlib.Data.Finset.Card
import Mathlib.Logic.Function.Basic

/-!
# Sharing a request in flight

A request that several components want is sent once. Who waits for it is counted by hand,
and the count is what decides when the request is given up, so it is compared here with
the set of those who really wait.
-/

set_option linter.dupNamespace false

namespace LocalPlane
namespace RequestSharing
open Url

inductive ApiErrorKind where
  | backend
  | unreachable
  | timeout
  | cancelled
  | malformed
deriving DecidableEq,Repr

structure ApiError where
  kind : ApiErrorKind
  message : String
  path : Text
  code : Option String := none
  status : Option ℕ := none
deriving DecidableEq,Repr

/-- What a promise is rejected with. -/
inductive Cause where
  | api (error : ApiError)
  | thrown (message : Option String)
deriving DecidableEq,Repr

def toApiError (path : Text) : Cause → ApiError
  | .api error => error
  | .thrown message => ⟨.malformed,message.getD "unexpected failure",path,none,none⟩

inductive Settled (β : Type) where
  | body (data : β)
  | failed (cause : Cause)

/-- A request, what it was sent for, and what is kept about it while it is shared. -/
structure Flight (β : Type) where
  key : Text
  flightKey : Text
  subscribers : ℤ
  aborted : Bool
  settled : Option (Settled β)
  finished : Bool

/-- The table of requests in flight, and every request ever sent, in the order they were sent. -/
structure Sharing (β : Type) where
  inFlight : Text → Option ℕ
  flights : ℕ → Option (Flight β)
  begun : ℕ

namespace Sharing

variable {β : Type}

def empty : Sharing β := ⟨fun _ => none,fun _ => none,0⟩

def keep (f : ℕ) (flight : Flight β) (s : Sharing β) : Sharing β :=
  { s with flights := Function.update s.flights f (some flight) }

def forget (flightKey : Text) (f : ℕ) (s : Sharing β) : Sharing β :=
  if s.inFlight flightKey = some f then { s with inFlight := Function.update s.inFlight flightKey none } else s

/-- Join the request in flight under the key, or send one. -/
def share (flightKey key : Text) (s : Sharing β) : ℕ × Sharing β :=
  match s.inFlight flightKey with
  | some f =>
    match s.flights f with
    | some flight => (f,s.keep f { flight with subscribers := flight.subscribers + 1 })
    | none => (f,s)
  | none => (s.begun,{
      inFlight := Function.update s.inFlight flightKey (some s.begun)
      flights := Function.update s.flights s.begun (some ⟨key,flightKey,1,false,none,false⟩)
      begun := s.begun + 1 })

def release (flightKey : Text) (f : ℕ) (s : Sharing β) : Sharing β :=
  match s.flights f with
  | none => s
  | some flight =>
    let left := { flight with subscribers := flight.subscribers - 1 }
    if 0 < left.subscribers then s.keep f left
    else (s.forget flightKey f).keep f { left with aborted := true }

/-- The request itself settles, with whatever it settles with. -/
def settle (f : ℕ) (answer : Settled β) (s : Sharing β) : Option (Sharing β) :=
  (s.flights f).bind fun flight =>
    if flight.settled.isNone then some (s.keep f { flight with settled := some answer }) else none

/-- What is chained to the request runs before anyone is told how it settled. -/
def finish (f : ℕ) (s : Sharing β) : Option (Sharing β) :=
  (s.flights f).bind fun flight =>
    if flight.settled.isSome && !flight.finished then
      some ((s.forget flight.flightKey f).keep f { flight with finished := true })
    else none

@[simp] theorem keep_inFlight (s : Sharing β) (f : ℕ) (flight : Flight β) : (s.keep f flight).inFlight = s.inFlight := rfl
@[simp] theorem keep_begun (s : Sharing β) (f : ℕ) (flight : Flight β) : (s.keep f flight).begun = s.begun := rfl
@[simp] theorem keep_flights (s : Sharing β) (f : ℕ) (flight : Flight β) :
    (s.keep f flight).flights = Function.update s.flights f (some flight) := rfl

@[simp] theorem forget_flights (s : Sharing β) (k : Text) (f : ℕ) : (s.forget k f).flights = s.flights := by
  unfold forget
  split <;> rfl

@[simp] theorem forget_begun (s : Sharing β) (k : Text) (f : ℕ) : (s.forget k f).begun = s.begun := by
  unfold forget
  split <;> rfl

@[simp] theorem release_begun (s : Sharing β) (k : Text) (f : ℕ) : (s.release k f).begun = s.begun := by
  unfold release
  split
  · rfl
  · simp only
    split <;> simp

theorem forget_inFlight {s : Sharing β} {k k' : Text} {f g : ℕ} (h : (s.forget k f).inFlight k' = some g) :
    s.inFlight k' = some g ∧ (k' = k → g ≠ f) := by
  unfold forget at h
  split at h
  · by_cases hk : k' = k
    · simp [hk] at h
    · simp only [Function.update_of_ne hk] at h
      exact ⟨h,fun he => absurd he hk⟩
  · next hne =>
    refine ⟨h,?_⟩
    rintro rfl rfl
    exact hne h

end Sharing

/-- What never changes about a request once it is sent, and what it settled with once it has. -/
structure Flight.Continues {β : Type} (a b : Flight β) : Prop where
  key : b.key = a.key
  flightKey : b.flightKey = a.flightKey
  settled : ∀ answer, a.settled = some answer → b.settled = some answer

/-- Requests stay as they were sent, and new ones are counted on. -/
structure Sharing.Extends {β : Type} (s t : Sharing β) : Prop where
  begun : s.begun ≤ t.begun
  flights : ∀ f a, s.flights f = some a → ∃ b, t.flights f = some b ∧ a.Continues b
  old : ∀ f b, f < s.begun → t.flights f = some b → ∃ a, s.flights f = some a ∧ a.Continues b

/-- The counts agree with who waits for what: a request is given up exactly once nobody waits for it,
and one that can still be joined is waited for. -/
structure Counted {β ι : Type} (W : ℕ → Finset ι) (s : Sharing β) : Prop where
  known : ∀ f flight, s.flights f = some flight → f < s.begun
  waited : ∀ f, (W f).Nonempty → ∃ flight, s.flights f = some flight
  counted : ∀ f flight, s.flights f = some flight → flight.subscribers = (W f).card ∧ (flight.aborted = true ↔ W f = ∅)
  shared : ∀ k f, s.inFlight k = some f → ∃ flight, s.flights f = some flight ∧ flight.flightKey = k ∧ (W f).Nonempty

section Laws

variable {β ι : Type} {W W' : ℕ → Finset ι} {s t : Sharing β} {f : ℕ} {a b : Flight β} {k key : Text} {c : ι}

theorem Flight.Continues.refl (a : Flight β) : a.Continues a := ⟨rfl,rfl,fun _ h => h⟩

theorem Sharing.Extends.refl (s : Sharing β) : s.Extends s :=
  ⟨le_rfl,fun _ a h => ⟨a,h,.refl a⟩,fun _ b _ h => ⟨b,h,.refl b⟩⟩

theorem Counted.absent (h : Counted W s) (hf : s.begun ≤ f) : s.flights f = none :=
  Option.eq_none_iff_forall_ne_some.mpr fun _ ha => absurd (h.known f _ ha) (by omega)

/-- One request is revised. -/
theorem Sharing.Extends.revise (hf : s.flights f = some a) (hab : a.Continues b)
    (hflights : t.flights = Function.update s.flights f (some b)) (hbegun : t.begun = s.begun) : s.Extends t := by
  refine ⟨hbegun ▸ le_rfl,fun g d hd => ?_,fun g d _ hd => ?_⟩
  · by_cases hg : g = f
    · subst hg
      rw [hf] at hd
      cases hd
      exact ⟨b,by rw [hflights,Function.update_self],hab⟩
    · exact ⟨d,by rw [hflights,Function.update_of_ne hg,hd],.refl d⟩
  · by_cases hg : g = f
    · subst hg
      rw [hflights,Function.update_self] at hd
      cases hd
      exact ⟨a,hf,hab⟩
    · rw [hflights,Function.update_of_ne hg] at hd
      exact ⟨d,hd,.refl d⟩

theorem Counted.revise (h : Counted W s) (hf : s.flights f = some a) (hab : a.Continues b)
    (hflights : t.flights = Function.update s.flights f (some b)) (hbegun : t.begun = s.begun)
    (hW : ∀ g, g ≠ f → W' g = W g) (hcount : b.subscribers = (W' f).card ∧ (b.aborted = true ↔ W' f = ∅))
    (hjoin : ∀ k g, t.inFlight k = some g → s.inFlight k = some g ∧ (g = f → (W' f).Nonempty)) : Counted W' t := by
  have hat : t.flights f = some b := by rw [hflights,Function.update_self]
  have hoff : ∀ g, g ≠ f → t.flights g = s.flights g := fun g hg => by rw [hflights,Function.update_of_ne hg]
  refine ⟨fun g d hd => ?_,fun g hg => ?_,fun g d hd => ?_,fun k' g hg => ?_⟩
  · rw [hbegun]
    by_cases hgf : g = f
    · exact hgf ▸ h.known f a hf
    · exact h.known g d (by rw [← hoff g hgf,hd])
  · by_cases hgf : g = f
    · exact ⟨b,hgf ▸ hat⟩
    · rw [hoff g hgf]
      exact h.waited g (hW g hgf ▸ hg)
  · by_cases hgf : g = f
    · subst hgf
      rw [hat] at hd
      cases hd
      exact hcount
    · rw [hW g hgf]
      exact h.counted g d (by rw [← hoff g hgf,hd])
  · obtain ⟨hold,hne⟩ := hjoin k' g hg
    obtain ⟨d,hd,hk,hw⟩ := h.shared k' g hold
    by_cases hgf : g = f
    · subst hgf
      rw [hf] at hd
      cases hd
      exact ⟨b,hat,hab.flightKey.trans hk,hne rfl⟩
    · exact ⟨d,by rw [hoff g hgf,hd],hk,by rwa [hW g hgf]⟩

section Waiting

variable [DecidableEq ι]

/-- What joining or sending a request does. -/
structure Shared (k key : Text) (c : ι) (W : ℕ → Finset ι) (s : Sharing β) (r : ℕ × Sharing β) : Prop where
  counted : Counted (Function.update W r.1 (insert c (W r.1))) r.2
  extended : s.Extends r.2
  joined : ∃ flight, r.2.flights r.1 = some flight ∧ flight.flightKey = k
  index : s.inFlight k = some r.1 ∨ s.inFlight k = none ∧ r.1 = s.begun
  sent : ∀ f b, s.begun ≤ f → r.2.flights f = some b → f = s.begun ∧ b.key = key ∧ b.flightKey = k

theorem Counted.share (h : Counted W s) (hc : ∀ f, c ∉ W f) : Shared k key c W s (s.share k key) := by
  unfold Sharing.share
  cases hk : s.inFlight k with
  | some f =>
    obtain ⟨a,hf,hkey,_⟩ := h.shared k f hk
    have hcount := h.counted f a hf
    have hab : a.Continues { a with subscribers := a.subscribers + 1 } := ⟨rfl,rfl,fun _ h => h⟩
    simp only [hf]
    refine ⟨?_,.revise hf hab rfl rfl,⟨_,Function.update_self ..,hkey⟩,.inl hk,fun g b hg hb => ?_⟩
    · refine h.revise hf hab rfl rfl (fun g hg => Function.update_of_ne hg ..) ?_ fun _ _ hj => ⟨hj,fun _ => ?_⟩
      · rw [Function.update_self,Finset.card_insert_of_notMem (hc f)]
        refine ⟨by push_cast; rw [hcount.1],?_⟩
        have hw : W f ≠ ∅ := Finset.nonempty_iff_ne_empty.mp (h.shared k f hk).choose_spec.2.2
        simp [hcount.2,hw]
      · simp
    · have hlt : g < s.begun := by
        by_cases hgf : g = f
        · exact hgf ▸ h.known f a hf
        · exact h.known g b (by simpa [Function.update_of_ne hgf] using hb)
      exact absurd hlt (by omega)
  | none =>
    have hnone : s.flights s.begun = none := h.absent le_rfl
    have hempty : W s.begun = ∅ := by
      by_contra hne
      obtain ⟨d,hd⟩ := h.waited _ (Finset.nonempty_iff_ne_empty.mpr hne)
      rw [hnone] at hd
      cases hd
    refine ⟨⟨fun g b hb => ?_,fun g hg => ?_,fun g b hb => ?_,fun k' g hg => ?_⟩,?_,
      ⟨_,Function.update_self ..,rfl⟩,.inr ⟨hk,rfl⟩,fun g b hg hb => ?_⟩
    · by_cases hgn : g = s.begun
      · simp [hgn]
      · simp only [Function.update_of_ne hgn] at hb
        exact Nat.lt_succ_of_lt (h.known g b hb)
    · by_cases hgn : g = s.begun
      · exact ⟨_,by rw [hgn]; exact Function.update_self ..⟩
      · simp only [Function.update_of_ne hgn] at hg ⊢
        exact h.waited g hg
    · by_cases hgn : g = s.begun
      · subst hgn
        simp only [Function.update_self,Option.some.injEq] at hb ⊢
        subst hb
        simp [hempty]
      · simp only [Function.update_of_ne hgn] at hb ⊢
        exact h.counted g b hb
    · by_cases hk' : k' = k
      · subst hk'
        simp only [Function.update_self,Option.some.injEq] at hg
        subst hg
        exact ⟨_,Function.update_self ..,rfl,by simp⟩
      · simp only [Function.update_of_ne hk'] at hg
        obtain ⟨d,hd,hkey,hw⟩ := h.shared k' g hg
        have hgn : g ≠ s.begun := (h.known g d hd).ne
        exact ⟨d,by simp only [Function.update_of_ne hgn,hd],hkey,by simpa only [Function.update_of_ne hgn] using hw⟩
    · refine ⟨Nat.le_succ _,fun g d hd => ⟨d,?_,.refl d⟩,fun g d hg hd => ⟨d,?_,.refl d⟩⟩
      · simpa only [Function.update_of_ne (h.known g d hd).ne] using hd
      · simpa only [Function.update_of_ne hg.ne] using hd
    · by_cases hgn : g = s.begun
      · subst hgn
        simp only [Function.update_self,Option.some.injEq] at hb
        subst hb
        exact ⟨rfl,rfl,rfl⟩
      · simp only [Function.update_of_ne hgn] at hb
        exact absurd (h.known g b hb) (by omega)

theorem Counted.release (h : Counted W s) (hc : c ∈ W f) (hf : s.flights f = some a) (hk : a.flightKey = k) :
    Counted (Function.update W f ((W f).erase c)) (s.release k f) ∧ s.Extends (s.release k f) := by
  have hcard := Finset.card_erase_of_mem hc
  have hpos : 0 < (W f).card := Finset.card_pos.mpr ⟨c,hc⟩
  have hcount := h.counted f a hf
  simp only [Sharing.release,hf]
  split
  · next hleft =>
    have hab : a.Continues { a with subscribers := a.subscribers - 1 } := ⟨rfl,rfl,fun _ h => h⟩
    have hrest : ((W f).erase c).Nonempty := Finset.card_pos.mp (by omega)
    refine ⟨h.revise hf hab rfl rfl (fun g hg => Function.update_of_ne hg ..) ?_ fun _ _ hj => ⟨hj,fun _ => ?_⟩,
      .revise hf hab rfl rfl⟩
    · rw [Function.update_self]
      refine ⟨by simp only; omega,?_⟩
      have hne : (a.aborted = true) = False := eq_false fun ha => by
        rw [hcount.2.mp ha] at hpos
        exact absurd hpos (by simp)
      simp only [hne,false_iff]
      exact Finset.nonempty_iff_ne_empty.mp hrest
    · rwa [Function.update_self]
  · next hleft =>
    have hab : a.Continues { a with subscribers := a.subscribers - 1,aborted := true } := ⟨rfl,rfl,fun _ h => h⟩
    have hrest : (W f).erase c = ∅ := Finset.card_eq_zero.mp (by omega)
    have hflights : ((s.forget k f).keep f { a with subscribers := a.subscribers - 1,aborted := true }).flights =
        Function.update s.flights f (some { a with subscribers := a.subscribers - 1,aborted := true }) := by simp
    refine ⟨h.revise hf hab hflights (by simp) (fun g hg => Function.update_of_ne hg ..) ?_ fun k' g hj => ?_,
      .revise hf hab hflights (by simp)⟩
    · rw [Function.update_self,hrest]
      exact ⟨by simp only [Finset.card_empty]; omega,by simp⟩
    · obtain ⟨hold,hne⟩ := Sharing.forget_inFlight hj
      refine ⟨hold,?_⟩
      rintro rfl
      -- a request is in the table under its own key only, and that entry has just been removed
      obtain ⟨d,hd,hk',_⟩ := h.shared k' g hold
      rw [hf] at hd
      cases hd
      exact absurd rfl (hne (hk'.symm.trans hk))

end Waiting

theorem Counted.settle {answer : Settled β} (h : Counted W s) (ht : s.settle f answer = some t) :
    Counted W t ∧ s.Extends t ∧ t.begun = s.begun := by
  obtain ⟨a,hf,ht⟩ := Option.bind_eq_some_iff.mp ht
  split at ht
  · next hopen =>
    cases ht
    have hab : a.Continues { a with settled := some answer } := ⟨rfl,rfl,fun x hx => by simp [hx] at hopen⟩
    refine ⟨h.revise hf hab rfl rfl (fun _ _ => rfl) (h.counted f a hf) fun k g hj => ⟨hj,?_⟩,.revise hf hab rfl rfl,rfl⟩
    rintro rfl
    exact (h.shared k g hj).choose_spec.2.2
  · cases ht

theorem Counted.finish (h : Counted W s) (ht : s.finish f = some t) :
    Counted W t ∧ s.Extends t ∧ t.begun = s.begun := by
  obtain ⟨a,hf,ht⟩ := Option.bind_eq_some_iff.mp ht
  split at ht
  · cases ht
    have hab : a.Continues { a with finished := true } := ⟨rfl,rfl,fun _ hx => hx⟩
    have hflights : ((s.forget a.flightKey f).keep f { a with finished := true }).flights =
        Function.update s.flights f (some { a with finished := true }) := by simp
    refine ⟨h.revise hf hab hflights (by simp) (fun _ _ => rfl) (h.counted f a hf) fun k g hj => ?_,
      .revise hf hab hflights (by simp),by simp⟩
    obtain ⟨hold,_⟩ := Sharing.forget_inFlight hj
    refine ⟨hold,?_⟩
    rintro rfl
    exact (h.shared k g hold).choose_spec.2.2
  · cases ht

end Laws

end RequestSharing
end LocalPlane
