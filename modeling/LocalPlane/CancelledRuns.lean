import LocalPlane.DispatchRecord
import LocalPlane.Scenarios
import LocalPlane.Transitions
import LocalPlane.WriteLocks

/-!
# What a cancelled Run leaves behind

A cancellation asks for a state that a Run may still be in while its apply has taken the
write lock, and a stale wait for confirmation can put a Run past the boundary back into it.
In every run that takes neither step a cancelled Run has touched nothing and holds nothing.
-/

set_option linter.dupNamespace false

namespace LocalPlane

open Interleaved

/-- Nothing was carried out for a Run without a Change. -/
def Rows.Booked (x : Rows) : Prop := x.change = none → ∀ call ∈ x.journal, ∀ j p a o l, call ≠ .mutated j p a o l

/-- A Run past the boundary says so and is not cancelled, and a cancelled one has no lock. -/
structure Rows.Apart (x : Rows) (lock : Option LockKey) : Prop where
  past : x.change ≠ none → 3 ≤ x.state.phase ∧ x.state ≠ .cancelled
  unlocked : x.state = .cancelled → lock = none

/-- A Run that touched nothing and holds nothing. -/
structure World.Untouched (w : World) (r : RunId) : Prop where
  change : (w.files r).rows.change = none
  effect : (w.files r).rows.run.hostEffect = .none
  uncalled : ∀ call ∈ (w.files r).journal, ∀ j p a o l, call ≠ .mutated j p a o l
  unlocked : w.locks.forRun r = none

/-- A cancellation finds no lock row of its Run, and a wait for confirmation is written before arming or to a
cancelled row, which refuses it. -/
def CancelledFree (w : World) : Op → Prop
  | .commit r .cancel => w.isLocked r = false
  | .commit r (.awaitConfirmation _) => (w.files r).state.phase ≤ 1 ∨ (w.files r).state = .cancelled
  | _ => True

def cancelledFree (w : World) : Op → Bool
  | .commit r .cancel => !w.isLocked r
  | .commit r (.awaitConfirmation _) => (w.files r).state.phase ≤ 1 || (w.files r).state = .cancelled
  | _ => true

theorem cancelledFree_iff (w : World) (op : Op) : cancelledFree w op = true ↔ CancelledFree w op := by
  unfold cancelledFree CancelledFree
  split <;> simp

instance (w : World) (op : Op) : Decidable (CancelledFree w op) := decidable_of_iff _ (cancelledFree_iff w op)

namespace Commit

variable {i : RequestId} {alone : Prop} {locked : Bool} {x : Rows} {c : Commit}

/-- A Change comes into being where the state says so. -/
theorem apart_of_new (hnone : x.change = none) (h : (c.rows i x).change ≠ none) : (c.rows i x).state = .applying := by
  obtain ⟨ch',hch'⟩ := Option.ne_none_iff_exists'.mp h
  rcases rows_change hch' with ⟨ch,hch,_⟩ | ⟨seen,correlation,rfl⟩ | ⟨seen,effect,state,reason,rfl⟩
  · rw [hnone] at hch; cases hch
  · rfl
  · have hmap : x.change.map _ = some ch' := hch'
    rw [hnone] at hmap
    cases hmap

/-- Past the boundary a commit that is licensed and on time goes no way back. -/
theorem apart_of_past (hI : x.Coherent) (hl : c.Licence i alone x) (hr : c.Requires locked x) (hch : x.change ≠ none)
    (hp : 3 ≤ x.state.phase ∧ x.state ≠ .cancelled)
    (ht : ∀ seen, c = .awaitConfirmation seen → x.state.phase ≤ 1 ∨ x.state = .cancelled) :
    3 ≤ (c.rows i x).state.phase ∧ (c.rows i x).state ≠ .cancelled := by
  have hfresh : ¬x.Fresh i := fun hf => hch hf.2.1
  rw [rows_state]
  cases c with
  | cancel =>
    have ha : x.state.appliable = true := hr
    cases hs : x.state <;> simp [hs,RunState.appliable,RunState.phase] at ha hp
  | awaitConfirmation seen =>
    rcases ht seen rfl with h | h
    · omega
    · exact absurd h hp.2
  | consumeConfirmation seen =>
    obtain ⟨⟨d,hd,hu,_⟩,_⟩ := hr
    have hc : x.consumed = false := by simp [Rows.consumed,hd,Confirmation.consumed,hu]
    exact absurd (hI.untouched hc).2.2 hch
  | failCorrelation seen => exact absurd hl hfresh
  | failArming => exact absurd hl hfresh
  | failGuardArming seen => exact absurd hl hfresh
  | finish seen effect state result reason =>
    obtain ⟨ch,_,_,_,_,hend⟩ := hl
    cases hend
    · exact (show 3 ≤ RunState.phase .failed ∧ RunState.failed ≠ .cancelled by decide)
    · exact (show 3 ≤ RunState.phase .succeeded ∧ RunState.succeeded ≠ .cancelled by decide)
    · exact (show 3 ≤ RunState.phase .rolledBack ∧ RunState.rolledBack ≠ .cancelled by decide)
    · exact (show 3 ≤ RunState.phase .recoveryRequired ∧ RunState.recoveryRequired ≠ .cancelled by decide)
  | cross seen correlation => exact (show 3 ≤ RunState.phase .applying ∧ RunState.applying ≠ .cancelled by decide)
  | startVerification => exact (show 3 ≤ RunState.phase .verifying ∧ RunState.verifying ≠ .cancelled by decide)
  | hold seen => exact (show 3 ≤ RunState.phase .guarded ∧ RunState.guarded ≠ .cancelled by decide)
  | startRollback seen => exact (show 3 ≤ RunState.phase .rollingBack ∧ RunState.rollingBack ≠ .cancelled by decide)
  | startLapse seen => exact (show 3 ≤ RunState.phase .rollingBack ∧ RunState.rollingBack ≠ .cancelled by decide)
  | startRollbackVerification seen => exact (show 3 ≤ RunState.phase .rollbackVerifying ∧ RunState.rollbackVerifying ≠ .cancelled by decide)
  | _ => exact hp

/-- Only a cancellation cancels. -/
theorem cancelled_before (hx : x.run.check = true) (hx' : (c.rows i x).run.check = true) (h : (c.rows i x).state = .cancelled) :
    x.state = .cancelled ∨ c = .cancel := by
  have hmark : (c.rows i x).run.cancelled = true := (RunColumns.cancelled_iff hx').mpr h
  rw [rows_cancelled,Bool.or_eq_true,decide_eq_true_eq] at hmark
  exact hmark.imp_left (RunColumns.cancelled_iff hx).mp

end Commit

theorem apart_kept : Kept (stepwise CancelledFree) Rows.Apart where
  pristine {f} h := by
    obtain ⟨hrun,_,_,_,_,_,hch,_⟩ := h
    have hnone : f.rows.change = none := congrArg (Option.map _) hch
    exact ⟨fun h => absurd hnone h,fun _ => rfl⟩
  heard _ hx := ⟨hx.past,hx.unlocked⟩
  acquire {f} ha hx := by
    refine ⟨hx.past,fun hc => ?_⟩
    have hstate : f.state = .cancelled := hc
    rw [hstate] at ha
    cases ha
  commit := by
    intro i w r c out f hI hl hR hf hrows hreq hK
    have hlic := hl.2.2.1
    have hx := (w.files r).rows_checked.run
    have hx' := f.rows_checked.run
    rw [hrows] at hx' ⊢
    refine ⟨fun hch => ?_,fun hcancelled => ?_⟩
    · by_cases hnone : (w.files r).rows.change = none
      · rw [Commit.apart_of_new hnone hch]
        exact ⟨by decide,by decide⟩
      · exact Commit.apart_of_past (hI.coherent r) hlic hreq hnone (hK.past hnone) fun seen h => by subst h; exact hR
    · have hnone : w.locks.forRun r = none := by
        rcases Commit.cancelled_before hx hx' hcancelled with hbefore | rfl
        · exact hK.unlocked hbefore
        · exact Option.not_isSome_iff_eq_none.mp (Bool.eq_false_iff.mp hR)
      rw [hnone]
      split <;> rfl

theorem booked_attested : Attested Rows.Booked where
  pristine {f} hf _ call hc := by
    obtain ⟨_,_,_,_,_,_,_,_,_,hjournal⟩ := hf
    have hrows : f.rows.journal = [] := hjournal
    rw [hrows] at hc
    cases hc
  hear hx hnew hnone call hc j p a o l heq := by
    subst heq
    rcases List.mem_append.mp hc with hc | hc
    · cases hnew _ hc
    · exact hx hnone _ hc j p a o l rfl
  mutate {i x m} _ _ hI hm _ hnone := by
    obtain ⟨_,hm⟩ := hm
    have hnone : x.change = none := hnone
    cases hp : m.purpose with
    | apply =>
      rw [hp] at hm
      obtain ⟨ch,hw,_⟩ := hm
      exact absurd (hnone.symm.trans hw.2.1) (by simp)
    | rollback =>
      rw [hp] at hm
      obtain ⟨ch,hw,_⟩ := hm
      exact absurd (hnone.symm.trans hw.2.1) (by simp)
    | recovery =>
      rw [hp] at hm
      obtain ⟨_,a,ha,_⟩ := hm
      have hrecovery := hI.attempts (List.ne_nil_of_mem ha)
      simp [Rows.recoveryRequired,hnone] at hrecovery
  commit {i alone locked x c} _ _ _ hx hnone call hc := by
    have hjournal : (c.rows i x).journal = x.journal := Commit.rows_frame.2.2.2.1
    exact hx (Commit.change_kept hnone) call (hjournal ▸ hc)

/-- A cancelled row claims nothing about the host. -/
theorem RunColumns.effect_of_cancelled {c : RunColumns} (h : c.check = true) (hc : c.state = .cancelled) : c.hostEffect = .none := by
  simp only [RunColumns.check,Bool.and_eq_true,Bool.or_eq_true,decide_eq_true_eq] at h
  exact h.1.1.1.1.1.2.resolve_right (by rw [hc]; decide)

/-- In every run in which no cancellation meets a lock row and no wait for confirmation is late, whatever else is interleaved
and wherever it crashes, a cancelled Run has touched nothing and holds nothing. -/
theorem cancelled_untouched {c : engine.Config} (hc : Reach (stepwise CancelledFree) c) (r : RunId) :
    ((World.files c.world r).rows.run.cancelled = true ↔ (World.files c.world r).state = .cancelled) ∧
      ((World.files c.world r).state = .cancelled → World.Untouched c.world r) := by
  have hcheck := (World.files c.world r).rows_checked.run
  refine ⟨RunColumns.cancelled_iff hcheck,fun hstate => ?_⟩
  have hapart := apart_kept.preserved.reach protocol_sound rfl hc r
  have hbooked := booked_attested.preserved.reach protocol_sound rfl hc.free r
  have hnone : (World.files c.world r).rows.change = none := by
    by_contra hsome
    exact (hapart.past hsome).2 hstate
  exact ⟨hnone,RunColumns.effect_of_cancelled hcheck hstate,hbooked hnone,hapart.unlocked hstate⟩

/-- A confirmed Run is cancelled while nothing runs. -/
def calledOff : List engine.Move := confirmed ++ [.enter (.cancel 0)] ++ advance 2 1

theorem calledOff_untouched : ∃ c : engine.Config, (World.files c.world 0).state = .cancelled ∧ World.Untouched c.world 0 := by
  obtain ⟨c,hc,hp⟩ := exists_of_playUnder (stepwise CancelledFree) mtuWorld_initial calledOff (fun c =>
    decide ((World.files c.world 0).state = .cancelled)) (by decide +kernel)
  have hstate := of_decide_eq_true hp
  exact ⟨c,hstate,(cancelled_untouched hc 0).2 hstate⟩

/-- An apply takes the lock and the process crashes; the service starts again, and the Run is cancelled. -/
def calledOffLocked : List engine.Move :=
  confirmed ++ [.enter (.apply 0)] ++ advance 2 2 ++ [.crash,.enter .startup] ++ advance 3 4 ++ [.enter (.cancel 0)] ++ advance 4 1

theorem cancelled_holds_lock : ¬∀ c : engine.Config, Reach .free c →
    ∀ r, (World.files c.world r).state = .cancelled → World.Untouched c.world r := by
  intro h
  obtain ⟨c,hc,hp⟩ := exists_of_play mtuWorld_initial calledOffLocked (fun c =>
    decide ((World.files c.world 0).state = .cancelled) && World.isLocked c.world 0) (by decide +kernel)
  simp only [Bool.and_eq_true,decide_eq_true_eq] at hp
  have hlocked := hp.2
  unfold World.isLocked at hlocked
  rw [(h c hc 0 hp.1).unlocked] at hlocked
  cases hlocked

end LocalPlane
