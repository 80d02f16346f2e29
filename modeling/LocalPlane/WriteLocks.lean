import LocalPlane.Transitions
import LocalPlane.Scenarios

/-!
# The write lock of a Run under way

A Run whose confirmation is consumed and that has not ended is meant to hold the lock of
its object and aspect. A refused apply releases that lock whoever else is running under
it, and a stale state write can put an ended Run back under way; in every run that takes
neither step, the lock is there.
-/

set_option linter.dupNamespace false

namespace LocalPlane

open Interleaved

/-- Its confirmation is consumed and it has not ended. -/
def Rows.Underway (x : Rows) : Prop := x.consumed = true ∧ x.state.terminal = false

instance (x : Rows) : Decidable x.Underway := inferInstanceAs (Decidable (_ ∧ _))

/-- Every Run under way has its own lock row, and no two of them share an object and aspect. -/
structure World.Exclusive (w : World) : Prop where
  locked : ∀ r, (w.files r).rows.Underway → w.locks.forRun r = some (w.files r).lockKey
  alone : ∀ r r', (w.files r).rows.Underway → (w.files r').rows.Underway →
    (w.files r).lockKey = (w.files r').lockKey → r = r'

/-- A confirmation is consumed while the lock row names the Run, a refused apply does not meet
the Run under way, and no stale write meets it ended. -/
def UnderLock (w : World) : Op → Prop
  | .commit r (.consumeConfirmation _) => w.isLocked r = true
  | .commit r .refuseApply => ¬(w.files r).rows.Underway
  | .commit r (.awaitConfirmation _) | .commit r (.startLapse _) => (w.files r).rows.ended = false
  | _ => True

instance (w : World) (op : Op) : Decidable (UnderLock w op) := by
  cases op with
  | commit r c => cases c <;> (dsimp only [UnderLock]; infer_instance)
  | _ => exact inferInstanceAs (Decidable True)

/-- A Run under way is locked, and a Run that ended in recovery is over. -/
def Rows.Locked (x : Rows) (lock : Option LockKey) : Prop :=
  (x.Underway → lock.isSome) ∧ (x.recoveryRequired → x.state.terminal)

/-- What releases the lock ends the Run, or meets it ended. -/
theorem releases_not_underway {i : RequestId} {alone : Prop} {locked : Bool} {x : Rows} {c : Commit}
    (hl : c.Licence i alone x) (hr : c.Requires locked x) (hc : c = .refuseApply → ¬x.Underway)
    (hu : (c.rows i x).Underway) (ho : x.OpenHold locked → ¬(c.rows i x).Underway) (hx : x.Underway) :
    ¬c.releases = true := by
  intro hrel
  have hstate := hu.2
  rw [Commit.rows_state] at hstate
  cases c with
  | refuseApply => exact hc rfl hx
  | failCorrelation seen => cases hstate
  | failArming => cases hstate
  | failGuardArming seen => cases hstate
  | completeRecovery outcome => exact ho hr hu
  | resolve read statement note => exact ho hr hu
  | finish seen effect state result reason =>
    obtain ⟨ch,_,_,_,_,hend⟩ := hl
    cases hend <;> cases hstate
  | _ => cases hrel

theorem locked_kept : Kept (stepwise UnderLock) Rows.Locked where
  pristine {f} h := by
    obtain ⟨hrun,hconf,_,_,_,_,hch,_⟩ := h
    have hconf' : f.rows.confirmation = none := hconf
    have hch' : f.rows.change = none := congrArg (Option.map _) hch
    exact ⟨fun hu => by simp [Rows.Underway,Rows.consumed,hconf'] at hu,
      fun hr => by simp [Rows.recoveryRequired,hch'] at hr⟩
  heard _ hx := hx
  acquire _ hx := ⟨fun _ => rfl,hx.2⟩
  commit := by
    intro i w r c out f hI hl hR hf hrows hreq hK
    have hlic := hl.2.2.1
    have hx := (w.files r).rows_checked.run
    have hx' := f.rows_checked.run
    rw [hrows] at hx' ⊢
    have hstays : (w.files r).rows.state.terminal →
        (c.rows i (w.files r).rows).state = (w.files r).rows.state := fun ht =>
      Commit.stays_terminal (hI.coherent r) hx hx' hlic hreq ht (fun _ h => by subst h; exact hR)
        fun _ h => by subst h; exact hR
    have hover : (w.files r).rows.recoveryRequired → (c.rows i (w.files r).rows).state.terminal := fun h =>
      hstays (hK.2 h) ▸ hK.2 h
    have hopen : ∀ {locked}, (w.files r).rows.OpenHold locked → ¬(c.rows i (w.files r).rows).Underway := fun h hu =>
      absurd (hu.2.symm.trans (hover h.1)) (by simp)
    refine ⟨fun hu => ?_,fun hr => ?_⟩
    · have hnot : (w.files r).rows.state.terminal = false := by
        refine eq_false_of_ne_true fun ht => ?_
        have hend := hu.2
        rw [hstays ht,ht] at hend
        cases hend
      rcases Commit.rows_consumed hlic hreq hu.1 with hc | ⟨seen,rfl⟩
      · rw [if_neg (releases_not_underway hlic hreq (fun h => by subst h; exact hR) hu hopen ⟨hc,hnot⟩)]
        exact hK.1 ⟨hc,hnot⟩
      · exact hR
    · rcases Commit.rows_recoveryRequired hr with h | ⟨seen,effect,state,reason,rfl⟩
      · exact hover h
      · obtain ⟨ch,_,_,_,_,hend⟩ := hlic
        cases hend
        rfl

/-- In every run whose steps keep to that, whatever else is interleaved and wherever it crashes,
a Run under way has its lock. -/
theorem exclusive_of_underLock {c : engine.Config} (hc : Reach (stepwise UnderLock) c) : World.Exclusive c.world := by
  have hI : World.Inv c.world := (protocol_sound.holds hc.free).1
  have hK := locked_kept.preserved.reach protocol_sound rfl hc
  have hlocked : ∀ r, (c.world.files r).rows.Underway →
      c.world.locks.forRun r = some (c.world.files r).lockKey := by
    intro r hu
    obtain ⟨key,hkey⟩ := Option.isSome_iff_exists.mp ((hK r).1 hu)
    rw [hkey,(hI.locks r key hkey).1]
  refine ⟨hlocked,fun r r' hr hr' hkey => ?_⟩
  exact LockTable.exclusive (hlocked r hr) (hkey ▸ hlocked r' hr')

/-- A Run is confirmed and applied up to its dispatch, with a cancel refused on the way. -/
def appliedToDispatch : List engine.Move :=
  confirmed ++ [.enter (.apply 0)] ++ advance 2 11 ++ [.enter (.cancel 0)] ++ advance 3 1 ++ advance 2 5

theorem exclusive_at_dispatch : ∃ c : engine.Config, (c.world.files 0).rows.Underway ∧
    (c.world.files 0).journal ≠ [] ∧ World.Exclusive c.world := by
  obtain ⟨c,hc,hp⟩ := exists_of_playUnder (stepwise UnderLock) mtuWorld_initial appliedToDispatch (fun c =>
    decide (World.files c.world 0).rows.Underway && (World.files c.world 0).journal ≠ []) (by decide +kernel)
  simp only [Bool.and_eq_true,decide_eq_true_eq] at hp
  exact ⟨c,hp.1,hp.2,exclusive_of_underLock hc⟩

/-- Two applies of one Run: the second passes the acquisition because the Run owns its lock row,
the first consumes the confirmation, and the refusal of the second deletes the row. -/
def duplicateApply : List engine.Move :=
  confirmed ++ [.enter (.apply 0),.enter (.apply 0)] ++ advance 2 6 ++ advance 3 4 ++ advance 2 2 ++ advance 3 2

theorem duplicate_apply_frees_lock : ¬∀ c : engine.Config, Reach .free c → World.Exclusive c.world := by
  intro h
  obtain ⟨c,hc,hp⟩ := exists_of_play mtuWorld_initial duplicateApply (fun c =>
    decide (World.files c.world 0).rows.Underway && (World.locks c.world).forRun 0 = none) (by decide +kernel)
  simp only [Bool.and_eq_true,decide_eq_true_eq] at hp
  have hlocked := (h c hc).locked 0 hp.1
  exact absurd (hp.2.symm.trans hlocked) (by simp)

end LocalPlane
