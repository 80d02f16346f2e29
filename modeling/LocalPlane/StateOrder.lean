import LocalPlane.Transitions
import LocalPlane.Scenarios

/-!
# The order of a Run's states

The states a Run goes through are ordered, and the endings come last. Two of the commits
that write a state write one their request read about earlier; in every run where neither
of them is late, no state is ever left for an earlier one and no ending is ever left.
-/

set_option linter.dupNamespace false

namespace LocalPlane

open Interleaved

/-- An ending stays, and nothing else moves back. -/
def RunState.Advances (s s' : RunState) : Prop := (s.terminal → s' = s) ∧ s.phase ≤ s'.phase

namespace RunState.Advances

theorem refl (s : RunState) : s.Advances s := ⟨fun _ => rfl,le_rfl⟩

theorem trans {s s' s'' : RunState} (h : s.Advances s') (h' : s'.Advances s'') : s.Advances s'' := by
  refine ⟨fun ht => ?_,h.2.trans h'.2⟩
  have hs := h.1 ht
  rw [h'.1 (by rw [hs]; exact ht),hs]

end RunState.Advances

/-- A wait for confirmation is written before arming, or to a cancelled row that refuses it; a
lapse begins where its guard was held or another lapse began. -/
def OnTime (w : World) : Op → Prop
  | .commit r (.awaitConfirmation _) => (w.files r).state.phase ≤ 1 ∨ (w.files r).state = .cancelled
  | .commit r (.startLapse _) => (w.files r).state = .guarded ∨ (w.files r).state = .rollingBack
  | _ => True

instance (w : World) (op : Op) : Decidable (OnTime w op) := by
  unfold OnTime
  split <;> infer_instance

/-- Where a Run stands, by what its Change records. -/
structure Rows.Staged (x : Rows) : Prop where
  before : x.change = none → x.state.phase ≤ 2 ∨ x.state.terminal
  under : ∀ ch, x.change = some ch → ch.result = .inFlight → 3 ≤ x.state.phase ∧ x.state.phase ≤ 7
  writing : ∀ ch, x.change = some ch → ch.result = .inFlight → x.held = false → ch.rollbackRequired = false →
    x.state.phase ≤ 4

namespace Commit

variable {i : RequestId} {alone : Prop} {locked : Bool} {x : Rows} {c : Commit}

/-- Whether a commit that is licensed there comes on time. -/
def Timely (x : Rows) : Commit → Prop
  | .awaitConfirmation _ => x.state.phase ≤ 1 ∨ x.state = .cancelled
  | .startLapse _ => x.state = .guarded ∨ x.state = .rollingBack
  | _ => True

theorem Timely.not_ended (h : c.Timely x) : (∀ seen, c = .awaitConfirmation seen → x.ended = false) ∧
    ∀ seen, c = .startLapse seen → x.ended = false := by
  refine ⟨fun seen hc => ?_,fun seen hc => ?_⟩
  · subst hc
    rcases h with h | h
    · cases hs : x.state <;> simp [hs,RunState.phase,Rows.ended,RunState.terminal] at h ⊢
    · simp [Rows.ended,h]
  · subst hc
    rcases h with h | h <;> simp [Rows.ended,h,RunState.terminal]

/-- The phase a licensed and timely commit finds is not after the one it writes. -/
theorem phase_le (hI : x.Coherent) (hx : x.Staged) (hl : c.Licence i alone x) (hr : c.Requires locked x)
    (ht : c.Timely x) (hn : x.state.terminal = false) : x.state.phase ≤ (c.rows i x).state.phase := by
  have hlast : ∀ {s : RunState}, s.phase = 8 → x.state.phase ≤ s.phase := fun h => h ▸ LocalPlane.phase_le x.state
  have hbefore : x.change = none → x.state.phase ≤ 2 := fun h =>
    (hx.before h).resolve_right (by simp [hn])
  rw [rows_state]
  cases c with
  | cancel => exact hlast rfl
  | awaitConfirmation seen =>
    rcases ht with h | h
    · exact h
    · rw [h] at hn; cases hn
  | consumeConfirmation seen =>
    obtain ⟨⟨d,hd,hu,_⟩,_⟩ := hr
    have hc : x.consumed = false := by simp [Rows.consumed,hd,Confirmation.consumed,hu]
    simp only [enters]
    split
    · exact hbefore (hI.untouched hc).2.2
    · exact le_rfl
  | failCorrelation seen => exact hlast rfl
  | failArming => exact hlast rfl
  | failGuardArming seen => exact hlast rfl
  | cross seen correlation =>
    have hp := hbefore hl.1.2.1
    show x.state.phase ≤ 3
    omega
  | startVerification =>
    obtain ⟨ch,hw,_,_,hreq⟩ := hl
    exact hx.writing ch hw.2.1 hw.2.2 hw.1.2 hreq
  | hold seen =>
    obtain ⟨ch,g,hw,_,_,_,hreq,_⟩ := hl
    have hp := hx.writing ch hw.2.1 hw.2.2 hw.1.2 hreq
    show x.state.phase ≤ 5
    omega
  | startRollback seen =>
    obtain ⟨ch,hw,_,hreq,_⟩ := hl
    have hp := hx.writing ch hw.2.1 hw.2.2 hw.1.2 hreq
    show x.state.phase ≤ 6
    omega
  | startLapse seen => rcases ht with h | h <;> simp [h,enters,RunState.phase]
  | startRollbackVerification seen =>
    rcases hl with ⟨ch,hw,_⟩ | ⟨_,_,⟨ch,hch,hin⟩,_⟩
    · exact (hx.under ch hw.2.1 hw.2.2).2
    · exact (hx.under ch hch hin).2
  | finish seen effect state result reason =>
    obtain ⟨ch,_,_,_,_,hend⟩ := hl
    cases hend <;> exact hlast rfl
  | _ => exact le_rfl

/-- Every licensed and timely commit only advances the Run's state. -/
theorem advances (hI : x.Coherent) (hx : x.Staged) (hc : x.run.check = true) (hc' : (c.rows i x).run.check = true)
    (hl : c.Licence i alone x) (hr : c.Requires locked x) (ht : c.Timely x) :
    x.state.Advances (c.rows i x).state := by
  have hend : x.state.terminal → (c.rows i x).state = x.state := fun h =>
    stays_terminal hI hc hc' hl hr h ht.not_ended.1 ht.not_ended.2
  refine ⟨hend,?_⟩
  by_cases h : x.state.terminal = true
  · rw [hend h]
  · exact phase_le hI hx hl hr ht (by simpa using h)

/-- A Run without a Change stays before the boundary, or ends there. -/
theorem staged_before (hI : x.Coherent) (hx : x.Staged) (hl : c.Licence i alone x) (hn : x.state.terminal = false)
    (h : (c.rows i x).change = none) : (c.rows i x).state.phase ≤ 2 ∨ (c.rows i x).state.terminal := by
  have hnone : x.change = none := change_kept h
  have hp : x.state.phase ≤ 2 := (hx.before hnone).resolve_right (by simp [hn])
  have hno : ∀ {ch : ChangeColumns}, x.change = some ch → False := fun hc => absurd (hnone.symm.trans hc) (by simp)
  rw [rows_state]
  cases c with
  | cancel => exact .inr rfl
  | failCorrelation seen => exact .inr rfl
  | failArming => exact .inr rfl
  | failGuardArming seen => exact .inr rfl
  | awaitConfirmation seen => exact .inl (show 1 ≤ 2 by decide)
  | consumeConfirmation seen =>
    simp only [enters]
    split
    · exact .inl (show 2 ≤ 2 by decide)
    · exact .inl hp
  | cross seen correlation => cases h
  | startVerification => obtain ⟨ch,hw,_⟩ := hl; exact (hno hw.2.1).elim
  | hold seen => obtain ⟨ch,g,hw,_⟩ := hl; exact (hno hw.2.1).elim
  | startRollback seen => obtain ⟨ch,hw,_⟩ := hl; exact (hno hw.2.1).elim
  | startLapse seen =>
    obtain ⟨ch,g,hch,_⟩ := hI.held hl.1
    exact (hno hch).elim
  | startRollbackVerification seen =>
    rcases hl with ⟨ch,hw,_⟩ | ⟨_,_,⟨ch,hch,_⟩,_⟩
    · exact (hno hw.2.1).elim
    · exact (hno hch).elim
  | finish seen effect state result reason => obtain ⟨ch,hch,_⟩ := hl; exact (hno hch).elim
  | _ => exact .inl hp

/-- A Change in flight keeps its Run short of an ending. -/
theorem under_open (hx : x.Staged) (hl : c.Licence i alone x) (hr : c.Requires locked x) {ch ch' : ChangeColumns} (hch : x.change = some ch)
    (hin : ch.result = .inFlight) (hch' : (c.rows i x).change = some ch') (hin' : ch'.result = .inFlight) :
    (c.rows i x).state.phase ≤ 7 := by
  obtain ⟨hlow,hhigh⟩ := hx.under ch hch hin
  have hfresh : ¬x.Fresh i := fun hf => absurd (hf.2.1.symm.trans hch) (by simp)
  rw [rows_state]
  cases c with
  | cancel =>
    have ha : x.state.appliable = true := hr
    cases hs : x.state <;> simp [hs,RunState.appliable,RunState.phase] at ha hlow
  | failCorrelation seen => exact absurd hl hfresh
  | failArming => exact absurd hl hfresh
  | failGuardArming seen => exact absurd hl hfresh
  | consumeConfirmation seen =>
    simp only [enters]
    split
    · exact show 2 ≤ 7 by decide
    · exact hhigh
  | finish seen effect state result reason =>
    obtain ⟨_,_,_,_,_,hend⟩ := hl
    obtain ⟨_,_,rfl⟩ := Option.map_eq_some_iff.mp hch'
    cases hend <;> cases hin'
  | awaitConfirmation seen => exact show 1 ≤ 7 by decide
  | cross seen correlation => exact show 3 ≤ 7 by decide
  | startVerification => exact show 4 ≤ 7 by decide
  | hold seen => exact show 5 ≤ 7 by decide
  | startRollback seen => exact show 6 ≤ 7 by decide
  | startLapse seen => exact show 6 ≤ 7 by decide
  | startRollbackVerification seen => exact show 7 ≤ 7 by decide
  | _ => exact hhigh

/-- A Change under way with nothing required of it is written or being verified. -/
theorem writing_early (hx : x.Staged) (hl : c.Licence i alone x) (hr : c.Requires locked x) {ch ch' : ChangeColumns}
    (hch : x.change = some ch) (hin : ch.result = .inFlight) (hch' : (c.rows i x).change = some ch')
    (hin' : ch'.result = .inFlight) (hh : (c.rows i x).held = false) (hreq : ch.rollbackRequired = false)
    (hreq' : ch'.rollbackRequired = false) : (c.rows i x).state.phase ≤ 4 := by
  have hheld : x.held = false := eq_false_of_ne_true fun h => absurd (hh.symm.trans (held_kept h)) (by simp)
  have hhigh := hx.writing ch hch hin hheld hreq
  obtain ⟨hlow,_⟩ := hx.under ch hch hin
  have hfresh : ¬x.Fresh i := fun hf => absurd (hf.2.1.symm.trans hch) (by simp)
  rw [rows_state]
  cases c with
  | cancel =>
    have ha : x.state.appliable = true := hr
    cases hs : x.state <;> simp [hs,RunState.appliable,RunState.phase] at ha hlow
  | failCorrelation seen => exact absurd hl hfresh
  | failArming => exact absurd hl hfresh
  | failGuardArming seen => exact absurd hl hfresh
  | consumeConfirmation seen =>
    simp only [enters]
    split
    · exact show 2 ≤ 4 by decide
    · exact hhigh
  | finish seen effect state result reason =>
    obtain ⟨_,_,_,_,_,hend⟩ := hl
    obtain ⟨_,_,rfl⟩ := Option.map_eq_some_iff.mp hch'
    cases hend <;> cases hin'
  | awaitConfirmation seen => exact show 1 ≤ 4 by decide
  | cross seen correlation => exact show 3 ≤ 4 by decide
  | startVerification => exact show 4 ≤ 4 by decide
  | hold seen => cases hh
  | startRollback seen => obtain ⟨_,_,rfl⟩ := Option.map_eq_some_iff.mp hch'; cases hreq'
  | startLapse seen => exact absurd (hheld.symm.trans hl.1) (by simp)
  | startRollbackVerification seen =>
    rcases hl with ⟨ch₀,hw,hreq₀,_⟩ | ⟨hheld',_⟩
    · cases hw.2.1.symm.trans hch
      exact absurd (hreq.symm.trans hreq₀) (by simp)
    · exact absurd (hheld.symm.trans hheld') (by simp)
  | _ => exact hhigh

theorem staged (hI : x.Coherent) (hx : x.Staged) (hc : x.run.check = true) (hc' : (c.rows i x).run.check = true)
    (hl : c.Licence i alone x) (hr : c.Requires locked x) (ht : c.Timely x) : (c.rows i x).Staged := by
  have hadv := advances hI hx hc hc' hl hr ht
  have hold : ∀ ch', (c.rows i x).change = some ch' → ch'.result = .inFlight →
      (∃ ch, x.change = some ch ∧ ch.result = .inFlight ∧ (ch.rollbackRequired → ch'.rollbackRequired)) ∨
        ∃ seen correlation, c = .cross seen correlation := by
    intro ch' hch' hin'
    rcases rows_change hch' with ⟨ch,hch,hres,hreq⟩ | h | ⟨seen,effect,state,reason,rfl⟩
    · exact .inl ⟨ch,hch,hres ▸ hin',hreq⟩
    · exact .inr h
    · obtain ⟨_,_,_,_,_,hend⟩ := hl
      rw [hin'] at hend
      cases hend
  refine ⟨fun hnone => ?_,fun ch' hch' hin' => ?_,fun ch' hch' hin' hh hreq' => ?_⟩
  · by_cases hn : x.state.terminal = true
    · exact .inr (by rw [hadv.1 hn]; exact hn)
    · exact staged_before hI hx hl (by simpa using hn) hnone
  · rcases hold ch' hch' hin' with ⟨ch,hch,hin,_⟩ | ⟨seen,correlation,rfl⟩
    · exact ⟨(hx.under ch hch hin).1.trans hadv.2,under_open hx hl hr hch hin hch' hin'⟩
    · exact ⟨show 3 ≤ 3 from le_rfl,show 3 ≤ 7 by decide⟩
  · rcases hold ch' hch' hin' with ⟨ch,hch,hin,hreq⟩ | ⟨seen,correlation,rfl⟩
    · have hnot : ch.rollbackRequired = false := eq_false_of_ne_true fun h => absurd (hreq'.symm.trans (hreq h)) (by simp)
      exact writing_early hx hl hr hch hin hch' hin' hh hnot hreq'
    · exact show 3 ≤ 4 by decide

end Commit

/-- What timeliness asks of an operation, it asks of the commit on its Run's rows. -/
theorem OnTime.timely {w : World} {r : RunId} {c : Commit} (h : OnTime w (.commit r c)) :
    c.Timely (w.files r).rows := by
  cases c <;> exact h

theorem staged_kept : Kept (stepwise OnTime) fun x _ => x.Staged where
  pristine {f} h := by
    obtain ⟨hrun,_,_,_,_,_,hch,_⟩ := h
    have hch' : f.rows.change = none := congrArg (Option.map _) hch
    have hs : f.rows.state = .preview := congrArg RunColumns.state hrun
    have hno : ∀ {ch : ChangeColumns}, f.rows.change = some ch → False := fun hc => absurd (hch'.symm.trans hc) (by simp)
    exact ⟨fun _ => .inl (by rw [hs]; decide),fun ch hc _ => (hno hc).elim,fun ch hc _ _ _ => (hno hc).elim⟩
  heard _ hx := { hx with }
  acquire _ hx := hx
  commit := by
    intro i w r c out f hI hl hR hf hrows hreq hK
    have hc' := f.rows_checked.run
    rw [hrows] at hc' ⊢
    exact Commit.staged (hI.coherent r) hK (w.files r).rows_checked.run hc' hl.2.2.1 hreq (OnTime.timely hR)

theorem advances_guaranteed : protocol.Guaranteed (stepwise OnTime) (fun w => ∀ r, (w.files r).rows.Staged)
    fun w w' => ∀ r, (w.files r).state.Advances (w'.files r).state where
  refl w r := .refl _
  trans h h' r := (h r).trans (h' r)
  step := by
    intro i op (w : World) out hI hl hR hK r
    have hmoved := World.perform_moved i op out w
    show (w.files r).state.Advances ((World.perform i op out w).2.files r).state
    generalize (World.perform i op out w).2 = v at hmoved ⊢
    cases hmoved with
    | heard v hv =>
      obtain ⟨new,hn,_⟩ := hv.rows r
      have hs : (v.files r).state = (w.files r).state := congrArg Rows.state hn
      rw [hs]; exact .refl _
    | acquired a locks hop ha hla => exact .refl _
    | committed a c f hop ha hf =>
      subst hop
      obtain ⟨hreq,hrows⟩ := Commit.run_ok hf
      show (w.files r).rows.state.Advances ((w.setFile a f).files r).rows.state
      rw [World.rows_setFile]
      split
      · next hra =>
        subst hra
        have hc' := f.rows_checked.run
        rw [hrows] at hc' ⊢
        exact Commit.advances (hI.coherent r) (hK r) (w.files r).rows_checked.run hc' hl.2.2.1 hreq (OnTime.timely hR)
      · exact .refl _
    | served hop => exact .refl _
  enter _ he _ r := by rw [(World.enter_same he).1]; exact .refl _
  outer {e w w'} _ _ he _ r := by
    obtain ⟨new,hn,_⟩ := (World.outer_heard he).rows r
    have hs : (w'.files r).state = (w.files r).state := congrArg Rows.state hn
    rw [hs]; exact .refl _
  crash _ _ _ r := .refl _

/-- In every run in which no such write is late, the states of every Run only advance. -/
theorem state_advances {c d : engine.Config} (hc : Reach (stepwise OnTime) c) (hd : Steps (stepwise OnTime) c d) :
    ∀ r, (World.files c.world r).state.Advances (World.files d.world r).state :=
  advances_guaranteed.steps protocol_sound rfl (staged_kept.preserved) hc hd

/-- The guard fires, and a keep that finds nothing to prove settles the lapse to the end. -/
def lapsed : List engine.Move :=
  [.outer (.fire 0 .written true),.enter (.keep 0 unresolved true)] ++ advance 3 13 ++ answer 3 (reading 1500) ++ advance 3 5

theorem lapsed_advances : ∃ c d : engine.Config, (c.world.files 0).state = .guarded ∧
    (d.world.files 0).state = .rolledBack ∧ ∀ r, (World.files c.world r).state.Advances (World.files d.world r).state := by
  obtain ⟨c,d,hc,hd,hp⟩ := exists_of_playUnder_on (stepwise OnTime) guardedWorld_initial guardHeld lapsed (fun c d =>
    (World.files c.world 0).state = .guarded && (World.files d.world 0).state = .rolledBack) (by decide +kernel)
  simp only [Bool.and_eq_true,decide_eq_true_eq] at hp
  exact ⟨c,d,hp.1,hp.2,state_advances hc hd⟩

/-- Two keeps read the fired guard; one settles the lapse to the end. -/
def lapsedBeside : List engine.Move :=
  guardHeld ++ [.outer (.fire 0 .written true),.enter (.keep 0 unresolved true),.enter (.keep 0 unresolved true)] ++
    advance 3 4 ++ advance 4 4 ++ advance 3 9 ++ answer 3 (reading 1500) ++ advance 3 5

/-- The other keep then writes the lapse it read about over the finished Run. -/
theorem late_lapse_reopens : ¬∀ c d : engine.Config, Reach .free c → Steps .free c d →
    ∀ r, (World.files c.world r).state.Advances (World.files d.world r).state := by
  intro h
  obtain ⟨c,d,hc,hd,hp⟩ := exists_of_play_on guardedWorld_initial lapsedBeside (advance 4 2) (fun c d =>
    (World.files c.world 0).state = .rolledBack && (World.files d.world 0).state = .rollingBack) (by decide +kernel)
  simp only [Bool.and_eq_true,decide_eq_true_eq] at hp
  have hadv := h c d hc hd 0
  rw [hp.1,hp.2] at hadv
  cases hadv.1 rfl

end LocalPlane
