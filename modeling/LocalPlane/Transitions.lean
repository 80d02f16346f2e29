import LocalPlane.RowInvariants

/-!
# Where each commit takes a Run

A commit writes the state it was told to write, whatever the row says by then. What it
writes, and which commits can still move a Run that has ended.
-/

set_option linter.dupNamespace false

namespace LocalPlane

/-- The row's two ways of saying that a Run was cancelled agree. -/
theorem RunColumns.cancelled_iff {c : RunColumns} (h : c.check = true) : c.cancelled = true ↔ c.state = .cancelled := by
  simp only [RunColumns.check,Bool.and_eq_true,beq_iff_eq] at h
  rw [← h.1.1.1.1.1.1]
  exact decide_eq_true_iff

namespace Commit

variable {i : RequestId} {alone : Prop} {locked : Bool} {x : Rows} {c : Commit}

/-- The state a commit writes, if it writes one. -/
def enters (x : Rows) : Commit → Option RunState
  | .cancel => some .cancelled
  | .awaitConfirmation _ => some .awaitingConfirmation
  | .consumeConfirmation _ => if x.preview.armsRecovery then some .arming else none
  | .failCorrelation _ | .failArming | .failGuardArming _ => some .failed
  | .cross .. => some .applying
  | .startVerification => some .verifying
  | .hold _ => some .guarded
  | .startRollback _ | .startLapse _ => some .rollingBack
  | .startRollbackVerification _ => some .rollbackVerifying
  | .finish _ _ state _ _ => some state
  | _ => none

theorem reattempt_run (x : Rows) (openedBy : RequestId) (update : AttemptColumns → AttemptColumns) :
    (x.reattempt openedBy update).run = x.run := by
  unfold Rows.reattempt
  split <;> rfl

theorem reattempt_change (x : Rows) (openedBy : RequestId) (update : AttemptColumns → AttemptColumns) :
    (x.reattempt openedBy update).change = x.change := by
  unfold Rows.reattempt
  split <;> rfl

theorem rows_state : (c.rows i x).state = (c.enters x).getD x.state := by
  cases c with
  | consumeConfirmation seen => simp only [rows,Rows.spend,enters,Rows.state]; split <;> rfl
  | writeCheckpoint correlation => simp only [rows]; split <;> rfl
  | spendRecovery correlation =>
    simp only [rows]
    split
    · rfl
    · rw [Rows.state,reattempt_run]; rfl
  | recordEvidence read => exact congrArg RunColumns.state (reattempt_run ..)
  | recordRecovery outcome => exact congrArg RunColumns.state (reattempt_run ..)
  | recordRecoveryVerification read => exact congrArg RunColumns.state (reattempt_run ..)
  | completeRecovery outcome => exact congrArg RunColumns.state (reattempt_run ..)
  | settleRetry outcome => exact congrArg RunColumns.state (reattempt_run ..)
  | refuseRecovery code => exact congrArg RunColumns.state (reattempt_run ..)
  | interruptAttempt openedBy unknown => exact congrArg RunColumns.state (reattempt_run ..)
  | _ => rfl

/-- Only a cancellation marks a Run cancelled, and nothing takes the mark away. -/
theorem rows_cancelled : (c.rows i x).run.cancelled = (x.run.cancelled || c = .cancel) := by
  cases c with
  | consumeConfirmation seen => simp only [rows,Rows.spend]; split <;> simp
  | writeCheckpoint correlation => simp only [rows]; split <;> simp
  | spendRecovery correlation =>
    simp only [rows]
    split
    · simp
    · rw [reattempt_run]; simp
  | recordEvidence read => simp [rows,reattempt_run]
  | recordRecovery outcome => simp [rows,reattempt_run]
  | recordRecoveryVerification read => simp [rows,reattempt_run]
  | completeRecovery outcome => simp [rows,reattempt_run]
  | settleRetry outcome => simp [rows,reattempt_run]
  | refuseRecovery code => simp [rows,reattempt_run]
  | interruptAttempt openedBy unknown => simp [rows,reattempt_run]
  | _ => simp [rows,Rows.enter,Rows.amend,Rows.conclude,Rows.record,Rows.settleWith,Rows.credit]

theorem stays_cancelled (hx : x.run.check = true) (hx' : (c.rows i x).run.check = true) (h : x.state = .cancelled) :
    (c.rows i x).state = .cancelled := by
  have hc : x.run.cancelled = true := (RunColumns.cancelled_iff hx).mpr h
  exact (RunColumns.cancelled_iff hx').mp (by rw [rows_cancelled,hc]; rfl)

/-- An ended Run is moved only by a stale wait for confirmation or a stale lapse. -/
theorem stays_ended (hI : x.Coherent) (hl : c.Licence i alone x) (hr : c.Requires locked x) (he : x.ended)
    (hc : ∀ seen, c ≠ .awaitConfirmation seen) (hs : ∀ seen, c ≠ .startLapse seen) :
    (c.rows i x).state = x.state := by
  have hfresh : ¬x.Fresh i := fun hf => absurd (hf.2.2.symm.trans he) (by simp)
  have hflight : ∀ ch, x.change = some ch → ch.result = .inFlight → False := fun ch hch hin => hI.ended he ch hch hin
  have hterminal : x.state.terminal = true ∧ x.state ≠ .cancelled := by simpa [Rows.ended] using he
  rw [rows_state]
  cases c with
  | cancel => rw [appliable_not_terminal hr] at hterminal; cases hterminal.1
  | awaitConfirmation seen => exact absurd rfl (hc seen)
  | startLapse seen => exact absurd rfl (hs seen)
  | consumeConfirmation seen =>
    obtain ⟨⟨d,hd,hn,_⟩,_⟩ := hr
    have hu : x.consumed = false := by simp [Rows.consumed,hd,Confirmation.consumed,hn]
    rcases hI.early hu with ha | ha
    · rw [appliable_not_terminal ha] at hterminal; cases hterminal.1
    · exact absurd ha hterminal.2
  | failCorrelation seen => exact absurd hl hfresh
  | failArming => exact absurd hl hfresh
  | failGuardArming seen => exact absurd hl hfresh
  | cross seen correlation => exact absurd hl.1 hfresh
  | startVerification => obtain ⟨ch,hw,_⟩ := hl; exact (hflight ch hw.2.1 hw.2.2).elim
  | hold seen => obtain ⟨ch,g,hw,_⟩ := hl; exact (hflight ch hw.2.1 hw.2.2).elim
  | startRollback seen => obtain ⟨ch,hw,_⟩ := hl; exact (hflight ch hw.2.1 hw.2.2).elim
  | startRollbackVerification seen =>
    rcases hl with ⟨ch,hw,_⟩ | ⟨_,_,⟨ch,hch,hin⟩,_⟩
    · exact (hflight ch hw.2.1 hw.2.2).elim
    · exact (hflight ch hch hin).elim
  | finish seen effect state result reason => obtain ⟨ch,hch,hin,_⟩ := hl; exact (hflight ch hch hin).elim
  | _ => rfl

/-- A terminal state is left only by those two, and a cancelled one not even by them. -/
theorem stays_terminal (hI : x.Coherent) (hx : x.run.check = true) (hx' : (c.rows i x).run.check = true)
    (hl : c.Licence i alone x) (hr : c.Requires locked x) (ht : x.state.terminal)
    (hc : ∀ seen, c = .awaitConfirmation seen → x.ended = false) (hs : ∀ seen, c = .startLapse seen → x.ended = false) :
    (c.rows i x).state = x.state := by
  by_cases hcan : x.state = .cancelled
  · rw [hcan]; exact stays_cancelled hx hx' hcan
  · have he : x.ended := by simp [Rows.ended,ht,hcan]
    exact stays_ended hI hl hr he (fun seen h => absurd ((hc seen h).symm.trans he) (by simp))
      fun seen h => absurd ((hs seen h).symm.trans he) (by simp)

/-- Nothing is consumed but by the transaction that consumes. -/
theorem rows_consumed (hl : c.Licence i alone x) (hr : c.Requires locked x) (h : (c.rows i x).consumed) :
    x.consumed ∨ ∃ seen, c = .consumeConfirmation seen := by
  cases hq : c.quiet with
  | true => exact .inl ((rows_quiet hq hr).consumed ▸ h)
  | false =>
    by_cases hc : ∃ seen, c = .consumeConfirmation seen
    · exact .inr hc
    · exact .inl ((rows_kept hq (fun seen h => hc ⟨seen,h⟩) hl hr).consumed ▸ h)

/-- What a commit leaves as the Change comes from the Change it found, but for the boundary; only an
ending writes its result, and nothing takes back that a rollback is required. -/
theorem rows_change {ch' : ChangeColumns} (h : (c.rows i x).change = some ch') :
    (∃ ch, x.change = some ch ∧ ch'.result = ch.result ∧ (ch.rollbackRequired → ch'.rollbackRequired)) ∨ (∃ seen correlation, c = .cross seen correlation) ∨
      ∃ seen effect state reason, c = .finish seen effect state ch'.result reason := by
  have hamend : ∀ {u : ChangeColumns → ChangeColumns}, x.change.map u = some ch' →
      (∀ ch, (u ch).result = ch.result ∧ (ch.rollbackRequired → (u ch).rollbackRequired)) →
      ∃ ch, x.change = some ch ∧ ch'.result = ch.result ∧ (ch.rollbackRequired → ch'.rollbackRequired) := by
    intro u h hu
    obtain ⟨ch,hch,rfl⟩ := Option.map_eq_some_iff.mp h
    exact ⟨ch,hch,hu ch⟩
  cases c with
  | cross seen correlation => exact .inr (.inl ⟨_,_,rfl⟩)
  | finish seen effect state result reason =>
    obtain ⟨ch,_,rfl⟩ := Option.map_eq_some_iff.mp h
    exact .inr (.inr ⟨_,_,_,_,rfl⟩)
  | writeCheckpoint correlation => simp only [rows] at h; split at h <;> exact .inl ⟨ch',h,rfl,id⟩
  | spendRecovery correlation =>
    simp only [rows] at h
    split at h
    · exact .inl ⟨ch',h,rfl,id⟩
    · rw [reattempt_change] at h; exact .inl ⟨ch',h,rfl,id⟩
  | recordEvidence read => rw [rows,reattempt_change] at h; exact .inl ⟨ch',h,rfl,id⟩
  | recordRecovery outcome => rw [rows,reattempt_change] at h; exact .inl ⟨ch',h,rfl,id⟩
  | recordRecoveryVerification read => rw [rows,reattempt_change] at h; exact .inl ⟨ch',h,rfl,id⟩
  | completeRecovery outcome => rw [rows,reattempt_change] at h; exact .inl ⟨ch',h,rfl,id⟩
  | settleRetry outcome => rw [rows,reattempt_change] at h; exact .inl ⟨ch',h,rfl,id⟩
  | refuseRecovery code => rw [rows,reattempt_change] at h; exact .inl ⟨ch',h,rfl,id⟩
  | interruptAttempt openedBy unknown => rw [rows,reattempt_change] at h; exact .inl ⟨ch',h,rfl,id⟩
  | beginDispatch => exact .inl (hamend h fun _ => ⟨rfl,id⟩)
  | settle outcome => exact .inl (hamend h fun _ => ⟨rfl,id⟩)
  | recordVerification read => exact .inl (hamend h fun _ => ⟨rfl,id⟩)
  | startRollback seen => exact .inl (hamend h fun _ => ⟨rfl,fun _ => rfl⟩)
  | beginRollback => exact .inl (hamend h fun _ => ⟨rfl,id⟩)
  | recordRollback outcome => exact .inl (hamend h fun _ => ⟨rfl,id⟩)
  | recordRollbackVerification read => exact .inl (hamend h fun _ => ⟨rfl,id⟩)
  | startLapse seen => exact .inl (hamend h fun _ => ⟨rfl,fun _ => rfl⟩)
  | recordReversal attempt outcome => exact .inl (hamend h fun _ => ⟨rfl,id⟩)
  | interruptDispatch outcome => exact .inl (hamend h fun _ => ⟨rfl,id⟩)
  | _ => exact .inl ⟨ch',h,rfl,id⟩

/-- Nothing ends in recovery but by the ending that says so. -/
theorem rows_recoveryRequired (h : (c.rows i x).recoveryRequired) :
    x.recoveryRequired ∨ ∃ seen effect state reason, c = .finish seen effect state .recoveryRequired reason := by
  obtain ⟨ch',hch',hr⟩ := (Option.any_eq_true ..).mp h
  have hr : ch'.result = .recoveryRequired := by simpa using hr
  rcases rows_change hch' with ⟨ch,hch,he,_⟩ | ⟨_,_,rfl⟩ | hf
  · exact .inl (by simp [Rows.recoveryRequired,hch,← he,hr])
  · cases hch'; cases hr
  · exact .inr (hr ▸ hf)

/-- No commit takes a Change away. -/
theorem change_kept (h : (c.rows i x).change = none) : x.change = none := by
  have hamend : ∀ {u : ChangeColumns → ChangeColumns}, x.change.map u = none → x.change = none :=
    fun h => Option.map_eq_none_iff.mp h
  cases c with
  | cross seen correlation => cases h
  | writeCheckpoint correlation => simp only [rows] at h; split at h <;> exact h
  | spendRecovery correlation =>
    simp only [rows] at h
    split at h
    · exact h
    · rw [reattempt_change] at h; exact h
  | recordEvidence read => rw [rows,reattempt_change] at h; exact h
  | recordRecovery outcome => rw [rows,reattempt_change] at h; exact h
  | recordRecoveryVerification read => rw [rows,reattempt_change] at h; exact h
  | completeRecovery outcome => rw [rows,reattempt_change] at h; exact h
  | settleRetry outcome => rw [rows,reattempt_change] at h; exact h
  | refuseRecovery code => rw [rows,reattempt_change] at h; exact h
  | interruptAttempt openedBy unknown => rw [rows,reattempt_change] at h; exact h
  | beginDispatch => exact hamend h
  | settle outcome => exact hamend h
  | recordVerification read => exact hamend h
  | startRollback seen => exact hamend h
  | beginRollback => exact hamend h
  | recordRollback outcome => exact hamend h
  | recordRollbackVerification read => exact hamend h
  | finish seen effect state result reason => exact hamend h
  | startLapse seen => exact hamend h
  | recordReversal attempt outcome => exact hamend h
  | interruptDispatch outcome => exact hamend h
  | _ => exact h

theorem reattempt_held (x : Rows) (openedBy : RequestId) (update : AttemptColumns → AttemptColumns) :
    (x.reattempt openedBy update).held = x.held := by
  unfold Rows.reattempt
  split <;> rfl

/-- A hold is never taken back. -/
theorem held_kept (h : x.held) : (c.rows i x).held := by
  cases c with
  | hold seen => rfl
  | writeCheckpoint correlation => simp only [rows]; split <;> exact h
  | spendRecovery correlation =>
    simp only [rows]
    split
    · exact h
    · rw [reattempt_held]; exact h
  | recordEvidence read => rw [rows,reattempt_held]; exact h
  | recordRecovery outcome => rw [rows,reattempt_held]; exact h
  | recordRecoveryVerification read => rw [rows,reattempt_held]; exact h
  | completeRecovery outcome => rw [rows,reattempt_held]; exact h
  | settleRetry outcome => rw [rows,reattempt_held]; exact h
  | refuseRecovery code => rw [rows,reattempt_held]; exact h
  | interruptAttempt openedBy unknown => rw [rows,reattempt_held]; exact h
  | _ => exact h

end Commit
end LocalPlane
