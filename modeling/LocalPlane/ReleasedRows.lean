import LocalPlane.RowInvariants
import LocalPlane.DispatchRecord

/-!
# How the attempts of a Run move

A commit leaves the attempts of a Run as they were, opens one, or settles the one on its
way. So at most one is ever on its way, and none once the hold is released.
-/

set_option linter.dupNamespace false

namespace LocalPlane

open Interleaved

/-- An ending that gives the object back: succeeded, failed, rolled back, or a released recovery hold. -/
def Rows.freed (x : Rows) : Bool :=
  decide (x.state = .succeeded) || decide (x.state = .failed) || decide (x.state = .rolledBack) || x.released

def AttemptColumns.moving (a : AttemptColumns) : Bool := a.outcome = .inFlight

theorem check_moving {a : AttemptColumns} (h : a.check = true) (hm : a.moving = true) : a.releasesHold = false := by
  have hin : a.outcome = .inFlight := of_decide_eq_true hm
  simp only [AttemptColumns.check,Bool.and_eq_true,beq_iff_eq] at h
  have hhold := h.1.2
  rw [hin] at hhold
  exact hhold

/-- What one commit does to the attempts of a Run. -/
inductive AttemptsMove (l : List AttemptColumns) : List AttemptColumns → Prop
  | same : AttemptsMove l l
  | opened (a : AttemptColumns) (hfree : ∀ b ∈ l, b.releasesHold = false) (hin : a.releasesHold = false ∨
      a.moving = false ∧ ∀ b ∈ l, b.moving = false) (hfit : ((l ++ [a]).filter (·.moving)).length ≤ 1) :
      AttemptsMove l (l ++ [a])
  | settled (openedBy : RequestId) (a b : AttemptColumns) (ha : a ∈ l) (hin : a.moving = true)
      (hby : a.openedBy = openedBy) (hb : b.check = true)
      (hfit : ((l.map fun c => if c.openedBy = openedBy then b else c).filter (·.moving)).length ≤ 1) :
      AttemptsMove l (l.map fun c => if c.openedBy = openedBy then b else c)

/-- At most one attempt is on its way, and none once the hold is released. -/
structure Orderly (l : List AttemptColumns) : Prop where
  single : (l.filter (·.moving)).length ≤ 1
  released : (∃ a ∈ l, a.releasesHold = true) → ∀ a ∈ l, a.moving = false

theorem Orderly.unique {l : List AttemptColumns} (h : Orderly l) {a b : AttemptColumns} (ha : a ∈ l) (hb : b ∈ l)
    (hma : a.moving = true) (hmb : b.moving = true) : a = b := by
  have hlen := h.single
  have hma' : a ∈ l.filter (·.moving) := List.mem_filter.mpr ⟨ha,hma⟩
  have hmb' : b ∈ l.filter (·.moving) := List.mem_filter.mpr ⟨hb,hmb⟩
  generalize l.filter (·.moving) = m at hlen hma' hmb'
  cases m with
  | nil => cases hma'
  | cons c rest =>
    have hrest : rest = [] := List.eq_nil_of_length_eq_zero (by simpa using hlen)
    subst hrest
    exact (List.mem_singleton.mp hma').trans (List.mem_singleton.mp hmb').symm

theorem Orderly.move {l l' : List AttemptColumns} (h : Orderly l) (hm : AttemptsMove l l') : Orderly l' := by
  cases hm with
  | same => exact h
  | opened a hfree hin hfit =>
    refine ⟨hfit,fun hsome c hc => ?_⟩
    obtain ⟨d,hd,hreleases⟩ := hsome
    rcases List.mem_append.mp hd with hd | hd
    · rw [hfree d hd] at hreleases; cases hreleases
    · obtain rfl := List.mem_singleton.mp hd
      obtain hno | ⟨hstill,hall⟩ := hin
      · rw [hno] at hreleases; cases hreleases
      · rcases List.mem_append.mp hc with hc | hc
        · exact hall c hc
        · exact List.mem_singleton.mp hc ▸ hstill
  | settled openedBy a b ha hin hby hb hfit =>
    refine ⟨hfit,fun hsome c hc => ?_⟩
    obtain ⟨d,hd,hreleases⟩ := hsome
    obtain ⟨d₀,hd₀,rfl⟩ := List.mem_map.mp hd
    have hunreleased : ∀ e ∈ l, e.releasesHold = false := by
      intro e he
      by_contra hno
      have hstopped := h.released ⟨e,he,by simpa using hno⟩ a ha
      rw [hin] at hstopped
      cases hstopped
    have hdone : b.moving = false := by
      by_contra hmoving
      have hb' := check_moving hb (by simpa using hmoving)
      split at hreleases
      · rw [hb'] at hreleases; cases hreleases
      · rw [hunreleased d₀ hd₀] at hreleases; cases hreleases
    obtain ⟨c₀,hc₀,rfl⟩ := List.mem_map.mp hc
    split
    · exact hdone
    · next hother =>
      by_contra hmoving
      have heq := h.unique hc₀ ha (by simpa using hmoving) hin
      exact hother (heq ▸ hby)

namespace RunFile

variable {f f' : RunFile} {i : RequestId} {a : AttemptColumns}

theorem fit_rows {l : List Attempt} (h : attemptsFit l = true) : ((l.map (·.1)).filter (·.moving)).length ≤ 1 := by
  simp only [attemptsFit,Bool.and_eq_true,decide_eq_true_eq] at h
  rw [List.filter_map,List.length_map]
  exact h.1

theorem unreleased_of_openHold {locked : Bool} (h : f.rows.OpenHold locked) : ∀ b ∈ f.rows.attempts, b.releasesHold = false := by
  intro b hb
  have hnone := h.2.1
  simp only [Rows.released,List.any_eq_false] at hnone
  simpa using hnone b hb

theorem moves_of_insert (h : f.insertAttempt a = .ok f') (hfree : ∀ b ∈ f.rows.attempts, b.releasesHold = false)
    (hin : a.releasesHold = false ∨ a.moving = false ∧ ∀ b ∈ f.rows.attempts, b.moving = false) :
    AttemptsMove f.rows.attempts f'.rows.attempts := by
  obtain ⟨ha,_,hfit,rfl⟩ := insertAttempt_ok h
  have hrows : ((f.attempts ++ [(⟨a,ha⟩ : Attempt)]).map (·.1)) = f.rows.attempts ++ [a] := List.map_append
  show AttemptsMove _ ((f.attempts ++ [(⟨a,ha⟩ : Attempt)]).map (·.1))
  rw [hrows]
  exact .opened a hfree hin (hrows ▸ fit_rows hfit)

theorem moves_of_update {openedBy : RequestId} {update : AttemptColumns → AttemptColumns}
    (h : f.updateAttempt openedBy update = .ok f') : AttemptsMove f.rows.attempts f'.rows.attempts := by
  rcases updateAttempt_ok h with ⟨_,rfl⟩ | ⟨a,ha,hmem,hby,hin,_,hfit,rfl⟩
  · exact .same
  · have hrows : (f.replaceAttempt openedBy ⟨update a.1,ha⟩).map (·.1) =
        f.rows.attempts.map fun b => if b.openedBy = openedBy then update a.1 else b := by
      simp only [rows,replaceAttempt,List.map_map]
      exact List.map_congr_left fun b _ => by simp only [Function.comp_apply]; split <;> rfl
    show AttemptsMove _ ((f.replaceAttempt openedBy ⟨update a.1,ha⟩).map (·.1))
    rw [hrows]
    exact .settled openedBy a.1 (update a.1) (List.mem_map_of_mem hmem) (decide_eq_true hin) hby ha (hrows ▸ fit_rows hfit)

theorem still_of_openHold {locked : Bool} (h : f.requireOpenHold locked none = .ok ()) :
    ∀ b ∈ f.rows.attempts, b.moving = false := by
  unfold requireOpenHold at h
  repeat' split at h
  all_goals cases h
  next hnone =>
  intro b hb
  obtain ⟨a,ha,rfl⟩ := List.mem_map.mp hb
  by_contra hmoving
  have hin : a.1.outcome = .inFlight := of_decide_eq_true (by simpa [AttemptColumns.moving] using hmoving)
  have hsome : f.inFlight.isSome := List.find?_isSome.mpr ⟨a,ha,by simpa using hin⟩
  obtain ⟨c,hc⟩ := Option.isSome_iff_exists.mp hsome
  simp [hc] at hnone

end RunFile

namespace Commit

variable {f f' : RunFile} {i : RequestId} {locked : Bool}

theorem moves_of_step {openedBy : RequestId} {event : RunEvent} {update : AttemptColumns → AttemptColumns}
    (h : f.recoveryStep i openedBy event update = .ok f') : AttemptsMove f.rows.attempts f'.rows.attempts := by
  obtain ⟨g,hg,h⟩ := RunFile.bind_ok h
  cases h
  have hmoves := RunFile.moves_of_update hg
  exact hmoves

/-- Whatever a commit is, it moves the attempts so. -/
theorem run_moves {c : Commit} (h : c.run i locked f = .ok f') : AttemptsMove f.rows.attempts f'.rows.attempts := by
  have hrows := (Commit.run_ok h).2
  have hsame : (c.rows i f.rows).attempts = f.rows.attempts → AttemptsMove f.rows.attempts f'.rows.attempts := fun he => by
    rw [hrows,he]
    exact .same
  cases c with
  | openAttempt =>
    obtain ⟨_,ho,h⟩ := RunFile.bind_ok (show f.openAttempt i locked = .ok f' from h)
    obtain ⟨g,hg,h⟩ := RunFile.bind_ok h
    cases h
    have hmoves := RunFile.moves_of_insert hg (RunFile.unreleased_of_openHold (RunFile.rows_openHold ho)) (.inl rfl)
    exact hmoves
  | resolve read statement note =>
    obtain ⟨_,ho,h⟩ := RunFile.bind_ok (show f.resolve i locked read statement note = .ok f' from h)
    obtain ⟨g,hg,h⟩ := RunFile.bind_ok h
    cases h
    have hmoves := RunFile.moves_of_insert hg (RunFile.unreleased_of_openHold (RunFile.rows_openHold ho))
      (.inr ⟨rfl,RunFile.still_of_openHold ho⟩)
    exact hmoves
  | completeRecovery outcome =>
    obtain ⟨_,ho,h⟩ := RunFile.bind_ok (show f.completeRecovery i locked outcome = .ok f' from h)
    obtain ⟨g,hg,h⟩ := RunFile.bind_ok h
    cases h
    have hmoves := RunFile.moves_of_update hg
    exact hmoves
  | spendRecovery correlation =>
    obtain ⟨_,ho,h⟩ := RunFile.bind_ok (show f.spendRecovery i locked correlation = .ok f' from h)
    split at h
    · cases h
    · obtain ⟨k,hk,h⟩ := RunFile.bind_ok h
      cases h
      have hmoves := RunFile.moves_of_update hk
      exact hmoves
  | recordEvidence read => exact moves_of_step h
  | recordRecovery outcome => exact moves_of_step h
  | recordRecoveryVerification read => exact moves_of_step h
  | settleRetry outcome => exact moves_of_step h
  | refuseRecovery code => exact moves_of_step h
  | interruptAttempt openedBy unknown => exact moves_of_step h
  | writeCheckpoint correlation => exact hsame (by simp only [Commit.rows]; split <;> rfl)
  | _ => exact hsame rfl

end Commit
end LocalPlane
