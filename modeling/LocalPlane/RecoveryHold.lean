import LocalPlane.InterruptedAttempts
import LocalPlane.WriteLocks

/-!
# The hold of a Change that ended in recovery

The lock row stays behind such a Change until one attempt gives it back. A refused apply
deletes the row whatever its Run has come to, and a boundary crossed without the row leaves
nothing to stay; in every run that takes neither step, the hold is there until it is released,
and what the Change ended in is never rewritten.
-/

set_option linter.dupNamespace false

namespace LocalPlane

open Interleaved

/-- Its Change is in flight, or ended in recovery and nobody has released it. -/
def Rows.claims (x : Rows) : Bool :=
  x.change.any fun ch => decide (ch.result = .inFlight) || decide (ch.result = .recoveryRequired) && !x.released

/-- The boundary is crossed under the lock row, and no refused apply meets a Change that needs it. -/
def UnderHold (w : World) : Op → Prop
  | .commit r (.cross ..) => w.isLocked r = true
  | .commit r .refuseApply => (w.files r).rows.claims = false
  | _ => True

def underHold (w : World) : Op → Bool
  | .commit r (.cross ..) => w.isLocked r
  | .commit r .refuseApply => !(w.files r).rows.claims
  | _ => true

theorem underHold_iff (w : World) (op : Op) : underHold w op = true ↔ UnderHold w op := by
  unfold underHold UnderHold
  split <;> simp

instance (w : World) (op : Op) : Decidable (UnderHold w op) := decidable_of_iff _ (underHold_iff w op)

/-- A release rests on a proof: by the first reading, by the reading after a retry's write, or by a person's word. -/
inductive AttemptColumns.Earned (a : AttemptColumns) : Prop
  | proven (h : a.outcome = .proven) (he : a.evidence = .verified) (ho : a.evidenceObservation.isSome = true)
  | verified (h : a.outcome = .verified) (hm : a.mutation = some .written) (hv : a.verification = .verified)
      (ho : a.verificationObservation.isSome = true)
  | resolved (h : a.outcome = .resolved) (hk : a.kind = .resolve) (hs : a.operatorStatement.isSome = true)

/-- What the hold of a Run's Change is, from its rows and its lock. -/
structure World.Hold (w : World) (r : RunId) : Prop where
  stands : (w.files r).rows.recoveryRequired → (w.files r).rows.released = false →
    w.locks.forRun r = some (w.files r).lockKey
  gone : (w.files r).rows.recoveryRequired → w.locks.forRun r = none →
    ((w.files r).rows.attempts.filter (·.releasesHold)).length = 1
  earned : ∀ a ∈ (w.files r).rows.attempts, a.releasesHold = true → a.Earned

theorem AttemptColumns.earned_of_check {a : AttemptColumns} (h : a.check = true) (hr : a.releasesHold = true) : a.Earned := by
  have hhold : a.outcome.releasesHold = true := by
    simp only [check,Bool.and_eq_true,beq_iff_eq] at h
    exact h.1.2.symm.trans hr
  cases ho : a.outcome with
  | proven =>
    simp [check,outcomeCheck,ho] at h
    obtain ⟨⟨⟨_,he,hobserved,_⟩,_⟩,_⟩ := h
    exact .proven ho he hobserved
  | verified =>
    simp [check,outcomeCheck,ho] at h
    obtain ⟨⟨⟨⟨⟨_,hjudged⟩,_⟩,hwritten,hv,hobserved⟩,_⟩,_⟩ := h
    have hsome : a.mutation.isSome = true := hjudged.resolve_left (by rw [hv]; decide)
    refine .verified ho (hwritten.resolve_left fun hnone => ?_) hv hobserved
    rw [hnone] at hsome
    cases hsome
  | resolved =>
    have hkind : a.kind = .resolve := by
      simp [check,ho] at h
      tauto
    simp [check,resolveCheck,ho,hkind] at h
    exact .resolved ho hkind (by tauto)
  | _ => rw [ho] at hhold; cases hhold

/-- A release is not taken back. -/
theorem AttemptsMove.released_kept {l l' : List AttemptColumns} (h : AttemptsMove l l') (ho : Orderly l)
    (hr : ∃ a ∈ l, a.releasesHold = true) : ∃ a ∈ l', a.releasesHold = true := by
  obtain ⟨a,ha,hra⟩ := hr
  cases h with
  | same => exact ⟨a,ha,hra⟩
  | opened b _ _ _ => exact ⟨a,List.mem_append_left _ ha,hra⟩
  | settled openedBy b c hb hin _ _ _ =>
    have hstopped := ho.released ⟨a,ha,hra⟩ b hb
    rw [hin] at hstopped
    cases hstopped

/-- One release at most. -/
def ReleasedOnce (l : List AttemptColumns) : Prop := (l.filter (·.releasesHold)).length ≤ 1

namespace RunFile

variable {f f' : RunFile} {i : RequestId}

theorem releasedOnce_of_fit {l : List Attempt} (h : attemptsFit l = true) : ReleasedOnce (l.map (·.1)) := by
  simp only [attemptsFit,Bool.and_eq_true,decide_eq_true_eq] at h
  rw [ReleasedOnce,List.filter_map,List.length_map]
  exact h.2

theorem releasedOnce_insert {a : AttemptColumns} (h : f.insertAttempt a = .ok f') : ReleasedOnce f'.rows.attempts := by
  obtain ⟨ha,_,hfit,rfl⟩ := insertAttempt_ok h
  exact releasedOnce_of_fit hfit

theorem releasedOnce_update {openedBy : RequestId} {update : AttemptColumns → AttemptColumns}
    (h : f.updateAttempt openedBy update = .ok f') (hf : ReleasedOnce f.rows.attempts) : ReleasedOnce f'.rows.attempts := by
  rcases updateAttempt_ok h with ⟨_,rfl⟩ | ⟨a,ha,_,_,_,_,hfit,rfl⟩
  · exact hf
  · exact releasedOnce_of_fit hfit

theorem releasedOnce_step {openedBy : RequestId} {event : RunEvent} {update : AttemptColumns → AttemptColumns}
    (h : f.recoveryStep i openedBy event update = .ok f') (hf : ReleasedOnce f.rows.attempts) :
    ReleasedOnce f'.rows.attempts := by
  obtain ⟨g,hg,h⟩ := bind_ok h
  cases h
  have honce := releasedOnce_update hg hf
  exact honce

end RunFile

namespace Commit

variable {i : RequestId} {alone : Prop} {locked : Bool} {x : Rows} {c : Commit}

/-- The indexes of the store keep it so, whatever the commit is. -/
theorem run_releasedOnce {f f' : RunFile} (h : c.run i locked f = .ok f') (hf : ReleasedOnce f.rows.attempts) :
    ReleasedOnce f'.rows.attempts := by
  have hsame : (c.rows i f.rows).attempts = f.rows.attempts → ReleasedOnce f'.rows.attempts := fun he => by
    rw [(run_ok h).2,he]
    exact hf
  cases c with
  | openAttempt =>
    obtain ⟨_,_,h⟩ := RunFile.bind_ok (show f.openAttempt i locked = .ok f' from h)
    obtain ⟨g,hg,h⟩ := RunFile.bind_ok h
    cases h
    have honce := RunFile.releasedOnce_insert hg
    exact honce
  | resolve read statement note =>
    obtain ⟨_,_,h⟩ := RunFile.bind_ok (show f.resolve i locked read statement note = .ok f' from h)
    obtain ⟨g,hg,h⟩ := RunFile.bind_ok h
    cases h
    have honce := RunFile.releasedOnce_insert hg
    exact honce
  | completeRecovery outcome =>
    obtain ⟨_,_,h⟩ := RunFile.bind_ok (show f.completeRecovery i locked outcome = .ok f' from h)
    obtain ⟨g,hg,h⟩ := RunFile.bind_ok h
    cases h
    have honce := RunFile.releasedOnce_update hg hf
    exact honce
  | spendRecovery correlation =>
    obtain ⟨_,_,h⟩ := RunFile.bind_ok (show f.spendRecovery i locked correlation = .ok f' from h)
    split at h
    · cases h
    · obtain ⟨k,hk,h⟩ := RunFile.bind_ok h
      cases h
      have honce := RunFile.releasedOnce_update hk hf
      exact honce
  | recordEvidence read => exact RunFile.releasedOnce_step h hf
  | recordRecovery outcome => exact RunFile.releasedOnce_step h hf
  | recordRecoveryVerification read => exact RunFile.releasedOnce_step h hf
  | settleRetry outcome => exact RunFile.releasedOnce_step h hf
  | refuseRecovery code => exact RunFile.releasedOnce_step h hf
  | interruptAttempt openedBy unknown => exact RunFile.releasedOnce_step h hf
  | writeCheckpoint correlation => exact hsame (by simp only [rows]; split <;> rfl)
  | _ => exact hsame rfl

/-- What gives the lock row back leaves nothing that needs it. -/
theorem unclaimed_of_releases (hl : c.Licence i alone x) (hr : c.Requires locked x) (hc : c = .refuseApply → x.claims = false)
    (hrel : c.releases = true) : (c.rows i x).claims = false := by
  have hfresh : x.Fresh i → (x.conclude .failed .none).claims = false := fun h => by
    simp [Rows.claims,Rows.conclude,h.2.1]
  have hopen : x.OpenHold locked → (c.rows i x).change = x.change → (c.rows i x).released = true →
      (c.rows i x).claims = false := by
    rintro ⟨hrecovery,_,_⟩ hchange hreleased
    obtain ⟨ch,hch,hresult⟩ := (Option.any_eq_true ..).mp hrecovery
    have hresult : ch.result = .recoveryRequired := of_decide_eq_true hresult
    rw [Rows.claims,hchange,hch,hreleased]
    simp [hresult]
  cases c with
  | refuseApply => exact hc rfl
  | failCorrelation seen => exact hfresh hl
  | failArming => exact hfresh hl
  | failGuardArming seen => exact hfresh hl
  | completeRecovery outcome =>
    refine hopen hr (reattempt_change ..) ?_
    obtain ⟨a,ha,hopener⟩ := hl
    simp only [rows,Rows.reattempt]
    split
    · next hnone => exact absurd hopener (by simpa using List.find?_eq_none.mp hnone a ha)
    · exact List.any_eq_true.mpr ⟨_,List.mem_map.mpr ⟨a,ha,rfl⟩,by simp [hopener]⟩
  | resolve read statement note => exact hopen hr rfl (by simp [rows,Rows.released])
  | finish seen effect state result reason =>
    obtain ⟨ch,hch,_,_,_,hend⟩ := hl
    have hnone : reason = none := by simpa [releases] using hrel
    cases hend with
    | failed _ => simp [rows,Rows.claims,Rows.amend,Rows.conclude,hch]
    | succeeded _ _ _ => simp [rows,Rows.claims,Rows.amend,Rows.conclude,hch]
    | rolledBack _ _ _ => simp [rows,Rows.claims,Rows.amend,Rows.conclude,hch]
    | recoveryRequired reason _ => cases hnone
  | _ => cases hrel

/-- A Change comes to need the lock row by crossing the boundary, and otherwise needed it before. -/
theorem claims_from {f f' : RunFile} (hf : c.run i locked f = .ok f') (ho : Orderly f.rows.attempts)
    (hl : c.Licence i alone f.rows) (h : f'.rows.claims = true) :
    f.rows.claims = true ∨ ∃ seen correlation, c = .cross seen correlation := by
  have hrows := (run_ok hf).2
  obtain ⟨ch',hch',hneeds⟩ := (Option.any_eq_true ..).mp h
  simp only [Bool.or_eq_true,Bool.and_eq_true,decide_eq_true_eq,Bool.not_eq_true'] at hneeds
  have hflight : ∀ ch, f.rows.change = some ch → ch.result = .inFlight → f.rows.claims = true := fun ch hch hin => by
    simp [Rows.claims,hch,hin]
  rw [hrows] at hch'
  rcases rows_change hch' with ⟨ch,hch,hresult,_⟩ | hcross | ⟨seen,effect,state,reason,rfl⟩
  · left
    rcases hneeds with hin | ⟨hrecovery,hunreleased⟩
    · exact hflight ch hch (hresult.symm.trans hin)
    · have hbefore : f.rows.released = false := by
        by_contra hno
        obtain ⟨a,ha,hra⟩ := List.any_eq_true.mp ((Bool.not_eq_false _).mp hno)
        have hkept := (run_moves hf).released_kept ho ⟨a,ha,hra⟩
        rw [Rows.released,List.any_eq_true.mpr hkept] at hunreleased
        cases hunreleased
      simp [Rows.claims,hch,hresult.symm.trans hrecovery,hbefore]
  · exact .inr hcross
  · obtain ⟨ch,hch,hin,_⟩ := hl
    exact .inl (hflight ch hch hin)

/-- What a Change ended in, what was planned and what was found stay as they were recorded. -/
theorem ended_kept (hl : c.Licence i alone x) (hr : c.Requires locked x) {ch : ChangeColumns} (hch : x.change = some ch)
    (hend : ch.result ≠ .inFlight) : (c.rows i x).change.map (·.core) = some ch.core := by
  cases hq : c.quiet with
  | true => rw [(rows_quiet hq hr).change,hch]; rfl
  | false =>
    by_cases hc : ∃ seen, c = .consumeConfirmation seen
    · obtain ⟨seen,rfl⟩ := hc
      rw [show (Commit.rows i x (.consumeConfirmation seen)).change = x.change from rfl,hch]
      rfl
    · exact (rows_kept hq (fun seen h => hc ⟨seen,h⟩) hl hr).finished ch hch hend

end Commit

/-- One attempt under way and one release at most, and a Change that needs the lock row has it. -/
structure Rows.Secured (x : Rows) (lock : Option LockKey) : Prop where
  orderly : Orderly x.attempts
  once : ReleasedOnce x.attempts
  locked : x.claims = true → lock.isSome

theorem secured_kept : Kept (stepwise UnderHold) Rows.Secured where
  pristine {f} hf := by
    obtain ⟨_,_,_,_,_,_,hch,hattempts,_⟩ := hf
    have hnone : f.rows.attempts = [] := by simp [RunFile.rows,hattempts]
    have hchange : f.rows.change = none := congrArg (Option.map _) hch
    exact ⟨⟨by simp [hnone],by simp [hnone]⟩,by simp [ReleasedOnce,hnone],fun h => by simp [Rows.claims,hchange] at h⟩
  heard _ h := ⟨h.orderly,h.once,h.locked⟩
  acquire _ h := ⟨h.orderly,h.once,fun _ => rfl⟩
  commit := by
    intro i w r c out f _ hl hR hf hrows hreq hK
    have hlic := hl.2.2.1
    refine ⟨hK.orderly.move (Commit.run_moves hf),Commit.run_releasedOnce hf hK.once,fun hclaims => ?_⟩
    have hkept : ¬c.releases = true := fun hrel => by
      have hno := Commit.unclaimed_of_releases hlic hreq (fun h => by subst h; exact hR) hrel
      rw [hrows,hno] at hclaims
      cases hclaims
    rw [if_neg hkept]
    rcases Commit.claims_from hf hK.orderly hlic hclaims with hbefore | ⟨seen,correlation,rfl⟩
    · exact hK.locked hbefore
    · exact hR

/-- A Change that ended stays as it ended, from one world of a run to a later one. -/
def World.Ended (w w' : World) : Prop := ∀ r ch, (w.files r).rows.change = some ch → ch.result ≠ .inFlight →
  (w'.files r).rows.change.map (·.core) = some ch.core

theorem ended_guaranteed : protocol.Guaranteed .free (fun _ => True) World.Ended where
  refl w r ch hch _ := by rw [hch]; rfl
  trans {u v w} h h' r ch hch hend := by
    obtain ⟨ch',hch',hcore⟩ := Option.map_eq_some_iff.mp (h r ch hch hend)
    have hresult : ch'.core.result = ch.core.result := congrArg ChangeColumns.result hcore
    rw [h' r ch' hch' (hresult ▸ hend),hcore]
  step := by
    intro i op (w : World) out hI hl _ _ r ch hch hend
    have hmoved := World.perform_moved i op out w
    show ((World.perform i op out w).2.files r).rows.change.map _ = _
    generalize (World.perform i op out w).2 = v at hmoved
    cases hmoved with
    | heard v hv =>
      obtain ⟨new,hn,_⟩ := hv.rows r
      rw [hn]
      exact congrArg (Option.map _) hch
    | acquired a locks hop ha hla => exact congrArg (Option.map _) hch
    | served hop => exact congrArg (Option.map _) hch
    | committed a c f hop ha hf =>
      subst hop
      obtain ⟨hreq,hrows⟩ := Commit.run_ok hf
      show ((w.setFile a f).files r).rows.change.map _ = _
      rw [World.rows_setFile]
      split
      · next hra =>
        subst hra
        rw [hrows]
        exact Commit.ended_kept hl.2.2.1 hreq hch hend
      · exact congrArg (Option.map _) hch
  enter {q w i w'} _ he _ r ch hch _ := by
    rw [(World.enter_same he).1,hch]
    rfl
  outer {e w w'} _ _ he _ r ch hch _ := by
    obtain ⟨new,hn,_⟩ := (World.outer_heard he).rows r
    rw [hn]
    exact congrArg (Option.map _) hch
  crash _ _ _ r ch hch _ := congrArg (Option.map _) hch

/-- In every run whose boundaries are crossed under the lock row and whose refused applies meet no Change that needs
it, whatever else is interleaved and wherever it crashes, the hold is what its rows say; and in every run what a
Change ended in is kept by whatever comes after. -/
theorem hold_stands {c d : engine.Config} (hc : Reach (stepwise UnderHold) c) (hd : Steps .free c d) (r : RunId) :
    World.Hold c.world r ∧ ∀ ch, (World.files c.world r).rows.change = some ch → ch.result ≠ .inFlight →
      (World.files d.world r).rows.change.map (·.core) = some ch.core := by
  have hI : World.Inv c.world := (protocol_sound.holds hc.free).1
  have hK := secured_kept.preserved.reach protocol_sound rfl hc r
  have hstands (hrecovery : (World.files c.world r).rows.recoveryRequired = true)
      (hunreleased : (World.files c.world r).rows.released = false) :
      (World.locks c.world).forRun r = some (World.files c.world r).lockKey := by
    have hclaims : (World.files c.world r).rows.claims = true := by
      obtain ⟨ch,hch,hresult⟩ := (Option.any_eq_true ..).mp hrecovery
      simpa [Rows.claims,hch,hunreleased] using .inr (of_decide_eq_true hresult)
    obtain ⟨key,hkey⟩ := Option.isSome_iff_exists.mp (hK.locked hclaims)
    rw [hkey,(hI.locks r key hkey).1]
  refine ⟨⟨hstands,fun hrecovery hnone => ?_,fun a ha => ?_⟩,?_⟩
  · have hreleased : (World.files c.world r).rows.released = true := by
      by_contra hno
      have hlocked := hstands hrecovery (Bool.eq_false_iff.mpr hno)
      rw [hnone] at hlocked
      cases hlocked
    obtain ⟨a,ha,hra⟩ := List.any_eq_true.mp hreleased
    have hpos := List.length_pos_of_mem (List.mem_filter.mpr ⟨ha,hra⟩)
    exact Nat.le_antisymm hK.once hpos
  · exact AttemptColumns.earned_of_check ((World.files c.world r).rows_checked.attempts a ha)
  · have htrue : protocol.Preserved .free fun _ => True := ⟨fun _ => trivial,fun _ _ _ _ _ => trivial,
      fun _ _ _ => trivial,fun _ _ _ _ => trivial,fun _ _ _ => trivial⟩
    exact ended_guaranteed.steps protocol_sound rfl htrue hc.free hd r

/-- The retry of a held Run reads what the Change wanted, and gives the object back. -/
def retryProven : List engine.Move := .enter (.recoveryRetry 0) :: advance 4 6 ++ answer 4 (reading 9000) ++ advance 4 2

theorem hold_stands_until_released : ∃ c d : engine.Config, (World.files c.world 0).rows.recoveryRequired = true ∧
    (World.files c.world 0).rows.released = false ∧ (World.files d.world 0).rows.released = true ∧
    World.Hold c.world 0 ∧ World.Hold d.world 0 := by
  obtain ⟨c,d,hc,hd,hp⟩ := exists_of_playUnder_on (stepwise UnderHold) mtuWorld_initial retryGranted retryProven (fun c d =>
    (World.files c.world 0).rows.recoveryRequired && !(World.files c.world 0).rows.released &&
      (World.files d.world 0).rows.released) (by decide +kernel)
  simp only [Bool.and_eq_true,Bool.not_eq_true'] at hp
  exact ⟨c,d,hp.1.1,hp.1.2,hp.2,(hold_stands hc .refl 0).1,(hold_stands (hc.steps hd) .refl 0).1⟩

/-- A second apply passed the acquisition before the first one consumed the confirmation. It is refused after the
first one ended in recovery, and deletes the row. -/
def refusedBesideHold : List engine.Move :=
  confirmed ++ [.enter (.apply 0),.enter (.apply 0)] ++ advance 2 6 ++ advance 3 4 ++ advance 2 25 ++ advance 3 2

theorem refused_apply_frees_hold : ¬∀ c : engine.Config, Reach .free c → ∀ r, World.Hold c.world r := by
  intro h
  obtain ⟨c,hc,hp⟩ := exists_of_play mtuWorld_initial refusedBesideHold (fun c =>
    (World.files c.world 0).rows.recoveryRequired && !(World.files c.world 0).rows.released &&
      decide ((World.locks c.world).forRun 0 = none)) (by decide +kernel)
  simp only [Bool.and_eq_true,Bool.not_eq_true',decide_eq_true_eq] at hp
  have hlocked := (h c hc 0).stands hp.1.1 hp.1.2
  rw [hp.2] at hlocked
  cases hlocked

end LocalPlane
