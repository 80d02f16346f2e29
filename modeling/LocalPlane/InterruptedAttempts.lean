import LocalPlane.Openers
import LocalPlane.AuthorityAccounts
import LocalPlane.ReleasedRows
import LocalPlane.CrashSettlement

/-!
# Settling the attempts a crash left

A crash may leave a recovery attempt under way, at any of its commits. A restart ends it as
interrupted from what its row says, keeps the hold, and writes nothing the store refuses.
-/

set_option linter.dupNamespace false

namespace LocalPlane

open Interleaved

namespace AttemptColumns

/-- An attempt as a restart ends it, with or without an outcome nobody knows. -/
def interruptedAs (unknown : Bool) (a : AttemptColumns) : AttemptColumns :=
  { a with
    outcome := .interrupted, refusalCode := none, finished := true
    mutation := if unknown then some .writeUnknown else a.mutation
    hostEffect := if unknown then .writeUnknown else a.hostEffect }

/-- The row a restart leaves of an attempt under way. -/
def interrupted (a : AttemptColumns) : AttemptColumns := a.interruptedAs (a.mutation.isNone && a.dispatchBegan)

/-- What an interrupted attempt has to say: everything its row said, an outcome it recorded or the one a
dispatch without an outcome leaves open, and an ending that releases nothing. -/
structure Interruption (a b : AttemptColumns) : Prop where
  kept : b = { a with
    outcome := .interrupted, refusalCode := none, finished := true
    mutation := b.mutation, hostEffect := b.hostEffect }
  recorded : a.mutation.isSome → b.mutation = a.mutation
  unknown : b.mutation = some .writeUnknown ↔ a.mutation = some .writeUnknown ∨ a.mutation = none ∧ a.dispatchBegan = true
  unbegun : a.mutation = none → a.dispatchBegan = false → b.mutation = none
  effect : b.hostEffect = (b.mutation.map hostEffectFor).getD .none
  held : b.releasesHold = false
  stored : b.check = true

variable {a : AttemptColumns}

/-- The effect is what the outcome makes of it, where there is one. -/
theorem effect_of_check {outcome : MutationOutcome} (h : a.check = true) (hm : a.mutation = some outcome) :
    a.hostEffect = hostEffectFor outcome := by
  simp only [check,Bool.and_eq_true] at h
  have heffect := h.1.1.1.2
  rw [hm] at heffect
  clear h hm
  generalize a.hostEffect = effect at heffect ⊢
  revert heffect
  cases outcome <;> cases effect <;> decide

theorem check_interrupted (h : a.check = true) (hin : a.outcome = .inFlight) (heffect : a.mutation = none → a.hostEffect = .none) :
    a.interrupted.check = true := by
  have hends := check_moving h (by simp [moving,hin])
  simp only [check,Bool.and_eq_true] at h ⊢
  obtain ⟨⟨⟨⟨⟨⟨⟨⟨⟨⟨⟨hresolve,hkind⟩,_⟩,hauthority⟩,hbegan⟩,hcorrelation⟩,hmutation⟩,hreading⟩,hwritten⟩,_⟩,_⟩,_⟩ := h
  have hretry : a.kind ≠ .resolve := by
    intro hk
    simp [resolveCheck,hk,hin] at hresolve
  have hattempt : a.dispatchBegan = true → a.mutationAttempt.isSome := by
    intro hb
    rw [hb] at hbegan
    simpa [Option.isNone_iff_eq_none,Option.isSome_iff_ne_none] using hbegan
  refine ⟨⟨⟨⟨⟨⟨⟨⟨⟨⟨⟨?_,hkind⟩,?_⟩,hauthority⟩,hbegan⟩,hcorrelation⟩,?_⟩,?_⟩,?_⟩,?_⟩,?_⟩,?_⟩
  · simp [resolveCheck,interrupted,interruptedAs,hretry]
  · simp [interrupted,interruptedAs]
  · cases hm : a.mutation with
    | none =>
      cases hb : a.dispatchBegan with
      | false => simp [interrupted,interruptedAs,hm,hb]
      | true => simp [interrupted,interruptedAs,hm,hb,hattempt hb]
    | some outcome => simpa [interrupted,interruptedAs,hm] using hmutation
  · cases hm : a.mutation with
    | none =>
      cases hb : a.dispatchBegan with
      | false => simpa [interrupted,interruptedAs,hm,hb] using hreading
      | true => simp [interrupted,interruptedAs,hm,hb]
    | some outcome => simp [interrupted,interruptedAs,hm]
  · cases hm : a.mutation with
    | none =>
      cases hb : a.dispatchBegan with
      | false => simp [interrupted,interruptedAs,hm,hb,heffect hm]
      | true => simp [interrupted,interruptedAs,hm,hb]
    | some outcome => simpa [interrupted,interruptedAs,hm] using hwritten
  · simp [outcomeCheck,interrupted,interruptedAs]
  · simp [interrupted,interruptedAs,hends,RecoveryAttemptOutcome.releasesHold]
  · simp [interrupted,interruptedAs]

theorem interruption (h : a.check = true) (hin : a.outcome = .inFlight) (heffect : a.mutation = none → a.hostEffect = .none) :
    a.Interruption a.interrupted where
  kept := rfl
  recorded hm := by
    obtain ⟨outcome,ho⟩ := Option.isSome_iff_exists.mp hm
    simp [interrupted,interruptedAs,ho]
  unknown := by
    cases hm : a.mutation <;> cases hb : a.dispatchBegan <;> simp [interrupted,interruptedAs,hm,hb]
  unbegun hm hb := by simp [interrupted,interruptedAs,hm,hb]
  effect := by
    cases hm : a.mutation with
    | none => cases hb : a.dispatchBegan <;> simp [interrupted,interruptedAs,hm,hb,heffect hm,hostEffectFor]
    | some outcome => simp [interrupted,interruptedAs,hm,effect_of_check h hm]
  held := by
    have hends := check_moving h (by simp [moving,hin])
    exact hends
  stored := check_interrupted h hin heffect

end AttemptColumns

/-- What the attempts of a Run always satisfy: one opener each, one under way at most, an authority spent on
every dispatch, and no effect without an outcome. -/
structure Rows.Attempted (x : Rows) : Prop where
  orderly : Orderly x.attempts
  backed : ∀ a ∈ x.attempts, ∀ s, a.mutationAttempt = some s →
    ∃ g ∈ x.grants, a.authority = some g.grantedBy ∧ g.consumedBy = some s
  effect : ∀ a ∈ x.attempts, a.mutation = none → a.hostEffect = .none

namespace Rows

variable {x : Rows} {i : RequestId} {P : AttemptColumns → Prop}

theorem reattempt_all {openedBy : RequestId} {update : AttemptColumns → AttemptColumns} (h : ∀ a ∈ x.attempts, P a)
    (hu : ∀ a, P a → P (update a)) : ∀ a ∈ (x.reattempt openedBy update).attempts, P a := by
  intro a ha
  unfold Rows.reattempt at ha
  split at ha
  · exact h a ha
  · next found hf =>
    obtain ⟨b,hb,rfl⟩ := List.mem_map.mp ha
    split
    · exact hu found (h found (List.mem_of_find?_eq_some hf))
    · exact h b hb

/-- An effect is written with an outcome or not at all. -/
theorem effect_kept (c : Commit) (h : ∀ a ∈ x.attempts, a.mutation = none → a.hostEffect = .none) :
    ∀ a ∈ (c.rows i x).attempts, a.mutation = none → a.hostEffect = .none := by
  have hadded {b : AttemptColumns} (hb : b.mutation = none → b.hostEffect = .none) :
      ∀ a ∈ x.attempts ++ [b], a.mutation = none → a.hostEffect = .none := by
    intro a ha
    rcases List.mem_append.mp ha with ha | ha
    · exact h a ha
    · exact List.mem_singleton.mp ha ▸ hb
  cases c with
  | openAttempt => exact hadded fun _ => rfl
  | resolve read statement note => exact hadded fun _ => rfl
  | spendRecovery correlation =>
    simp only [Commit.rows]
    split
    · exact h
    · exact reattempt_all h fun _ ha => ha
  | writeCheckpoint correlation => simp only [Commit.rows]; split <;> exact h
  | recordEvidence read => exact reattempt_all h fun _ ha => ha
  | recordRecovery outcome => exact reattempt_all h fun _ _ hm => absurd hm (by simp)
  | recordRecoveryVerification read => exact reattempt_all h fun _ ha => ha
  | completeRecovery outcome => exact reattempt_all h fun _ ha => ha
  | settleRetry outcome => exact reattempt_all h fun _ ha => ha
  | refuseRecovery code => exact reattempt_all h fun _ ha => ha
  | interruptAttempt openedBy unknown =>
    refine reattempt_all h fun a ha hm => ?_
    cases unknown with
    | true => simp at hm
    | false => exact ha hm
  | _ => exact h

end Rows

theorem attempted_kept : Kept .free fun x _ => x.Attempted where
  pristine {f} hf := by
    have hnone : f.rows.attempts = [] := by
      obtain ⟨_,_,_,_,_,_,_,hattempts,_⟩ := hf
      simp [RunFile.rows,hattempts]
    exact {
      orderly := ⟨by simp [hnone],by simp [hnone]⟩
      backed := by simp [hnone]
      effect := by simp [hnone] }
  heard _ h := { h with }
  acquire _ h := h
  commit := by
    intro i w r c out f _ _ _ hf hrows _ hK
    refine ⟨hK.orderly.move (Commit.run_moves hf),?_,hrows ▸ Rows.effect_kept c hK.effect⟩
    rw [hrows]
    intro a ha s hs
    rcases Commit.attempts_from ha with ⟨b,hb,hsame,hauthority⟩ | hnone | ⟨hown,g,hg,hauthority,hconsumed⟩
    · obtain ⟨g,hg,hb',hconsumed⟩ := hK.backed b hb s (hsame.symm.trans hs)
      have hspent : g.consumed = true := by simp [Confirmation.consumed,hconsumed]
      exact ⟨g,Commit.grants_kept hg hspent,hauthority.trans hb',hconsumed⟩
    · rw [hnone] at hs
      cases hs
    · rw [hown] at hs
      cases hs
      exact ⟨g,hg,hauthority,hconsumed⟩

/-- The rows with the attempt under way, if there is one, interrupted. -/
def Rows.interrupt (x : Rows) : Rows := { x with attempts := x.attempts.map fun a => if a.moving then a.interrupted else a }

namespace RunFile

variable {f : RunFile} {i : RequestId} {a : AttemptColumns}

/-- An attempt is found by its opener. -/
theorem found_by_opener (hd : f.rows.openers.Nodup) (ha : a ∈ f.rows.attempts) {b : AttemptColumns}
    (hb : f.rows.attempts.find? (·.openedBy = a.openedBy) = some b) : b = a := by
  have hopener : b.openedBy = a.openedBy := by simpa using List.find?_some hb
  exact List.inj_on_of_nodup_map hd (List.mem_of_find?_eq_some hb) ha hopener

theorem interrupt_rows (hd : f.rows.openers.Nodup) (ho : Orderly f.rows.attempts) (ha : a ∈ f.rows.attempts) (hm : a.moving = true) :
    (Commit.interruptAttempt a.openedBy (a.mutation.isNone && a.dispatchBegan)).rows i f.rows = f.rows.interrupt := by
  simp only [Commit.rows,Rows.reattempt]
  split
  · next hnone =>
    have hmissing := List.find?_eq_none.mp hnone a ha
    simp at hmissing
  · next b hb =>
    obtain rfl := found_by_opener hd ha hb
    refine congrArg (fun l => { f.rows with attempts := l }) (List.map_congr_left fun c hc => ?_)
    by_cases hopener : c.openedBy = b.openedBy
    · obtain rfl : c = b := List.inj_on_of_nodup_map hd hc ha hopener
      rw [if_pos rfl,if_pos hm]
      rfl
    · have hstill : ¬c.moving = true := fun hmoving => hopener (congrArg _ (ho.unique hc ha hmoving hm))
      rw [if_neg hopener,if_neg hstill]

theorem updateAttempt_accepted {openedBy : RequestId} {update : AttemptColumns → AttemptColumns} {b : Attempt}
    (hb : f.attempts.find? (·.1.openedBy = openedBy) = some b) (hin : b.1.outcome = .inFlight)
    (hcheck : (update b.1).check = true) (hauthorised : f.authorised (update b.1) = true)
    (hfit : attemptsFit (f.replaceAttempt openedBy ⟨update b.1,hcheck⟩) = true) :
    f.updateAttempt openedBy update = .ok { f with attempts := f.replaceAttempt openedBy ⟨update b.1,hcheck⟩ } := by
  unfold updateAttempt
  rw [hb]
  refine (dif_pos hcheck).trans (if_pos ?_)
  simp only [Bool.and_eq_true,decide_eq_true_eq]
  exact ⟨⟨hin,hauthorised⟩,hfit⟩

theorem authorised_of_backed {b : AttemptColumns} (hx : f.rows.Attempted) (ha : a ∈ f.rows.attempts)
    (hsame : b.mutationAttempt = a.mutationAttempt ∧ b.authority = a.authority) : f.authorised b = true := by
  unfold authorised
  split
  · rfl
  · next s hs =>
    obtain ⟨g,hg,hby,hconsumed⟩ := hx.backed a ha s (hsame.1 ▸ hs)
    exact List.any_eq_true.mpr ⟨g,hg,by simp [hsame.2,hby,hconsumed]⟩

theorem fit_of_still {l : List Attempt} (h : ∀ c ∈ l, c.1.outcome ≠ .inFlight ∧ c.1.releasesHold = false) :
    attemptsFit l = true := by
  have hflight : l.filter (·.1.outcome = .inFlight) = [] := List.filter_eq_nil_iff.mpr fun c hc => by simpa using (h c hc).1
  have hreleased : l.filter (·.1.releasesHold) = [] := List.filter_eq_nil_iff.mpr fun c hc => by simpa using (h c hc).2
  simp [attemptsFit,hflight,hreleased]

/-- The store takes the row a restart writes. -/
theorem interrupt_run (hd : f.rows.openers.Nodup) (hx : f.rows.Attempted) (ha : a ∈ f.rows.attempts) (hm : a.moving = true)
    (locked : Bool) :
    ∃ f', (Commit.interruptAttempt a.openedBy (a.mutation.isNone && a.dispatchBegan)).run i locked f = .ok f' := by
  have hin : a.outcome = .inFlight := of_decide_eq_true hm
  have hcheck : (AttemptColumns.interruptedAs (a.mutation.isNone && a.dispatchBegan) a).check = true :=
    AttemptColumns.check_interrupted (f.rows_checked.attempts a ha) hin (hx.effect a ha)
  have hheld : a.releasesHold = false := check_moving (f.rows_checked.attempts a ha) hm
  have hstill : ∀ c ∈ f.replaceAttempt a.openedBy ⟨_,hcheck⟩, c.1.outcome ≠ .inFlight ∧ c.1.releasesHold = false := by
    intro c hc
    obtain ⟨b,hb,rfl⟩ := List.mem_map.mp hc
    have hb' : b.1 ∈ f.rows.attempts := List.mem_map_of_mem hb
    split
    · exact ⟨by simp [AttemptColumns.interruptedAs],hheld⟩
    · next hopener =>
      refine ⟨fun hflight => hopener (congrArg _ (hx.orderly.unique hb' ha (decide_eq_true hflight) hm)),?_⟩
      by_contra hreleases
      have hnone := hx.orderly.released ⟨_,hb',by simpa using hreleases⟩ a ha
      rw [hm] at hnone
      cases hnone
  obtain ⟨b,hb⟩ : ∃ b, f.attempts.find? (·.1.openedBy = a.openedBy) = some b := by
    obtain ⟨b,hb,rfl⟩ := List.mem_map.mp ha
    exact Option.isSome_iff_exists.mp (List.find?_isSome.mpr ⟨b,hb,by simp⟩)
  have hrow : f.rows.attempts.find? (·.openedBy = a.openedBy) = some b.1 := by
    rw [show f.rows.attempts = f.attempts.map (·.1) from rfl,List.find?_map]
    exact congrArg (Option.map _) hb
  obtain rfl : b.1 = a := found_by_opener hd ha hrow
  have hupdated := updateAttempt_accepted hb hin hcheck (authorised_of_backed hx ha ⟨rfl,rfl⟩) (fit_of_still hstill)
  obtain ⟨g,hg⟩ : ∃ g, f.updateAttempt b.1.openedBy (AttemptColumns.interruptedAs (b.1.mutation.isNone && b.1.dispatchBegan)) = .ok g :=
    ⟨_,hupdated⟩
  refine ⟨g.note i .recoveryRetryFinished,?_⟩
  show (f.updateAttempt b.1.openedBy (AttemptColumns.interruptedAs _) >>= fun f => .ok (f.note i .recoveryRetryFinished)) = _
  rw [hg]
  rfl

end RunFile

/-- A Run before and after a restart settled its attempts: each is as it was or interrupted truthfully, nothing
else moved, and the lock and the hold are kept. -/
structure Rows.AttemptsSettled (x : Rows) (l : Option LockKey) (x' : Rows) (l' : Option LockKey) : Prop where
  rest : ∃ attempts journal, x' = { x with attempts, journal }
  attempts : List.Forall₂ (fun a b => if a.outcome = .inFlight then a.Interruption b else b = a) x.attempts x'.attempts
  lock : l' = l
  hold : x'.OpenHold l'.isSome ↔ x.OpenHold l.isSome

theorem Rows.settled_interrupt {x x' : Rows} {l : Option LockKey} (hc : x.Checked) (hx : x.Attempted)
    (h : ∃ journal, x' = { x.interrupt with journal }) : x.AttemptsSettled l x' l := by
  obtain ⟨journal,rfl⟩ := h
  have hreleased : x.interrupt.released = x.released := by
    simp only [Rows.released,Rows.interrupt,List.any_map]
    refine congrArg (x.attempts.any ·) (funext fun a => ?_)
    by_cases hm : a.moving = true
    · simp [hm,AttemptColumns.interrupted,AttemptColumns.interruptedAs]
    · simp [hm]
  refine ⟨⟨_,_,rfl⟩,?_,rfl,?_⟩
  · refine List.forall₂_map_right_iff.mpr (List.forall₂_same.mpr fun a ha => ?_)
    by_cases hin : a.outcome = .inFlight
    · have hm : a.moving = true := decide_eq_true hin
      rw [if_pos hin,if_pos hm]
      exact AttemptColumns.interruption (hc.attempts a ha) hin (hx.effect a ha)
    · rw [if_neg hin,if_neg (by simpa [AttemptColumns.moving] using hin)]
  · exact and_congr_right fun _ => and_congr_left fun _ => by
      show x.interrupt.released = false ↔ _
      rw [hreleased]

namespace World

variable {w w₀ v : World} {i : RequestId} {order : Order}

/-- The attempts that are still to be settled are as the crash left them, and the others are settled. -/
structure Interrupting (w₀ : World) (rest : List (RunId × AttemptColumns)) (w : World) : Prop where
  runs : w.runs = w₀.runs
  distinct : (rest.map (·.1)).Nodup
  pending : ∀ entry ∈ rest, entry.1 ∈ w₀.runs ∧ entry.2 ∈ (w₀.files entry.1).rows.attempts ∧
    entry.2.moving = true ∧ Same w₀ w entry.1
  settled : ∀ r ∈ w₀.runs, r ∉ rest.map (·.1) →
    (∃ journal, (w.files r).rows = { (w₀.files r).rows.interrupt with journal }) ∧ w.locks.forRun r = w₀.locks.forRun r

/-- One attempt is settled and the rest wait. -/
theorem Interrupting.step {entry : RunId × AttemptColumns} {rest : List (RunId × AttemptColumns)}
    (hd : ∀ r, (w₀.openers r).Nodup) (hx : ∀ r, (w₀.files r).rows.Attempted) (h : Interrupting w₀ (entry :: rest) w) :
    (Service.settleInterruptedAttempt entry).Always (unattended i) (fun _ _ _ => True)
      (fun e v => e = .ok () ∧ Interrupting w₀ rest v) w := by
  obtain ⟨r,a⟩ := entry
  obtain ⟨hr,ha,hm,⟨journal,hrows⟩,hlock⟩ := h.pending _ List.mem_cons_self
  have hnotin : r ∉ rest.map (·.1) := (List.nodup_cons.mp h.distinct).1
  intro o _
  have hheard : Heard none w (w.happen o.1) := heard_happen o.1
  obtain ⟨new,hnew,_⟩ := hheard.rows r
  have hattempts : ((w.happen o.1).files r).rows.attempts = (w₀.files r).rows.attempts := by rw [hnew,hrows]
  have hsame : (w.happen o.1).files r |>.rows.Attempted := by
    rw [hnew,hrows]
    exact { hx r with }
  have hopeners : ((w.happen o.1).files r).rows.openers.Nodup := by
    rw [Rows.openers,hattempts]
    exact hd r
  obtain ⟨f,hf⟩ : ∃ f, (Commit.interruptAttempt a.openedBy (a.mutation.isNone && a.dispatchBegan)).run i
      ((w.happen o.1).isLocked r) ((w.happen o.1).files r) = .ok f :=
    RunFile.interrupt_run hopeners hsame (hattempts ▸ ha) hm _
  have hcommit : (w.happen o.1).commit i r (.interruptAttempt a.openedBy (a.mutation.isNone && a.dispatchBegan)) =
      (.ok (),(w.happen o.1).setFile r f) := by
    rw [World.commit,if_pos (by rw [hheard.runs,h.runs]; exact hr),hf]
    rfl
  have hinterrupted : ∃ journal, f.rows = { (w₀.files r).rows.interrupt with journal } := by
    rw [(Commit.run_ok hf).2,RunFile.interrupt_rows hopeners hsame.orderly (hattempts ▸ ha) hm,hnew,hrows]
    exact ⟨_,rfl⟩
  show ((w.happen o.1).commit i r _).1 = .ok () ∧ Interrupting w₀ rest ((w.happen o.1).commit i r _).2
  rw [hcommit]
  refine ⟨rfl,?_⟩
  have hother : ∀ r', r' ≠ r → ∃ new, (((w.happen o.1).setFile r f).files r').rows =
      { (w.files r').rows with journal := new ++ (w.files r').rows.journal } := by
    intro r' hne
    obtain ⟨new',hn,_⟩ := hheard.rows r'
    rw [rows_setFile,if_neg hne]
    exact ⟨new',hn⟩
  exact {
    runs := hheard.runs.trans h.runs
    distinct := (List.nodup_cons.mp h.distinct).2
    pending := fun entry he => by
      obtain ⟨hlisted,hmem,hmoving,⟨j,hj⟩,hl⟩ := h.pending entry (List.mem_cons_of_mem _ he)
      have hne : entry.1 ≠ r := fun heq => hnotin (heq ▸ List.mem_map_of_mem he)
      obtain ⟨new',hn⟩ := hother entry.1 hne
      refine ⟨hlisted,hmem,hmoving,⟨new' ++ j,?_⟩,(congrArg (·.forRun entry.1) hheard.locks).trans hl⟩
      rw [hn,hj]
    settled := fun r' hr' hn => by
      have hlocks : ((w.happen o.1).setFile r f).locks.forRun r' = w.locks.forRun r' := congrArg (·.forRun r') hheard.locks
      rw [hlocks]
      by_cases hne : r' = r
      · subst hne
        rw [rows_setFile,if_pos rfl]
        exact ⟨hinterrupted,hlock⟩
      · obtain ⟨⟨j,hj⟩,hl⟩ := h.settled r' hr' (by simpa [hne] using hn)
        obtain ⟨new',hn'⟩ := hother r' hne
        refine ⟨⟨new' ++ j,?_⟩,hl⟩
        rw [hn',hj] }

theorem interrupting_start : Interrupting w (w.unsettledAttempts (order.1 w.runs)) w := by
  have hstart := Starting.of_unsettledAttempts (w := { w with phase := .starting 0 }) (i := 0) (Ψ := fun _ => True)
    (order.2 w.runs) ⟨rfl,fun _ _ => trivial⟩
  exact {
    runs := rfl
    distinct := hstart.once
    pending := fun entry he => by
      obtain ⟨hr,_,ha,hin⟩ := hstart.listed entry he
      exact ⟨hr,ha,decide_eq_true hin,⟨_,rfl⟩,rfl⟩
    settled := fun r hr hn => by
      have hnone := (hstart.done r hr hn).2
      have hstill : ((w.files r).rows.attempts.map fun a => if a.moving then a.interrupted else a) = (w.files r).rows.attempts := by
        refine (List.map_congr_left fun a ha => if_neg fun hm => ?_).trans (List.map_id' _)
        exact hnone a ⟨ha,of_decide_eq_true hm⟩
      refine ⟨⟨(w.files r).rows.journal,?_⟩,rfl⟩
      rw [Rows.interrupt,hstill] }

/-- Whatever happens outside meanwhile, the pass gets through and settles every attempt a crash left under way. -/
def SettlesAttempts (i : RequestId) (order : Order) (w : World) : Prop :=
  (Program.forEach (w.unsettledAttempts (order.1 w.runs)) Service.settleInterruptedAttempt).Always (unattended i)
    (fun _ _ _ => True) (fun e v => e = .ok () ∧ ∀ r ∈ w.runs,
      (w.files r).rows.AttemptsSettled (w.locks.forRun r) (v.files r).rows (v.locks.forRun r)) w

end World

/-- In every world any run may leave behind, at any commit of a retry, the restart settles the attempts under way. -/
theorem attempts_settled {c : engine.Config} (hc : Reach .free c) (i : RequestId) (order : Order) :
    World.SettlesAttempts i order c.world := by
  have hx := attempted_kept.preserved.reach protocol_sound rfl hc
  have hdone : ∀ v, World.Interrupting c.world [] v → ∀ r ∈ World.runs c.world,
      (World.files c.world r).rows.AttemptsSettled ((World.locks c.world).forRun r) (v.files r).rows (v.locks.forRun r) := by
    intro v hv r hr
    obtain ⟨hrows,hlock⟩ := hv.settled r hr (by simp)
    rw [hlock]
    exact Rows.settled_interrupt (World.files c.world r).rows_checked (hx r) hrows
  refine Program.Always.forEach (I := World.Interrupting c.world) (fun v hv => ⟨rfl,hdone v hv⟩) (fun entry rest v hv => ?_) _
    World.interrupting_start
  refine (hv.step (openers_distinct hc) hx).mono fun e u hu => ?_
  rw [hu.1]
  exact hu.2

/-- A verification that reads nothing leaves Run 0 held, and request 3 grants a retry. -/
def retryGranted : List engine.Move :=
  confirmed ++ .enter (.apply 0) :: advance 2 31 ++ .enter (.recoveryConfirm 0 none true) :: advance 3 5

/-- The service crashes between the retry's dispatch marker and what became of the dispatch. -/
def retryCrashed : List engine.Move :=
  retryGranted ++ .enter (.recoveryRetry 0) :: advance 4 6 ++ answer 4 (reading 1500) ++ advance 4 5 ++ [.crash]

theorem attempts_settled_after_crash : ∃ c : engine.Config, ((World.files c.world 0).rows.attempts.any fun a =>
      a.moving && a.dispatchBegan && a.mutation.isNone) = true ∧
    World.SettlesAttempts 5 ⟨id,fun _ => .refl _⟩ c.world := by
  obtain ⟨c,hc,hp⟩ := exists_of_play mtuWorld_initial retryCrashed (fun c => (World.files c.world 0).rows.attempts.any fun a =>
    a.moving && a.dispatchBegan && a.mutation.isNone) (by decide +kernel)
  exact ⟨c,hp,attempts_settled hc 5 _⟩

end LocalPlane
