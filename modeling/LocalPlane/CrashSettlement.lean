import LocalPlane.Settlement
import LocalPlane.Scenarios

/-!
# Settling what a crash left

A restart reads every Change that crossed the boundary and never ended, and ends it from
what it recorded. What it ends a Run in follows from the rows the crash left, and whether
the store accepts that ending does too.
-/

set_option linter.dupNamespace false

namespace LocalPlane

open Interleaved

/-- How a restart ends a Run with this Change. -/
def Rows.verdict (x : Rows) (ch : ChangeColumns) : RunState × ChangeResult × Option RecoveryReason :=
  match outcomeOnRecovery ch.dispatchBegan ch.mutation with
  | .notWritten => (.failed,.failed,none)
  | .written =>
    if ch.verification = .verified ∧ ¬x.preview.isGuarded then (.succeeded,.succeeded,none)
    else (.recoveryRequired,.recoveryRequired,some .applyInterruptedAfterWrite)
  | .writeUnknown => (.recoveryRequired,.recoveryRequired,some .applyWriteUnknown)

/-- The rows a restart leaves of them. -/
def Rows.concluded (x : Rows) (ch : ChangeColumns) : Rows :=
  let outcome := outcomeOnRecovery ch.dispatchBegan ch.mutation
  ((x.record outcome).conclude (x.verdict ch).1 (hostEffectFor outcome)).amend fun c => { c with
    result := (x.verdict ch).2.1, recoveryReason := (x.verdict ch).2.2, finished := true }

/-- The Run was not cancelled, and its state admits to a write nobody recorded the outcome of. -/
def Rows.Settleable (x : Rows) (ch : ChangeColumns) : Prop :=
  x.state ≠ .cancelled ∧ (ch.mutation = none → ch.dispatchBegan → x.state.mayClaimEffect)

namespace Service

/-- What proves an end state was observed. -/
theorem judge_observed (preview : Preview) (expectation : Expectation) (seen : Observed)
    (hv : (judge preview expectation seen).outcome = .verified) : (judge preview expectation seen).observation.isSome := by
  cases seen with
  | unavailable absent => cases absent <;> simp [judge] at hv
  | taken observation capability provider facts =>
    simp only [judge]
    split <;> rfl

variable {i : RequestId} {r : RunId} {reported : GuardReport → Rows → Prop} {s : Rows × Option LockKey} {α β : Type}
  {Q : Except Error α → Rows × Option LockKey → Prop}

theorem alone_run {f : RunRecord → Service α}
    (h : (alone i r reported).Safe (f ⟨r,s.1.object,s.1.supported,s.1.preview,s.1.state⟩) Q s) :
    (alone i r reported).Safe (ask (.run r) >>= f) Q s := ⟨rfl,fun _ ha => ha ▸ h⟩

theorem alone_change {f : ChangeColumns → Service α} {ch : ChangeColumns} (hch : s.1.change = some ch)
    (h : (alone i r reported).Safe (f ch) Q s) : (alone i r reported).Safe (requireChange r >>= f) Q s := by
  refine ⟨rfl,fun a (ha : a = s.1.change) => ?_⟩
  rw [hch] at ha
  subst ha
  exact h

/-- A commit goes through or is refused, as the store judges what it would leave. -/
theorem alone_commit {c : Commit} {f : Unit → Service α} (hc : c.settles)
    (ha : c.Accepted i s.1 → (alone i r reported).Safe (f ()) Q (c.rows i s.1,if c.releases then none else s.2))
    (hn : ¬c.Accepted i s.1 → ∀ e, Q (.error e) s) : (alone i r reported).Safe (commit r c >>= f) Q s := by
  refine ⟨⟨rfl,hc⟩,fun a (hans : a = .ok () ↔ c.Accepted i s.1) => ?_⟩
  cases a with
  | ok _ => exact ha (hans.mp rfl)
  | error e => exact hn (fun h => absurd (hans.mpr h) (by simp)) e

end Service

namespace Rows

variable {i : RequestId} {x : Rows} {ch : ChangeColumns}

/-- A recorded outcome fixes what the Change says about the host. -/
theorem recorded_effect {outcome : MutationOutcome} (hc : ch.check = true) (hm : ch.mutation = some outcome) :
    ch.hostEffect = hostEffectFor outcome := by
  simp only [ChangeColumns.check,hm,Bool.and_eq_true] at hc
  cases outcome <;> cases h : ch.hostEffect <;> simp_all [Truth.and,Truth.or,Truth.is,Truth.isNull,Truth.accepts,hostEffectFor]

/-- An ending the Change's own columns carry is one its row accepts. -/
theorem check_finish {result : ChangeResult} {reason : Option RecoveryReason} (hc : ch.check = true)
    (hback : result = .rolledBack → ch.planned.isField ∧ ch.rollbackVerification = .verified)
    (hfailed : result = .failed → ch.mutation = some .notWritten)
    (hsucceeded : result = .succeeded → ch.mutation = some .written ∧ ch.verification = .verified)
    (hreason : result = .recoveryRequired → reason.isSome) :
    ChangeColumns.check { ch with result, recoveryReason := reason, finished := true } = true := by
  have hnone : result = .failed → ch.hostEffect = .none := fun h => recorded_effect hc (hfailed h)
  simp only [ChangeColumns.check,Bool.and_eq_true] at hc ⊢
  obtain ⟨⟨⟨⟨⟨⟨⟨⟨hshape,hbegan⟩,heffect⟩,_⟩,_⟩,_⟩,_⟩,hread⟩,hreadBack⟩ := hc
  refine ⟨⟨⟨⟨⟨⟨⟨⟨?_,hbegan⟩,heffect⟩,?_⟩,?_⟩,?_⟩,?_⟩,hread⟩,hreadBack⟩
  · unfold ChangeColumns.shapeCheck at hshape ⊢
    cases hp : ch.planned with
    | field name current desired => simpa only [hp] using hshape
    | action verb observed expected =>
      simp only [hp,Bool.and_eq_true,decide_eq_true_eq] at hshape ⊢
      refine ⟨hshape.1,fun hr => ?_⟩
      have hfield := (hback hr).1
      rw [hp] at hfield
      cases hfield
  · by_cases hr : result = .failed
    · simp [hr,hfailed hr,hnone hr,Truth.or,Truth.and,Truth.is,Truth.accepts]
    · simp [hr,Truth.or,Truth.accepts]
  · by_cases hr : result = .succeeded
    · simp [hr,hsucceeded hr,Truth.or,Truth.and,Truth.is,Truth.accepts]
    · simp [hr,Truth.or,Truth.accepts]
  · by_cases hr : result = .rolledBack
    · simp [hr,(hback hr).2,Truth.or,Truth.accepts]
    · simp [hr,Truth.or,Truth.accepts]
  · by_cases hr : result = .recoveryRequired
    · simp [hr,hreason hr,Truth.or,Truth.isNotNull,Truth.accepts]
    · simp [hr,Truth.or,Truth.accepts]

/-- What a restart records for a dispatch nobody recorded the outcome of. -/
theorem check_interrupt (hc : ch.check = true) (hin : ch.result = .inFlight) :
    ChangeColumns.check { ch with
      mutation := some (outcomeOnRecovery ch.dispatchBegan none)
      hostEffect := hostEffectFor (outcomeOnRecovery ch.dispatchBegan none) } = true := by
  simp only [ChangeColumns.check,Bool.and_eq_true] at hc ⊢
  obtain ⟨⟨⟨⟨⟨⟨⟨⟨hshape,hbegan⟩,heffect⟩,_⟩,_⟩,hrolled⟩,hrecovery⟩,hread⟩,hreadBack⟩ := hc
  refine ⟨⟨⟨⟨⟨⟨⟨⟨hshape,?_⟩,?_⟩,?_⟩,?_⟩,hrolled⟩,hrecovery⟩,hread⟩,hreadBack⟩
  all_goals cases hb : ch.dispatchBegan <;>
    simp [outcomeOnRecovery,hostEffectFor,hin,Truth.and,Truth.or,Truth.is,Truth.isNull,Truth.accepts]

theorem cancelled_false (h : x.run.check = true) : x.run.cancelled = false ↔ x.state ≠ .cancelled := by
  rw [← Bool.not_eq_true]
  exact not_congr (RunColumns.cancelled_iff h)

theorem interrupt_accepted (hx : x.Checked) (hch : x.change = some ch) (hin : ch.result = .inFlight)
    (hended : x.ended = false) (hg : x.state ≠ .guarded) :
    (Commit.interruptDispatch (outcomeOnRecovery ch.dispatchBegan none)).Accepted i x ↔
      (ch.dispatchBegan → x.state.mayClaimEffect) := by
  have hrun := hx.run
  have hchange : ∀ ch', (x.record (outcomeOnRecovery ch.dispatchBegan none)).change = some ch' → ch'.check = true := by
    intro ch' hch'
    simp only [Rows.record,Rows.amend,hch,Option.map_some,Option.some.injEq] at hch'
    exact hch' ▸ check_interrupt (hx.change ch hch) hin
  have hcolumns : (x.record (outcomeOnRecovery ch.dispatchBegan none)).run.check = true ↔
      (ch.dispatchBegan → x.state.mayClaimEffect) := by
    simp only [Rows.record]
    simp only [RunColumns.check,Bool.and_eq_true] at hrun ⊢
    unfold Rows.ended Rows.state at hended
    unfold Rows.state at hg ⊢
    cases hb : ch.dispatchBegan <;> cases hs : x.run.state <;>
      simp_all [outcomeOnRecovery,hostEffectFor,RunState.mayClaimEffect,RunState.terminal]
  constructor
  · exact fun h => hcolumns.mp h.2.run
  · refine fun h => ⟨fun _ he => absurd he (by simp),?_⟩
    exact { run := hcolumns.mpr h, guard := hx.guard, change := hchange, attempts := hx.attempts }

theorem verdict_cases (x : Rows) (ch : ChangeColumns) :
    (outcomeOnRecovery ch.dispatchBegan ch.mutation = .notWritten ∧ x.verdict ch = (.failed,.failed,none)) ∨
    (outcomeOnRecovery ch.dispatchBegan ch.mutation = .written ∧ ch.verification = .verified ∧
      x.preview.isGuarded = false ∧ x.verdict ch = (.succeeded,.succeeded,none)) ∨
    (outcomeOnRecovery ch.dispatchBegan ch.mutation ≠ .notWritten ∧
      ∃ reason, x.verdict ch = (.recoveryRequired,.recoveryRequired,some reason)) := by
  unfold Rows.verdict
  cases outcomeOnRecovery ch.dispatchBegan ch.mutation with
  | notWritten => exact .inl ⟨rfl,rfl⟩
  | written =>
    by_cases h : ch.verification = .verified ∧ ¬x.preview.isGuarded
    · exact .inr (.inl ⟨rfl,h.1,by simpa using h.2,if_pos h⟩)
    · exact .inr (.inr ⟨by simp,_,if_neg h⟩)
  | writeUnknown => exact .inr (.inr ⟨by simp,_,rfl⟩)

/-- The ending is accepted unless the Run was cancelled. -/
theorem finish_accepted {seen : RunState} (hx : x.Checked) (hch : x.change = some ch) {y : Rows}
    {ch₀ : ChangeColumns} (hm : ch.mutation = some (outcomeOnRecovery ch₀.dispatchBegan ch₀.mutation))
    (hv : ch.verification = ch₀.verification) :
    (Commit.finish seen ch.hostEffect (y.verdict ch₀).1 (y.verdict ch₀).2.1 (y.verdict ch₀).2.2).Accepted i x ↔
      x.state ≠ .cancelled := by
  have heffect := recorded_effect (hx.change ch hch) hm
  have hrun : (RunColumns.check { x.run with state := (y.verdict ch₀).1, hostEffect := ch.hostEffect, finished := true } = true) ↔
      x.state ≠ .cancelled := by
    rw [← cancelled_false hx.run,heffect]
    rcases verdict_cases y ch₀ with ⟨ho,hw⟩ | ⟨ho,_,_,hw⟩ | ⟨ho,reason,hw⟩ <;> rw [hw]
    · simp [RunColumns.check,ho,hostEffectFor]
    · simp [RunColumns.check,ho,hostEffectFor,RunState.mayClaimEffect]
    · cases hout : outcomeOnRecovery ch₀.dispatchBegan ch₀.mutation <;>
        simp_all [RunColumns.check,hostEffectFor,RunState.mayClaimEffect]
  have hend : ChangeColumns.check { ch with
      result := (y.verdict ch₀).2.1, recoveryReason := (y.verdict ch₀).2.2, finished := true } = true := by
    rcases verdict_cases y ch₀ with ⟨ho,hw⟩ | ⟨ho,hverified,_,hw⟩ | ⟨ho,reason,hw⟩ <;> rw [hw]
    · exact check_finish (hx.change ch hch) (by simp) (fun _ => hm.trans (congrArg some ho)) (by simp) (by simp)
    · exact check_finish (hx.change ch hch) (by simp) (by simp)
        (fun _ => ⟨hm.trans (congrArg some ho),hv.trans hverified⟩) (by simp)
    · exact check_finish (hx.change ch hch) (by simp) (by simp) (by simp) (by simp)
  constructor
  · exact fun h => hrun.mp h.2.run
  · refine fun h => ⟨fun _ he => absurd he (by simp),?_⟩
    refine { run := hrun.mpr h, guard := hx.guard, change := fun ch' hch' => ?_, attempts := hx.attempts }
    simp only [Commit.rows,Rows.conclude,Rows.amend,hch,Option.map_some,Option.some.injEq] at hch'
    exact hch' ▸ hend

end Rows
namespace Service

variable {i : RequestId} {r : RunId} {reported : GuardReport → Rows → Prop} {l : Option LockKey} {x y : Rows}
  {ch ch₀ : ChangeColumns}

/-- The ending is written as the verdict has it, or the store refuses it. -/
theorem alone_finish {run : RunRecord} {Q : Except Error Ended → Rows × Option LockKey → Prop} (hr : run.id = r)
    (hch : y.change = some ch) {v : RunState × ChangeResult × Option RecoveryReason}
    (ha : (Commit.finish run.state ch.hostEffect v.1 v.2.1 v.2.2).Accepted i y → ∀ ended,
      Q (.ok ended) ((Commit.finish run.state ch.hostEffect v.1 v.2.1 v.2.2).rows i y,if v.2.2.isNone then none else l))
    (hn : ¬(Commit.finish run.state ch.hostEffect v.1 v.2.1 v.2.2).Accepted i y → ∀ e, Q (.error e) (y,l)) :
    (alone i r reported).Safe (finish run v.1 v.2.1 v.2.2) Q (y,l) := by
  subst hr
  unfold finish
  refine alone_change hch (alone_commit rfl (fun haccepted => ?_) hn)
  have hended : ((Commit.finish run.state ch.hostEffect v.1 v.2.1 v.2.2).rows i y).change =
      some { ch with result := v.2.1, recoveryReason := v.2.2, finished := true } := by
    simp [Commit.rows,Rows.conclude,Rows.amend,hch]
  exact alone_run (alone_change hended (ha haccepted _))

/-- What a settlement of these rows comes to. -/
def Comes (x : Rows) (ch : ChangeColumns) (l : Option LockKey) (e : Except Error Unit) (t : Rows × Option LockKey) : Prop :=
  x.state = .guarded ∧ e = .ok () ∧ t = (x,l) ∨
  x.state ≠ .guarded ∧ x.Settleable ch ∧ e = .ok () ∧
    t = (x.concluded ch,if (x.verdict ch).2.2.isNone then none else l) ∨
  ¬x.Settleable ch ∧ ∃ err, e = .error err

/-- The same for an ending that admits recovery first. -/
theorem alone_recover {run : RunRecord} {Q : Except Error Ended → Rows × Option LockKey → Prop} (hr : run.id = r)
    (hy : y.Checked) (hch : y.change = some ch) {reason : RecoveryReason}
    (ha : (Commit.finish run.state ch.hostEffect .recoveryRequired .recoveryRequired (some reason)).Accepted i y →
      ∀ ended, Q (.ok ended)
        ((Commit.finish run.state ch.hostEffect .recoveryRequired .recoveryRequired (some reason)).rows i y,l))
    (hn : ¬(Commit.finish run.state ch.hostEffect .recoveryRequired .recoveryRequired (some reason)).Accepted i y →
      ∀ e, Q (.error e) (y,l)) :
    (alone i r reported).Safe (recover run reason) Q (y,l) := by
  have hfinish : (alone i r reported).Safe (finish run .recoveryRequired .recoveryRequired (some reason)) Q (y,l) :=
    alone_finish (v := (.recoveryRequired,.recoveryRequired,some reason)) hr hch ha hn
  unfold recover
  rw [hr]
  refine alone_commit rfl (fun _ => hfinish) fun hno => ?_
  exact absurd ⟨fun _ he => absurd he (by simp),hy⟩ hno

/-- The last step of a settlement, once the outcome is on record. -/
theorem alone_verdict {run : RunRecord} (hr : run.id = r) (hp : run.preview = x.preview) (hy : y.Checked)
    (hch : y.change = some ch) (hm : ch.mutation = some (outcomeOnRecovery ch₀.dispatchBegan ch₀.mutation))
    (hv : ch.verification = ch₀.verification) (hs : y.state = x.state) (hg : x.state ≠ .guarded)
    (hset : ch₀.mutation = none → ch₀.dispatchBegan → x.state.mayClaimEffect)
    (hsame : ∀ state effect update, (y.conclude state effect).amend update =
      ((x.record (outcomeOnRecovery ch₀.dispatchBegan ch₀.mutation)).conclude state effect).amend update) :
    (alone i r reported).Safe (if outcomeOnRecovery ch₀.dispatchBegan ch₀.mutation = .notWritten then
        (finish run .failed .failed none >>= fun _ => pure ())
      else if outcomeOnRecovery ch₀.dispatchBegan ch₀.mutation = .written ∧
          ch.verification = .verified ∧ ¬run.preview.isGuarded then
        (finish run .succeeded .succeeded none >>= fun _ => pure ())
      else
        (recover run (if outcomeOnRecovery ch₀.dispatchBegan ch₀.mutation = .writeUnknown then
          .applyWriteUnknown else .applyInterruptedAfterWrite) >>= fun _ => pure ()) : Service Unit)
      (Comes x ch₀ l) (y,l) := by
  have heffect := Rows.recorded_effect (hy.change ch hch) hm
  have haccepted : ∀ seen, (Commit.finish seen ch.hostEffect (x.verdict ch₀).1 (x.verdict ch₀).2.1
      (x.verdict ch₀).2.2).Accepted i y ↔ y.state ≠ .cancelled := fun _ => Rows.finish_accepted hy hch hm hv
  have hok : ∀ {seen}, (Commit.finish seen ch.hostEffect (x.verdict ch₀).1 (x.verdict ch₀).2.1 (x.verdict ch₀).2.2).Accepted i y →
      Comes x ch₀ l (.ok ()) ((Commit.finish seen ch.hostEffect (x.verdict ch₀).1 (x.verdict ch₀).2.1
        (x.verdict ch₀).2.2).rows i y,if (x.verdict ch₀).2.2.isNone then none else l) := by
    intro seen h
    have hrows : (Commit.finish seen ch.hostEffect (x.verdict ch₀).1 (x.verdict ch₀).2.1 (x.verdict ch₀).2.2).rows i y =
        x.concluded ch₀ := by
      rw [heffect]
      exact hsame ..
    exact .inr (.inl ⟨hg,⟨hs ▸ (haccepted seen).mp h,hset⟩,rfl,by rw [hrows]⟩)
  have hno : ∀ {seen}, ¬(Commit.finish seen ch.hostEffect (x.verdict ch₀).1 (x.verdict ch₀).2.1 (x.verdict ch₀).2.2).Accepted i y →
      ∀ e, Comes x ch₀ l (.error e) (y,l) := fun h e =>
    .inr (.inr ⟨fun hs' => h ((haccepted _).mpr (hs ▸ hs'.1)),e,rfl⟩)
  rw [hp,hv]
  rcases Rows.verdict_cases x ch₀ with ⟨ho,hw⟩ | ⟨ho,hverified,hguard,hw⟩ | ⟨ho,reason,hw⟩
  · rw [hw] at hok hno
    rw [if_pos ho]
    exact View.Safe.bind (alone_finish hr hch (fun h _ => hok h) hno)
  · rw [hw] at hok hno
    rw [if_neg (by simp [ho]),if_pos ⟨ho,hverified,by simp [hguard]⟩]
    exact View.Safe.bind (alone_finish hr hch (fun h _ => hok h) hno)
  · have hnot : ¬(outcomeOnRecovery ch₀.dispatchBegan ch₀.mutation = .written ∧ ch₀.verification = .verified ∧
        ¬x.preview.isGuarded) := fun h => by
      simp [Rows.verdict,h.1,h.2.1,h.2.2] at hw
    have hreason : (if outcomeOnRecovery ch₀.dispatchBegan ch₀.mutation = .writeUnknown then
        RecoveryReason.applyWriteUnknown else .applyInterruptedAfterWrite) = reason := by
      cases hout : outcomeOnRecovery ch₀.dispatchBegan ch₀.mutation with
      | notWritten => exact absurd hout ho
      | written =>
        have hnot' : ¬(ch₀.verification = .verified ∧ ¬x.preview.isGuarded) := fun h => hnot ⟨hout,h⟩
        unfold Rows.verdict at hw
        simp only [hout,if_neg hnot'] at hw
        simpa using hw
      | writeUnknown => simpa [Rows.verdict,hout] using hw
    rw [hw] at hok hno
    rw [if_neg ho,if_neg hnot,hreason]
    exact View.Safe.bind (alone_recover hr hy hch (fun h _ => hok h) hno)

/-- Settling one Change comes to what its rows say. -/
theorem alone_settleInterruptedChange (hx : x.Checked) (hch : x.change = some ch) (hin : ch.result = .inFlight)
    (hended : x.ended = false) :
    (alone i r reported).Safe (settleInterruptedChange (r,ch)) (Comes x ch l) (x,l) := by
  unfold settleInterruptedChange
  refine alone_run ?_
  split
  · next hg => exact .inl ⟨hg,rfl,rfl⟩
  next hg =>
  have hg : x.state ≠ .guarded := hg
  show (alone i r reported).Safe (if _ then _ else _) _ _
  split
  · next hnone =>
    have hm : ch.mutation = none := by simpa using hnone
    have hchecks : (Commit.interruptDispatch (outcomeOnRecovery ch.dispatchBegan ch.mutation)).Accepted i x ↔
        (ch.dispatchBegan → x.state.mayClaimEffect) := by
      rw [hm]
      exact Rows.interrupt_accepted hx hch hin hended hg
    refine alone_commit rfl (fun ha => ?_) fun hn e => .inr (.inr ⟨fun hs => hn (hchecks.mpr (hs.2 hm)),e,rfl⟩)
    have hrecorded : (x.record (outcomeOnRecovery ch.dispatchBegan ch.mutation)).change = some { ch with
        mutation := some (outcomeOnRecovery ch.dispatchBegan ch.mutation)
        hostEffect := hostEffectFor (outcomeOnRecovery ch.dispatchBegan ch.mutation) } := by
      simp [Rows.record,Rows.amend,hch]
    refine alone_run (alone_change hrecorded ?_)
    exact alone_verdict rfl rfl ha.2 hrecorded rfl rfl rfl hg (fun _ => hchecks.mp ha) fun _ _ _ => rfl
  · next hsome =>
    obtain ⟨outcome,hm⟩ : ∃ outcome, ch.mutation = some outcome := Option.ne_none_iff_exists'.mp (by simpa using hsome)
    have hout : ch.mutation = some (outcomeOnRecovery ch.dispatchBegan ch.mutation) := by rw [hm]; rfl
    refine alone_verdict rfl rfl hx hch hout rfl rfl hg (fun h => by rw [hm] at h; cases h) ?_
    · intro state effect update
      have heffect := Rows.recorded_effect (hx.change ch hch) hm
      have hsame : { ch with mutation := some outcome, hostEffect := hostEffectFor outcome } = ch := by
        rw [← hm,← heffect]
      simp only [Rows.record,Rows.amend,Rows.conclude,hch,hm,outcomeOnRecovery_recorded,Option.map_some,hsame]

end Service
/-- The end of one Change, judged against the rows the crash left. -/
structure Truthful (x : Rows) (ch : ChangeColumns) (l : Option LockKey) (x' : Rows) (ch' : ChangeColumns)
    (l' : Option LockKey) : Prop where
  kept : ∀ outcome, ch.mutation = some outcome → ch'.mutation = some outcome
  ended : ch'.result ≠ .inFlight
  failed : x'.state = .failed → ch.mutation = some .notWritten ∨ ch.undispatched
  harmless : x'.state = .failed → ∀ call ∈ x.journal, ∀ outcome, call.applied outcome → outcome = .notWritten
  succeeded : x'.state = .succeeded →
    ch.mutation = some .written ∧ ch.verification = .verified ∧ x.preview.isGuarded = false
  others : x'.state = .failed ∨ x'.state = .succeeded ∨ x'.state = .recoveryRequired ∧ l' = l

/-- What settling does to one Run: nothing where no Change is in flight or the Run waits on its
guard, a truthful end anywhere else. -/
structure Settlement (x : Rows) (l : Option LockKey) (x' : Rows) (l' : Option LockKey) : Prop where
  untouched : (∀ ch, x.change = some ch → ch.result = .inFlight → x.state = .guarded) →
    x' = { x with journal := x'.journal } ∧ l' = l
  settled : ∀ ch, x.change = some ch → ch.result = .inFlight → x.state ≠ .guarded →
    ∃ ch', x'.change = some ch' ∧ Truthful x ch l x' ch' l'

theorem Settlement.journal {x x' : Rows} {l l' : Option LockKey} (h : Settlement x l x' l') (journal : List Call) :
    Settlement x l { x' with journal } l' where
  untouched hn := by
    obtain ⟨hx,hl⟩ := h.untouched hn
    exact ⟨by rw [hx],hl⟩
  settled ch hch hin hg := by
    obtain ⟨ch',hch',ht⟩ := h.settled ch hch hin hg
    exact ⟨ch',hch',{ ht with }⟩

theorem concluded_truthful {x : Rows} {ch : ChangeColumns} (l : Option LockKey) (hx : x.Accounted) (hch : x.change = some ch)
    {x' : Rows} {journal : List Call} (hx' : x' = { x.concluded ch with journal }) :
    ∃ ch', x'.change = some ch' ∧ Truthful x ch l x' ch' (if (x.verdict ch).2.2.isNone then none else l) := by
  subst hx'
  have hstate : Rows.state { x.concluded ch with journal } = (x.verdict ch).1 := rfl
  have hfailed : (x.verdict ch).1 = .failed → ch.mutation = some .notWritten ∨ ch.undispatched := by
    intro hv
    rcases Rows.verdict_cases x ch with ⟨ho,_⟩ | ⟨_,_,_,hw⟩ | ⟨_,_,hw⟩
    · cases hm : ch.mutation with
      | some outcome => rw [hm] at ho; exact .inl (congrArg some ho)
      | none =>
        rw [hm] at ho
        cases hb : ch.dispatchBegan with
        | false => exact .inr (by simp [ChangeColumns.undispatched,hb,hm])
        | true => rw [hb] at ho; cases ho
    · rw [hw] at hv; cases hv
    · rw [hw] at hv; cases hv
  refine ⟨_,congrArg (Option.map _) (congrArg (Option.map _) hch),?_⟩
  exact {
    kept := fun outcome hm => by
      show some (outcomeOnRecovery ch.dispatchBegan ch.mutation) = some outcome
      rw [hm]; rfl
    ended := by
      show (x.verdict ch).2.1 ≠ .inFlight
      rcases Rows.verdict_cases x ch with ⟨_,hw⟩ | ⟨_,_,_,hw⟩ | ⟨_,_,hw⟩ <;> rw [hw] <;> simp
    failed := fun hs => hfailed (hstate ▸ hs)
    harmless := fun hs call hcall outcome ho => by
      rcases hfailed (hstate ▸ hs) with hm | hu
      · exact hx.refused ch hch hm call hcall outcome ho
      · refine absurd ho (hx.silent (fun ch' hch' => ?_) call hcall outcome)
        obtain rfl := Option.some.inj (hch.symm.trans hch')
        exact hu
    succeeded := fun hs => by
      have hv : (x.verdict ch).1 = .succeeded := hstate ▸ hs
      rcases Rows.verdict_cases x ch with ⟨_,hw⟩ | ⟨ho,hverified,hguard,_⟩ | ⟨_,_,hw⟩
      · rw [hw] at hv; cases hv
      · refine ⟨?_,hverified,hguard⟩
        cases hm : ch.mutation with
        | some outcome => rw [hm] at ho; exact congrArg some ho
        | none => rw [hm] at ho; exact absurd ho (outcomeOnRecovery_unrecorded _)
      · rw [hw] at hv; cases hv
    others := by
      rw [hstate]
      rcases Rows.verdict_cases x ch with ⟨_,hw⟩ | ⟨_,_,_,hw⟩ | ⟨_,_,hw⟩ <;> rw [hw] <;> simp }

namespace World

variable {w w₀ v : World} {i : RequestId}

theorem unwritten_trans {ok : Call → Prop} {u v w : World} (h : Unwritten ok u v) (h' : Unwritten ok v w) : Unwritten ok u w := by
  intro r
  obtain ⟨new,hn,hc⟩ := h r
  obtain ⟨new',hn',hc'⟩ := h' r
  refine ⟨new' ++ new,by rw [hn',hn,List.append_assoc],fun call hcall => ?_⟩
  rcases List.mem_append.mp hcall with hm | hm
  · exact hc' call hm
  · exact hc call hm

theorem unwritten_happen (events : List External) : Unwritten (fun _ => True) w (w.happen events) := by
  induction events generalizing w with
  | nil => exact .of_files rfl
  | cons e events ih =>
    have hone : Unwritten (fun _ => True) w ((outer e w).getD w) := by
      cases he : outer e w with
      | none => exact .of_files rfl
      | some v => exact (unwritten_outer he).mono fun _ _ => trivial
    exact unwritten_trans hone ih

/-- Where every Run in question waits on its guard, the pass leaves everything alone. -/
theorem guarded_pass (entries : List (RunId × ChangeColumns)) (h : ∀ entry ∈ entries, (v.files entry.1).state = .guarded) :
    (Program.forEach entries Service.settleInterruptedChange).Always (unattended i) (fun _ _ _ => True)
      (fun e u => e = .ok () ∧ Unwritten (fun _ => True) v u ∧ u.locks = v.locks) v := by
  refine Program.Always.forEach (I := fun rest u => (∀ entry ∈ rest, (v.files entry.1).state = .guarded) ∧
    Unwritten (fun _ => True) v u ∧ u.locks = v.locks) (fun u hu => ⟨rfl,hu.2⟩) (fun entry rest u hu => ?_) entries
    ⟨h,.of_files rfl,rfl⟩
  obtain ⟨hall,hsame,hlocks⟩ := hu
  intro o _
  have hthen : Unwritten (fun _ => True) v (u.happen o.1) := unwritten_trans hsame (unwritten_happen o.1)
  have hstate : ((u.happen o.1).record entry.1).state = .guarded := by
    obtain ⟨new,hn,_⟩ := hthen entry.1
    show ((u.happen o.1).files entry.1).state = .guarded
    rw [hn]
    exact hall entry List.mem_cons_self
  show Program.Always _ _ (if ((u.happen o.1).record entry.1).state = .guarded then _ else _) _ _
  rw [if_pos hstate]
  exact ⟨fun e he => hall e (List.mem_cons_of_mem _ he),hthen,(heard_happen o.1).locks.trans hlocks⟩

/-- A Run's rows and lock, but for calls that were logged. -/
def Same (w₀ w : World) (r : RunId) : Prop :=
  (∃ journal, (w.files r).rows = { (w₀.files r).rows with journal }) ∧ w.locks.forRun r = w₀.locks.forRun r

/-- The Changes that are still to be settled are as the crash left them, and the others are settled. -/
structure Passing (w₀ : World) (rest : List (RunId × ChangeColumns)) (w : World) : Prop where
  runs : w.runs = w₀.runs
  distinct : (rest.map (·.1)).Nodup
  pending : ∀ entry ∈ rest, entry.1 ∈ w₀.runs ∧ (w₀.files entry.1).rows.change = some entry.2 ∧
    entry.2.result = .inFlight ∧ Same w₀ w entry.1
  settled : ∀ r ∈ w₀.runs, r ∉ rest.map (·.1) →
    Settlement (w₀.files r).rows (w₀.locks.forRun r) (w.files r).rows (w.locks.forRun r)

/-- One Run is settled and the rest wait, or the store refused the settlement. -/
theorem Passing.step {entry : RunId × ChangeColumns} {rest : List (RunId × ChangeColumns)} (hI : Inv w₀)
    (hacc : ∀ r, (w₀.files r).rows.Accounted) (h : Passing w₀ (entry :: rest) w) :
    (Service.settleInterruptedChange entry).Always (unattended i) (fun _ _ _ => True)
      (fun e v => (w₀.files entry.1).rows.Settleable entry.2 ∧ e = .ok () ∧ Passing w₀ rest v ∨
        ¬(w₀.files entry.1).rows.Settleable entry.2 ∧ ∃ err, e = .error err) w := by
  obtain ⟨r,ch⟩ := entry
  obtain ⟨hr,hch,hin,⟨journal,hrows⟩,hlock⟩ := h.pending _ List.mem_cons_self
  have hnotin : r ∉ rest.map (·.1) := (List.nodup_cons.mp h.distinct).1
  have hended : (w.files r).rows.ended = false := by
    rw [hrows]
    refine eq_false_of_ne_true fun he => (hI.coherent r).ended he ch hch hin
  have hshows := Shows.self (h.runs ▸ hr : r ∈ w.runs)
  have hbody : (alone i r fun _ _ => True).Safe (Service.settleInterruptedChange (r,ch))
      (Service.Comes (w.files r).rows ch (w.locks.forRun r)) ((w.files r).rows,w.locks.forRun r) :=
    Service.alone_settleInterruptedChange (w.files r).rows_checked (by rw [hrows]; exact hch) hin hended
  have hsettleable : (w.files r).rows.Settleable ch ↔ (w₀.files r).rows.Settleable ch := by rw [hrows]; exact Iff.rfl
  refine (Program.Always.of_safe (fun op o hs hf _ => hs.unattended o hf fun _ => trivial) hshows hbody).mono ?_
  rintro e v ⟨t,hv,hcomes⟩
  obtain ⟨journal',hrows',_⟩ := hv.rows
  have hpassing : Settlement (w₀.files r).rows (w₀.locks.forRun r) (v.files r).rows (v.locks.forRun r) →
      Passing w₀ rest v := fun hsettled => {
    runs := hv.runs.trans h.runs
    distinct := (List.nodup_cons.mp h.distinct).2
    pending := fun entry he => by
      obtain ⟨hlisted,hchange,hflight,⟨j,hj⟩,hl⟩ := h.pending entry (List.mem_cons_of_mem _ he)
      have hne : entry.1 ≠ r := fun heq => hnotin (heq ▸ List.mem_map_of_mem he)
      obtain ⟨⟨j',hj',_⟩,hl'⟩ := hv.others entry.1 hne
      exact ⟨hlisted,hchange,hflight,⟨j',by rw [hj',hj]⟩,hl'.trans hl⟩
    settled := fun r' hr' hn => by
      rcases eq_or_ne r' r with rfl | hne
      · exact hsettled
      · obtain ⟨⟨j',hj',_⟩,hl'⟩ := hv.others r' hne
        rw [hj',hl']
        exact (h.settled r' hr' (by simpa [hne] using hn)).journal j' }
  rcases hcomes with ⟨hg,rfl,rfl⟩ | ⟨hg,hs,rfl,rfl⟩ | ⟨hs,err,rfl⟩
  · have hg' : (w₀.files r).rows.state = .guarded := by rw [hrows] at hg; exact hg
    refine .inl ⟨⟨by simp [hg'],fun _ _ => by simp [hg',RunState.mayClaimEffect]⟩,rfl,hpassing ?_⟩
    rw [hv.lock,hrows']
    exact {
      untouched := fun _ => ⟨by rw [hrows],hlock⟩
      settled := fun _ _ _ hn => absurd hg' hn }
  · refine .inl ⟨hsettleable.mp hs,rfl,hpassing ?_⟩
    have hg' : (w₀.files r).rows.state ≠ .guarded := by rw [hrows] at hg; exact hg
    have hfinal : (v.files r).rows = { (w₀.files r).rows.concluded ch with journal := journal' } := by
      rw [hrows',hrows]; rfl
    rw [hv.lock,hlock,hrows]
    refine { untouched := fun hn => absurd (hn ch hch hin) hg', settled := fun ch₁ hch₁ _ _ => ?_ }
    obtain rfl := Option.some.inj (hch.symm.trans hch₁)
    exact concluded_truthful _ (hacc r) hch hfinal
  · exact .inr ⟨fun hs' => hs (hsettleable.mpr hs'),err,rfl⟩

theorem passing_start (order : {arrange : List RunId → List RunId // ∀ l, (arrange l).Perm l}) :
    Passing w (w.unsettledChanges (order.1 w.runs)) w := by
  have hstart := Starting.of_unsettledChanges (w := { w with phase := .starting 0 }) (i := 0) (Ψ := fun _ => True)
    (order.2 w.runs) ⟨rfl,fun _ _ => trivial⟩
  exact {
    runs := rfl
    distinct := hstart.once
    pending := fun entry he => by
      obtain ⟨hr,_,hch,hin⟩ := hstart.listed entry he
      exact ⟨hr,hch,hin,⟨_,rfl⟩,rfl⟩
    settled := fun r hr hn => by
      have hnone := (hstart.done r hr hn).2
      exact {
        untouched := fun _ => ⟨rfl,rfl⟩
        settled := fun ch hch hin => absurd ⟨hch,hin⟩ (hnone ch) } }

end World

abbrev Order := {arrange : List RunId → List RunId // ∀ l, (arrange l).Perm l}

/-- The pass over the Changes in flight, in the order the store lists them. -/
def World.settlement (w : World) (order : Order) : Service Unit :=
  Program.forEach (w.unsettledChanges (order.1 w.runs)) Service.settleInterruptedChange

/-- Whatever happens outside meanwhile, the pass gets through, ends every Run truthfully, and leaves
nothing for a second pass to change. -/
def World.Settles (i : RequestId) (order : Order) (w : World) : Prop :=
  (w.settlement order).Always (World.unattended i) (fun _ _ _ => True)
    (fun e v => e = .ok () ∧
      (∀ r ∈ w.runs, Settlement (w.files r).rows (w.locks.forRun r) (v.files r).rows (v.locks.forRun r)) ∧
      ∀ j order', (v.settlement order').Always (World.unattended j) (fun _ _ _ => True)
        (fun e u => e = .ok () ∧ World.Unwritten (fun _ => True) v u ∧ u.locks = v.locks) v) w

/-- Every Change in flight is one the store lets a restart settle. -/
def World.Settleable (w : World) : Prop :=
  ∀ r ∈ w.runs, ∀ ch, (w.files r).rows.change = some ch → ch.result = .inFlight → (w.files r).rows.Settleable ch

namespace World

variable {w w₀ : World} {i : RequestId} {order : Order}

/-- What is still in flight after the pass waits on its guard. -/
theorem Passing.waiting (h : Passing w₀ [] w) (order' : Order) :
    ∀ entry ∈ w.unsettledChanges (order'.1 w.runs), (w.files entry.1).state = .guarded := by
  intro entry he
  obtain ⟨hr,hch,hin,_⟩ := (passing_start order').pending entry he
  have hsettled := h.settled entry.1 (h.runs ▸ hr) (by simp)
  by_cases hopen : ∃ ch, (w₀.files entry.1).rows.change = some ch ∧ ch.result = .inFlight ∧
      (w₀.files entry.1).rows.state ≠ .guarded
  · obtain ⟨ch,hch₀,hin₀,hg⟩ := hopen
    obtain ⟨ch',hch',ht⟩ := hsettled.settled ch hch₀ hin₀ hg
    obtain rfl := Option.some.inj (hch.symm.trans hch')
    exact absurd hin ht.ended
  · obtain ⟨hsame,_⟩ := hsettled.untouched fun ch hch₀ hin₀ => by
      by_contra hg
      exact hopen ⟨ch,hch₀,hin₀,hg⟩
    have hch₀ : (w₀.files entry.1).rows.change = some entry.2 := by rw [hsame] at hch; exact hch
    have hg : (w₀.files entry.1).rows.state = .guarded := by
      by_contra hg
      exact hopen ⟨_,hch₀,hin,hg⟩
    show (w.files entry.1).rows.state = .guarded
    rw [hsame]
    exact hg

theorem settles_of_settleable (hI : Inv w) (hacc : ∀ r, (w.files r).rows.Accounted) (h : w.Settleable) :
    w.Settles i order := by
  have hstart : Passing w (w.unsettledChanges (order.1 w.runs)) w := passing_start order
  refine Program.Always.forEach (I := fun rest v => Passing w rest v) (fun v hv => ?_) (fun entry rest v hv => ?_) _ hstart
  · exact ⟨rfl,fun r hr => hv.settled r hr (by simp),fun j order' => guarded_pass _ (hv.waiting order')⟩
  · obtain ⟨hr,hch,hin,_⟩ := hv.pending entry List.mem_cons_self
    refine (hv.step hI hacc).mono fun e u hu => ?_
    rcases hu with ⟨_,rfl,hpassing⟩ | ⟨hs,_⟩
    · exact hpassing
    · exact absurd (h entry.1 hr entry.2 hch hin) hs

/-- A Run the store does not let be settled stops the pass. -/
theorem stops_of_unsettleable (hI : Inv w) (hacc : ∀ r, (w.files r).rows.Accounted) (h : ¬w.Settleable) :
    (w.settlement order).Always (unattended i) (fun _ _ _ => True) (fun e _ => e ≠ .ok ()) w := by
  have hstart : Passing w (w.unsettledChanges (order.1 w.runs)) w := passing_start order
  have hsome : ∃ entry ∈ w.unsettledChanges (order.1 w.runs), ¬(w.files entry.1).rows.Settleable entry.2 := by
    by_contra hall
    refine h fun r hr ch hch hin => ?_
    by_contra hs
    by_cases hmem : r ∈ (w.unsettledChanges (order.1 w.runs)).map (·.1)
    · obtain ⟨entry,he,rfl⟩ := List.mem_map.mp hmem
      obtain ⟨_,hch',_⟩ := hstart.pending entry he
      obtain rfl := Option.some.inj (hch.symm.trans hch')
      exact hall ⟨entry,he,hs⟩
    · have hg : (w.files r).rows.state ≠ .guarded := fun hg => hs ⟨by simp [hg],fun _ _ => by simp [hg,RunState.mayClaimEffect]⟩
      obtain ⟨ch',hch',ht⟩ := (hstart.settled r hr hmem).settled ch hch hin hg
      obtain rfl := Option.some.inj (hch.symm.trans hch')
      exact ht.ended hin
  refine Program.Always.forEach (I := fun rest v => Passing w rest v ∧
    ∃ entry ∈ rest, ¬(w.files entry.1).rows.Settleable entry.2) (fun v hv => by simp at hv) (fun entry rest v hv => ?_) _
    ⟨hstart,hsome⟩
  obtain ⟨hpassing,bad,hbad,hunsettleable⟩ := hv
  refine (hpassing.step hI hacc).mono fun e u hu => ?_
  rcases hu with ⟨hs,rfl,hrest⟩ | ⟨_,err,rfl⟩
  · refine ⟨hrest,bad,(List.mem_cons.mp hbad).resolve_left fun heq => ?_,hunsettleable⟩
    subst heq
    exact hunsettleable hs
  · exact fun he => by cases he

end World

/-- In every world any run may leave behind, the pass settles exactly when no Run with a Change in
flight was cancelled or put back before the boundary with its dispatch on the way. -/
theorem settles_iff_settleable {c : engine.Config} (hc : Reach .free c) (i : RequestId) (order : Order) :
    World.Settles i order c.world ↔ World.Settleable c.world := by
  have hI : World.Inv c.world := (protocol_sound.holds hc).1
  have hacc := accounted_preserved.reach protocol_sound rfl hc
  refine ⟨fun h => ?_,World.settles_of_settleable hI hacc⟩
  by_contra hs
  have hok := (h.exec fun _ => ([],{})).1
  exact (World.stops_of_unsettleable hI hacc hs).exec (fun _ => ([],{})) hok

/-- The Run is dispatched and the service crashes before the outcome is recorded. -/
def crashedAtDispatch : List engine.Move := confirmed ++ .enter (.apply 0) :: advance 2 16 ++ [.crash]

theorem settles_after_crash : ∃ c : engine.Config, (World.files c.world 0).rows.state = .applying ∧
    World.Settles 3 ⟨id,fun _ => .refl _⟩ c.world := by
  obtain ⟨c,hc,hp⟩ := exists_of_play mtuWorld_initial crashedAtDispatch (fun c =>
    decide ((World.files c.world 0).rows.state = .applying) && decide (World.runs c.world = [0])) (by decide +kernel)
  simp only [Bool.and_eq_true,decide_eq_true_eq] at hp
  refine ⟨c,hp.1,(settles_iff_settleable hc 3 _).mpr fun r hr ch _ _ => ?_⟩
  rw [hp.2,List.mem_singleton] at hr
  subst hr
  exact ⟨by simp [hp.1],fun _ _ => by simp [hp.1,RunState.mayClaimEffect]⟩

/-- A second apply read the Run as it was published. Its wait for confirmation is written after the
first one's dispatch began, and then the service crashes. -/
def staleAtCrash : List engine.Move :=
  confirmed ++ [.enter (.apply 0),.enter (.apply 0)] ++ advance 3 4 ++ advance 2 15 ++ advance 3 1 ++ [.crash]

theorem stale_wait_stops_settlement : ¬∀ c : engine.Config, Reach .free c → ∀ i order, World.Settles i order c.world := by
  intro h
  obtain ⟨c,hc,hp⟩ := exists_of_play mtuWorld_initial staleAtCrash (fun c =>
    decide ((World.files c.world 0).rows.state = .awaitingConfirmation) && decide (World.runs c.world = [0]) &&
      (World.files c.world 0).rows.change.any fun ch : ChangeColumns =>
        decide (ch.result = .inFlight) && decide (ch.mutation = none) && ch.dispatchBegan) (by decide +kernel)
  simp only [Bool.and_eq_true,decide_eq_true_eq] at hp
  obtain ⟨⟨hstate,hruns⟩,hchange⟩ := hp
  obtain ⟨ch,hch,hflight⟩ := (Option.any_eq_true ..).mp hchange
  simp only [Bool.and_eq_true,decide_eq_true_eq] at hflight
  have hunsettleable : ¬World.Settleable c.world := fun hs => by
    have hclaims := (hs 0 (by simp [hruns]) ch hch hflight.1.1).2 hflight.1.2 hflight.2
    simp [hstate,RunState.mayClaimEffect] at hclaims
  let listed : Order := ⟨id,fun _ => .refl _⟩
  have hstops : (World.settlement c.world listed).Always (World.unattended 4) (fun _ _ _ => True) (fun e _ => e ≠ .ok ())
      c.world := World.stops_of_unsettleable (protocol_sound.holds hc).1
    (accounted_preserved.reach protocol_sound rfl hc) hunsettleable
  exact hstops.exec (fun _ => ([],{})) ((h c hc 4 listed).exec fun _ => ([],{})).1

end LocalPlane
