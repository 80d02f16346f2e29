import LocalPlane.CrashSettlement

/-!
# Collecting what became of a guard

A restart asks the holder of every guard whose end nobody recorded. What it writes down is
accepted by the store unless the holder reports that a guard fired whose arming was never
recorded. A guard that is still armed, or whose holder cannot be asked, is left alone.
-/

set_option linter.dupNamespace false

namespace LocalPlane

open Interleaved

/-- Nothing is said about the end of a guard before it is settled. -/
def Rows.Open (x : Rows) : Prop :=
  ∀ g, x.guard = some g → g.settled = none → g.kept = none ∧ g.fired = false ∧ g.reversalOutcome = none

theorem reattempt_guard (x : Rows) (openedBy : RequestId) (update : AttemptColumns → AttemptColumns) :
    (x.reattempt openedBy update).guard = x.guard := by
  unfold Rows.reattempt
  split <;> rfl

theorem Rows.Open.commit {x : Rows} {i : RequestId} (c : Commit) (h : x.Open) : (c.rows i x).Open := by
  have hre : ∀ openedBy update, (x.reattempt openedBy update).Open := fun openedBy update g hg =>
    h g (reattempt_guard x openedBy update ▸ hg)
  have hsettled : ∀ {u : GuardColumns → GuardColumns}, (∀ g, (u g).settled.isSome) → ∀ g, x.guard.map u = some g →
      g.settled = none → g.kept = none ∧ g.fired = false ∧ g.reversalOutcome = none := by
    intro u hu g hg hn
    obtain ⟨g₀,_,rfl⟩ := Option.map_eq_some_iff.mp hg
    have hsome := hu g₀
    rw [hn] at hsome
    cases hsome
  cases c with
  | writeCheckpoint correlation => simp only [Commit.rows]; split <;> exact h
  | insertGuard =>
    intro g hg _
    obtain ⟨k,_,hk⟩ := Option.bind_eq_some_iff.mp hg
    obtain ⟨evidence,_,rfl⟩ := Option.map_eq_some_iff.mp hk
    exact ⟨rfl,rfl,rfl⟩
  | recordArmed =>
    intro g hg hn
    obtain ⟨g₀,hg₀,rfl⟩ := Option.map_eq_some_iff.mp hg
    exact h g₀ hg₀ hn
  | settleAbandoned report => exact hsettled fun _ => rfl
  | settleGuard report => exact hsettled fun _ => rfl
  | keep evidence => exact hsettled fun _ => rfl
  | spendRecovery correlation =>
    simp only [Commit.rows]
    split
    · exact h
    · intro g hg; rw [reattempt_guard] at hg; exact h g hg
  | recordEvidence read => exact hre _ _
  | recordRecovery outcome => exact hre _ _
  | recordRecoveryVerification read => exact hre _ _
  | completeRecovery outcome => exact hre _ _
  | settleRetry outcome => exact hre _ _
  | refuseRecovery code => exact hre _ _
  | interruptAttempt openedBy unknown => exact hre _ _
  | _ => exact h

theorem open_kept : Kept .free fun x _ => x.Open where
  pristine := by
    intro f hf g hg
    obtain ⟨_,_,_,_,_,hguard,_⟩ := hf
    simp [RunFile.rows,hguard] at hg
  heard _ h := h
  acquire _ h := h
  commit := by
    intro i w r c out f _ _ _ _ hrows _ hK
    rw [hrows]
    exact hK.commit c

theorem PlannedChange.field_of_isField {planned : PlannedChange} (h : planned.isField) :
    ∃ name current desired, planned = .field name current desired := by
  cases planned with
  | field name current desired => exact ⟨name,current,desired,rfl⟩
  | action verb observed expected => cases h

namespace Rows

variable {i : RequestId} {x : Rows} {ch : ChangeColumns}

/-- The settlement of an open guard is accepted, but for a reversal under an arming nobody recorded. -/
theorem check_settled {g : GuardColumns} {report : GuardReport} (hc : g.check = true)
    (hopen : g.kept = none ∧ g.fired = false ∧ g.reversalOutcome = none) (hn : report ≠ .armed) :
    GuardColumns.check { g with
      settled := some report.phase
      fired := g.fired || report.reversal.isSome
      reversalOutcome := if report.reversal.isSome then report.reversal else g.reversalOutcome } = true ↔
      (report.reversal.isSome → g.armed) := by
  obtain ⟨hkept,hfired,hreversal⟩ := hopen
  simp only [GuardColumns.check,Bool.and_eq_true] at hc ⊢
  obtain ⟨⟨⟨⟨⟨⟨hwindow,-⟩,-⟩,-⟩,-⟩,-⟩,-⟩ := hc
  cases harmed : g.armed <;> cases report <;> simp_all [GuardReport.phase,GuardReport.reversal,Truth.or,Truth.is,
    Truth.isNot,Truth.isNull,Truth.isNotNull,Truth.same,Truth.accepts]

theorem settleGuard_accepted {g : GuardColumns} {report : GuardReport} (hx : x.Checked) (hg : x.guard = some g)
    (hn : g.settled = none) (hopen : x.Open) (hr : report ≠ .armed) :
    (Commit.settleGuard report).Accepted i x ↔ (report.reversal.isSome → g.armed) := by
  have hcheck := check_settled (hx.guard g hg) (hopen g hg hn) hr
  constructor
  · exact fun h => hcheck.mp (h.2.guard _ (congrArg (Option.map _) hg))
  · refine fun h => ⟨fun _ _ g' hg' => by rw [hg] at hg'; cases hg'; exact hn,?_⟩
    refine { run := hx.run, guard := fun g' hg' => ?_, change := hx.change, attempts := hx.attempts }
    obtain ⟨g₀,hg₀,rfl⟩ := Option.map_eq_some_iff.mp (show x.guard.map _ = some g' from hg')
    obtain rfl := Option.some.inj (hg.symm.trans hg₀)
    exact hcheck.mpr h

/-- What a Change on a controlled value says about its rollback never offends its row. -/
theorem check_rollback (hc : ch.check = true) (hp : ch.planned.isField) (hin : ch.result = .inFlight)
    (required : Bool) (attempt : Option AttemptId) (began : Bool) (outcome : Option MutationOutcome)
    {verification : VerificationOutcome} {observation : Option ObservationId} (value : Option Int)
    (hv : verification = .verified → observation.isSome) : ChangeColumns.check { ch with
      rollbackRequired := required, rollbackAttempt := attempt, rollbackDispatchBegan := began
      rollbackOutcome := outcome, rollbackVerification := verification
      rollbackVerificationObservation := observation, rollbackVerificationValue := value } = true := by
  simp only [ChangeColumns.check,Bool.and_eq_true] at hc ⊢
  obtain ⟨⟨⟨⟨⟨⟨⟨⟨hshape,hbegan⟩,heffect⟩,hfailed⟩,hsucceeded⟩,_⟩,hrecovery⟩,hread⟩,_⟩ := hc
  refine ⟨⟨⟨⟨⟨⟨⟨⟨?_,hbegan⟩,heffect⟩,hfailed⟩,hsucceeded⟩,?_⟩,hrecovery⟩,hread⟩,?_⟩
  · unfold ChangeColumns.shapeCheck at hshape ⊢
    cases hplanned : ch.planned with
    | field name current desired => simpa only [hplanned] using hshape
    | action verb observed expected => rw [hplanned] at hp; cases hp
  · simp [hin,Truth.or,Truth.accepts]
  · cases verification <;> simp_all [Truth.or,Truth.isNotNull,Truth.accepts]

/-- A written change of a controlled value whose guard did not keep it. -/
structure Lapsing (x : Rows) : Prop where
  checked : x.Checked
  live : x.state ≠ .cancelled
  change : ∃ ch, x.change = some ch ∧ ch.result = .inFlight ∧ ch.mutation = some .written ∧ ch.planned.isField

/-- Every move on the way to its end is accepted and stays on that way. -/
theorem Lapsing.accepted {c : Commit} {u : ChangeColumns → ChangeColumns} (h : x.Lapsing)
    (hne : ∀ report, c ≠ .settleGuard report) (hrun : (c.rows i x).run.check = true)
    (hlive : (c.rows i x).state ≠ .cancelled) (hguard : (c.rows i x).guard = x.guard)
    (hattempts : (c.rows i x).attempts = x.attempts) (hchange : (c.rows i x).change = x.change.map u)
    (hu : ∀ ch, ch.check = true → ch.planned.isField → ch.result = .inFlight → (u ch).check = true ∧
      (u ch).planned = ch.planned ∧ (u ch).result = ch.result ∧ (u ch).mutation = ch.mutation) :
    c.Accepted i x ∧ (c.rows i x).Lapsing := by
  obtain ⟨ch,hch,hin,hm,hp⟩ := h.change
  obtain ⟨hcheck,hplanned,hresult,hmutation⟩ := hu ch (h.checked.change ch hch) hp hin
  have hch' : (c.rows i x).change = some (u ch) := by rw [hchange,hch]; rfl
  have hchecked : (c.rows i x).Checked := {
    run := hrun
    guard := fun g hg => h.checked.guard g (hguard ▸ hg)
    change := fun ch' hc => by rw [hch'] at hc; exact Option.some.inj hc ▸ hcheck
    attempts := fun a ha => h.checked.attempts a (hattempts ▸ ha) }
  exact ⟨⟨fun report he => absurd he (hne report),hchecked⟩,{
    checked := hchecked
    live := hlive
    change := ⟨u ch,hch',hresult.trans hin,hmutation.trans hm,hplanned ▸ hp⟩ }⟩

theorem Lapsing.run_moved (h : x.Lapsing) {state : RunState} (hs : state = .rollingBack ∨ state = .rollbackVerifying) :
    RunColumns.check { x.run with state } = true := by
  have hlive := (cancelled_false h.checked.run).mpr h.live
  rcases hs with rfl | rfl <;> simp [RunColumns.check,RunState.mayClaimEffect,hlive]

theorem rollback_read (hc : ch.check = true) (hv : ch.rollbackVerification = .verified) :
    ch.rollbackVerificationObservation.isSome := by
  simp only [ChangeColumns.check,Bool.and_eq_true] at hc
  obtain ⟨_,hread⟩ := hc
  cases ho : ch.rollbackVerificationObservation with
  | none => simp [hv,ho,Truth.or,Truth.isNotNull,Truth.accepts] at hread
  | some _ => rfl

theorem Lapsing.startLapse (h : x.Lapsing) (seen : RunState) :
    (Commit.startLapse seen).Accepted i x ∧ ((Commit.startLapse seen).rows i x).Lapsing :=
  h.accepted (by simp) (h.run_moved (.inl rfl)) (by simp [Commit.rows,Rows.enter,Rows.amend,Rows.state]) rfl rfl rfl
    fun _ hc hp hin => ⟨check_rollback hc hp hin true _ _ _ _ (rollback_read hc),rfl,rfl,rfl⟩

theorem Lapsing.recordReversal (h : x.Lapsing) (attempt : AttemptId) (outcome : MutationOutcome) :
    (Commit.recordReversal attempt outcome).Accepted i x ∧ ((Commit.recordReversal attempt outcome).rows i x).Lapsing :=
  h.accepted (by simp) h.checked.run h.live rfl rfl rfl
    fun _ hc hp hin => ⟨check_rollback hc hp hin _ (some attempt) true (some outcome) _ (rollback_read hc),rfl,rfl,rfl⟩

theorem Lapsing.startRollbackVerification (h : x.Lapsing) (seen : RunState) :
    (Commit.startRollbackVerification seen).Accepted i x ∧ ((Commit.startRollbackVerification seen).rows i x).Lapsing :=
  h.accepted (u := id) (by simp) (h.run_moved (.inr rfl)) (by simp [Commit.rows,Rows.enter,Rows.state]) rfl rfl
    (by simp [Commit.rows,Rows.enter]) fun _ hc _ _ => ⟨hc,rfl,rfl,rfl⟩

theorem Lapsing.recordRollbackVerification (h : x.Lapsing) {read : ReadBack}
    (hread : read.outcome = .verified → read.observation.isSome) :
    (Commit.recordRollbackVerification read).Accepted i x ∧ ((Commit.recordRollbackVerification read).rows i x).Lapsing :=
  h.accepted (by simp) h.checked.run h.live rfl rfl rfl
    fun _ hc hp hin => ⟨check_rollback hc hp hin _ _ _ _ _ hread,rfl,rfl,rfl⟩

theorem Lapsing.admitRecovery (h : x.Lapsing) : Commit.admitRecovery.Accepted i x :=
  ⟨fun _ he => absurd he (by simp),h.checked⟩

/-- It may end in recovery, or restored where a reading proved the restoration. -/
theorem Lapsing.finish (h : x.Lapsing) (hch : x.change = some ch) {seen : RunState}
    {v : RunState × ChangeResult × Option RecoveryReason}
    (hv : (∃ reason, v = (.recoveryRequired,.recoveryRequired,some reason)) ∨
      v = (.rolledBack,.rolledBack,none) ∧ ch.rollbackVerification = .verified) :
    (Commit.finish seen ch.hostEffect v.1 v.2.1 v.2.2).Accepted i x := by
  obtain ⟨ch',hch',hin,hm,hp⟩ := h.change
  obtain rfl := Option.some.inj (hch.symm.trans hch')
  have heffect : ch.hostEffect = .written := recorded_effect (h.checked.change ch hch) hm
  have hcancelled := (cancelled_false h.checked.run).mpr h.live
  have hrun : RunColumns.check { x.run with state := v.1, hostEffect := ch.hostEffect, finished := true } = true := by
    rcases hv with ⟨_,rfl⟩ | ⟨rfl,_⟩ <;> simp [RunColumns.check,RunState.mayClaimEffect,heffect,hcancelled]
  have hend : ChangeColumns.check { ch with result := v.2.1, recoveryReason := v.2.2, finished := true } = true := by
    rcases hv with ⟨_,rfl⟩ | ⟨rfl,hback⟩
    · exact check_finish (h.checked.change ch hch) (by simp) (by simp) (by simp) (by simp)
    · exact check_finish (h.checked.change ch hch) (fun _ => ⟨hp,hback⟩) (by simp) (by simp) (by simp)
  refine ⟨fun _ he => absurd he (by simp),?_⟩
  refine { run := hrun, guard := h.checked.guard, change := fun ch' hch' => ?_, attempts := h.checked.attempts }
  simp only [Commit.rows,Rows.conclude,Rows.amend,hch,Option.map_some,Option.some.injEq] at hch'
  exact hch' ▸ hend

/-- What is said about the guard now says how it ended. -/
def Closed (x : Rows) : Prop := ∀ g, x.guard = some g → g.settled.isSome

theorem settleGuard_closed {report : GuardReport} : ((Commit.settleGuard report).rows i x).Closed := by
  intro g hg
  obtain ⟨g₀,_,rfl⟩ := Option.map_eq_some_iff.mp (show x.guard.map _ = some g from hg)
  rfl

theorem Lapsing.settleGuard (h : x.Lapsing) {report : GuardReport} (ha : (Commit.settleGuard report).Accepted i x) :
    ((Commit.settleGuard report).rows i x).Lapsing where
  checked := ha.2
  live := h.live
  change := h.change

end Rows

namespace Service

variable {i : RequestId} {r : RunId} {reported : GuardReport → Rows → Prop} {l : Option LockKey} {x y : Rows}
  {ch : ChangeColumns} {α : Type}

/-- Why a lapsed change is held, by what its guard did and what a reading of the target then showed. -/
def lapseReason (report : GuardReport) (shown : VerificationOutcome) : RecoveryReason :=
  match report with
  | .lost => .guardLost
  | .disarmed => .guardReleasedWithoutRecordedProof
  | .armed | .unreachable => .guardUnreachable
  | .fired outcome => if outcome = .written then recoveryReason shown ⟨.written,true⟩ else .guardReversalUnproven

/-- The ending of a lapsed change: restored where its guard wrote and a reading proves it, and held otherwise. -/
def lapseEnding (report : GuardReport) (shown : VerificationOutcome) : RunState × ChangeResult × Option RecoveryReason :=
  if report = .fired .written ∧ shown = .verified then (.rolledBack,.rolledBack,none)
  else (.recoveryRequired,.recoveryRequired,some (lapseReason report shown))

/-- The guard's end is on record, the change has the ending of the report and the reading, and the lock is released
only with a restoration whose reading showed the previous value. -/
def LapseEnded (report : GuardReport) (before : Int) (l : Option LockKey) (t : Rows × Option LockKey) : Prop :=
  t.1.Closed ∧ ∃ ch, t.1.change = some ch ∧
    (t.1.state,ch.result,ch.recoveryReason) = lapseEnding report ch.rollbackVerification ∧
    t.2 = (if (lapseEnding report ch.rollbackVerification).2.2.isNone then none else l) ∧
    (report = .fired .written → ch.rollbackVerification = .verified →
      ch.rollbackVerificationValue = some before ∧ ch.rollbackVerificationObservation.isSome)

/-- It ends without an error, as stated. -/
def EndsLapsed (report : GuardReport) (before : Int) (l : Option LockKey) (e : Except Error α) (t : Rows × Option LockKey) : Prop :=
  (∃ a, e = .ok a) ∧ LapseEnded report before l t

theorem lapseEnding_held {report : GuardReport} {shown : VerificationOutcome} (h : ¬(report = .fired .written ∧ shown = .verified)) :
    lapseEnding report shown = (.recoveryRequired,.recoveryRequired,some (lapseReason report shown)) := if_neg h

/-- What a reading of the previous value proves. -/
theorem judge_field (preview : Preview) (value : Int) (seen : Observed)
    (hv : (judge preview (.field value) seen).outcome = .verified) : (judge preview (.field value) seen).value = some value := by
  cases seen with
  | unavailable absent => cases absent <;> simp [judge] at hv
  | taken observation capability provider facts =>
    simp only [judge] at hv ⊢
    split at hv
    · cases hv
    · next hsource =>
      rw [if_neg hsource]
      cases hvalue : facts.value with
      | none => simp [prove,hvalue] at hv
      | some shown =>
        by_cases he : shown = value
        · simp [prove,hvalue,he]
        · simp [prove,hvalue,he] at hv

/-- A lapsed change whose reading is on record ends as it must. -/
theorem settled_finish {run : RunRecord} {report : GuardReport} {before : Int} (hr : run.id = r) (hy : y.Lapsing) (hg : y.Closed)
    (hch : y.change = some ch) (hread : report = .fired .written → ch.rollbackVerification = .verified →
      ch.rollbackVerificationValue = some before ∧ ch.rollbackVerificationObservation.isSome)
    {v : RunState × ChangeResult × Option RecoveryReason} (hv : v = lapseEnding report ch.rollbackVerification) :
    (alone i r reported).Safe (finish run v.1 v.2.1 v.2.2) (EndsLapsed report before l) (y,l) := by
  have hends : (∃ reason, v = (.recoveryRequired,.recoveryRequired,some reason)) ∨
      v = (.rolledBack,.rolledBack,none) ∧ ch.rollbackVerification = .verified := by
    rw [hv]
    unfold lapseEnding
    split
    · next hback => exact .inr ⟨rfl,hback.2⟩
    · exact .inl ⟨_,rfl⟩
  refine alone_finish hr hch (fun _ ended => ⟨⟨ended,rfl⟩,hg,?_⟩) fun hn => absurd (hy.finish hch hends) hn
  refine ⟨{ ch with result := v.2.1, recoveryReason := v.2.2, finished := true },?_,?_,?_,hread⟩
  · simp [Commit.rows,Rows.conclude,Rows.amend,hch]
  · exact hv
  · rw [hv]

theorem settled_recover {run : RunRecord} {report : GuardReport} {before : Int} (hr : run.id = r) (hy : y.Lapsing) (hg : y.Closed)
    (hch : y.change = some ch) (hheld : ¬(report = .fired .written ∧ ch.rollbackVerification = .verified))
    {reason : RecoveryReason} (hreason : reason = lapseReason report ch.rollbackVerification) :
    (alone i r reported).Safe (recover run reason) (EndsLapsed report before l) (y,l) := by
  subst hreason
  have hfinish : (alone i r reported).Safe (finish run .recoveryRequired .recoveryRequired (some (lapseReason report ch.rollbackVerification)))
      (EndsLapsed report before l) (y,l) :=
    settled_finish hr hy hg hch (fun hw hv => absurd ⟨hw,hv⟩ hheld) (lapseEnding_held hheld).symm
  unfold recover
  subst hr
  exact alone_commit rfl (fun _ => hfinish) fun hno => absurd ⟨fun _ he => absurd he (by simp),hy.checked⟩ hno

/-- A commit that is known to go through. -/
theorem alone_move {s : Rows × Option LockKey} {c : Commit} {f : Unit → Service α}
    {Q : Except Error α → Rows × Option LockKey → Prop} (hc : c.settles) (ha : c.Accepted i s.1)
    (h : (alone i r reported).Safe (f ()) Q (c.rows i s.1,if c.releases then none else s.2)) :
    (alone i r reported).Safe (commit r c >>= f) Q s :=
  alone_commit hc (fun _ => h) fun hn => absurd ha hn

/-- The rest of a lapse whose guard wrote the checkpoint's value back. -/
theorem settled_restored {run : RunRecord} {field : String} {before desired : Int} (hr : run.id = r) (hy : y.Lapsing) (hg : y.Closed)
    (hp : ch.planned = .field field before desired) :
    (alone i r reported).Safe (do
        commit run.id (.startRollbackVerification run.state)
        let run ← ask (.run run.id)
        let read ← readBack run (restoredExpectation ch)
        commit run.id (.recordRollbackVerification read)
        let run ← ask (.run run.id)
        let _ ← requireChange run.id
        if read.outcome.proved then finish run .rolledBack .rolledBack none
        else recover run (recoveryReason read.outcome ⟨.written,true⟩)) (EndsLapsed (.fired .written) before l) (y,l) := by
  subst hr
  have hexpected : restoredExpectation ch = .field before := by rw [restoredExpectation,hp]
  obtain ⟨hstarted,hy⟩ := hy.startRollbackVerification (i := i) run.state
  refine alone_move rfl hstarted (alone_run ⟨rfl,fun seen _ => ?_⟩)
  have hread := judge_observed y.preview (restoredExpectation ch) seen
  have hvalue := judge_field y.preview before seen
  obtain ⟨hrecorded,hy'⟩ := hy.recordRollbackVerification (i := i) hread
  refine alone_move rfl hrecorded (alone_run ?_)
  obtain ⟨ch',hch',_⟩ := hy'.change
  refine alone_change hch' ?_
  rw [← hexpected] at hvalue
  have hback : ch'.rollbackVerification = (judge y.preview (restoredExpectation ch) seen).outcome ∧
      ch'.rollbackVerificationObservation = (judge y.preview (restoredExpectation ch) seen).observation ∧
      ch'.rollbackVerificationValue = (judge y.preview (restoredExpectation ch) seen).value := by
    obtain ⟨ch₀,_,rfl⟩ := Option.map_eq_some_iff.mp
      (show ((Commit.startRollbackVerification run.state).rows i y).change.map _ = some ch' from hch')
    exact ⟨rfl,rfl,rfl⟩
  obtain ⟨houtcome,hobservation,hshown⟩ := hback
  show (alone i run.id reported).Safe (if (judge y.preview (restoredExpectation ch) seen).outcome.proved = true then _ else _) _ _
  rw [← houtcome]
  split
  · next hproved =>
    have hverified : ch'.rollbackVerification = .verified := by simpa [VerificationOutcome.proved] using hproved
    have hending : lapseEnding (.fired .written) ch'.rollbackVerification = (.rolledBack,.rolledBack,none) := if_pos ⟨rfl,hverified⟩
    refine settled_finish (v := (.rolledBack,.rolledBack,none)) (by rfl) hy' hg hch' (fun _ hv => ?_) hending.symm
    rw [houtcome] at hv
    exact ⟨hshown.trans (hvalue hv),hobservation ▸ hread hv⟩
  · next hproved =>
    have hheld : ¬(GuardReport.fired .written = .fired .written ∧ ch'.rollbackVerification = .verified) := fun h =>
      hproved (by simp [VerificationOutcome.proved,h.2])
    exact settled_recover (by rfl) hy' hg hch' hheld (by rw [houtcome]; rfl)

theorem settled_settleLapsed {run : RunRecord} {guard g : GuardColumns} {report : GuardReport} {field : String} {before desired : Int}
    (hr : run.id = r) (hx : x.Lapsing) (hk : x.checkpoint.isSome) (hopen : x.Open) (hg : x.guard = some g) (hn : g.settled = none)
    (hreport : report ≠ .armed) (hfired : report.reversal.isSome → g.armed) (hp : ch.planned = .field field before desired) :
    (alone i r reported).Safe (settleLapsed run ch guard report) (EndsLapsed report before l) (x,l) := by
  subst hr
  obtain ⟨k,hk⟩ := Option.isSome_iff_exists.mp hk
  unfold settleLapsed
  refine ⟨rfl,fun a (ha : a = x.checkpoint) => ?_⟩
  rw [hk] at ha
  subst ha
  have haccepted : ∀ {y : Rows}, y.Lapsing → y.guard = x.guard → (Commit.settleGuard report).Accepted i y := fun {y} hy hyg =>
    (Rows.settleGuard_accepted hy.checked (hyg.trans hg) hn (fun g' hg' => hopen g' (hyg ▸ hg')) hreport).mpr hfired
  cases report with
  | armed => exact absurd rfl hreport
  | fired outcome =>
    obtain ⟨hstarted,hy⟩ := hx.startLapse (i := i) run.state
    obtain ⟨hrecorded,hy'⟩ := hy.recordReversal (i := i) guard.reversal outcome
    have hsettled := haccepted hy' rfl
    obtain ⟨ch',hch',_⟩ := hy'.change
    refine alone_move rfl hstarted (alone_move rfl hrecorded (alone_run (alone_change hch' ?_)))
    refine alone_move rfl hsettled (alone_run ?_)
    show (alone i run.id reported).Safe (if outcome ≠ .written then _ else _) _ _
    have hlapsing := hy'.settleGuard hsettled
    split
    · next hw =>
      obtain ⟨ch₁,hch₁,_⟩ := hlapsing.change
      have hheld : ¬(GuardReport.fired outcome = .fired .written ∧ ch₁.rollbackVerification = .verified) := by
        rintro ⟨he,-⟩
        cases he
        exact hw rfl
      exact settled_recover (by rfl) hlapsing Rows.settleGuard_closed hch₁ hheld (if_neg hw).symm
    · next hw =>
      obtain rfl := not_not.mp hw
      exact settled_restored (by rfl) hlapsing Rows.settleGuard_closed hp
  | disarmed | lost | unreachable =>
    have hsettled := haccepted hx rfl
    have hlapsing := hx.settleGuard hsettled
    obtain ⟨ch₁,hch₁,_⟩ := hlapsing.change
    refine alone_move rfl hsettled (alone_run ?_)
    exact settled_recover (by rfl) hlapsing Rows.settleGuard_closed hch₁ (by simp) rfl

end Service
/-- What the rows of every Run say before a guard is collected. -/
structure Rows.Collectable (x : Rows) : Prop where
  checked : x.Checked
  opened : x.Open
  lapsing : x.state = .guarded → ∀ g, x.guard = some g → g.settled = none → x.Lapsing ∧ x.checkpoint.isSome

theorem Rows.Collectable.journal {x : Rows} (h : x.Collectable) (journal : List Call) :
    Rows.Collectable { x with journal } where
  checked := { h.checked with }
  opened := h.opened
  lapsing hs g hg hn := by
    obtain ⟨hl,hk⟩ := h.lapsing hs g hg hn
    exact ⟨⟨{ hl.checked with },hl.live,hl.change⟩,hk⟩

/-- What collecting a guard leaves: its end on record, or nothing touched at all where the operation is
not supported any more, the guard is still armed, or its holder gave no answer. -/
structure Collection (i : RequestId) (x x' : Rows) : Prop where
  checked : x'.Checked
  outcome : x'.Closed ∨ x' = { x with journal := x'.journal } ∧
    (x.supported = false ∨ .guardStatus i .armed ∈ x'.journal ∨ .guardStatus i .unreachable ∈ x'.journal)

theorem Rows.Coherent.collectable {x : Rows} (h : x.Coherent) (hx : x.Checked) (hopen : x.Open) : x.Collectable where
  checked := hx
  opened := hopen
  lapsing hg g hguard hn := by
    obtain ⟨hheld,hwaits⟩ := h.guarded hg
    obtain ⟨ch,_,hch,_,hm,_,_,hp,_,hk⟩ := h.held hheld
    refine ⟨{ checked := hx, live := by simp [hg], change := ⟨ch,hch,hwaits ch g hch hguard hn,hm,?_⟩ },hk⟩
    rw [(h.planned ch hch).1]
    exact x.preview.guarded_field (by simpa [Preview.isGuarded] using hp)

/-- The holder reports no guard fired whose arming was never recorded. -/
def Recorded (report : GuardReport) (x : Rows) : Prop := report.reversal.isSome → ∀ g, x.guard = some g → g.armed

namespace Service

variable {i : RequestId} {r : RunId} {l : Option LockKey} {x : Rows}

/-- Collecting one guard never fails, and leaves its end on record or everything as it was. -/
theorem alone_settleInterruptedGuard {g : GuardColumns} (hx : x.Collectable) (hg : x.guard = some g) (hn : g.settled = none) :
    (alone i r Recorded).Safe (settleInterruptedGuard (r,g)) (fun e t => e = .ok () ∧
      (t.1.Closed ∨ t.1 = { x with journal := t.1.journal } ∧
        (x.supported = false ∨ .guardStatus i .armed ∈ t.1.journal ∨ .guardStatus i .unreachable ∈ t.1.journal))) (x,l) := by
  unfold settleInterruptedGuard
  refine alone_run ?_
  show (alone i r Recorded).Safe (if (!x.supported) = true then _ else _) _ _
  split
  · next hs => exact ⟨rfl,.inr ⟨rfl,.inl (by simpa using hs)⟩⟩
  refine ⟨rfl,fun report hfired => ?_⟩
  have hfired : report.reversal.isSome → g.armed := fun h => hfired h g hg
  show (alone i r Recorded).Safe (if report = .armed ∨ report = .unreachable then _ else _) _
    ({ x with journal := .guardStatus i report :: x.journal },l)
  split
  · next hout => exact ⟨rfl,.inr ⟨rfl,.inr (hout.imp (by rintro rfl; simp) (by rintro rfl; simp))⟩⟩
  next hout =>
  have hreport : report ≠ .armed := fun h => hout (.inl h)
  have hchecked : Rows.Checked { x with journal := .guardStatus i report :: x.journal } := { hx.checked with }
  have haccepted : (Commit.settleGuard report).Accepted i { x with journal := .guardStatus i report :: x.journal } :=
    (Rows.settleGuard_accepted hchecked hg hn hx.opened hreport).mpr hfired
  have hrecord : (alone i r Recorded).Safe (commit r (.settleGuard report)) (fun e t => e = .ok () ∧
      (t.1.Closed ∨ t.1 = { x with journal := t.1.journal } ∧ (x.supported = false ∨
        .guardStatus i .armed ∈ t.1.journal ∨ .guardStatus i .unreachable ∈ t.1.journal)))
      ({ x with journal := .guardStatus i report :: x.journal },l) := by
    refine ⟨⟨rfl,rfl⟩,fun a (ha : a = .ok () ↔ _) => ?_⟩
    obtain rfl := ha.mpr haccepted
    exact ⟨rfl,.inl Rows.settleGuard_closed⟩
  refine ⟨rfl,fun change (hchange : change = x.change) => ?_⟩
  cases change with
  | none => exact hrecord
  | some ch =>
    show (alone i r Recorded).Safe (if x.state = .guarded then _ else _) _ _
    split
    · next hguarded =>
      obtain ⟨hlapsing,hk⟩ := hx.lapsing hguarded g hg hn
      obtain ⟨ch',hch',_,_,hfield⟩ := hlapsing.change
      obtain rfl := Option.some.inj (hchange.trans hch')
      obtain ⟨field,before,desired,hplanned⟩ := PlannedChange.field_of_isField hfield
      have hlapsing' : Rows.Lapsing { x with journal := .guardStatus i report :: x.journal } :=
        ⟨hchecked,hlapsing.live,hlapsing.change⟩
      refine View.Safe.bind (View.Safe.mono (fun e t ht => ?_)
        (settled_settleLapsed (by rfl) hlapsing' hk hx.opened hg hn hreport hfired hplanned))
      obtain ⟨⟨a,rfl⟩,hclosed,_⟩ := ht
      exact ⟨rfl,.inl hclosed⟩
    · exact hrecord

end Service
theorem Collection.more {i : RequestId} {x x' : Rows} {journal : List Call} (h : Collection i x x') (hj : ∀ call ∈ x'.journal, call ∈ journal) :
    Collection i x { x' with journal } where
  checked := { h.checked with }
  outcome := by
    rcases h.outcome with hclosed | ⟨hsame,hwhy⟩
    · exact .inl hclosed
    · exact .inr ⟨by rw [hsame],hwhy.imp_right (Or.imp (hj _) (hj _))⟩

namespace World

variable {w w₀ v : World} {i : RequestId}

/-- No guard is reported fired whose arming was never recorded. -/
def ReportsRecorded (op : Op) (outside : List External × Outside) (w : World) : Prop :=
  ∀ r, op = .guardStatus r → Recorded ((w.happen outside.1).guardStatus 0 r outside.2.delivery).1 (w.files r).rows

/-- The guards still to be collected are as they were, and the others are collected. -/
structure Collecting (i : RequestId) (w₀ : World) (rest : List (RunId × GuardColumns)) (w : World) : Prop where
  runs : w.runs = w₀.runs
  distinct : (rest.map (·.1)).Nodup
  pending : ∀ entry ∈ rest, entry.1 ∈ w₀.runs ∧ (w₀.files entry.1).rows.guard = some entry.2 ∧
    entry.2.settled = none ∧ ∃ journal, (w.files entry.1).rows = { (w₀.files entry.1).rows with journal }
  collected : ∀ r ∈ w₀.runs, r ∉ rest.map (·.1) → Collection i (w₀.files r).rows (w.files r).rows

theorem Collecting.step {entry : RunId × GuardColumns} {rest : List (RunId × GuardColumns)}
    (hfit : ∀ r, (w₀.files r).rows.Collectable) (h : Collecting i w₀ (entry :: rest) w) :
    (Service.settleInterruptedGuard entry).Always (unattended i) ReportsRecorded
      (Program.Either (fun _ => Collecting i w₀ rest) fun _ _ => False) w := by
  obtain ⟨r,g⟩ := entry
  obtain ⟨hr,hg,hn,journal,hrows⟩ := h.pending _ List.mem_cons_self
  have hnotin : r ∉ rest.map (·.1) := (List.nodup_cons.mp h.distinct).1
  have hx : (w.files r).rows.Collectable := by
    rw [hrows]
    exact (hfit r).journal journal
  have hshows := Shows.self (h.runs ▸ hr : r ∈ w.runs)
  have hbody := Service.alone_settleInterruptedGuard (i := i) (r := r) (l := w.locks.forRun r) hx (by rw [hrows]; exact hg) hn
  have hrecorded : ∀ {u : World} {s : Rows × Option LockKey} {op : Op} {o : List External × Outside}, Shows w r u s →
      ReportsRecorded op o u → op = .guardStatus r → Recorded ((u.happen o.1).guardStatus i r o.2.delivery).1 s.1 := by
    intro u s op o hs ho he
    obtain ⟨j,hj,_⟩ := hs.rows
    have hreport := ho r he
    rw [hj] at hreport
    exact hreport
  refine (Program.Always.of_safe (fun op o hs hf ho => hs.unattended o hf (hrecorded hs ho)) hshows hbody).mono ?_
  rintro e v ⟨t,hv,rfl,hout⟩
  obtain ⟨journal',hrows',hj'⟩ := hv.rows
  have hcollected : Collection i (w₀.files r).rows (v.files r).rows := {
    checked := (v.files r).rows_checked
    outcome := by
      rcases hout with hclosed | ⟨hsame,hwhy⟩
      · exact .inl fun g hg => hclosed g (by rw [hrows'] at hg; exact hg)
      · refine .inr ⟨by rw [hrows',hsame,hrows],?_⟩
        rw [hrows']
        rw [hrows] at hwhy
        exact hwhy.imp_right (Or.imp (hj' _) (hj' _)) }
  exact {
    runs := hv.runs.trans h.runs
    distinct := (List.nodup_cons.mp h.distinct).2
    pending := fun entry he => by
      obtain ⟨hlisted,hguard,hopen,j,hj⟩ := h.pending entry (List.mem_cons_of_mem _ he)
      have hne : entry.1 ≠ r := fun heq => hnotin (heq ▸ List.mem_map_of_mem he)
      obtain ⟨⟨j',hj',_⟩,_⟩ := hv.others entry.1 hne
      exact ⟨hlisted,hguard,hopen,j',by rw [hj',hj]⟩
    collected := fun r' hr' hn => by
      rcases eq_or_ne r' r with rfl | hne
      · exact hcollected
      · obtain ⟨⟨j',hj',hmore⟩,_⟩ := hv.others r' hne
        rw [hj']
        exact (h.collected r' hr' (by simpa [hne] using hn)).more hmore }

theorem collecting_start (order : Order) : Collecting i w (w.unsettledGuards (order.1 w.runs)) w := by
  have hstart := Starting.of_unsettledGuards (w := { w with phase := .starting 0 }) (i := 0) (Ψ := fun _ => True)
    (order.2 w.runs) ⟨rfl,fun _ _ => trivial⟩
  exact {
    runs := rfl
    distinct := hstart.once
    pending := fun entry he => by
      obtain ⟨hr,_,hg,hn⟩ := hstart.listed entry he
      exact ⟨hr,hg,hn,_,rfl⟩
    collected := fun r hr hn => {
      checked := (w.files r).rows_checked
      outcome := .inl fun g hg => by
        have hnone := (hstart.done r hr hn).2 g
        exact Option.isSome_iff_ne_none.mpr fun hs => hnone ⟨hg,hs⟩ } }

end World

/-- The pass over the guards nobody heard back about, in the order the store lists them. -/
def World.collection (w : World) (order : Order) : Service Unit :=
  Program.forEach (w.unsettledGuards (order.1 w.runs)) Service.settleInterruptedGuard

/-- Whatever the holders answer, but for a guard reported fired whose arming was never recorded, the
pass gets through and every guard is collected or left alone. -/
def World.Collects (i : RequestId) (order : Order) (w : World) : Prop :=
  (w.collection order).Always (World.unattended i) World.ReportsRecorded
    (fun e v => e = .ok () ∧ ∀ r ∈ w.runs, Collection i (w.files r).rows (v.files r).rows) w

theorem guards_collected {c : engine.Config} (hc : Reach .free c) (i : RequestId) (order : Order) :
    World.Collects i order c.world := by
  have hI : World.Inv c.world := (protocol_sound.holds hc).1
  have hopen := open_kept.preserved.reach protocol_sound rfl hc
  have hfit : ∀ r, (World.files c.world r).rows.Collectable := fun r =>
    (hI.coherent r).collectable (World.files c.world r).rows_checked (hopen r)
  refine Program.Always.forEach (I := fun rest v => World.Collecting i c.world rest v) (fun v hv => ?_)
    (fun entry rest v hv => ?_) _ (World.collecting_start order)
  · exact ⟨rfl,fun r hr => hv.collected r hr (by simp)⟩
  · refine (hv.step hfit).mono fun e u hu => ?_
    cases e with
    | ok _ => exact hu
    | error _ => exact hu.elim

/-- The service crashes while the change waits on its connection. -/
theorem guards_collected_while_held : ∃ c : engine.Config, (World.files c.world 0).rows.state = .guarded ∧
    World.Collects 3 ⟨id,fun _ => .refl _⟩ c.world := by
  obtain ⟨c,hc,hp⟩ := exists_of_play guardedWorld_initial (guardHeld ++ [.crash])
    (fun c => decide ((World.files c.world 0).rows.state = .guarded)) (by decide +kernel)
  exact ⟨c,of_decide_eq_true hp,guards_collected hc 3 _⟩

/-- The guard is armed and the service crashes before the arming is recorded. -/
def unrecordedArming : List engine.Move :=
  started ++ .enter (.confirm 0 none true (some "") "") :: advance 1 4 ++ .enter (.apply 0) :: advance 2 14 ++ [.crash]

theorem unrecorded_arming_stops_collection :
    (¬∀ c : engine.Config, Reach .free c → ∀ i order, (World.collection c.world order).Always (World.unattended i)
      (fun _ _ _ => True) (fun e _ => e ≠ .error .integrity) c.world) ∧
    ¬∀ c : engine.Config, Reach .free c → ∀ i order, (World.collection c.world order).Always (World.unattended i)
      (fun _ _ _ => True) (fun _ v => ∀ r ∈ World.runs c.world,
        (World.files v r).rows.Closed ∨ (World.files v r).rows.state = .guarded) c.world := by
  let listed : Order := ⟨id,fun _ => .refl _⟩
  constructor
  · intro h
    obtain ⟨c,hc,hp⟩ := exists_of_play guardedWorld_initial unrecordedArming (fun c =>
      decide (((World.collection c.world ⟨id,fun _ => .refl _⟩).exec (World.unattended 3) (fun _ => ([.fire 0 .notWritten false],{})) c.world).1 =
        .error .integrity)) (by decide +kernel)
    exact (h c hc 3 listed).exec (fun _ => ([.fire 0 .notWritten false],{})) (of_decide_eq_true hp)
  · intro h
    obtain ⟨c,hc,hp⟩ := exists_of_play guardedWorld_initial unrecordedArming (fun c =>
      let v : World := ((World.collection c.world ⟨id,fun _ => .refl _⟩).exec (World.unattended 3) (fun _ => ([],{})) c.world).2
      decide (0 ∈ World.runs c.world) && decide ((v.files 0).rows.state = .arming) &&
        (v.files 0).rows.guard.any fun g : GuardColumns => decide (g.settled = none)) (by decide +kernel)
    simp only [Bool.and_eq_true,decide_eq_true_eq] at hp
    obtain ⟨⟨hr,hstate⟩,hguard⟩ := hp
    obtain ⟨g,hg,hn⟩ := (Option.any_eq_true ..).mp hguard
    rcases (h c hc 3 listed).exec (fun _ => ([],{})) 0 hr with hclosed | hguarded
    · have hsome := hclosed g hg
      rw [of_decide_eq_true hn] at hsome
      cases hsome
    · have hboth := hstate.symm.trans hguarded
      cases hboth

end LocalPlane
