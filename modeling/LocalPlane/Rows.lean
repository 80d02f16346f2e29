import LocalPlane.Transactions

/-!
# What a Run's rows say

The rows of one Run without the proofs that the store accepts them, beside the journal
of its executor calls, and what every commit makes of them. A commit that is not aborted leaves exactly these rows, and it
gets there only when the checks inside its own transaction hold.
-/

set_option linter.dupNamespace false

namespace LocalPlane

/-- `held` says that the guarded change was written, verified and left waiting for its
connection, and `settledBy` which request recorded the end of the guard. -/
structure Rows where
  host : ℕ
  object : ObjectId
  supported : Bool
  preview : Preview
  run : RunColumns
  confirmation : Option Confirmation
  override : Option Confirmation
  grants : List Confirmation
  checkpoint : Option Checkpoint
  guard : Option GuardColumns
  change : Option ChangeColumns
  attempts : List AttemptColumns
  held : Bool
  settledBy : RequestId → Bool
  journal : List Call

def RunFile.rows (f : RunFile) : Rows :=
  { f with
    run := f.run.1
    guard := f.guard.map (·.1)
    change := f.change.map (·.1)
    attempts := f.attempts.map (·.1)
    held := f.events.any (·.event = .guardHoldStarted)
    settledBy := fun i => f.events.any fun e => e.event = .guardSettled && e.request = i }

namespace Rows

def state (x : Rows) : RunState := x.run.state
def consumed (x : Rows) : Bool := x.confirmation.any (·.consumed)

/-- The request whose apply consumed this Run's confirmation. -/
def spentBy (x : Rows) (request : RequestId) : Bool :=
  x.confirmation.any (·.consumedBy = some (.apply request))

/-- A terminal state reached by ending, not by cancelling. -/
def ended (x : Rows) : Bool := x.state.terminal && x.state ≠ .cancelled
def recoveryRequired (x : Rows) : Bool := x.change.any (·.result = .recoveryRequired)
def released (x : Rows) : Bool := x.attempts.any (·.releasesHold)
def outstanding (x : Rows) : Option Confirmation := x.grants.find? (!·.consumed)

def enter (x : Rows) (state : RunState) : Rows := { x with run := { x.run with state } }
def amend (x : Rows) (update : ChangeColumns → ChangeColumns) : Rows :=
  { x with change := x.change.map update }

def conclude (x : Rows) (state : RunState) (effect : HostEffect) : Rows :=
  { x with run := { x.run with state, hostEffect := effect, finished := true } }

def record (x : Rows) (outcome : MutationOutcome) : Rows :=
  { x.amend fun c => { c with mutation := some outcome, hostEffect := hostEffectFor outcome } with
    run := { x.run with hostEffect := hostEffectFor outcome } }

def settleWith (x : Rows) (report : GuardReport) (armed : GuardColumns → Bool) : Rows :=
  { x with guard := x.guard.map fun g => { g with
      settled := some report.phase
      armed := armed g
      fired := g.fired || report.reversal.isSome
      reversalOutcome := if report.reversal.isSome then report.reversal else g.reversalOutcome } }

def credit (x : Rows) (request : RequestId) : Rows :=
  { x with settledBy := fun j => x.settledBy j || decide (request = j) }

def spend (x : Rows) (request : RequestId) : Rows :=
  let named (c : Confirmation) : Confirmation := { c with consumedBy := some (.apply request) }
  { x with
    confirmation := x.confirmation.map named
    override := if x.preview.requiresOverride then x.override.map named else x.override
    run := if x.preview.armsRecovery then { x.run with state := .arming } else x.run }

def reattempt (x : Rows) (openedBy : RequestId) (update : AttemptColumns → AttemptColumns) : Rows :=
  match x.attempts.find? (·.openedBy = openedBy) with
  | none => x
  | some a => { x with attempts := x.attempts.map fun b => if b.openedBy = openedBy then update a else b }

/-- The hold a recovery operation needs: this Change ended in recovery, nobody released it,
and the lock is still there. -/
def OpenHold (x : Rows) (locked : Bool) : Prop :=
  x.recoveryRequired = true ∧ x.released = false ∧ locked = true

end Rows

namespace Commit

/-- What a commit makes of the rows when it is not aborted. -/
def rows (request : RequestId) (x : Rows) : Commit → Rows
  | .confirm method typedStatement =>
    { x with confirmation := some ⟨request,x.preview.digest,method,typedStatement,none⟩ }
  | .grantOverride => { x with override := some ⟨request,x.preview.digest,.acknowledge,none,none⟩ }
  | .cancel => { x with run := { x.run with state := .cancelled, cancelled := true, finished := true } }
  | .awaitConfirmation _ => x.enter .awaitingConfirmation
  | .consumeConfirmation _ => x.spend request
  | .failCorrelation _ | .failArming | .failGuardArming _ => x.conclude .failed .none
  | .writeCheckpoint correlation => match x.preview.change with
    | .field name current desired => { x with
        checkpoint := some ⟨name,current,desired,x.preview.managementPath,x.preview.evidence,correlation⟩ }
    | .action .. => x
  | .insertGuard => { x with guard := x.checkpoint.bind fun k => k.evidence.map fun evidence =>
      ⟨x.preview.guardWindow,evidence,.reversal request,false,none,none,false,none⟩ }
  | .recordArmed => { x with guard := x.guard.map fun g => { g with armed := true } }
  | .settleAbandoned report =>
    x.settleWith report fun g => g.armed || report = .disarmed || report.reversal.isSome
  | .cross _ correlation =>
    { x.enter .applying with change := some (.fresh x.preview request correlation) }
  | .beginDispatch => x.amend fun c => { c with dispatchBegan := true }
  | .settle outcome | .interruptDispatch outcome => x.record outcome
  | .startVerification => x.enter .verifying
  | .recordVerification read => x.amend fun c => { c with
      verification := read.outcome
      verificationObservation := read.observation
      verificationValue := read.value
      verificationState := if c.planned.isField then c.verificationState else read.state }
  | .hold _ => { x.enter .guarded with held := true }
  | .startRollback _ | .startLapse _ =>
    (x.enter .rollingBack).amend fun c => { c with rollbackRequired := true }
  | .beginRollback => x.amend fun c => { c with
      rollbackAttempt := some (.rollback request), rollbackDispatchBegan := true }
  | .recordRollback outcome => x.amend fun c => { c with rollbackOutcome := some outcome }
  | .startRollbackVerification _ => x.enter .rollbackVerifying
  | .recordRollbackVerification read => x.amend fun c => { c with
      rollbackVerification := read.outcome
      rollbackVerificationObservation := read.observation
      rollbackVerificationValue := read.value }
  | .finish _ effect state result reason =>
    (x.conclude state effect).amend fun c => { c with result, recoveryReason := reason, finished := true }
  | .settleGuard report => (x.settleWith report (·.armed)).credit request
  | .keep evidence =>
    let kept := x.guard.map fun g => { g with kept := evidence, settled := some .disarmed }
    { x with guard := kept }.credit request
  | .recordReversal attempt outcome => x.amend fun c => { c with
      rollbackAttempt := some attempt, rollbackDispatchBegan := true, rollbackOutcome := some outcome }
  | .grantRecovery =>
    { x with grants := x.grants ++ [⟨request,x.preview.digest,.acknowledge,none,none⟩] }
  | .openAttempt => { x with attempts := x.attempts ++ [.fresh request .retry (x.attempts.length + 1)] }
  | .recordEvidence read => x.reattempt request fun a => { a with
      evidence := read.outcome, evidenceObservation := read.observation }
  | .spendRecovery correlation => match x.outstanding with
    | none => x
    | some grant =>
      let spent := x.grants.map fun g =>
        if g = grant then { g with consumedBy := some (.retry request) } else g
      { x with grants := spent }.reattempt request fun a => { a with
        authority := some grant.grantedBy, correlation := some correlation
        mutationAttempt := some (.retry request), dispatchBegan := true }
  | .recordRecovery outcome => x.reattempt request fun a => { a with
      mutation := some outcome, hostEffect := hostEffectFor outcome }
  | .recordRecoveryVerification read => x.reattempt request fun a => { a with
      verification := read.outcome, verificationObservation := read.observation }
  | .completeRecovery outcome => x.reattempt request fun a => { a with
      outcome, releasesHold := true, finished := true }
  | .settleRetry outcome => x.reattempt request fun a => { a with outcome, finished := true }
  | .refuseRecovery code => x.reattempt request fun a => { a with
      outcome := .refused, refusalCode := some code, finished := true }
  | .resolve read statement note => { x with attempts := x.attempts ++
      [{ AttemptColumns.fresh request .resolve (x.attempts.length + 1) with
        evidence := read.outcome, evidenceObservation := read.observation, outcome := .resolved
        releasesHold := true, finished := true, operatorStatement := some statement, note }] }
  | .interruptAttempt openedBy unknown => x.reattempt openedBy fun a => { a with
      outcome := .interrupted, refusalCode := none, finished := true
      mutation := if unknown then some .writeUnknown else a.mutation
      hostEffect := if unknown then .writeUnknown else a.hostEffect }
  | .refuseApply | .targetCorrelated | .admitRecovery | .refuseKeep => x

/-- What a commit found in the rows, besides the CHECKs on what it left there. -/
def Requires (locked : Bool) (x : Rows) : Commit → Prop
  | .confirm .. => x.confirmation = none
  | .grantOverride => x.override = none
  | .cancel => x.state.appliable
  | .consumeConfirmation _ => (∃ c, x.confirmation = some c ∧ c.consumedBy = none ∧
      c.digest = x.preview.digest) ∧
      (x.preview.requiresOverride → ∃ o, x.override = some o ∧ o.consumedBy = none ∧
        o.digest = x.preview.digest)
  | .writeCheckpoint _ => x.checkpoint = none ∧ x.preview.change.isField
  | .insertGuard => x.guard = none ∧ ∃ k, x.checkpoint = some k ∧ k.evidence.isSome
  | .recordArmed | .settleAbandoned _ | .settleGuard _ => ∀ g, x.guard = some g → g.settled = none
  | .keep evidence => evidence.isSome ∧ ∀ g, x.guard = some g → g.settled = none
  | .cross .. => x.change = none ∧ x.consumed ∧
      (x.preview.requiresOverride → x.override.any (·.consumed)) ∧
      (x.preview.armsRecovery → x.checkpoint.isSome) ∧
      (x.preview.armsRecovery → x.checkpoint.any (·.managementPath = .onManagementPath) →
        ∃ g, x.guard = some g ∧ g.armed ∧ g.settled = none)
  | .grantRecovery => x.outstanding = none
  | .openAttempt | .resolve .. | .completeRecovery _ => x.OpenHold locked
  | .spendRecovery _ => x.OpenHold locked ∧ x.outstanding.isSome
  | _ => True

end Commit

namespace RunFile

variable {f f' : RunFile} {i : RequestId}

@[simp] theorem rows_append (event : RunEvent) (stateFrom stateTo : Option RunState) :
    (f.append i event stateFrom stateTo).rows = { f.rows with
      held := f.rows.held || event = .guardHoldStarted
      settledBy := fun j => f.rows.settledBy j || (event = .guardSettled && i = j) } := by
  simp [rows,append]

@[simp] theorem rows_note (event : RunEvent) : (f.note i event).rows = { f.rows with
      held := f.rows.held || event = .guardHoldStarted
      settledBy := fun j => f.rows.settledBy j || (event = .guardSettled && i = j) } := rows_append ..

/-- A transaction made of two parts commits both. -/
theorem bind_ok {α β : Type} {x : Except Error α} {k : α → Except Error β} {b : β}
    (h : (x >>= k) = .ok b) : ∃ a, x = .ok a ∧ k a = .ok b := by
  cases x with
  | error e => cases h
  | ok a => exact ⟨a,rfl,h⟩

theorem rows_setRun {c : RunColumns} (h : f.setRun c = .ok f') : f'.rows = { f.rows with run := c } := by
  obtain ⟨_,rfl⟩ := setRun_ok h; rfl

theorem rows_setChange {c : ChangeColumns} (h : f.setChange c = .ok f') :
    f'.rows = { f.rows with change := some c } := by
  obtain ⟨_,rfl⟩ := setChange_ok h; rfl

theorem rows_setGuard {g : GuardColumns} (h : f.setGuard g = .ok f') :
    (∀ g, f.rows.guard = some g → g.settled = none) ∧ f'.rows = { f.rows with guard := some g } := by
  obtain ⟨hs,_,rfl⟩ := setGuard_ok h
  refine ⟨fun g hg => ?_,rfl⟩
  obtain ⟨g',hg',rfl⟩ := Option.map_eq_some_iff.mp hg
  simpa [hg'] using hs

theorem rows_updateGuard {update : GuardColumns → GuardColumns} (h : f.updateGuard update = .ok f') :
    (∀ g, f.rows.guard = some g → g.settled = none) ∧
      f'.rows = { f.rows with guard := f.rows.guard.map update } := by
  unfold updateGuard at h
  split at h
  · next hn => cases h; simp [rows,hn]
  · next g hg =>
    obtain ⟨hs,hr⟩ := rows_setGuard h
    have hrow : f.rows.guard = some g.1 := congrArg (Option.map _) hg
    exact ⟨hs,by rw [hr,hrow]; rfl⟩

theorem rows_step {s : Step} (h : f.step i s = .ok f') :
    f'.rows = { f.rows with
      run := f.stepColumns s
      change := f.rows.change.map (s.change.getD id)
      held := f.rows.held || s.event = .guardHoldStarted
      settledBy := fun j => f.rows.settledBy j || (s.event = .guardSettled && i = j) } := by
  obtain ⟨_,change,rfl,hc⟩ := step_ok h
  simp [rows,hc,append]

theorem rows_recoveryRequired : f.rows.recoveryRequired = f.recoveryRequired := by
  cases h : f.change <;> simp [Rows.recoveryRequired,rows,recoveryRequired,h]

theorem rows_released : f.rows.released = f.releaseOf.isSome := by
  rw [Bool.eq_iff_iff]
  simp [Rows.released,rows,releaseOf]

theorem rows_find (openedBy : RequestId) : f.rows.attempts.find? (·.openedBy = openedBy) =
    (f.attempts.find? (·.1.openedBy = openedBy)).map (·.1) := List.find?_map ..

theorem rows_updateAttempt {openedBy : RequestId} {update : AttemptColumns → AttemptColumns}
    (h : f.updateAttempt openedBy update = .ok f') : f'.rows = f.rows.reattempt openedBy update := by
  unfold updateAttempt at h
  unfold Rows.reattempt
  rw [rows_find]
  split at h
  · next hn => cases h; simp [hn]
  · next a hf =>
    split at h
    · split at h
      · next ha _ =>
        cases h
        have hmap : (f.replaceAttempt openedBy ⟨update a.1,ha⟩).map (·.1) =
            f.rows.attempts.map fun b => if b.openedBy = openedBy then update a.1 else b := by
          simp only [rows,replaceAttempt,List.map_map]
          exact List.map_congr_left fun b _ => by simp only [Function.comp_apply]; split <;> rfl
        rw [hf]
        exact congrArg (fun l => { f.rows with attempts := l }) hmap
      · cases h
    · cases h

theorem rows_openHold {locked : Bool} {ignore : Option RequestId}
    (h : f.requireOpenHold locked ignore = .ok ()) : f.rows.OpenHold locked := by
  unfold requireOpenHold at h
  repeat' split at h
  all_goals cases h
  next hr hs hl _ =>
  exact ⟨rows_recoveryRequired.trans (by simpa using hr),rows_released.trans (by simpa using hs),
    by simpa using hl⟩

theorem rows_insertAttempt {a : AttemptColumns} (h : f.insertAttempt a = .ok f') :
    f.rows.recoveryRequired = true ∧ f'.rows = { f.rows with attempts := f.rows.attempts ++ [a] } := by
  obtain ⟨_,hr,_,rfl⟩ := insertAttempt_ok h
  exact ⟨rows_recoveryRequired.trans hr,by simp [rows]⟩

theorem rows_confirm {method : ConfirmationMethod} {typed : Option String}
    (h : f.confirm i method typed = .ok f') : f.rows.confirmation = none ∧
      f'.rows = (Commit.confirm method typed).rows i f.rows := by
  unfold confirm at h
  split at h
  · cases h
  · next hn => cases h; exact ⟨hn,by simp [Commit.rows,rows,note,append]⟩

theorem rows_grantOverride (h : f.grantOverride i = .ok f') : f.rows.override = none ∧
    f'.rows = Commit.grantOverride.rows i f.rows := by
  unfold grantOverride at h
  split at h
  · cases h
  · next hn => cases h; exact ⟨hn,by simp [Commit.rows,rows,note,append]⟩

theorem rows_cancel (h : f.cancel i = .ok f') : f.rows.state.appliable ∧
    f'.rows = Commit.cancel.rows i f.rows := by
  unfold cancel at h
  split at h
  · next ha =>
    obtain ⟨g,hg,h⟩ := bind_ok h
    cases h
    exact ⟨ha,by rw [rows_append,rows_setRun hg]; simp [Commit.rows,rows]⟩
  · cases h

theorem rows_consumeApply (h : f.consumeApply i = .ok f') :
    (∃ c, f.rows.confirmation = some c ∧ c.consumedBy = none ∧ c.digest = f.rows.preview.digest) ∧
      f'.rows = { f.rows with
        confirmation := f.rows.confirmation.map fun c => { c with consumedBy := some (.apply i) } } := by
  unfold consumeApply at h
  split at h
  · cases h
  · next c hc =>
    repeat' split at h
    all_goals cases h
    next hu hd =>
    exact ⟨⟨c,hc,by simpa [Confirmation.consumed] using hu,not_not.mp hd⟩,by
      simp [rows,note,append,hc]⟩

theorem rows_consumeOverride (h : f.consumeOverride i = .ok f') :
    (∃ o, f.rows.override = some o ∧ o.consumedBy = none ∧ o.digest = f.rows.preview.digest) ∧
      f'.rows = { f.rows with
        override := f.rows.override.map fun o => { o with consumedBy := some (.apply i) } } := by
  unfold consumeOverride at h
  split at h
  · cases h
  · next o ho =>
    repeat' split at h
    all_goals cases h
    next hu hd =>
    exact ⟨⟨o,ho,by simpa [Confirmation.consumed] using hu,not_not.mp hd⟩,by
      simp [rows,note,append,ho]⟩

theorem rows_consumeAuthorities (h : f.consumeAuthorities i = .ok f') :
    ((∃ c, f.rows.confirmation = some c ∧ c.consumedBy = none ∧ c.digest = f.rows.preview.digest) ∧
      (f.rows.preview.requiresOverride → ∃ o, f.rows.override = some o ∧ o.consumedBy = none ∧
        o.digest = f.rows.preview.digest)) ∧
      f'.rows = { f.rows.spend i with run := f.rows.run } := by
  obtain ⟨g,hg,h⟩ := bind_ok h
  obtain ⟨hc,hgr⟩ := rows_consumeApply hg
  have hp : g.preview = f.rows.preview := congrArg Rows.preview hgr
  rw [hp] at h
  split at h
  · next hr =>
    obtain ⟨ho,hr'⟩ := rows_consumeOverride h
    rw [hgr] at ho hr'
    exact ⟨⟨hc,fun _ => ho⟩,by rw [hr']; simp [Rows.spend,hr]⟩
  · next hr =>
    cases h
    exact ⟨⟨hc,fun hr' => absurd hr' hr⟩,by rw [hgr]; simp [Rows.spend,hr]⟩

theorem rows_consumeConfirmation {locked : Bool} {seen : RunState}
    (h : f.consumeConfirmation i seen = .ok f') :
    (Commit.consumeConfirmation seen).Requires locked f.rows ∧
      f'.rows = (Commit.consumeConfirmation seen).rows i f.rows := by
  obtain ⟨g,hg,h⟩ := bind_ok h
  obtain ⟨hc,hgr⟩ := rows_consumeAuthorities hg
  refine ⟨hc,?_⟩
  have hp : g.preview = f.rows.preview := congrArg Rows.preview hgr
  rw [hp] at h
  split at h
  · next ha =>
    obtain ⟨k,hk,h⟩ := bind_ok h
    cases h
    have hrun : g.run.1 = f.rows.run := congrArg Rows.run hgr
    rw [rows_append,rows_setRun hk,hgr]
    simp [Commit.rows,Rows.spend,ha,hrun]
  · next ha =>
    cases h
    rw [hgr]
    simp [Commit.rows,Rows.spend,ha]

theorem rows_writeCheckpoint {correlation : Correlation} (h : f.writeCheckpoint i correlation = .ok f') :
    (f.rows.checkpoint = none ∧ f.rows.preview.change.isField) ∧
      f'.rows = (Commit.writeCheckpoint correlation).rows i f.rows := by
  unfold writeCheckpoint at h
  split at h
  · next name current desired hch hn =>
    cases h
    refine ⟨⟨hn,?_⟩,?_⟩
    · show f.preview.change.isField; rw [hch]; rfl
    · simp [Commit.rows,rows,note,append,hch]
  · cases h

theorem rows_insertGuard (h : f.insertGuard i = .ok f') :
    (f.rows.guard = none ∧ ∃ k, f.rows.checkpoint = some k ∧ k.evidence.isSome) ∧
      f'.rows = Commit.insertGuard.rows i f.rows := by
  unfold insertGuard at h
  split at h
  · next k hn hk =>
    split at h
    · next e he =>
      split at h
      · refine ⟨⟨congrArg (Option.map _) hn,k,hk,by simp [he]⟩,?_⟩
        rw [(rows_setGuard h).2]
        simp [Commit.rows,rows,hk,he]
      · cases h
    · cases h
  · cases h

theorem rows_recordArmed (h : f.recordArmed i = .ok f') :
    (∀ g, f.rows.guard = some g → g.settled = none) ∧ f'.rows = Commit.recordArmed.rows i f.rows := by
  obtain ⟨g,hg,h⟩ := bind_ok h
  cases h
  obtain ⟨hs,hr⟩ := rows_updateGuard hg
  exact ⟨hs,by rw [rows_note,hr]; simp [Commit.rows]⟩

theorem rows_settleGuard {report : GuardReport} (h : f.settleGuard i report = .ok f') :
    (∀ g, f.rows.guard = some g → g.settled = none) ∧
      f'.rows = (Commit.settleGuard report).rows i f.rows := by
  obtain ⟨g,hg,h⟩ := bind_ok h
  cases h
  obtain ⟨hs,hr⟩ := rows_updateGuard hg
  exact ⟨hs,by rw [rows_note,hr]; simp [Commit.rows,Rows.settleWith,Rows.credit]⟩

theorem rows_keep {evidence : Option EvidenceId} (h : f.keep i evidence = .ok f') :
    (evidence.isSome ∧ ∀ g, f.rows.guard = some g → g.settled = none) ∧
      f'.rows = (Commit.keep evidence).rows i f.rows := by
  unfold keep at h
  split at h
  · cases h
  · obtain ⟨g,hg,h⟩ := bind_ok h
    cases h
    obtain ⟨hs,hr⟩ := rows_updateGuard hg
    exact ⟨⟨rfl,hs⟩,by rw [rows_note,rows_note,hr]; simp [Commit.rows,Rows.credit]⟩

theorem rows_cross {seen : RunState} {correlation : Correlation} {locked : Bool}
    (h : f.cross i seen correlation = .ok f') : (Commit.cross seen correlation).Requires locked f.rows ∧
      f'.rows = (Commit.cross seen correlation).rows i f.rows := by
  obtain ⟨g,hg,h⟩ := bind_ok h
  obtain ⟨_,rfl⟩ := setRun_ok hg
  split at h
  · next hm =>
    obtain ⟨k,hk,h⟩ := bind_ok h
    cases h
    have hc : f.change = none ∧ f.confirmation.any (·.consumed) ∧
        (f.preview.requiresOverride → f.override.any (·.consumed)) ∧
        (f.preview.armsRecovery → f.checkpoint.isSome) ∧
        (f.preview.armsRecovery → f.checkpoint.any (·.managementPath = .onManagementPath) →
          f.guard.any fun g => g.1.armed && g.1.settled.isNone) := by
      simp only [mayCross,Bool.and_eq_true,Bool.or_eq_true,Bool.not_eq_true'] at hm
      obtain ⟨⟨⟨⟨h1,h2⟩,h3⟩,h4⟩,h5⟩ := hm
      refine ⟨by simpa using h1,h2,fun hr => ?_,fun hr => ?_,fun hr hk => ?_⟩
      · simpa [hr] using h3
      · simpa [hr] using h4
      · simpa [hr,hk] using h5
    refine ⟨⟨congrArg (Option.map _) hc.1,hc.2.1,hc.2.2.1,hc.2.2.2.1,fun hr hk => ?_⟩,?_⟩
    · obtain ⟨g,hg,hgs⟩ := (Option.any_eq_true ..).mp (hc.2.2.2.2 hr hk)
      simp only [Bool.and_eq_true,Option.isNone_iff_eq_none] at hgs
      exact ⟨g.1,congrArg (Option.map _) hg,hgs.1,hgs.2⟩
    · rw [rows_append,rows_setChange hk]
      simp [Commit.rows,Rows.enter,rows]
  · cases h

theorem rows_recoveryStep {openedBy : RequestId} {event : RunEvent} {update : AttemptColumns → AttemptColumns}
    (hh : event ≠ .guardHoldStarted) (hs : event ≠ .guardSettled)
    (h : f.recoveryStep i openedBy event update = .ok f') : f'.rows = f.rows.reattempt openedBy update := by
  obtain ⟨g,hg,h⟩ := bind_ok h
  cases h
  rw [rows_note,rows_updateAttempt hg]
  simp [hh,hs]

theorem rows_openAttempt {locked : Bool} (h : f.openAttempt i locked = .ok f') :
    f.rows.OpenHold locked ∧ f'.rows = Commit.openAttempt.rows i f.rows := by
  obtain ⟨_,ho,h⟩ := bind_ok h
  obtain ⟨g,hg,h⟩ := bind_ok h
  cases h
  refine ⟨rows_openHold ho,?_⟩
  rw [rows_note,(rows_insertAttempt hg).2]
  simp [Commit.rows,rows]

theorem rows_resolve {locked : Bool} {read : ReadBack} {statement : String} {note : Option String}
    (h : f.resolve i locked read statement note = .ok f') :
    f.rows.OpenHold locked ∧ f'.rows = (Commit.resolve read statement note).rows i f.rows := by
  obtain ⟨_,ho,h⟩ := bind_ok h
  obtain ⟨g,hg,h⟩ := bind_ok h
  cases h
  refine ⟨rows_openHold ho,?_⟩
  rw [rows_note,rows_note,(rows_insertAttempt hg).2]
  simp [Commit.rows,rows]

theorem rows_completeRecovery {locked : Bool} {outcome : RecoveryAttemptOutcome}
    (h : f.completeRecovery i locked outcome = .ok f') :
    f.rows.OpenHold locked ∧ f'.rows = (Commit.completeRecovery outcome).rows i f.rows := by
  obtain ⟨_,ho,h⟩ := bind_ok h
  obtain ⟨g,hg,h⟩ := bind_ok h
  cases h
  refine ⟨rows_openHold ho,?_⟩
  rw [rows_note,rows_note,rows_updateAttempt hg]
  simp [Commit.rows]

theorem rows_grantRecovery (h : f.grantRecovery i = .ok f') :
    f.rows.outstanding = none ∧ f'.rows = Commit.grantRecovery.rows i f.rows := by
  unfold grantRecovery at h
  split at h
  · cases h
  · next hn => cases h; exact ⟨hn,by simp [Commit.rows,rows,note,append]⟩

theorem rows_spendRecovery {locked : Bool} {correlation : Correlation}
    (h : f.spendRecovery i locked correlation = .ok f') :
    (f.rows.OpenHold locked ∧ f.rows.outstanding.isSome) ∧
      f'.rows = (Commit.spendRecovery correlation).rows i f.rows := by
  obtain ⟨_,ho,h⟩ := bind_ok h
  split at h
  · cases h
  · next grant hg =>
    obtain ⟨k,hk,h⟩ := bind_ok h
    cases h
    have hout : f.rows.outstanding = some grant := hg
    refine ⟨⟨rows_openHold ho,by simp [hout]⟩,?_⟩
    rw [rows_note,rows_note,rows_updateAttempt hk]
    simp [Commit.rows,hout]
    rfl

theorem rows_endUnwritten {event : RunEvent} {seen : RunState} (hh : event ≠ .guardHoldStarted)
    (hs : event ≠ .guardSettled) (h : f.endUnwritten i event seen = .ok f') :
    f'.rows = f.rows.conclude .failed .none := by
  rw [rows_step h]
  simp [Rows.conclude,hh,hs,stepColumns,rows]

end RunFile

/-- Everything one commit found and everything it left, whatever it was. -/
theorem Commit.run_ok {i : RequestId} {locked : Bool} {f f' : RunFile} {c : Commit}
    (h : c.run i locked f = .ok f') : c.Requires locked f.rows ∧ f'.rows = c.rows i f.rows := by
  cases c with
  | confirm method typed => exact RunFile.rows_confirm h
  | grantOverride => exact RunFile.rows_grantOverride h
  | cancel => exact RunFile.rows_cancel h
  | consumeConfirmation seen => exact RunFile.rows_consumeConfirmation h
  | writeCheckpoint correlation => exact RunFile.rows_writeCheckpoint h
  | insertGuard => exact RunFile.rows_insertGuard h
  | recordArmed => exact RunFile.rows_recordArmed h
  | settleAbandoned report => exact RunFile.rows_updateGuard h
  | settleGuard report => exact RunFile.rows_settleGuard h
  | keep evidence => exact RunFile.rows_keep h
  | cross seen correlation => exact RunFile.rows_cross h
  | grantRecovery => exact RunFile.rows_grantRecovery h
  | openAttempt => exact RunFile.rows_openAttempt h
  | spendRecovery correlation => exact RunFile.rows_spendRecovery h
  | completeRecovery outcome => exact RunFile.rows_completeRecovery h
  | resolve read statement note => exact RunFile.rows_resolve h
  | refuseApply => cases h; exact ⟨trivial,by simp [Commit.rows]⟩
  | targetCorrelated => cases h; exact ⟨trivial,by simp [Commit.rows]⟩
  | failCorrelation seen => exact ⟨trivial,RunFile.rows_endUnwritten (by decide) (by decide) h⟩
  | failArming => exact ⟨trivial,RunFile.rows_endUnwritten (by decide) (by decide) h⟩
  | failGuardArming seen => exact ⟨trivial,RunFile.rows_endUnwritten (by decide) (by decide) h⟩
  | recordEvidence read => exact ⟨trivial,RunFile.rows_recoveryStep (by decide) (by decide) h⟩
  | recordRecovery outcome => exact ⟨trivial,RunFile.rows_recoveryStep (by decide) (by decide) h⟩
  | recordRecoveryVerification read => exact ⟨trivial,RunFile.rows_recoveryStep (by decide) (by decide) h⟩
  | settleRetry outcome => exact ⟨trivial,RunFile.rows_recoveryStep (by decide) (by decide) h⟩
  | refuseRecovery code => exact ⟨trivial,RunFile.rows_recoveryStep (by decide) (by decide) h⟩
  | interruptAttempt openedBy unknown => exact ⟨trivial,RunFile.rows_recoveryStep (by decide) (by decide) h⟩
  | _ =>
    refine ⟨trivial,(RunFile.rows_step h).trans ?_⟩
    simp [Commit.rows,Rows.enter,Rows.amend,Rows.record,Rows.conclude,RunFile.stepColumns,RunFile.state,
      RunFile.rows]

end LocalPlane
