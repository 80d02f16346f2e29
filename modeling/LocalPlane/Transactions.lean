import LocalPlane.RunFile

/-!
# The transactions of the change engine

Every durable commit the engine makes on a Run's rows, named after what it records.
A commit either produces the rows it leaves behind or is aborted and leaves none.
-/

set_option linter.dupNamespace false

namespace LocalPlane

inductive Commit where
  | confirm (method : ConfirmationMethod) (typedStatement : Option String)
  | grantOverride
  | cancel
  | awaitConfirmation (seen : RunState)
  | refuseApply
  | consumeConfirmation (seen : RunState)
  | targetCorrelated
  | failCorrelation (seen : RunState)
  | writeCheckpoint (correlation : Correlation)
  | failArming
  | insertGuard
  | recordArmed
  | settleAbandoned (report : GuardReport)
  | failGuardArming (seen : RunState)
  | cross (seen : RunState) (correlation : Correlation)
  | beginDispatch
  | settle (outcome : MutationOutcome)
  | startVerification
  | recordVerification (read : ReadBack)
  | hold (seen : RunState)
  | startRollback (seen : RunState)
  | beginRollback
  | recordRollback (outcome : MutationOutcome)
  | startRollbackVerification (seen : RunState)
  | recordRollbackVerification (read : ReadBack)
  | admitRecovery
  | finish (seen : RunState) (effect : HostEffect) (state : RunState) (result : ChangeResult)
      (reason : Option RecoveryReason)
  | settleGuard (report : GuardReport)
  | refuseKeep
  | keep (evidence : Option EvidenceId)
  | startLapse (seen : RunState)
  | recordReversal (attempt : AttemptId) (outcome : MutationOutcome)
  | interruptDispatch (outcome : MutationOutcome)
  | grantRecovery
  | openAttempt
  | recordEvidence (read : ReadBack)
  | spendRecovery (correlation : Correlation)
  | recordRecovery (outcome : MutationOutcome)
  | recordRecoveryVerification (read : ReadBack)
  | completeRecovery (outcome : RecoveryAttemptOutcome)
  | settleRetry (outcome : RecoveryAttemptOutcome)
  | refuseRecovery (code : String)
  | resolve (read : ReadBack) (statement : String) (note : Option String)
  | interruptAttempt (openedBy : RequestId) (unknown : Bool)
  deriving DecidableEq

/-- Whether the commit deletes the Run's lock row along with what it records. -/
def Commit.releases : Commit → Bool
  | .refuseApply | .failCorrelation _ | .failArming | .failGuardArming _ | .completeRecovery _
  | .resolve .. => true
  | .finish _ _ _ _ reason => reason.isNone
  | _ => false

/-- The row the boundary inserts: no dispatch marker, no outcome, effect `none`. -/
def ChangeColumns.fresh (preview : Preview) (request : RequestId) (correlation : Correlation) :
    ChangeColumns :=
  { planned := preview.change, checkpoint := preview.armsRecovery, correlation
    applyAttempt := .dispatch request, dispatchBegan := false, mutation := none, hostEffect := .none
    verification := .notAttempted, verificationObservation := none, verificationValue := none
    verificationState := none, rollbackRequired := false, rollbackAttempt := none
    rollbackDispatchBegan := false, rollbackOutcome := none, rollbackVerification := .notAttempted
    rollbackVerificationObservation := none, rollbackVerificationValue := none
    result := .inFlight, recoveryReason := none, finished := false }

/-- An attempt as it is first written: under way, with nothing read and nothing dispatched. -/
def AttemptColumns.fresh (request : RequestId) (kind : RecoveryActionKind) (sequence : ℕ) :
    AttemptColumns :=
  { openedBy := request, kind, sequence, evidence := .notAttempted
    evidenceObservation := none, authority := none, correlation := none, mutationAttempt := none
    dispatchBegan := false, mutation := none, hostEffect := .none, verification := .notAttempted
    verificationObservation := none, outcome := .inFlight, refusalCode := none, releasesHold := false
    finished := false, operatorStatement := none, note := none }

namespace RunFile

def confirm (f : RunFile) (request : RequestId) (method : ConfirmationMethod)
    (typedStatement : Option String) : Except Error RunFile :=
  match f.confirmation with
  | some _ => .error (.refused "confirmation_already_satisfied")
  | none =>
    let granted : Confirmation := ⟨request,f.preview.digest,method,typedStatement,none⟩
    .ok <| { f with confirmation := some granted }.note request .confirmationSatisfied

def grantOverride (f : RunFile) (request : RequestId) : Except Error RunFile :=
  match f.override with
  | some _ => .error (.refused "self_impact_override_already_granted")
  | none =>
    let granted : Confirmation := ⟨request,f.preview.digest,.acknowledge,none,none⟩
    .ok <| { f with override := some granted }.note request .confirmationSatisfied

/-- Mark a Run cancelled. The preview it published stays exactly as it is. -/
def cancel (f : RunFile) (request : RequestId) : Except Error RunFile :=
  if f.state.appliable then do
    let cancelled ← f.setRun { f.run.1 with state := .cancelled, cancelled := true, finished := true }
    return cancelled.append request .runCancelled f.state (some .cancelled)
  else .error (.refused "run_not_cancellable")

/-- Spend the override, inside the caller's transaction. -/
def consumeOverride (f : RunFile) (request : RequestId) : Except Error RunFile :=
  match f.override with
  | none => .error (.refused "self_impact_override_required")
  | some override =>
    if override.consumed then .error (.refused "self_impact_override_already_consumed")
    else if override.digest ≠ f.preview.digest then .error (.refused "preview_digest_mismatch")
    else
      let spent := { override with consumedBy := some (.apply request) }
      .ok <| { f with override := some spent }.note request .confirmationConsumed

def consumeApply (f : RunFile) (request : RequestId) : Except Error RunFile :=
  match f.confirmation with
  | none => .error (.refused "confirmation_required")
  | some confirmation =>
    if confirmation.consumed then .error (.refused "confirmation_already_consumed")
    else if confirmation.digest ≠ f.preview.digest then .error (.refused "preview_digest_mismatch")
    else
      let spent := { confirmation with consumedBy := some (.apply request) }
      .ok <| { f with confirmation := some spent }.note request .confirmationConsumed

/-- The two authorities are spent together or not at all. -/
def consumeAuthorities (f : RunFile) (request : RequestId) : Except Error RunFile := do
  let f ← f.consumeApply request
  if f.preview.requiresOverride then f.consumeOverride request else return f

/-- Both authorities are consumed in one transaction, and `arming` is entered only where
there is recovery to arm. The state is written without being looked at. -/
def consumeConfirmation (f : RunFile) (request : RequestId) (seen : RunState) : Except Error RunFile := do
  let f ← f.consumeAuthorities request
  if f.preview.armsRecovery then
    let f ← f.setState .arming
    return f.append request .armingStarted seen (some .arming)
  else return f

def endUnwritten (f : RunFile) (request : RequestId) (event : RunEvent) (seen : RunState) : Except Error RunFile :=
  f.step request { event, state := some .failed, stateFrom := some seen, hostEffect := some .none, finished := true }

def writeCheckpoint (f : RunFile) (request : RequestId) (correlation : Correlation) : Except Error RunFile :=
  match f.preview.change,f.checkpoint with
  | .field name current desired,none =>
    let armed : Checkpoint :=
      ⟨name,current,desired,f.preview.managementPath,f.preview.evidence,correlation⟩
    .ok <| { f with checkpoint := some armed }.note request .checkpointWritten
  | _,_ => .error .integrity

/-- The row says only that the host side has been asked. The trigger wants this Run's own
typed apply confirmation, and the columns a proven management path. -/
def insertGuard (f : RunFile) (request : RequestId) : Except Error RunFile :=
  match f.guard,f.checkpoint with
  | none,some checkpoint =>
    match checkpoint.evidence with
    | some evidence =>
      if checkpoint.managementPath = .onManagementPath && f.confirmation.any (·.method = .typed) then
        f.setGuard ⟨f.preview.guardWindow,evidence,.reversal request,false,none,none,false,none⟩
      else .error .integrity
    | none => .error .integrity
  | _,_ => .error .integrity

/-- An update of a guard row that does not exist changes nothing. -/
def updateGuard (f : RunFile) (update : GuardColumns → GuardColumns) : Except Error RunFile :=
  match f.guard with
  | none => .ok f
  | some guard => f.setGuard (update guard.1)

def recordArmed (f : RunFile) (request : RequestId) : Except Error RunFile := do
  let f ← f.updateGuard fun g => { g with armed := true }
  return f.note request .guardArmed

def settleAbandoned (f : RunFile) (report : GuardReport) : Except Error RunFile :=
  f.updateGuard fun g => { g with
    settled := some report.phase
    armed := g.armed || report = .disarmed || report.reversal.isSome
    fired := g.fired || report.reversal.isSome
    reversalOutcome := if report.reversal.isSome then report.reversal else g.reversalOutcome }

def settleGuard (f : RunFile) (request : RequestId) (report : GuardReport) : Except Error RunFile := do
  let f ← f.updateGuard fun g => { g with
    settled := some report.phase
    fired := g.fired || report.reversal.isSome
    reversalOutcome := if report.reversal.isSome then report.reversal else g.reversalOutcome }
  return f.note request .guardSettled

/-- The triggers on the write boundary: consumed authority, the override where the plan
rests on one, the Run's own checkpoint, and an armed guard on the management path. -/
def mayCross (f : RunFile) : Bool :=
  f.change.isNone && f.confirmation.any (·.consumed) &&
  (!f.preview.requiresOverride || f.override.any (·.consumed)) &&
  (!f.preview.armsRecovery || f.checkpoint.isSome) &&
  (!(f.preview.armsRecovery && f.checkpoint.any (·.managementPath = .onManagementPath)) ||
    f.guard.any fun g => g.1.armed && g.1.settled.isNone)

def cross (f : RunFile) (request : RequestId) (seen : RunState) (correlation : Correlation) :
    Except Error RunFile := do
  let f ← f.setState .applying
  if f.mayCross then
    let f ← f.setChange (.fresh f.preview request correlation)
    return f.append request .writeBoundaryCrossed seen (some .applying)
  else .error .integrity

def recordVerification (f : RunFile) (request : RequestId) (read : ReadBack) : Except Error RunFile :=
  f.step request { event := .verificationResult, change := some fun c => { c with
    verification := read.outcome
    verificationObservation := read.observation
    verificationValue := read.value
    verificationState := if c.planned.isField then c.verificationState else read.state } }

def recordRollbackVerification (f : RunFile) (request : RequestId) (read : ReadBack) : Except Error RunFile :=
  f.step request { event := .rollbackVerificationResult, change := some fun c => { c with
    rollbackVerification := read.outcome
    rollbackVerificationObservation := read.observation
    rollbackVerificationValue := read.value } }

def finish (f : RunFile) (request : RequestId) (seen : RunState) (effect : HostEffect) (state : RunState)
    (result : ChangeResult) (reason : Option RecoveryReason) : Except Error RunFile :=
  f.step request
    { event := .runFinished, state := some state, stateFrom := some seen, hostEffect := some effect
      finished := true
      change := some fun c => { c with result := result, recoveryReason := reason, finished := true } }

def keep (f : RunFile) (request : RequestId) (evidence : Option EvidenceId) : Except Error RunFile :=
  match evidence with
  | none => .error .integrity
  | some proof => do
    let f ← f.updateGuard fun g => { g with kept := some proof, settled := some .disarmed }
    return (f.note request .guardConnectionProved).note request .guardSettled

/-- Recovery is what this Change ended in, nobody has released it, and it still holds. -/
def requireOpenHold (f : RunFile) (locked : Bool) (ignore : Option RequestId) : Except Error Unit :=
  if !f.recoveryRequired then .error (.refused "change_not_in_recovery")
  else if f.releaseOf.isSome then .error (.refused "recovery_already_resolved")
  else if !locked then .error (.refused "recovery_hold_not_held")
  else if f.inFlight.any fun a => some a.1.openedBy ≠ ignore then
    .error (.refused "recovery_attempt_in_flight")
  else .ok ()

def grantRecovery (f : RunFile) (request : RequestId) : Except Error RunFile :=
  match f.outstanding with
  | some _ => .error (.refused "recovery_confirmation_already_satisfied")
  | none =>
    let granted : Confirmation := ⟨request,f.preview.digest,.acknowledge,none,none⟩
    .ok <| { f with grants := f.grants ++ [granted] }.note request .recoveryConfirmationSatisfied

def openAttempt (f : RunFile) (request : RequestId) (locked : Bool) : Except Error RunFile := do
  f.requireOpenHold locked none
  let f ← f.insertAttempt (.fresh request .retry (f.attempts.length + 1))
  return f.note request .recoveryRetryStarted

def recoveryStep (f : RunFile) (request openedBy : RequestId) (event : RunEvent)
    (update : AttemptColumns → AttemptColumns) : Except Error RunFile := do
  let f ← f.updateAttempt openedBy update
  return f.note request event

/-- Consume the authority and mark the dispatch durably, in one transaction. -/
def spendRecovery (f : RunFile) (request : RequestId) (locked : Bool) (correlation : Correlation) :
    Except Error RunFile := do
  f.requireOpenHold locked (some request)
  match f.outstanding with
  | none => .error (.refused "recovery_confirmation_required")
  | some grant =>
    let f := { f with grants := f.grants.map fun g =>
      if g = grant then { g with consumedBy := some (.retry request) } else g }
    let f ← f.updateAttempt request fun a => { a with
      authority := some grant.grantedBy, correlation := some correlation
      mutationAttempt := some (.retry request), dispatchBegan := true }
    return (f.note request .recoveryConfirmationConsumed).note request .recoveryMutationDispatched

def completeRecovery (f : RunFile) (request : RequestId) (locked : Bool)
    (outcome : RecoveryAttemptOutcome) : Except Error RunFile := do
  f.requireOpenHold locked (some request)
  let f ← f.updateAttempt request fun a => { a with outcome, releasesHold := true, finished := true }
  return (f.note request .recoveryRetryFinished).note request .recoveryHoldReleased

def resolve (f : RunFile) (request : RequestId) (locked : Bool) (read : ReadBack) (statement : String)
    (note : Option String) : Except Error RunFile := do
  f.requireOpenHold locked none
  let f ← f.insertAttempt { AttemptColumns.fresh request .resolve (f.attempts.length + 1) with
    evidence := read.outcome, evidenceObservation := read.observation, outcome := .resolved
    releasesHold := true, finished := true, operatorStatement := some statement, note }
  return (f.note request .recoveryResolved).note request .recoveryHoldReleased

def interruptAttempt (f : RunFile) (request : RequestId) (openedBy : RequestId) (unknown : Bool) : Except Error RunFile :=
  f.recoveryStep request openedBy .recoveryRetryFinished fun a => { a with
    outcome := .interrupted, refusalCode := none, finished := true
    mutation := if unknown then some .writeUnknown else a.mutation
    hostEffect := if unknown then .writeUnknown else a.hostEffect }

end RunFile

/-- What the commit leaves in the Run's rows, for the request that makes it. `locked` says
whether the Run's lock row exists. -/
def Commit.run (request : RequestId) (locked : Bool) (f : RunFile) : Commit → Except Error RunFile
  | .confirm method typedStatement => f.confirm request method typedStatement
  | .grantOverride => f.grantOverride request
  | .cancel => f.cancel request
  | .awaitConfirmation seen => f.step request
      { event := .confirmationRequired, state := some .awaitingConfirmation, stateFrom := some seen }
  | .refuseApply => .ok (f.note request .applyRefused)
  | .consumeConfirmation seen => f.consumeConfirmation request seen
  | .targetCorrelated => .ok (f.note request .targetCorrelated)
  | .failCorrelation seen => f.endUnwritten request .targetCorrelationFailed seen
  | .writeCheckpoint correlation => f.writeCheckpoint request correlation
  | .failArming => f.endUnwritten request .armingFailed .arming
  | .insertGuard => f.insertGuard request
  | .recordArmed => f.recordArmed request
  | .settleAbandoned report => f.settleAbandoned report
  | .failGuardArming seen => f.endUnwritten request .guardArmingFailed seen
  | .cross seen correlation => f.cross request seen correlation
  | .beginDispatch => f.step request
      { event := .mutationDispatched, change := some fun c => { c with dispatchBegan := true } }
  | .settle outcome => f.step request
      { event := .mutationResult, hostEffect := some (hostEffectFor outcome)
        change := some fun c => { c with mutation := some outcome, hostEffect := hostEffectFor outcome } }
  | .startVerification => f.step request
      { event := .verificationStarted, state := some .verifying, stateFrom := some .applying }
  | .recordVerification read => f.recordVerification request read
  | .hold seen => f.step request
      { event := .guardHoldStarted, state := some .guarded, stateFrom := some seen }
  | .startRollback seen => f.step request
      { event := .rollbackStarted, state := some .rollingBack, stateFrom := some seen
        change := some fun c => { c with rollbackRequired := true } }
  | .beginRollback => f.step request
      { event := .rollbackMutationDispatched
        change := some fun c => { c with
          rollbackAttempt := some (.rollback request), rollbackDispatchBegan := true } }
  | .recordRollback outcome => f.step request
      { event := .rollbackMutationResult
        change := some fun c => { c with rollbackOutcome := some outcome } }
  | .startRollbackVerification seen => f.step request
      { event := .rollbackVerificationStarted, state := some .rollbackVerifying, stateFrom := some seen }
  | .recordRollbackVerification read => f.recordRollbackVerification request read
  | .admitRecovery => f.step request { event := .recoveryRequired }
  | .finish seen effect state result reason => f.finish request seen effect state result reason
  | .settleGuard report => f.settleGuard request report
  | .refuseKeep => f.step request { event := .guardKeepRefused }
  | .keep evidence => f.keep request evidence
  | .startLapse seen => f.step request
      { event := .rollbackStarted, state := some .rollingBack, stateFrom := some seen
        change := some fun c => { c with rollbackRequired := true } }
  | .recordReversal attempt outcome => f.step request
      { event := .rollbackMutationResult
        change := some fun c => { c with
          rollbackAttempt := some attempt, rollbackDispatchBegan := true, rollbackOutcome := some outcome } }
  | .interruptDispatch outcome => f.step request
      { event := .mutationResult, hostEffect := some (hostEffectFor outcome)
        change := some fun c => { c with mutation := some outcome, hostEffect := hostEffectFor outcome } }
  | .grantRecovery => f.grantRecovery request
  | .openAttempt => f.openAttempt request locked
  | .recordEvidence read => f.recoveryStep request request .recoveryEvidenceResult fun a => { a with
      evidence := read.outcome, evidenceObservation := read.observation }
  | .spendRecovery correlation => f.spendRecovery request locked correlation
  | .recordRecovery outcome => f.recoveryStep request request .recoveryMutationResult fun a => { a with
      mutation := some outcome, hostEffect := hostEffectFor outcome }
  | .recordRecoveryVerification read => f.recoveryStep request request .recoveryVerificationResult fun a =>
      { a with verification := read.outcome, verificationObservation := read.observation }
  | .completeRecovery outcome => f.completeRecovery request locked outcome
  | .settleRetry outcome => f.recoveryStep request request .recoveryRetryFinished fun a => { a with
      outcome, finished := true }
  | .refuseRecovery code => f.recoveryStep request request .recoveryRetryFinished fun a => { a with
      outcome := .refused, refusalCode := some code, finished := true }
  | .resolve read statement note => f.resolve request locked read statement note
  | .interruptAttempt openedBy unknown => f.interruptAttempt request openedBy unknown

end LocalPlane
