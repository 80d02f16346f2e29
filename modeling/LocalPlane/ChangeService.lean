import LocalPlane.World

/-!
# The change service

Everything after the preview: confirming, arming, the one path on which a host is
written, keeping a guarded change, recovery, and what a restart makes of the rows a
crash left. Each function is the sequence of reads, commits and executor calls its
source makes, with every early return and every refusal.
-/

set_option linter.dupNamespace false

namespace LocalPlane

abbrev signature : Signature := ⟨Op,Op.Ret⟩
abbrev Service (α : Type) := Program signature Error α

inductive Response where
  | done
  | ended (run : RunRecord) (change : ChangeColumns)

namespace Service

def ask (op : Op) : Service op.Ret := .act op fun answer => .ret (.ok answer)
def commit (run : RunId) (c : Commit) : Service Unit := .act (.commit run c) .ret
def acquire (run : RunId) : Service RunRecord := .act (.acquire run) .ret
def openHold (run : RunId) : Service Unit := .act (.hold run) .ret

def refuse {α : Type} (code : String) : Service α := .ret (.error (.refused code))

/-- An executor's own refusal, raised as an error with its code. -/
def correlate (run : RunId) : Service Correlation := .act (.correlate run) fun
  | .ok correlation => .ret (.ok correlation)
  | .error code => refuse code

def requireChange (run : RunId) : Service ChangeColumns := .act (.change run) fun
  | some change => .ret (.ok change)
  | none => .ret (.error .assertion)

def requireTarget (run : RunId) : Service Unit := do
  if ← ask (.target run) then return () else refuse "object_not_found"

def requireExecutor (run : RunRecord) : Service Unit :=
  if run.supported then return () else refuse "execution_not_implemented"

def requireExecutablePreview (run : RunRecord) : Service Unit :=
  if run.preview.executable then return () else refuse "preview_not_executable"

/-- Re-plan under this request's evidence, and refuse unless every gate passes now. -/
def planNow (run : RunId) : Service Unit := do
  match ← ask (.replan run) with
  | some code => refuse code
  | none => return ()

/-- What a fresh reading must show for an end state to be proven. -/
inductive Expectation where
  | field (value : Int)
  | action (state : String)

def appliedExpectation (change : ChangeColumns) : Expectation :=
  match change.planned with
  | .field _ _ desired => .field desired
  | .action _ _ expected => .action expected

def restoredExpectation (change : ChangeColumns) : Expectation :=
  match change.planned with
  | .field _ current _ => .field current
  | .action _ observed _ => .action observed

/-- A controlled value is compared; how an action's reading is judged is its executor's business. -/
def prove (facts : Facts) : Expectation → VerificationOutcome × Option Int × Option String
  | .field expected =>
    match facts.value with
    | none => (.valueUnreadable,none,none)
    | some value => if value = expected then (.verified,some value,none) else (.mismatch,some value,none)
  | .action _ => (facts.judged,none,facts.state)

/-- One fresh reading, accepted only from the capability and provider the plan published. -/
def judge (preview : Preview) (expectation : Expectation) : Observed → ReadBack
  | .unavailable absent => ⟨if absent then .targetAbsent else .observationUnavailable,none,none,none⟩
  | .taken observation capability provider facts =>
    if capability ≠ preview.verificationCapability ∨ provider ≠ preview.verificationProvider then
      ⟨.sourceIncompatible,some observation,none,none⟩
    else
      let proof := prove facts expectation
      ⟨proof.1,some observation,proof.2.1,proof.2.2⟩

def readBack (run : RunRecord) (expectation : Expectation) : Service ReadBack := do
  let attempt ← ask (.observe run.id)
  return judge run.preview expectation attempt

/-! Before the boundary -/

def confirm (id : RunId) (digest : Option ℕ) (acknowledge : Bool) (typed : Option String)
    (displayName : String) : Service Response := do
  let run ← ask (.run id)
  if !run.state.appliable then refuse "run_not_confirmable"
  else if digest.any (· ≠ run.preview.digest) then refuse "preview_digest_mismatch"
  else if !run.preview.confirmationRequired then refuse "confirmation_not_required"
  else
    requireExecutablePreview run
    if run.preview.confirmationMethod = .none then refuse "confirmation_method_unsupported"
    else if !acknowledge then refuse "confirmation_not_acknowledged"
    else
      if run.preview.confirmationMethod = .typed then
        requireTarget id
        match typed with
        | none => refuse "confirmation_object_required"
        | some statement =>
          if statement ≠ displayName then refuse "confirmation_object_mismatch" else pure ()
      else if typed.isSome then refuse "confirmation_object_not_required"
      else pure ()
      planNow id
      commit id (.confirm run.preview.confirmationMethod typed)
      return .done

def grantOverride (id : RunId) (digest : Option ℕ) (acknowledge : Bool) : Service Response := do
  let run ← ask (.run id)
  if !run.state.appliable then refuse "run_not_confirmable"
  else if digest.any (· ≠ run.preview.digest) then refuse "preview_digest_mismatch"
  else if !run.preview.requiresOverride then refuse "self_impact_override_not_applicable"
  else if !acknowledge then refuse "confirmation_not_acknowledged"
  else
    planNow id
    commit id .grantOverride
    return .done

def cancel (id : RunId) : Service Response := do
  commit id .cancel
  return .done

/-- The transition is committed on its own, from the state this apply read earlier. -/
def consumeConfirmation (run : RunRecord) : Service RunRecord := do
  let run ← if run.state = .preview then do
      commit run.id (.awaitConfirmation run.state)
      ask (.run run.id)
    else pure run
  commit run.id (.consumeConfirmation run.state)
  ask (.run run.id)

/-- What apply does before anything is consumed; every step can only refuse. -/
def gates (run : RunRecord) : Service RunRecord := do
  requireTarget run.id
  requireExecutablePreview run
  planNow run.id
  consumeConfirmation run

def refusingApply (id : RunId) (body : Service RunRecord) : Service RunRecord :=
  tryCatch body fun
    | .refused code => do
      commit id .refuseApply
      refuse code
    | e => throw e

def correlateTarget (run : RunRecord) : Service Correlation := do
  let correlation ← tryCatch (correlate run.id) fun e => do
    commit run.id (.failCorrelation run.state)
    throw e
  commit run.id .targetCorrelated
  return correlation

/-- Write the durable rollback material. Nothing may be written before this exists. -/
def arm (run : RunRecord) : Service Checkpoint := do
  tryCatch (do
      let correlation ← correlate run.id
      commit run.id (.writeCheckpoint correlation)) fun e => do
    commit run.id .failArming
    match e with
    | .refused code => refuse code
    | _ => refuse "checkpoint_not_written"
  match ← ask (.checkpoint run.id) with
  | some checkpoint => return checkpoint
  | none => throw .assertion

def prepare (run : RunRecord) : Service (Option Checkpoint × Correlation) := do
  if run.preview.armsRecovery then
    let checkpoint ← arm run
    return (some checkpoint,checkpoint.correlation)
  else
    let correlation ← correlateTarget run
    return (none,correlation)

/-- A guard was asked for and refused. Find out whether one is running anyway. -/
def abandonGuard (run : RunRecord) : Service Unit := do
  let report ← ask (.disarmGuard run.id)
  commit run.id (.settleAbandoned report)
  commit run.id (.failGuardArming run.state)

def guardAnswered (run : RunRecord) : Except String Unit → Service Unit
  | .error code => do
    abandonGuard run
    refuse code
  | .ok () => commit run.id .recordArmed

/-- Two commits and a request between them, in that order. -/
def armGuard (run : RunRecord) (checkpoint : Option Checkpoint) : Service Unit := do
  match checkpoint with
  | none => throw .assertion
  | some checkpoint =>
    let confirmation ← ask (.confirmation run.id)
    if !confirmation.any (·.consumed) then refuse "confirmation_required"
    else
      commit run.id .insertGuard
      let guard : ArmedGuard :=
        ⟨run.id,run.object,checkpoint.desired,checkpoint.before,run.preview.guardWindow⟩
      let answer ← ask (.armGuard run.id guard)
      guardAnswered run answer

/-! The boundary and after it -/

/-- The write boundary. After this transaction a Change exists. -/
def cross (run : RunRecord) (correlation : Correlation) : Service ChangeColumns := do
  commit run.id (.cross run.state correlation)
  requireChange run.id

/-- Assembled from the Change and from nothing else. -/
def applyRequest (change : ChangeColumns) : MutationRequest :=
  match change.planned with
  | .field _ current desired => ⟨.apply,change.applyAttempt,some (current,desired)⟩
  | .action .. => ⟨.apply,change.applyAttempt,none⟩

def dispatch (run : RunRecord) (change : ChangeColumns) : Service MutationReport := do
  commit run.id .beginDispatch
  ask (.mutate run.id (applyRequest change))

def settle (run : RunRecord) (report : MutationReport) : Service ChangeColumns := do
  commit run.id (.settle report.outcome)
  requireChange run.id

abbrev Ended := RunRecord × ChangeColumns

/-- End the Run and the Change together. -/
def finish (run : RunRecord) (state : RunState) (result : ChangeResult)
    (reason : Option RecoveryReason) : Service Ended := do
  let settled ← requireChange run.id
  commit run.id (.finish run.state settled.hostEffect state result reason)
  let run ← ask (.run run.id)
  let change ← requireChange run.id
  return (run,change)

/-- LocalPlane cannot prove a safe final state. Say so, and hold the object. -/
def recover (run : RunRecord) (reason : RecoveryReason) : Service Ended := do
  commit run.id .admitRecovery
  finish run .recoveryRequired .recoveryRequired (some reason)

def verify (run : RunRecord) (change : ChangeColumns) :
    Service (RunRecord × ChangeColumns × ReadBack) := do
  commit run.id .startVerification
  let read ← readBack run (appliedExpectation change)
  commit run.id (.recordVerification read)
  let run ← ask (.run run.id)
  let change ← requireChange run.id
  return (run,change,read)

/-- Why a restoration could not be proved, as specifically as the evidence allows. -/
def recoveryReason (outcome : VerificationOutcome) (report : MutationReport) : RecoveryReason :=
  if outcome = .targetAbsent then .targetAbsentAfterMutation
  else if outcome ≠ .mismatch then .rollbackVerificationUnavailable
  else if report.outcome = .notWritten then
    if report.provider then .rollbackRefused else .rollbackNotDispatched
  else .rollbackVerificationFailed

def preRollbackReason (outcome : VerificationOutcome) : RecoveryReason :=
  if outcome = .targetAbsent then .targetAbsentAfterMutation else .preRollbackReadUnavailable

/-- Why an action's end state could not be established. -/
def unprovenReason (outcome : VerificationOutcome) : RecoveryReason :=
  if outcome = .mismatch then .actionNotProven
  else if outcome = .targetAbsent then .targetAbsentAfterMutation
  else .actionVerificationUnavailable

/-- A rollback that did not end in doubt is proved from a fresh reading, or recovery is admitted. -/
def proveRollback (run : RunRecord) (change : ChangeColumns) (report : MutationReport) : Service Ended := do
  commit run.id (.startRollbackVerification .rollingBack)
  let run ← ask (.run run.id)
  let read ← readBack run (restoredExpectation change)
  commit run.id (.recordRollbackVerification read)
  let run ← ask (.run run.id)
  let _ ← requireChange run.id
  if read.outcome.proved then finish run .rolledBack .rolledBack none
  else recover run (recoveryReason read.outcome report)

/-- Put the checkpoint's value back, through the same privileged path, and prove it. -/
def rollBack (request : RequestId) (run : RunRecord) (change : ChangeColumns) (checkpoint : Checkpoint) :
    Service Ended := do
  commit run.id (.startRollback run.state)
  let run ← ask (.run run.id)
  let current ← readBack run (restoredExpectation change)
  match current.value with
  | none => recover run (preRollbackReason current.outcome)
  | some value =>
    commit run.id .beginRollback
    let report ← ask (.mutate run.id ⟨.rollback,.rollback request,some (value,checkpoint.before)⟩)
    commit run.id (.recordRollback report.outcome)
    let change ← requireChange run.id
    if report.outcome = .writeUnknown then recover run .rollbackWriteUnknown
    else proveRollback run change report

/-- A field change is restored; an action has no inverse and is not. -/
def unproven (request : RequestId) (run : RunRecord) (change : ChangeColumns)
    (checkpoint : Option Checkpoint) (read : Option ReadBack) : Service Ended :=
  match checkpoint,read with
  | some checkpoint,_ => rollBack request run change checkpoint
  | none,none => recover run .applyWriteUnknown
  | none,some read => recover run (unprovenReason read.outcome)

/-- Enter `guarded`: written, verified, and waiting on the connection itself. -/
def hold (run : RunRecord) : Service Ended := do
  commit run.id (.hold run.state)
  let run ← ask (.run run.id)
  let change ← requireChange run.id
  return (run,change)

/-- Called after the ending it belongs to, never before. -/
def releaseGuard (run : RunRecord) : Service Unit :=
  if run.preview.isGuarded then do
    let report ← ask (.disarmGuard run.id)
    commit run.id (.settleGuard report)
  else return ()

def conclude (request : RequestId) (run : RunRecord) (change : ChangeColumns)
    (checkpoint : Option Checkpoint) (report : MutationReport) : Service Response := do
  match report.outcome with
  | .notWritten =>
    let ended ← finish run .failed .failed none
    releaseGuard ended.1
    return .ended ended.1 ended.2
  | .written =>
    let (run,change,read) ← verify run change
    if read.outcome.proved then
      if run.preview.isGuarded then
        let ended ← hold run
        return .ended ended.1 ended.2
      else
        let ended ← finish run .succeeded .succeeded none
        return .ended ended.1 ended.2
    else
      let ended ← unproven request run change checkpoint (some read)
      releaseGuard ended.1
      return .ended ended.1 ended.2
  | .writeUnknown =>
    let ended ← unproven request run change checkpoint none
    releaseGuard ended.1
    return .ended ended.1 ended.2

/-- Execute the published plan. The only path that writes to a host on its own authority. -/
def apply (request : RequestId) (id : RunId) : Service Response := do
  let run ← ask (.run id)
  requireExecutor run
  let run ← acquire id
  let run ← refusingApply id (gates run)
  let (checkpoint,correlation) ← prepare run
  if run.preview.isGuarded then armGuard run checkpoint
  let change ← cross run correlation
  let run ← ask (.run id)
  let report ← dispatch run change
  let change ← settle run report
  let run ← ask (.run id)
  conclude request run change checkpoint report

end Service
end LocalPlane
