import LocalPlane.ChangeService

/-!
# Keeping, recovering and restarting

The requests that come after a Run's own apply: keeping a guarded change from the
evidence of a later request, collecting a guard that lapsed, retrying or resolving a
recovery hold, and the three passes a restart makes before it serves anything.
-/

set_option linter.dupNamespace false

namespace LocalPlane
namespace Service

/-! Guarded keep -/

/-- The connection was proved and the guard released. The change is kept. -/
def keepGuarded (run : RunRecord) (verdict : Verdict) : Service Ended := do
  commit run.id (.keep verdict.evidence)
  let run ← ask (.run run.id)
  let _ ← requireChange run.id
  finish run .succeeded .succeeded none

/-- A guarded change that was not kept, ended from what the guard actually did. -/
def settleLapsed (run : RunRecord) (change : ChangeColumns) (guard : GuardColumns)
    (report : GuardReport) : Service Ended := do
  match ← ask (.checkpoint run.id) with
  | none => throw .assertion
  | some _ =>
    let run ← match report with
      | .fired outcome => do
        commit run.id (.startLapse run.state)
        commit run.id (.recordReversal guard.reversal outcome)
        let run ← ask (.run run.id)
        let _ ← requireChange run.id
        pure run
      | _ => pure run
    commit run.id (.settleGuard report)
    let run ← ask (.run run.id)
    match report with
    | .lost => recover run .guardLost
    | .disarmed => recover run .guardReleasedWithoutRecordedProof
    | .armed | .unreachable => recover run .guardUnreachable
    | .fired outcome =>
      if outcome ≠ .written then recover run .guardReversalUnproven
      else
        commit run.id (.startRollbackVerification run.state)
        let run ← ask (.run run.id)
        let read ← readBack run (restoredExpectation change)
        commit run.id (.recordRollbackVerification read)
        let run ← ask (.run run.id)
        let _ ← requireChange run.id
        if read.outcome.proved then finish run .rolledBack .rolledBack none
        else recover run (recoveryReason read.outcome ⟨outcome,true⟩)

/-- A request that proved the path releases the guard; one that did not only asks. -/
def askHolder (run : RunId) (proved : Bool) : Service GuardReport :=
  if proved then ask (.disarmGuard run) else ask (.guardStatus run)

/-- Settle a guarded change from the evidence this request carries. -/
def guardKeep (id : RunId) (verdict : Verdict) (acknowledge : Bool) : Service Response := do
  let run ← ask (.run id)
  requireExecutor run
  if run.state ≠ .guarded then refuse "run_not_guarded"
  else match ← ask (.guard id) with
  | none => refuse "guard_already_settled"
  | some guard =>
    if guard.settled.isSome then refuse "guard_already_settled"
    else
      let change ← requireChange id
      if !acknowledge then
        commit id .refuseKeep
        refuse "keep_not_acknowledged"
      else
        let proved := verdict.relation run.object = .onManagementPath
        let report ← askHolder id proved
        if report = .armed then
          commit id .refuseKeep
          refuse "guard_connection_not_proved"
        else if proved ∧ report = .disarmed then
          let ended ← keepGuarded run verdict
          return .ended ended.1 ended.2
        else
          let ended ← settleLapsed run change guard report
          return .ended ended.1 ended.2

/-! Recovery -/

/-- The Change a recovery request names, as its route finds it. -/
def findChange (id : RunId) : Service ChangeColumns := .act (.change id) fun
  | some change => .ret (.ok change)
  | none => refuse "change_not_found"

/-- The structural gate, against evidence belonging to this request. -/
def requirePathEvidence (id : RunId) : Service Unit := planNow id

def recoveryConfirm (id : RunId) (reason : Option RecoveryReason) (acknowledge : Bool) :
    Service Response := do
  let change ← findChange id
  let run ← ask (.run id)
  openHold id
  if reason.any fun expected => some expected ≠ change.recoveryReason then refuse "recovery_reason_mismatch"
  else
    requireExecutablePreview run
    requirePathEvidence id
    if run.preview.confirmationMethod ≠ .acknowledge then refuse "confirmation_method_unsupported"
    else if !acknowledge then refuse "confirmation_not_acknowledged"
    else
      commit id .grantRecovery
      return .done

/-- The insert is the serialisation point; a second attempt fails on the index. -/
def openRecoveryAttempt (id : RunId) : Service Unit :=
  tryCatch (commit id .openAttempt) fun
    | .integrity => refuse "recovery_attempt_in_flight"
    | e => throw e

def completeRecovery (id : RunId) (outcome : RecoveryAttemptOutcome) : Service Response := do
  commit id (.completeRecovery outcome)
  return .done

def settleRetry (id : RunId) (outcome : RecoveryAttemptOutcome) : Service Response := do
  commit id (.settleRetry outcome)
  return .done

/-- Assemble the new mutation from the reading just taken, never from the recorded one. -/
def recoveryRequest (request : RequestId) (id : RunId) (change : ChangeColumns) (read : ReadBack) :
    Service (Correlation × MutationRequest) := do
  let correlation ← correlate id
  match change.planned with
  | .action .. => return (correlation,⟨.recovery,.retry request,none⟩)
  | .field _ _ desired =>
    match read.value with
    | none => refuse "current_value_unreadable"
    | some value =>
      if value = desired then refuse "already_reconciled"
      else return (correlation,⟨.recovery,.retry request,some (value,desired)⟩)

/-- May the original mutation be attempted again, now? Every step can only refuse. -/
def authoriseRetry (request : RequestId) (id : RunId) (change : ChangeColumns) (read : ReadBack) :
    Service MutationRequest := do
  planNow id
  let (correlation,mutation) ← recoveryRequest request id change read
  commit id (.spendRecovery correlation)
  return mutation

def refusingRetry (id : RunId) (body : Service MutationRequest) : Service MutationRequest :=
  tryCatch body fun
    | .refused code => do
      commit id (.refuseRecovery code)
      refuse code
    | e => throw e

/-- Try again to reach the end state the original Change wanted. -/
def recoveryRetry (request : RequestId) (id : RunId) : Service Response := do
  let change ← findChange id
  let run ← ask (.run id)
  requireExecutor run
  openHold id
  requireTarget id
  requireExecutablePreview run
  requirePathEvidence id
  openRecoveryAttempt id
  let read ← readBack run (appliedExpectation change)
  commit id (.recordEvidence read)
  if read.outcome.proved then completeRecovery id .proven
  else
    requireTarget id
    let mutation ← refusingRetry id (authoriseRetry request id change read)
    let report ← ask (.mutate id mutation)
    commit id (.recordRecovery report.outcome)
    if report.outcome ≠ .written then
      settleRetry id (recoveryOutcomeFor report.outcome .notAttempted)
    else
      let verified ← readBack run (appliedExpectation change)
      commit id (.recordRecoveryVerification verified)
      let outcome := recoveryOutcomeFor .written verified.outcome
      if outcome = .verified then completeRecovery id outcome else settleRetry id outcome

/-- A person says they have handled this, and LocalPlane gives the object back. -/
def recoveryResolve (id : RunId) (reason : Option RecoveryReason) (acknowledge : Bool)
    (statement objectName : String) (note : Option String) : Service Response := do
  let change ← findChange id
  let run ← ask (.run id)
  openHold id
  if reason.any fun expected => some expected ≠ change.recoveryReason then refuse "recovery_reason_mismatch"
  else if !acknowledge then refuse "recovery_resolution_not_acknowledged"
  else if statement ≠ objectName then refuse "recovery_resolution_object_mismatch"
  else
    let read ← if run.supported then readBack run (appliedExpectation change)
      else pure ⟨.observationUnavailable,none,none,none⟩
    commit id (.resolve read statement note)
    return .done

/-! Restart -/

/-- Collect what became of one guard. It asks; it never releases. -/
def settleInterruptedGuard (entry : RunId × GuardColumns) : Service Unit := do
  let run ← ask (.run entry.1)
  if !run.supported then return ()
  else
    let report ← ask (.guardStatus run.id)
    if report = .armed ∨ report = .unreachable then return ()
    else
      match ← ask (.change run.id) with
      | none => commit run.id (.settleGuard report)
      | some change =>
        if run.state = .guarded then
          let _ ← settleLapsed run change entry.2 report
        else commit run.id (.settleGuard report)

/-- Interpret one Change that crossed the boundary and never reached an ending. -/
def settleInterruptedChange (entry : RunId × ChangeColumns) : Service Unit := do
  let run ← ask (.run entry.1)
  if run.state = .guarded then return ()
  else
    let outcome := outcomeOnRecovery entry.2.dispatchBegan entry.2.mutation
    let (run,change) ← if entry.2.mutation.isNone then do
        commit run.id (.interruptDispatch outcome)
        let run ← ask (.run run.id)
        let change ← requireChange run.id
        pure (run,change)
      else pure (run,entry.2)
    if outcome = .notWritten then
      let _ ← finish run .failed .failed none
    else if outcome = .written ∧ change.verification = .verified ∧ ¬run.preview.isGuarded then
      let _ ← finish run .succeeded .succeeded none
    else
      let _ ← recover run
        (if outcome = .writeUnknown then .applyWriteUnknown else .applyInterruptedAfterWrite)

/-- Interpret one recovery attempt that began and never recorded what became of it. -/
def settleInterruptedAttempt (entry : RunId × AttemptColumns) : Service Unit :=
  commit entry.1 (.interruptAttempt entry.2.openedBy (entry.2.mutation.isNone && entry.2.dispatchBegan))

/-- The passes every start makes before anything is served, in this order. -/
def startup : Service Response := do
  let guards ← ask .unsettledGuards
  Program.forEach guards settleInterruptedGuard
  let changes ← ask .unsettledChanges
  Program.forEach changes settleInterruptedChange
  let attempts ← ask .unsettledAttempts
  Program.forEach attempts settleInterruptedAttempt
  ask .serve
  return .done

def program (request : RequestId) : Request → Service Response
  | .startup => startup
  | .confirm run digest acknowledge typed displayName => confirm run digest acknowledge typed displayName
  | .grantOverride run digest acknowledge => grantOverride run digest acknowledge
  | .cancel run => cancel run
  | .apply run => apply request run
  | .keep run verdict acknowledge => guardKeep run verdict acknowledge
  | .recoveryConfirm run reason acknowledge => recoveryConfirm run reason acknowledge
  | .recoveryRetry run => recoveryRetry request run
  | .recoveryResolve run reason acknowledge statement objectName note =>
    recoveryResolve run reason acknowledge statement objectName note

end Service

/-- The change engine as an interleaved system. -/
def engine : Interleaved where
  sig := signature
  World := World
  Outside := Outside
  Request := Request
  External := External
  Error := Error
  Response := Response
  initial := World.Initial
  enter := World.enter
  program := Service.program
  perform := World.perform
  outer := World.outer
  crash := World.crash

end LocalPlane
