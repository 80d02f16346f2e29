import Mathlib.Data.Nat.Notation
import Mathlib.Logic.Basic

/-!
# Outcomes and what they mean

The closed vocabularies of the write boundary: what became of a dispatched
mutation, what a record may then claim about the host, how a Change and a recovery
attempt may end, and the lifecycle of a Run.
-/

set_option linter.dupNamespace false

namespace LocalPlane

inductive MutationOutcome where
  | notWritten | written | writeUnknown
  deriving DecidableEq

inductive HostEffect where
  | none | written | writeUnknown
  deriving DecidableEq

def hostEffectFor : MutationOutcome → HostEffect
  | .notWritten => .none
  | .written => .written
  | .writeUnknown => .writeUnknown

/-- What a Change means on restart, when nothing finished writing its result. -/
def outcomeOnRecovery (dispatchBegan : Bool) (recorded : Option MutationOutcome) : MutationOutcome :=
  match recorded with
  | some outcome => outcome
  | none => if dispatchBegan then .writeUnknown else .notWritten

inductive VerificationOutcome where
  | notAttempted | verified | mismatch | valueUnreadable | observationUnavailable
  | sourceIncompatible | targetAbsent
  deriving DecidableEq

def VerificationOutcome.proved (outcome : VerificationOutcome) : Bool := outcome = .verified

inductive ChangeResult where
  | inFlight | succeeded | failed | rolledBack | recoveryRequired
  deriving DecidableEq

inductive RecoveryReason where
  | applyWriteUnknown | applyInterruptedAfterWrite
  | rollbackWriteUnknown | rollbackNotDispatched | rollbackRefused
  | rollbackVerificationFailed | rollbackVerificationUnavailable
  | preRollbackReadUnavailable | targetAbsentAfterMutation
  | actionNotProven | actionVerificationUnavailable
  | guardReversalUnproven | guardLost | guardUnreachable | guardReleasedWithoutRecordedProof
  deriving DecidableEq

inductive RecoveryActionKind where
  | retry | resolve
  deriving DecidableEq

inductive RecoveryAttemptOutcome where
  | inFlight | proven | verified | notWritten | writeUnknown | notProven | refused
  | interrupted | resolved
  deriving DecidableEq

def RecoveryAttemptOutcome.releasesHold : RecoveryAttemptOutcome → Bool
  | .proven | .verified | .resolved => true
  | _ => false

def recoveryOutcomeFor : MutationOutcome → VerificationOutcome → RecoveryAttemptOutcome
  | .notWritten,_ => .notWritten
  | .writeUnknown,_ => .writeUnknown
  | .written,verification => if verification.proved then .verified else .notProven

/-- The thirteen states the store accepts; `draft` is never produced. -/
inductive RunState where
  | preview | awaitingConfirmation | arming | applying | verifying | guarded
  | succeeded | failed | rollingBack | rollbackVerifying | rolledBack
  | recoveryRequired | cancelled
  deriving DecidableEq

namespace RunState

/-- The states an apply may begin from, and the states a Run may be cancelled from. -/
def appliable : RunState → Bool
  | .preview | .awaitingConfirmation => true
  | _ => false

def terminal : RunState → Bool
  | .succeeded | .failed | .rolledBack | .recoveryRequired | .cancelled => true
  | _ => false

/-- The order a Run is allowed to move in; every ending comes last. -/
def phase : RunState → ℕ
  | .preview => 0
  | .awaitingConfirmation => 1
  | .arming => 2
  | .applying => 3
  | .verifying => 4
  | .guarded => 5
  | .rollingBack => 6
  | .rollbackVerifying => 7
  | .succeeded | .failed | .rolledBack | .recoveryRequired | .cancelled => 8

end RunState

inductive GuardPhase where
  | arming | armed | disarmed | fired | lost | unreachable
  deriving DecidableEq

inductive ManagementPathRelation where
  | onManagementPath | notOnManagementPath | unknown
  deriving DecidableEq

inductive ExecutionAvailability where
  | available | unavailable | notImplemented
  deriving DecidableEq

inductive ExecutionEligibility where
  | eligible | guarded | selfImpactOverrideRequired | blocked
  deriving DecidableEq

inductive ConfirmationMethod where
  | none | acknowledge | typed
  deriving DecidableEq

inductive RunEvent where
  | runPlanned | runCancelled
  | confirmationSatisfied | confirmationRequired | confirmationConsumed | applyRefused
  | armingStarted | checkpointWritten | armingFailed
  | targetCorrelated | targetCorrelationFailed
  | guardArmed | guardArmingFailed
  | writeBoundaryCrossed | mutationDispatched | mutationResult
  | verificationStarted | verificationResult
  | rollbackStarted | rollbackMutationDispatched | rollbackMutationResult
  | rollbackVerificationStarted | rollbackVerificationResult
  | guardHoldStarted | guardConnectionProved | guardKeepRefused | guardSettled
  | recoveryRequired | runFinished
  | recoveryRetryStarted | recoveryEvidenceResult
  | recoveryConfirmationSatisfied | recoveryConfirmationConsumed
  | recoveryMutationDispatched | recoveryMutationResult
  | recoveryVerificationResult | recoveryRetryFinished
  | recoveryResolved | recoveryHoldReleased
  deriving DecidableEq

@[simp] theorem proved_iff (outcome : VerificationOutcome) :
    outcome.proved = true ↔ outcome = .verified := by simp [VerificationOutcome.proved]

/-- A recorded outcome is the answer; nothing on restart has a second opinion about it. -/
@[simp] theorem outcomeOnRecovery_recorded (began : Bool) (outcome : MutationOutcome) :
    outcomeOnRecovery began (some outcome) = outcome := rfl

theorem outcomeOnRecovery_unrecorded (began : Bool) :
    outcomeOnRecovery began none ≠ .written := by
  cases began <;> simp [outcomeOnRecovery]

theorem appliable_not_terminal {s : RunState} (h : s.appliable) : s.terminal = false := by
  cases s <;> simp_all [RunState.appliable,RunState.terminal]

theorem terminal_iff_phase (s : RunState) : s.terminal = true ↔ s.phase = 8 := by
  cases s <;> simp [RunState.terminal,RunState.phase]

theorem phase_le (s : RunState) : s.phase ≤ 8 := by cases s <;> simp [RunState.phase]

end LocalPlane
