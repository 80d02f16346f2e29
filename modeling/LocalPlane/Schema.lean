import LocalPlane.Outcomes
import LocalPlane.ThreeValued

/-!
# The rows of the store

Every table the change engine writes, with the columns it reads or checks. A row
carries the proof that its CHECK constraints accept it, so a combination the store
would refuse cannot be built.
-/

set_option linter.dupNamespace false

namespace LocalPlane

open Truth

abbrev RunId := ℕ
abbrev RequestId := ℕ
abbrev ObjectId := ℕ
abbrev ObservationId := ℕ
abbrev EvidenceId := ℕ
abbrev Correlation := ℕ

/-- Identifiers minted while serving one request, each kind at most once by any request. -/
inductive AttemptId where
  | apply (request : RequestId)
  | dispatch (request : RequestId)
  | rollback (request : RequestId)
  | reversal (request : RequestId)
  | retry (request : RequestId)
  deriving DecidableEq

/-- One controlled value moved to another, or a declared verb carried out. -/
inductive PlannedChange where
  | field (name : String) (current desired : Int)
  | action (verb observed expected : String)
  deriving DecidableEq

namespace PlannedChange

def isField : PlannedChange → Bool
  | .field .. => true
  | .action .. => false

/-- What a Run holds its object's write lock on. -/
def lockAspect : PlannedChange → String
  | .field name _ _ => name
  | .action .. => "lifecycle"

end PlannedChange

/-- The published plan. Nothing may update it afterwards, and the planner publishes
only plans that keep the laws below. -/
structure Preview where
  digest : ℕ
  change : PlannedChange
  availability : ExecutionAvailability
  eligibility : ExecutionEligibility
  confirmationRequired : Bool
  confirmationMethod : ConfirmationMethod
  managementPath : ManagementPathRelation
  evidence : Option EvidenceId
  guardWindow : ℕ
  verificationCapability : String
  verificationProvider : String
  moves : ∀ name current desired, change = .field name current desired → current ≠ desired
  guarded_field : eligibility = .guarded → change.isField
  guarded_onPath : eligibility = .guarded → managementPath = .onManagementPath
  guarded_evidence : eligibility = .guarded → evidence.isSome
  guarded_window : eligibility = .guarded → 0 < guardWindow
  guarded_typed : eligibility = .guarded → confirmationMethod = .typed
  override_action : eligibility = .selfImpactOverrideRequired → change.isField = false
  eligible_offPath : eligibility = .eligible → change.isField → managementPath ≠ .onManagementPath

namespace Preview

def isGuarded (p : Preview) : Bool := p.eligibility = .guarded
def requiresOverride (p : Preview) : Bool := p.eligibility = .selfImpactOverrideRequired
def armsRecovery (p : Preview) : Bool := p.change.isField

/-- The published plan must itself say execution was available and this plan eligible. -/
def executable (p : Preview) : Bool :=
  p.availability = .available &&
    (p.eligibility = .eligible || p.eligibility = .guarded || p.eligibility = .selfImpactOverrideRequired)

end Preview

structure RunColumns where
  state : RunState
  hostEffect : HostEffect
  cancelled : Bool
  finished : Bool
  deriving DecidableEq

/-- The states in which a Run may claim anything but `none` about the host. -/
def RunState.mayClaimEffect : RunState → Bool
  | .applying | .verifying | .guarded | .succeeded | .rollingBack | .rollbackVerifying
  | .rolledBack | .recoveryRequired => true
  | _ => false

def RunColumns.check (c : RunColumns) : Bool :=
  (decide (c.state = .cancelled) == c.cancelled) &&
  (c.hostEffect = .none || c.state.mayClaimEffect) &&
  (c.state ≠ .succeeded || c.hostEffect = .written) &&
  (c.state ≠ .guarded || c.hostEffect = .written) &&
  (c.state ≠ .failed || c.hostEffect = .none) &&
  (c.state ≠ .rolledBack || c.hostEffect = .written || c.hostEffect = .writeUnknown) &&
  (c.state ≠ .recoveryRequired || c.hostEffect = .written || c.hostEffect = .writeUnknown)

abbrev Run := {c : RunColumns // c.check = true}

/-- One operator's authority. It is spent by naming the attempt it authorised. -/
structure Confirmation where
  grantedBy : RequestId
  digest : ℕ
  method : ConfirmationMethod
  typedStatement : Option String
  consumedBy : Option AttemptId
  deriving DecidableEq

def Confirmation.consumed (c : Confirmation) : Bool := c.consumedBy.isSome

structure Checkpoint where
  field : String
  before : Int
  desired : Int
  managementPath : ManagementPathRelation
  evidence : Option EvidenceId
  correlation : Correlation
  deriving DecidableEq

/-- `armed` stands for `armed_at`, `expires_at` and `holder_id`, which every writer sets
together, and `fired` for `fired_at`. -/
structure GuardColumns where
  window : ℕ
  evidence : EvidenceId
  reversal : AttemptId
  armed : Bool
  kept : Option EvidenceId
  settled : Option GuardPhase
  fired : Bool
  reversalOutcome : Option MutationOutcome
  deriving DecidableEq

def GuardColumns.check (g : GuardColumns) : Bool :=
  0 < g.window &&
  accepts (or (isNull g.settled) (or (is g.settled .disarmed) (or (is g.settled .fired)
    (or (is g.settled .lost) (is g.settled .unreachable))))) &&
  accepts (same (is g.settled .fired) (some g.fired)) &&
  accepts (same (is g.settled .fired) (isNotNull g.reversalOutcome)) &&
  accepts (or (isNot g.settled .fired) (some g.armed)) &&
  accepts (or (isNull g.kept) (is g.settled .disarmed)) &&
  accepts (or (isNull g.kept) (some g.armed))

abbrev Guard := {g : GuardColumns // g.check = true}

structure ChangeColumns where
  planned : PlannedChange
  checkpoint : Bool
  correlation : Correlation
  applyAttempt : AttemptId
  dispatchBegan : Bool
  mutation : Option MutationOutcome
  hostEffect : HostEffect
  verification : VerificationOutcome
  verificationObservation : Option ObservationId
  verificationValue : Option Int
  verificationState : Option String
  rollbackRequired : Bool
  rollbackAttempt : Option AttemptId
  rollbackDispatchBegan : Bool
  rollbackOutcome : Option MutationOutcome
  rollbackVerification : VerificationOutcome
  rollbackVerificationObservation : Option ObservationId
  rollbackVerificationValue : Option Int
  result : ChangeResult
  recoveryReason : Option RecoveryReason
  finished : Bool
  deriving DecidableEq

/-- What the two shapes of a change may and may not carry. -/
def ChangeColumns.shapeCheck (c : ChangeColumns) : Bool :=
  match c.planned with
  | .field _ current desired => current ≠ desired && c.checkpoint && c.verificationState.isNone
  | .action .. =>
    !c.checkpoint && c.verificationValue.isNone && !c.rollbackRequired &&
    c.rollbackAttempt.isNone && !c.rollbackDispatchBegan && c.rollbackOutcome.isNone &&
    c.rollbackVerification = .notAttempted && c.rollbackVerificationObservation.isNone &&
    c.rollbackVerificationValue.isNone && c.result ≠ .rolledBack

def ChangeColumns.check (c : ChangeColumns) : Bool :=
  c.shapeCheck &&
  accepts (or (isNull c.mutation) (or (is c.mutation .notWritten) (some c.dispatchBegan))) &&
  accepts (or (and (isNull c.mutation) (some (c.hostEffect = .none)))
    (or (and (is c.mutation .notWritten) (some (c.hostEffect = .none)))
    (or (and (is c.mutation .written) (some (c.hostEffect = .written)))
    (and (is c.mutation .writeUnknown) (some (c.hostEffect = .writeUnknown)))))) &&
  accepts (or (some (c.result ≠ .failed))
    (and (is c.mutation .notWritten) (some (c.hostEffect = .none)))) &&
  accepts (or (some (c.result ≠ .succeeded))
    (and (is c.mutation .written) (some (c.verification = .verified)))) &&
  accepts (or (some (c.result ≠ .rolledBack)) (some (c.rollbackVerification = .verified))) &&
  accepts (or (some (c.result ≠ .recoveryRequired)) (isNotNull c.recoveryReason)) &&
  accepts (or (some (c.verification ≠ .verified)) (isNotNull c.verificationObservation)) &&
  accepts (or (some (c.rollbackVerification ≠ .verified)) (isNotNull c.rollbackVerificationObservation))

abbrev Change := {c : ChangeColumns // c.check = true}

/-- `authority` is the consumed confirmation; the attempt it was spent on, the material used
to reach the target and the dispatch marker are written with it. -/
structure AttemptColumns where
  openedBy : RequestId
  kind : RecoveryActionKind
  sequence : ℕ
  evidence : VerificationOutcome
  evidenceObservation : Option ObservationId
  authority : Option RequestId
  correlation : Option Correlation
  mutationAttempt : Option AttemptId
  dispatchBegan : Bool
  mutation : Option MutationOutcome
  hostEffect : HostEffect
  verification : VerificationOutcome
  verificationObservation : Option ObservationId
  outcome : RecoveryAttemptOutcome
  refusalCode : Option String
  releasesHold : Bool
  finished : Bool
  operatorStatement : Option String
  note : Option String
  deriving DecidableEq

def AttemptColumns.resolveCheck (a : AttemptColumns) : Bool :=
  a.kind ≠ .resolve ||
    (a.authority.isNone && a.correlation.isNone && a.mutationAttempt.isNone &&
     !a.dispatchBegan && a.mutation.isNone && a.hostEffect = .none &&
     a.verification = .notAttempted && a.verificationObservation.isNone &&
     a.outcome = .resolved && a.operatorStatement.isSome)

def AttemptColumns.outcomeCheck (a : AttemptColumns) : Bool :=
  accepts (or (some (a.outcome ≠ .proven)) (and (some (a.evidence = .verified))
    (and (isNotNull a.evidenceObservation) (and (isNull a.mutation) (some (a.hostEffect = .none)))))) &&
  accepts (or (some (a.outcome ≠ .verified)) (and (is a.mutation .written)
    (and (some (a.verification = .verified)) (isNotNull a.verificationObservation)))) &&
  accepts (or (some (a.outcome ≠ .notWritten)) (is a.mutation .notWritten)) &&
  accepts (or (some (a.outcome ≠ .writeUnknown)) (is a.mutation .writeUnknown)) &&
  accepts (or (some (a.outcome ≠ .notProven)) (and (is a.mutation .written)
    (and (some (a.verification ≠ .notAttempted)) (some (a.verification ≠ .verified))))) &&
  accepts (or (some (a.outcome ≠ .refused)) (and (isNull a.mutationAttempt)
    (and (isNull a.mutation) (and (some (a.hostEffect = .none)) (isNotNull a.refusalCode)))))

def AttemptColumns.check (a : AttemptColumns) : Bool :=
  a.resolveCheck &&
  (a.kind ≠ .retry || (a.operatorStatement.isNone && a.note.isNone)) &&
  (a.outcome ≠ .resolved || a.kind = .resolve) &&
  (a.mutationAttempt.isNone == a.authority.isNone) &&
  (a.mutationAttempt.isNone == !a.dispatchBegan) &&
  (a.mutationAttempt.isNone == a.correlation.isNone) &&
  accepts (or (isNull a.mutation) (isNotNull a.mutationAttempt)) &&
  accepts (or (some (a.verification = .notAttempted)) (isNotNull a.mutation)) &&
  accepts (or (and (isNull a.mutation) (some (a.hostEffect = .none)))
    (or (and (is a.mutation .notWritten) (some (a.hostEffect = .none)))
    (or (and (is a.mutation .written) (some (a.hostEffect = .written)))
    (and (is a.mutation .writeUnknown) (some (a.hostEffect = .writeUnknown)))))) &&
  a.outcomeCheck &&
  (a.releasesHold == a.outcome.releasesHold) &&
  (decide (a.outcome = .inFlight) == !a.finished)

abbrev Attempt := {a : AttemptColumns // a.check = true}

/-- One entry of a Run's append-only transcript, under an identifier its request minted. -/
structure Event where
  request : RequestId
  sequence : ℕ
  event : RunEvent
  stateFrom : Option RunState
  stateTo : Option RunState
  deriving DecidableEq

namespace Event

/-- The entry a Run's transcript starts with, from the act that created it. -/
def planned : Event := ⟨0,1,.runPlanned,none,some .preview⟩

/-- Allocated from what is already there. -/
def nextSequence (events : List Event) : ℕ := (events.map (·.sequence)).foldr max 0 + 1

end Event

end LocalPlane
