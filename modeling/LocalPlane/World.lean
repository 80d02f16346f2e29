import LocalPlane.Transactions
import LocalPlane.RelyGuarantee

/-!
# The world the change engine runs in

The store, the host's objects, the agent's guards, and the requests received so far.
Each operation of the engine is one store transaction, one store read, or one call
to an executor; what the outside answers is supplied with the step.
-/

set_option linter.dupNamespace false

namespace LocalPlane

/-- This request's management-path judgement. A path that resolved to an object rests on
recorded evidence. -/
structure Verdict where
  resource : Option ObjectId
  evidence : Option EvidenceId
  rests : resource.isSome → evidence.isSome

def Verdict.relation (v : Verdict) (object : ObjectId) : ManagementPathRelation :=
  match v.resource with
  | none => .unknown
  | some resource => if resource = object then .onManagementPath else .notOnManagementPath

inductive Request where
  | startup
  | confirm (run : RunId) (digest : Option ℕ) (acknowledge : Bool) (typed : Option String)
      (displayName : String)
  | grantOverride (run : RunId) (digest : Option ℕ) (acknowledge : Bool)
  | cancel (run : RunId)
  | apply (run : RunId)
  | keep (run : RunId) (verdict : Verdict) (acknowledge : Bool)
  | recoveryConfirm (run : RunId) (reason : Option RecoveryReason) (acknowledge : Bool)
  | recoveryRetry (run : RunId)
  | recoveryResolve (run : RunId) (reason : Option RecoveryReason) (acknowledge : Bool)
      (statement : String) (objectName : String) (note : Option String)

def Request.run? : Request → Option RunId
  | .startup => none
  | .confirm run .. | .grantOverride run .. | .cancel run | .apply run | .keep run ..
  | .recoveryConfirm run .. | .recoveryRetry run | .recoveryResolve run .. => some run

inductive Phase where
  | down
  | starting (request : RequestId)
  | serving
  deriving DecidableEq

/-- The controlled value of one object and the Run whose write put it there, if one did. -/
structure HostObject where
  value : Int
  writer : Option RunId
  deriving DecidableEq

structure World where
  runs : List RunId
  listed : runs.Nodup
  files : RunId → RunFile
  locks : LockTable
  host : ObjectId → HostObject
  agent : GuardRegistry
  phase : Phase
  requests : List Request

/-- What one call to a remote party came to: never delivered, or delivered with or without
the answer coming back. -/
inductive Delivery where
  | lost | unanswered | answered
  deriving DecidableEq

/-- What an observed target showed: its controlled value, and how an action's executor judges it. -/
structure Facts where
  value : Option Int
  judged : VerificationOutcome
  state : Option String

inductive Observed where
  | unavailable (targetAbsent : Bool)
  | taken (observation : ObservationId) (capability provider : String) (facts : Facts)

/-- The rows come as they are stored. -/
def unarranged : {arrange : List RunId → List RunId // ∀ l, (arrange l).Perm l} := ⟨id,fun _ => .refl _⟩

/-- Everything the outside may answer to one operation; each operation looks at its own part. -/
structure Outside where
  target : Bool := true
  refusal : Option String := none
  correlation : Except String Correlation := .ok 0
  outcome : MutationOutcome := .written
  landed : Bool := true
  provider : Bool := true
  observed : Observed := .unavailable false
  delivery : Delivery := .answered
  order : {arrange : List RunId → List RunId // ∀ l, (arrange l).Perm l} := unarranged

/-- A Run as a read of the store returns it. -/
structure RunRecord where
  id : RunId
  object : ObjectId
  supported : Bool
  preview : Preview
  state : RunState

/-- What the engine asks an executor to carry out; an action carries no values. -/
structure MutationRequest where
  purpose : Purpose
  attempt : AttemptId
  write : Option (Int × Int)
  deriving DecidableEq

structure MutationReport where
  outcome : MutationOutcome
  provider : Bool
  deriving DecidableEq

inductive Op where
  | run (run : RunId)
  | confirmation (run : RunId)
  | checkpoint (run : RunId)
  | guard (run : RunId)
  | change (run : RunId)
  | hold (run : RunId)
  | acquire (run : RunId)
  | commit (run : RunId) (commit : Commit)
  | target (run : RunId)
  | replan (run : RunId)
  | correlate (run : RunId)
  | mutate (run : RunId) (request : MutationRequest)
  | observe (run : RunId)
  | armGuard (run : RunId) (guard : ArmedGuard)
  | disarmGuard (run : RunId)
  | guardStatus (run : RunId)
  | unsettledGuards
  | unsettledChanges
  | unsettledAttempts
  | serve

abbrev Op.Ret : Op → Type
  | .run _ => RunRecord
  | .confirmation _ => Option Confirmation
  | .checkpoint _ => Option Checkpoint
  | .guard _ => Option GuardColumns
  | .change _ => Option ChangeColumns
  | .hold _ => Except Error Unit
  | .acquire _ => Except Error RunRecord
  | .commit .. => Except Error Unit
  | .target _ => Bool
  | .replan _ => Option String
  | .correlate _ => Except String Correlation
  | .mutate .. => MutationReport
  | .observe _ => Observed
  | .armGuard .. => Except String Unit
  | .disarmGuard _ => GuardReport
  | .guardStatus _ => GuardReport
  | .unsettledGuards => List (RunId × GuardColumns)
  | .unsettledChanges => List (RunId × ChangeColumns)
  | .unsettledAttempts => List (RunId × AttemptColumns)
  | .serve => Unit

/-- Whether a dispatch with this outcome reached the target; only the outside knows when the
outcome leaves it open. -/
def MutationOutcome.lands (outcome : MutationOutcome) (landed : Bool) : Bool :=
  match outcome with
  | .written => true
  | .notWritten => false
  | .writeUnknown => landed

namespace World

def record (w : World) (run : RunId) : RunRecord :=
  ⟨run,(w.files run).object,(w.files run).supported,(w.files run).preview,(w.files run).state⟩

def setFile (w : World) (run : RunId) (f : RunFile) : World :=
  { w with files := Function.update w.files run f }

def log (w : World) (run : RunId) (call : Call) : World :=
  w.setFile run { w.files run with journal := call :: (w.files run).journal }

def isLocked (w : World) (run : RunId) : Bool := (w.locks.forRun run).isSome

/-- Take the durable lock before anything is re-read. A Run that already owns its row passes. -/
def acquire (w : World) (run : RunId) : Except Error RunRecord × World :=
  if (w.files run).state.appliable then
    if w.isLocked run then (.ok (w.record run),w)
    else match w.locks.acquire (w.files run).lockKey run with
      | some locks => (.ok (w.record run),{ w with locks })
      | none => (.error (.refused "object_write_locked"),w)
  else (.error (.refused "run_not_appliable"),w)

/-- A transaction on a Run the store does not list breaks a foreign key. -/
def commit (w : World) (request : RequestId) (run : RunId) (c : Commit) : Except Error Unit × World :=
  if run ∈ w.runs then
    match c.run request (w.isLocked run) (w.files run) with
    | .error e => (.error e,w)
    | .ok f =>
      let w := w.setFile run f
      (.ok (),if c.releases then { w with locks := w.locks.release run } else w)
  else (.error .integrity,w)

def write (w : World) (object : ObjectId) (value : Int) (writer : Option RunId) : World :=
  { w with host := Function.update w.host object ⟨value,writer⟩ }

def mutate (w : World) (request : RequestId) (run : RunId) (m : MutationRequest) (outcome : MutationOutcome)
    (landed : Bool) : World :=
  let lands := outcome.lands landed
  let w := w.log run (.mutated request m.purpose m.attempt outcome lands)
  match m.write with
  | some (_,desired) => if lands then w.write (w.files run).object desired (some run) else w
  | none => w

def armGuard (w : World) (request : RequestId) (run : RunId) (guard : ArmedGuard) (delivery : Delivery) :
    Except String Unit × World :=
  match delivery with
  | .lost => (.error "agent_unreachable",w.log run (.guardAsked request false))
  | .unanswered =>
    match w.agent.arm guard with
    | .ok agent => (.error "agent_unreachable",{ w with agent }.log run (.guardAsked request true))
    | .error _ => (.error "agent_unreachable",w.log run (.guardAsked request false))
  | .answered =>
    match w.agent.arm guard with
    | .ok agent => (.ok (),{ w with agent }.log run (.guardAsked request true))
    | .error code => (.error code,w.log run (.guardAsked request false))

def disarmGuard (w : World) (request : RequestId) (run : RunId) (delivery : Delivery) :
    GuardReport × World :=
  match delivery with
  | .lost => (.unreachable,w.log run (.guardReleased request .unreachable))
  | .unanswered =>
    (.unreachable,{ w with agent := (w.agent.disarm run).2 }.log run (.guardReleased request .unreachable))
  | .answered =>
    let report := (w.agent.disarm run).1
    (report,{ w with agent := (w.agent.disarm run).2 }.log run (.guardReleased request report))

def guardStatus (w : World) (request : RequestId) (run : RunId) (delivery : Delivery) :
    GuardReport × World :=
  let report := if delivery = .answered then w.agent.status run else .unreachable
  (report,w.log run (.guardStatus request report))

def unsettledGuards (w : World) (runs : List RunId) : List (RunId × GuardColumns) :=
  runs.filterMap fun run => match (w.files run).guard with
    | some guard => if guard.1.settled.isNone then some (run,guard.1) else none
    | none => none

def unsettledChanges (w : World) (runs : List RunId) : List (RunId × ChangeColumns) :=
  runs.filterMap fun run => match (w.files run).change with
    | some change => if change.1.result = .inFlight then some (run,change.1) else none
    | none => none

def unsettledAttempts (w : World) (runs : List RunId) : List (RunId × AttemptColumns) :=
  runs.filterMap fun run => (w.files run).inFlight.map fun attempt => (run,attempt.1)

/-- Perform one operation for a request, with what the outside answers to it. -/
def perform (request : RequestId) : (op : Op) → Outside → World → op.Ret × World
  | .run run,_,w => (w.record run,w)
  | .confirmation run,_,w => ((w.files run).confirmation,w)
  | .checkpoint run,_,w => ((w.files run).checkpoint,w)
  | .guard run,_,w => ((w.files run).guard.map (·.1),w)
  | .change run,_,w => ((w.files run).change.map (·.1),w)
  | .hold run,_,w => ((w.files run).requireOpenHold (w.isLocked run) none,w)
  | .acquire run,_,w => w.acquire run
  | .commit run c,_,w => w.commit request run c
  | .target _,out,w => (out.target,w)
  | .replan _,out,w => (out.refusal,w)
  | .correlate _,out,w => (out.correlation,w)
  | .mutate run m,out,w => (⟨out.outcome,out.provider⟩,w.mutate request run m out.outcome out.landed)
  | .observe _,out,w => (out.observed,w)
  | .armGuard run guard,out,w => w.armGuard request run guard out.delivery
  | .disarmGuard run,out,w => w.disarmGuard request run out.delivery
  | .guardStatus run,out,w => w.guardStatus request run out.delivery
  | .unsettledGuards,out,w => (w.unsettledGuards (out.order.1 w.runs),w)
  | .unsettledChanges,out,w => (w.unsettledChanges (out.order.1 w.runs),w)
  | .unsettledAttempts,out,w => (w.unsettledAttempts (out.order.1 w.runs),w)
  | .serve,_,w => ((),{ w with phase := .serving })

/-- The startup pass runs before anything is served, and every other request names a Run
the store lists. -/
def enter (q : Request) (w : World) : Option (RequestId × World) :=
  let received := { w with requests := w.requests ++ [q] }
  match q.run? with
  | none =>
    if w.phase = .down then some (w.requests.length,{ received with phase := .starting w.requests.length })
    else none
  | some run => if w.phase = .serving ∧ run ∈ w.runs then some (w.requests.length,received) else none

def crash (w : World) : World := { w with phase := .down }

end World

/-- What may happen outside the engine: a guard's deadline, an agent that restarts and forgets
its guards, somebody else's write. -/
inductive External where
  | fire (run : RunId) (outcome : MutationOutcome) (landed : Bool)
  | restartAgent
  | foreignWrite (object : ObjectId) (value : Int)

namespace World

/-- The deadline passed. The reversal is refused unless the object holds the guarded value,
so no outcome in which it landed is possible otherwise. -/
def fire (w : World) (run : RunId) (outcome : MutationOutcome) (landed : Bool) : Option World :=
  match w.agent.armedFor run with
  | none => none
  | some guard =>
    let settled := { w with agent := w.agent.settle run (.fired outcome) (by simp) }.log run
      (.guardFired outcome (outcome.lands landed))
    if outcome.lands landed then
      if (w.host guard.object).value = guard.guarded then
        some (settled.write guard.object guard.restore (some run))
      else none
    else some settled

def outer : External → World → Option World
  | .fire run outcome landed,w => w.fire run outcome landed
  | .restartAgent,w => some { w with agent := .empty }
  | .foreignWrite object value,w => some (w.write object value none)

end World

/-- A Run nobody has acted on yet: published, and nothing else recorded about it. -/
def RunFile.pristine (f : RunFile) : Prop :=
  f.run.1 = ⟨.preview,.none,false,false⟩ ∧ f.confirmation = none ∧ f.override = none ∧ f.grants = [] ∧
  f.checkpoint = none ∧ f.guard = none ∧ f.change = none ∧ f.attempts = [] ∧ f.events = [.planned] ∧
  f.journal = []

/-- The store lists some published Runs, no lock is held, no guard is armed, no request has
been received. -/
structure World.Initial (w : World) : Prop where
  pristine : ∀ run, (w.files run).pristine
  locks : w.locks = .empty
  agent : w.agent = .empty
  phase : w.phase = .down
  requests : w.requests = []

end LocalPlane
