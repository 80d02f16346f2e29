import LocalPlane.Rows
import LocalPlane.RecoveryService

/-!
# The protocol requests keep among themselves

No lock serialises two requests on one Run. What keeps them apart is who consumed
the confirmation, who settled the guard and whose recovery attempt it is. This
module states what the rows always satisfy, what a request may rely on while others
run, and when it may make each commit and each executor call.
-/

set_option linter.dupNamespace false

namespace LocalPlane

def Call.request? : Call → Option RequestId
  | .mutated request .. | .guardAsked request _ | .guardReleased request _ | .guardStatus request _ =>
    some request
  | .guardFired .. => none

/-- The columns of a Change that only the request ending it writes; a stale request that
collects a lapsed guard may still touch the others. -/
def ChangeColumns.core (c : ChangeColumns) : ChangeColumns :=
  { c with
    rollbackRequired := false, rollbackAttempt := none, rollbackDispatchBegan := false
    rollbackOutcome := none }

namespace Rows

/-- Held, and not ended while its guard is unsettled. -/
def Waiting (x : Rows) : Prop :=
  x.held ∧ ∀ ch g, x.change = some ch → x.guard = some g → g.settled = none → ch.result = .inFlight

/-- What the rows of every Run satisfy, whatever requests have run. -/
structure Coherent (x : Rows) : Prop where
  untouched : x.consumed = false → x.checkpoint = none ∧ x.guard = none ∧ x.change = none
  early : x.consumed = false → x.state.appliable ∨ x.state = .cancelled
  ended : x.ended → ∀ ch, x.change = some ch → ch.result ≠ .inFlight
  held : x.held → ∃ ch g, x.change = some ch ∧ x.guard = some g ∧ ch.mutation = some .written ∧
    ch.hostEffect = .written ∧ ch.verification = .verified ∧ x.preview.isGuarded ∧ g.armed ∧
    x.checkpoint.isSome
  guarded : x.state = .guarded → x.Waiting
  settled : ∀ i, x.settledBy i → ∃ g, x.guard = some g ∧ g.settled.isSome
  settledOnce : ∀ i j, x.settledBy i → x.settledBy j → i = j
  planned : ∀ ch, x.change = some ch →
    ch.planned = x.preview.change ∧ (x.preview.armsRecovery → x.checkpoint.isSome)
  checkpoint : ∀ k, x.checkpoint = some k → x.preview.change = .field k.field k.before k.desired ∧
    k.managementPath = x.preview.managementPath ∧ k.evidence = x.preview.evidence
  guard : x.guard.isSome → x.preview.isGuarded ∧ x.checkpoint.isSome
  attempts : x.attempts ≠ [] → x.recoveryRequired
  digest : ∀ c, x.confirmation = some c → c.digest = x.preview.digest

/-- What request `j` may rely on while others move the rows of one Run. -/
structure Rely (j : RequestId) (x x' : Rows) : Prop where
  preview : x'.preview = x.preview
  object : x'.object = x.object
  host : x'.host = x.host
  supported : x'.supported = x.supported
  spent : x.consumed → x'.confirmation = x.confirmation
  unspent : x'.spentBy j → x.spentBy j
  checkpoint : x.checkpoint.isSome → x'.checkpoint = x.checkpoint
  owner : x.spentBy j → x.held = false → x'.change = x.change ∧ x'.checkpoint = x.checkpoint ∧
    x'.guard = x.guard ∧ x'.held = false ∧ (x'.ended → x.ended)
  settler : x.settledBy j → x.held → x'.change.map (·.core) = x.change.map (·.core)
  settled : x.settledBy j → x'.settledBy j
  unsettled : x'.settledBy j → x.settledBy j
  held : x.held → x'.held
  waiting : x.Waiting → x'.Waiting
  guard : ∀ g, x.guard = some g → g.settled.isSome → x'.guard = some g
  guarded : x.guard.isSome → x'.guard.isSome
  finished : ∀ ch, x.change = some ch → ch.result ≠ .inFlight → x'.change.map (·.core) = some ch.core
  planned : ∀ ch, x.change = some ch → ∃ ch', x'.change = some ch' ∧ ch'.planned = ch.planned
  attempts : ∀ a ∈ x.attempts, a.openedBy = j → a ∈ x'.attempts
  unopened : ∀ a ∈ x'.attempts, a.openedBy = j → a ∈ x.attempts
  calls : ∃ new, x'.journal = new ++ x.journal ∧ ∀ call ∈ new, call.request? ≠ some j

def Owner (x : Rows) (i : RequestId) : Prop := x.spentBy i ∧ x.held = false

/-- Between the consumed confirmation and the boundary. -/
def Fresh (x : Rows) (i : RequestId) : Prop := x.Owner i ∧ x.change = none ∧ x.ended = false

/-- Past the boundary, with nothing settled yet. -/
def Writing (x : Rows) (i : RequestId) (ch : ChangeColumns) : Prop :=
  x.Owner i ∧ x.change = some ch ∧ ch.result = .inFlight

/-- The holder gave this request that report. -/
def Answered (x : Rows) (i : RequestId) (report : GuardReport) : Prop :=
  .guardReleased i report ∈ x.journal ∨ .guardStatus i report ∈ x.journal

/-- No call of this request has that shape. -/
def Uncalled (x : Rows) (i : RequestId) (purpose : Purpose) : Prop :=
  ∀ call ∈ x.journal, ∀ a o l, call ≠ .mutated i purpose a o l

end Rows

/-- The four endings and what each has to rest on. -/
inductive Ending (x : Rows) (ch : ChangeColumns) :
    RunState → ChangeResult → Option RecoveryReason → Prop
  | failed (h : ch.mutation = some .notWritten) : Ending x ch .failed .failed none
  | succeeded (h : ch.mutation = some .written) (hv : ch.verification = .verified)
      (hg : x.preview.isGuarded → x.held) : Ending x ch .succeeded .succeeded none
  | rolledBack (h : ch.mutation = some .written ∨ ch.mutation = some .writeUnknown)
      (hr : ch.rollbackVerification = .verified) (hf : x.preview.armsRecovery) :
      Ending x ch .rolledBack .rolledBack none
  | recoveryRequired (reason) (h : ch.mutation = some .written ∨ ch.mutation = some .writeUnknown) :
      Ending x ch .recoveryRequired .recoveryRequired (some reason)

/-- When request `i` may make a commit on a Run's rows; `alone` while it is the startup pass.
Commits that check everything they rest on inside their own transaction are always allowed. -/
def Commit.Licence (i : RequestId) (alone : Prop) (x : Rows) : Commit → Prop
  | .failCorrelation _ | .failArming | .failGuardArming _ | .writeCheckpoint _ => x.Fresh i
  | .cross .. => x.Fresh i ∧ (x.preview.isGuarded → ∃ g, x.guard = some g ∧ g.armed ∧ g.settled = none)
  | .insertGuard => x.Fresh i ∧ x.preview.isGuarded
  | .recordArmed => x.Fresh i ∧ .guardAsked i true ∈ x.journal ∧
      ∃ g, x.guard = some g ∧ g.armed = false ∧ g.settled = none
  | .settleAbandoned report => x.Fresh i ∧ .guardReleased i report ∈ x.journal ∧
      ∃ g, x.guard = some g ∧ g.armed = false ∧ g.settled = none
  | .beginDispatch => ∃ ch, x.Writing i ch ∧ ch.dispatchBegan = false ∧ ch.mutation = none ∧
      ch.verification = .notAttempted ∧ ch.rollbackRequired = false
  | .settle outcome => ∃ ch, x.Writing i ch ∧ ch.dispatchBegan ∧ ch.mutation = none ∧
      ch.verification = .notAttempted ∧ ch.rollbackRequired = false ∧
      ∃ attempt landed, .mutated i .apply attempt outcome landed ∈ x.journal
  | .startVerification | .recordVerification _ => ∃ ch, x.Writing i ch ∧ ch.mutation = some .written ∧
      ch.verification = .notAttempted ∧ ch.rollbackRequired = false
  | .hold _ => ∃ ch g, x.Writing i ch ∧ ch.mutation = some .written ∧ ch.hostEffect = .written ∧
      ch.verification = .verified ∧ ch.rollbackRequired = false ∧ x.preview.isGuarded ∧
      x.checkpoint.isSome ∧ x.guard = some g ∧ g.armed ∧ g.settled = none
  | .startRollback _ => ∃ ch, x.Writing i ch ∧ x.preview.armsRecovery ∧ ch.rollbackRequired = false ∧
      ch.verification ≠ .verified ∧ (ch.mutation = some .written ∨ ch.mutation = some .writeUnknown)
  | .beginRollback => ∃ ch, x.Writing i ch ∧ ch.rollbackRequired ∧ ch.rollbackAttempt = none ∧
      ch.rollbackOutcome = none
  | .recordRollback _ => ∃ ch, x.Writing i ch ∧ ch.rollbackRequired ∧
      ch.rollbackAttempt = some (.rollback i) ∧ ch.rollbackOutcome = none
  | .startRollbackVerification _ | .recordRollbackVerification _ =>
      (∃ ch, x.Writing i ch ∧ ch.rollbackRequired ∧ ch.rollbackAttempt = some (.rollback i) ∧
        (ch.rollbackOutcome = some .written ∨ ch.rollbackOutcome = some .notWritten)) ∨
      (x.held ∧ (x.settledBy i ∨ alone) ∧ (∃ ch, x.change = some ch ∧ ch.result = .inFlight) ∧
        x.Answered i (.fired .written))
  | .finish _ effect state result reason => ∃ ch, x.change = some ch ∧ ch.result = .inFlight ∧
      effect = ch.hostEffect ∧ (x.Owner i ∨ (x.held ∧ x.settledBy i) ∨ alone) ∧
      Ending x ch state result reason
  | .settleGuard report => x.guard.isSome ∧ x.Answered i report ∧ report ≠ .armed ∧
      ((x.Owner i ∧ ∃ ch, x.change = some ch ∧ ch.result ≠ .inFlight) ∨ x.held ∨ alone)
  | .keep _ => x.held ∧ .guardReleased i .disarmed ∈ x.journal
  | .startLapse _ => x.held ∧ ∃ outcome, x.Answered i (.fired outcome)
  | .recordReversal _ outcome => x.held ∧ x.Answered i (.fired outcome)
  | .interruptDispatch outcome => alone ∧ x.state ≠ .guarded ∧ ∃ ch, x.change = some ch ∧
      ch.result = .inFlight ∧ ch.mutation = none ∧ outcome = outcomeOnRecovery ch.dispatchBegan none
  | .interruptAttempt .. => alone
  | .settleRetry outcome => outcome ≠ .inFlight
  | .completeRecovery _ => ∃ a ∈ x.attempts, a.openedBy = i
  | _ => True

/-- When request `i` may have an executor carry something out. -/
def MutationRequest.Licence (i : RequestId) (x : Rows) (m : MutationRequest) : Prop :=
  x.Uncalled i m.purpose ∧ match m.purpose with
  | .apply => ∃ ch, x.Writing i ch ∧ ch.dispatchBegan ∧ ch.mutation = none ∧
      ch.verification = .notAttempted ∧ ch.rollbackRequired = false ∧ m = Service.applyRequest ch
  | .rollback => ∃ ch, x.Writing i ch ∧ ch.rollbackRequired ∧
      ch.rollbackAttempt = some (.rollback i) ∧ ch.rollbackOutcome = none ∧
      m.attempt = .rollback i ∧ ∃ name current desired value, ch.planned = .field name current desired ∧
        m.write = some (value,current)
  | .recovery => m.attempt = .retry i ∧ ∃ a ∈ x.attempts, a.openedBy = i ∧ a.outcome = .inFlight ∧
      a.mutationAttempt = some (.retry i) ∧ a.mutation = none

/-- The request arrived over the very object its Run changed. -/
def World.Proving (w : World) (i : RequestId) (run : RunId) (verdict : Verdict) : Prop :=
  (∃ acknowledge, w.requests[i]? = some (.keep run verdict acknowledge)) ∧
    verdict.relation (w.files run).object = .onManagementPath

/-- When request `i` may perform an operation. -/
def World.Permits (w : World) (i : RequestId) (alone : Prop) : Op → Prop
  | .commit run c => c.Licence i alone (w.files run).rows ∧
      ∀ evidence, c = .keep evidence → ∃ v, w.Proving i run v ∧ evidence = v.evidence
  | .acquire run => run ∈ w.runs
  | .mutate run m => m.Licence i (w.files run).rows
  | .armGuard run guard => (w.files run).rows.Fresh i ∧ (w.files run).preview.isGuarded ∧
      .guardAsked i true ∉ (w.files run).journal ∧
      (∃ g, (w.files run).rows.guard = some g ∧ g.armed = false ∧ g.settled = none) ∧
      guard.run = run ∧ guard.object = (w.files run).object ∧
      ∃ name, (w.files run).preview.change = .field name guard.restore guard.guarded
  | .disarmGuard run => (w.files run).guard.isSome ∧
      (((w.files run).rows.Fresh i ∧
          ∃ g, (w.files run).rows.guard = some g ∧ g.armed = false ∧ g.settled = none) ∨
        ((w.files run).rows.Owner i ∧
          ∃ ch, (w.files run).rows.change = some ch ∧ ch.result ≠ .inFlight) ∨
        ((w.files run).rows.held ∧ ∃ v, w.Proving i run v))
  | .serve => alone
  | _ => True

/-- Nothing but calls of others was added to the journal. -/
def Rows.Idle (j : RequestId) (x x' : Rows) : Prop :=
  ∃ new, x' = { x with journal := new ++ x.journal } ∧ ∀ call ∈ new, call.request? ≠ some j

namespace World

/-- A request runs while the service is up, or alone before it is. -/
def Licence (i : RequestId) (op : Op) (w : World) : Prop :=
  (w.phase = .serving ∨ w.phase = .starting i) ∧ i < w.requests.length ∧
    w.Permits i (w.phase = .starting i) op

structure Rely (j : RequestId) (w w' : World) : Prop where
  runs : w'.runs = w.runs
  requests : w.requests <+: w'.requests
  serving : w.phase = .serving → w'.phase = .serving ∧
    ∀ run, Rows.Rely j (w.files run).rows (w'.files run).rows
  alone : w.phase = .starting j → w'.phase = .starting j ∧ w'.locks = w.locks ∧
    ∀ run, Rows.Idle j (w.files run).rows (w'.files run).rows

structure Inv (w : World) : Prop where
  coherent : ∀ run, (w.files run).rows.Coherent
  locks : ∀ run key, w.locks.forRun run = some key → key = (w.files run).lockKey ∧ run ∈ w.runs
  known : ∀ run i, (w.files run).rows.spentBy i → i < w.requests.length
  settlers : ∀ run i, (w.files run).rows.settledBy i → i < w.requests.length
  openers : ∀ run, ∀ a ∈ (w.files run).rows.attempts, a.openedBy < w.requests.length
  callers : ∀ run, ∀ call ∈ (w.files run).journal, ∀ i, call.request? = some i → i < w.requests.length
  starter : ∀ i, w.phase = .starting i → w.requests[i]? = some .startup

end World

/-- The contract every request of the engine keeps, in every run. -/
def protocol : engine.Contract where
  regime := .free
  Inv := World.Inv
  Rely := World.Rely
  Licence := World.Licence
  Post _ _ _ := True

end LocalPlane
