import LocalPlane.LockTable
import LocalPlane.GuardRegistry

/-!
# Everything recorded about one Run

The rows the store keys by this Run, and the journal of what its executor was asked
and what came of it. The journal is no row of the store: it is the history that the
records are judged against.
-/

set_option linter.dupNamespace false

namespace LocalPlane

/-- A refusal carries its code; the store aborts a transaction that breaks a constraint. -/
inductive Error where
  | refused (code : String)
  | integrity
  | assertion
  deriving DecidableEq

inductive Purpose where
  | apply | rollback | recovery
  deriving DecidableEq

/-- One thing the executor was asked for this Run, or the agent did on its own. -/
inductive Call where
  | mutated (request : RequestId) (purpose : Purpose) (attempt : AttemptId) (outcome : MutationOutcome)
      (landed : Bool)
  | guardAsked (request : RequestId) (held : Bool)
  | guardReleased (request : RequestId) (report : GuardReport)
  | guardStatus (request : RequestId) (report : GuardReport)
  | guardFired (outcome : MutationOutcome) (landed : Bool)
  deriving DecidableEq

structure RunFile where
  host : ℕ
  object : ObjectId
  supported : Bool
  preview : Preview
  run : Run
  confirmation : Option Confirmation
  override : Option Confirmation
  grants : List Confirmation
  checkpoint : Option Checkpoint
  guard : Option Guard
  change : Option Change
  attempts : List Attempt
  events : List Event
  journal : List Call

/-- What one read of a fresh target showed, as the executor judged it. -/
structure ReadBack where
  outcome : VerificationOutcome
  observation : Option ObservationId
  value : Option Int
  state : Option String
  deriving DecidableEq

namespace RunFile

def state (f : RunFile) : RunState := f.run.1.state
def lockKey (f : RunFile) : LockKey := ⟨f.host,f.object,f.preview.change.lockAspect⟩
def outstanding (f : RunFile) : Option Confirmation := f.grants.find? (!·.consumed)
def inFlight (f : RunFile) : Option Attempt := f.attempts.find? (·.1.outcome = .inFlight)
def releaseOf (f : RunFile) : Option Attempt := f.attempts.find? (·.1.releasesHold)
def recoveryRequired (f : RunFile) : Bool := f.change.any (·.1.result = .recoveryRequired)

def append (f : RunFile) (request : RequestId) (event : RunEvent) (stateFrom stateTo : Option RunState) :
    RunFile :=
  { f with events := f.events ++ [⟨request,Event.nextSequence f.events,event,stateFrom,stateTo⟩] }

def note (f : RunFile) (request : RequestId) (event : RunEvent) : RunFile :=
  f.append request event none none

def setRun (f : RunFile) (c : RunColumns) : Except Error RunFile :=
  if h : c.check = true then .ok { f with run := ⟨c,h⟩ } else .error .integrity

def setState (f : RunFile) (state : RunState) : Except Error RunFile :=
  f.setRun { f.run.1 with state := state }

def setChange (f : RunFile) (c : ChangeColumns) : Except Error RunFile :=
  if h : c.check = true then .ok { f with change := some ⟨c,h⟩ } else .error .integrity

/-- A settled guard is history: the trigger refuses every further update. -/
def setGuard (f : RunFile) (g : GuardColumns) : Except Error RunFile :=
  if f.guard.any (·.1.settled.isSome) then .error .integrity
  else if h : g.check = true then .ok { f with guard := some ⟨g,h⟩ } else .error .integrity

/-- One attempt in flight per Change and one release per hold, as the partial unique
indexes require. -/
def attemptsFit (attempts : List Attempt) : Bool :=
  (attempts.filter (·.1.outcome = .inFlight)).length ≤ 1 &&
  (attempts.filter (·.1.releasesHold)).length ≤ 1

def insertAttempt (f : RunFile) (a : AttemptColumns) : Except Error RunFile :=
  if h : a.check = true then
    if f.recoveryRequired && attemptsFit (f.attempts ++ [⟨a,h⟩]) then
      .ok { f with attempts := f.attempts ++ [⟨a,h⟩] }
    else .error .integrity
  else .error .integrity

/-- The authority a recovery mutation names was consumed by that very mutation. -/
def authorised (f : RunFile) (a : AttemptColumns) : Bool :=
  match a.mutationAttempt with
  | none => true
  | some spent => f.grants.any fun g => a.authority = some g.grantedBy && g.consumedBy = some spent

def replaceAttempt (f : RunFile) (openedBy : RequestId) (a : Attempt) : List Attempt :=
  f.attempts.map fun b => if b.1.openedBy = openedBy then a else b

/-- A settled attempt does not move. -/
def updateAttempt (f : RunFile) (openedBy : RequestId) (update : AttemptColumns → AttemptColumns) :
    Except Error RunFile :=
  match f.attempts.find? (·.1.openedBy = openedBy) with
  | none => .ok f
  | some a =>
    if h : (update a.1).check = true then
      if a.1.outcome = .inFlight && f.authorised (update a.1) &&
          attemptsFit (f.replaceAttempt openedBy ⟨update a.1,h⟩) then
        .ok { f with attempts := f.replaceAttempt openedBy ⟨update a.1,h⟩ }
      else .error .integrity
    else .error .integrity

end RunFile

/-- One durable step: move the Run, move the Change, append one event. Atomically. -/
structure Step where
  event : RunEvent
  state : Option RunState := none
  stateFrom : Option RunState := none
  hostEffect : Option HostEffect := none
  finished : Bool := false
  change : Option (ChangeColumns → ChangeColumns) := none

namespace RunFile

def stepColumns (f : RunFile) (s : Step) : RunColumns :=
  { f.run.1 with
    state := s.state.getD f.state
    hostEffect := s.hostEffect.getD f.run.1.hostEffect
    finished := f.run.1.finished || s.finished }

def stepChange (f : RunFile) (s : Step) : Except Error RunFile :=
  match s.change,f.change with
  | some update,some change => f.setChange (update change.1)
  | _,_ => .ok f

def step (f : RunFile) (request : RequestId) (s : Step) : Except Error RunFile := do
  let f ← f.setRun (f.stepColumns s)
  let f ← f.stepChange s
  return f.append request s.event s.stateFrom s.state

theorem setRun_ok {f f' : RunFile} {c : RunColumns} (h : f.setRun c = .ok f') :
    ∃ hc : c.check = true, f' = { f with run := ⟨c,hc⟩ } := by
  unfold setRun at h
  split at h
  · next hc => exact ⟨hc,by simpa using h.symm⟩
  · cases h

theorem setChange_ok {f f' : RunFile} {c : ChangeColumns} (h : f.setChange c = .ok f') :
    ∃ hc : c.check = true, f' = { f with change := some ⟨c,hc⟩ } := by
  unfold setChange at h
  split at h
  · next hc => exact ⟨hc,by simpa using h.symm⟩
  · cases h

theorem setGuard_ok {f f' : RunFile} {g : GuardColumns} (h : f.setGuard g = .ok f') :
    f.guard.any (·.1.settled.isSome) = false ∧
      ∃ hg : g.check = true, f' = { f with guard := some ⟨g,hg⟩ } := by
  unfold setGuard at h
  split at h
  · cases h
  · next hs =>
    split at h
    · next hg => exact ⟨by simpa using hs,hg,by simpa using h.symm⟩
    · cases h

theorem insertAttempt_ok {f f' : RunFile} {a : AttemptColumns} (h : f.insertAttempt a = .ok f') :
    ∃ ha : a.check = true, f.recoveryRequired = true ∧ attemptsFit (f.attempts ++ [⟨a,ha⟩]) = true ∧
      f' = { f with attempts := f.attempts ++ [⟨a,ha⟩] } := by
  unfold insertAttempt at h
  split at h
  · next ha =>
    split at h
    · next hf =>
      simp only [Bool.and_eq_true] at hf
      exact ⟨ha,hf.1,hf.2,by simpa using h.symm⟩
    · cases h
  · cases h

theorem updateAttempt_ok {f f' : RunFile} {openedBy : RequestId}
    {update : AttemptColumns → AttemptColumns} (h : f.updateAttempt openedBy update = .ok f') :
    ((∀ a ∈ f.attempts, a.1.openedBy ≠ openedBy) ∧ f' = f) ∨
    ∃ (a : Attempt) (ha : (update a.1).check = true), a ∈ f.attempts ∧ a.1.openedBy = openedBy ∧
      a.1.outcome = .inFlight ∧ f.authorised (update a.1) = true ∧
      attemptsFit (f.replaceAttempt openedBy ⟨update a.1,ha⟩) = true ∧
      f' = { f with attempts := f.replaceAttempt openedBy ⟨update a.1,ha⟩ } := by
  unfold updateAttempt at h
  split at h
  · next hf => exact .inl ⟨by simpa using hf,by simpa using h.symm⟩
  · next a hf =>
    split at h
    · next ha =>
      split at h
      · next hc =>
        simp only [Bool.and_eq_true,decide_eq_true_eq] at hc
        exact .inr ⟨a,ha,List.mem_of_find?_eq_some hf,by simpa using List.find?_some hf,hc.1.1,hc.1.2,
          hc.2,by simpa using h.symm⟩
      · cases h
    · cases h

/-- Everything one durable step can do to a Run's rows. -/
theorem step_ok {f f' : RunFile} {request : RequestId} {s : Step} (h : f.step request s = .ok f') :
    ∃ (hc : (f.stepColumns s).check = true) (change : Option Change),
      f' = { f with
        run := ⟨f.stepColumns s,hc⟩
        change := change
        events := (f.append request s.event s.stateFrom s.state).events } ∧
      change.map (·.1) = (f.change.map (·.1)).map (s.change.getD id) := by
  simp only [step,bind,Except.bind] at h
  split at h
  · cases h
  · next g hr =>
    obtain ⟨hc,rfl⟩ := setRun_ok hr
    split at h
    · cases h
    · next g hg =>
      simp only [stepChange] at hg
      split at hg
      · next update change hu hch =>
        obtain ⟨hcc,rfl⟩ := setChange_ok hg
        refine ⟨hc,_,by simpa [append,pure,Except.pure] using h.symm,?_⟩
        simp [hch,hu]
      · next hnone =>
        cases hg
        refine ⟨hc,f.change,by simpa [append,pure,Except.pure] using h.symm,?_⟩
        cases hu : s.change with
        | none => simp
        | some update =>
          cases hch : f.change with
          | none => simp
          | some change => exact absurd hch (hnone update change hu)

end RunFile
end LocalPlane
