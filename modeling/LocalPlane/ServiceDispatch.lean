import LocalPlane.Estate
import LocalPlane.Outcomes
import LocalPlane.Scopes

/-!
# Dispatching one verb to the service manager

The bus and the manager answer as they like: any question may fail, also the ones that open
and leave a scope, and the one that changes the host may fail on either side of its effect.
What is reported of it is one of three outcomes.
-/

set_option linter.dupNamespace false

namespace LocalPlane

open LineProtocol (Json Fields)

namespace Dispatched

/-- What is raised on this side of the bus. -/
inductive Failure where
  | timeout
  | os (kind : String) (errno : Json)
  | systemd (reason : String) (detail : Fields)
  | other (kind text : String)

/-- An exception: an error reply to a question, or a failure of its own. -/
inductive Fault where
  | response (name : String)
  | failure (f : Failure)

/-- What becomes of the call that changes the host. Only a reply says what the manager did with it. -/
inductive CallAnswer where
  | unsent (f : Failure)
  | lost (f : Failure)
  | refused (name : String)
  | replied (body : List String)

/-- A completion signal: four values, of which the first should be a number. -/
structure Removed where
  jobId : Option Int
  path : String
  unit : String
  result : String

inductive Call where
  | runtimePathExists (path : String)
  | openConnection | subscribe
  | filterOwner | matchOwner | nameOwner | ownerChanges
  | filterJobs | matchJobs
  | getUnit (unitId : String)
  | unitProperties (path : String)
  | lifecycle (path member mode : String)
  | patience (seconds : ℕ) | receive
  | unfilterJobs | unfilterOwner | close

def Bus : Signature where
  Op := Call
  Ret
    | .runtimePathExists _ => Bool
    | .ownerChanges => Bool
    | .nameOwner => Except Fault (List Json)
    | .getUnit _ => Except Fault (List String)
    | .unitProperties _ => Except Fault (List Json)
    | .lifecycle _ _ _ => CallAnswer
    -- how many messages arrive before the clock runs out
    | .patience _ => ℕ
    | .receive => Except Fault (Option Removed)
    | _ => Except Fault Unit

structure LifecycleDispatchResult where
  outcome : MutationOutcome
  reason : String
  action : String
  unitId : String
  jobId : Option Int := none
  jobResult : Option String := none
  invocationId : Option String := none
  activeState : Option String := none
  detail : Fields

structure Locals where
  jobPath : Option String
  invocation : Option String
  activeState : Option String
  detail : Fields

abbrev Routine (α : Type) := LocalPlane.Routine Bus Locals Fault α

open LocalPlane.Routine (modify locals raise within handle lift)

def perform (call : Call) : Routine (Bus.Ret call) := LocalPlane.Routine.perform (S:=Bus) call

def systemdLifecycleActions : List String := ["start","stop","restart"]

def lifecycleUnitMethodFor (action : String) : Option String :=
  [("start","Start"),("stop","Stop"),("restart","Restart")].lookup action

def systemdDispatchMode : String := "fail"

def jobCompletionTimeoutS : ℕ := 90

def jobResultDone : String := "done"

def authorizationErrors : List String :=
  ["org.freedesktop.DBus.Error.AccessDenied","org.freedesktop.DBus.Error.InteractiveAuthorizationRequired",
    "org.freedesktop.DBus.Error.AuthFailed"]

def noSuchUnitErrors : List String := ["org.freedesktop.systemd1.NoSuchUnit"]

def supportedUnitSuffixes : List String := [".service",".socket",".timer",".target",".path",".mount"]

def endsWith (text suffix : String) : Bool := suffix.toList.isSuffixOf text.toList

/-- `{**detail, **more}`: a key is read where it stands first. -/
def merged (detail more : Fields) : Fields := more ++ detail

def failureDetail : Fault → Fields
  | .response name => [("error_type",.str "DBusErrorResponse"),("dbus_error",.str name)]
  | .failure .timeout => [("error_type",.str "TimeoutError"),("errno",.null)]
  | .failure (.os kind errno) => [("error_type",.str kind),("errno",errno)]
  | .failure (.systemd reason detail) =>
    merged (merged [("error_type",.str "SystemdFailure")] detail) [("reason",.str reason)]
  | .failure (.other kind text) => [("error_type",.str kind),("error",.str (String.ofList (text.toList.take 512)))]

def stringOrNone : Json → Option String
  | .str s => if s = "" then none else some s
  | _ => none

def byteOf : Json → Option ℕ
  | .num n => if 0 ≤ n ∧ n ≤ 255 then some n.toNat else none
  | .bool b => some b.toNat
  | _ => none

def hexDigits (n : ℕ) : List Char := [Nat.digitChar (n / 16),Nat.digitChar (n % 16)]

/-- Sixteen bytes, unless they are all zero or not bytes. -/
def invocationId : Json → Option String
  | .arr items => do
    let raw ← items.mapM byteOf
    if raw.any (· ≠ 0) then some (String.ofList (raw.flatMap hexDigits)) else none
  | _ => none

/-- How `repr` spells a name, and the environment the provider was built for. -/
structure SystemdProvider where
  runtimePath : Option String
  now : String
  repr : String → String

/-- What is wrong with a unit name, if anything. -/
def validateServiceUnitName (p : SystemdProvider) (unitId : String) : Option String :=
  let chars := unitId.toList
  if chars = [] ∨ 255 < chars.length ∨ chars.any (· ∈ ['/','\x00','\r','\n']) then
    some "unit_id must be one systemd unit name, not a path"
  else if ¬supportedUnitSuffixes.any (endsWith unitId) then
    some "unit_id must name a supported service, socket, timer, target, path or mount unit"
  else if chars.any (· ∈ ['*','?','[']) then some "unit_id must not contain a glob expression"
  else if ¬endsWith unitId ".service" then some ("systemd lifecycle acts only on service units: " ++ p.repr unitId)
  else none

def notDispatched (action unitId reason : String) (detail : Fields) (invocation activeState : Option String) :
    LifecycleDispatchResult where
  outcome := .notWritten
  reason := reason
  action := action
  unitId := unitId
  invocationId := invocation
  activeState := activeState
  detail := detail

def writeUnknown (action unitId reason : String) (detail : Fields) (invocation activeState : Option String) :
    LifecycleDispatchResult where
  outcome := .writeUnknown
  reason := reason
  action := action
  unitId := unitId
  invocationId := invocation
  activeState := activeState
  detail := detail

section Connection

def openConnection : Routine Unit := do lift (← perform .openConnection)
def closeConnection : Routine Unit := do lift (← perform .close)
def subscribe : Routine Unit := do lift (← perform .subscribe)

def nameChar (c : Char) : Bool := c.isAlphanum || c = '_' || c = '-'

def uniqueName (owner : String) : Bool :=
  match owner.toList with
  | ':' :: rest =>
    let parts := rest.splitOn '.'
    decide (owner.toList.length ≤ 255) && decide (2 ≤ parts.length) && parts.all fun part => !part.isEmpty && part.all nameChar
  | _ => false

def currentOwner : Routine String := do
  match ← lift (← perform .nameOwner) with
  | [.str owner] =>
    if uniqueName owner then return owner
    else raise (.failure (.other "RuntimeError" "systemd manager owner is not a unique bus name"))
  | _ => raise (.failure (.other "RuntimeError" "systemd manager owner is not a unique bus name"))

def checkOwner (owner : String) : Routine Unit := do
  let actual ← currentOwner
  let changed : Bool ← perform .ownerChanges
  if changed ∨ actual ≠ owner then raise (.failure (.other "RuntimeError" "systemd manager owner changed during dispatch"))
  else return ()

/-- The scope of a watch: both filters are left whatever happens in it. -/
def jobWatch {α : Type} (body : String → Routine α) : Routine α := do
  lift (← perform .filterOwner)
  within (do lift (← perform .unfilterOwner)) do
    lift (← perform .matchOwner)
    let owner ← currentOwner
    lift (← perform .filterJobs)
    within (do lift (← perform .unfilterJobs)) do
      lift (← perform .matchJobs)
      body owner

/-- The path of a loaded unit, or nothing when the manager says that there is none. -/
def getUnitPath (unitId : String) : Routine (Option String) := do
  match ← perform (.getUnit unitId) with
  | .ok (path :: _) => return some path
  | .ok [] => raise (.failure (.other "IndexError" "tuple index out of range"))
  | .error (.response name) => if name ∈ noSuchUnitErrors then return none else raise (.response name)
  | .error (.failure f) => raise (.failure f)

def typeName : Json → String
  | .null => "NoneType"
  | .bool _ => "bool"
  | .num _ => "int"
  | .str _ => "str"
  | .arr _ => "list"
  | .obj _ => "dict"

def unitProperties (path : String) : Routine Fields := do
  match ← lift (← perform (.unitProperties path)) with
  | .obj fields :: _ => return fields
  | raw :: _ => raise (.failure (.systemd "unexpected_property_shape"
      [("interface",.str "org.freedesktop.systemd1.Unit"),("received",.str (typeName raw))]))
  | [] => raise (.failure (.other "IndexError" "tuple index out of range"))

/-- The job's path, or what is raised instead. -/
def unitLifecycle (path member : String) : Routine (Except Fault String) := do
  match ← perform (.lifecycle path member systemdDispatchMode) with
  | .unsent f => return .error (.failure f)
  | .lost f => return .error (.failure f)
  | .refused name => return .error (.response name)
  | .replied [] => return .error (.failure (.other "IndexError" "tuple index out of range"))
  | .replied (job :: _) => return .ok job

/-- Messages until the one that names the job and the unit, or the clock runs out. -/
def awaitRemoved (owner jobPath unitId : String) : ℕ → Routine (Option (Int × String))
  | 0 => return none
  | n+1 => do
    match ← perform .receive with
    | .error (.failure .timeout) => return none
    | .error f => raise f
    | .ok none => awaitRemoved owner jobPath unitId n
    | .ok (some message) =>
      if message.path = jobPath ∧ message.unit = unitId then
        checkOwner owner
        match message.jobId with
        | none => raise (.failure (.other "ValueError" "invalid literal for int()"))
        | some jobId => return some (jobId,message.result)
      else awaitRemoved owner jobPath unitId n

def resultFor (owner jobPath unitId : String) (timeoutS : ℕ) : Routine (Option (Int × String)) := do
  let n : ℕ ← perform (.patience timeoutS)
  awaitRemoved owner jobPath unitId n

end Connection

/-- How the scopes are left: with a result, or to interpret what was heard of the job. -/
inductive Leaving where
  | early (result : LifecycleDispatchResult)
  | heard (completion : Option (Int × String))

/-- What happens within both scopes. -/
def dispatchWithin (unitId action member owner : String) : Routine Leaving := do
  match ← getUnitPath unitId with
  | none => return .early (notDispatched action unitId "unit_not_loaded" (← locals).detail none none)
  | some objectPath =>
    let properties ← unitProperties objectPath
    let identity := stringOrNone (fact properties "Id")
    let loadState := stringOrNone (fact properties "LoadState")
    let invocation := invocationId (fact properties "InvocationID")
    let activeState := stringOrNone (fact properties "ActiveState")
    modify fun l => {l with invocation := invocation,activeState := activeState}
    let text (o : Option String) : Json := o.elim .null .str
    if identity ≠ some unitId ∨ loadState ≠ some "loaded" then
      return .early (notDispatched action unitId "dispatch_identity_not_canonical"
        (merged (← locals).detail [("resolved_id",text identity),("load_state",text loadState)]) none none)
    else
      let found : Fields := [("invocation_id_at_dispatch",text invocation),("active_state_at_dispatch",text activeState)]
      modify fun l => {l with detail := merged l.detail found}
      checkOwner owner
      let detail := (← locals).detail
      match ← unitLifecycle objectPath member with
      | .error (.response name) =>
        return .early (notDispatched action unitId
          (if name ∈ authorizationErrors then "authorization_denied" else "dispatch_refused")
          (merged detail [("dbus_error",.str name),("authorization_decision_point",.str "dispatch")]) invocation activeState)
      | .error (.failure f) =>
        return .early (writeUnknown action unitId "dispatch_answer_untrustworthy"
          (merged detail (failureDetail (.failure f))) invocation activeState)
      | .ok jobPath =>
        modify fun l => {l with jobPath := some jobPath}
        return .heard (← resultFor owner jobPath unitId jobCompletionTimeoutS)

/-- The job path, and nothing else, says on which side of the dispatch something was raised. -/
def afterFault (unitId action : String) (f : Fault) : Routine Leaving := do
  let l ← locals
  let detail := merged l.detail (failureDetail f)
  if l.jobPath.isSome then
    return .early (writeUnknown action unitId "job_result_unobservable" detail l.invocation l.activeState)
  else
    let reason := match f with
      | .response _ => "systemd_refused_before_dispatch"
      | .failure _ => "systemd_unreachable"
    return .early (notDispatched action unitId reason detail l.invocation l.activeState)

/-- Only `done` is written. -/
def conclude (unitId action : String) (l : Locals) : Leaving → LifecycleDispatchResult
  | .early result => result
  | .heard none => writeUnknown action unitId "job_result_not_observed"
      (merged l.detail [("timeout_s",.num jobCompletionTimeoutS)]) l.invocation l.activeState
  | .heard (some (jobId,jobResult)) =>
    { outcome := if jobResult = jobResultDone then .written else .writeUnknown
      reason := if jobResult = jobResultDone then "job_completed" else "job_did_not_complete"
      action := action
      unitId := unitId
      jobId := some jobId
      jobResult := some jobResult
      invocationId := l.invocation
      activeState := l.activeState
      detail := l.detail }

/-- The connection, the subscription and the watch, and the outcome of whatever goes wrong in them. -/
def dispatchOverBus (unitId action member : String) : Routine LifecycleDispatchResult := do
  let leaving ← handle
    (do
      openConnection
      within closeConnection do
        subscribe
        jobWatch (dispatchWithin unitId action member))
    (afterFault unitId action)
  return conclude unitId action (← locals) leaving

def environmentUnavailable (p : SystemdProvider) : Routine (Option (String × Fields)) := do
  match p.runtimePath with
  | none => return none
  | some path =>
    let there : Bool ← perform (.runtimePathExists path)
    if there then return none
    else return some ("systemd_system_manager_absent",[("runtime_path",.str path),("manager_scope",.str "system")])

def initialDetail (p : SystemdProvider) (action : String) : Fields :=
  [("manager_scope",.str "system"),("transport",.str "system_bus_dbus"),
    ("dispatch_interface",.str "org.freedesktop.systemd1.Unit"),
    ("dispatch_member",(lifecycleUnitMethodFor action).elim .null .str),("mode",.str systemdDispatchMode),
    ("loaded_unit_lookup",.str "Manager.GetUnit"),("transport_handle_persisted",.bool false),
    ("authorization_preflight",.str "not_preflighted"),("observed_at",.str p.now)]

def dispatchServiceLifecycle (p : SystemdProvider) (unitId action : String) : Routine LifecycleDispatchResult :=
  let detail := initialDetail p action
  match lifecycleUnitMethodFor action with
  | none =>
    return notDispatched action unitId "unsupported_lifecycle_action"
      (merged detail [("supported",.arr (systemdLifecycleActions.map .str))]) none none
  | some member =>
    match validateServiceUnitName p unitId with
    | some error =>
      return notDispatched action unitId "invalid_service_unit_name"
        (merged detail [("required_unit_type",.str "service"),("error",.str error)]) none none
    | none => do
      match ← environmentUnavailable p with
      | some (reason,more) => return notDispatched action unitId reason (merged detail more) none none
      | none => dispatchOverBus unitId action member

def initialLocals (p : SystemdProvider) (action : String) : Locals := ⟨none,none,none,initialDetail p action⟩

end Dispatched
end LocalPlane
