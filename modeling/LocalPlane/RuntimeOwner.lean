import LocalPlane.Estate
import LocalPlane.PreviewStore
import LocalPlane.Scopes

/-!
# Who owns what runs in a cgroup

The attestation, the Engine, systemd and the kernel are each read twice around one pass over
the containers. Any reading may change, fail or raise. The handles that are held on processes
are closed on every way out, which raises nothing, and are left out.
-/

set_option linter.dupNamespace false

namespace LocalPlane

open LineProtocol (Json Fields)
open Planning (RuntimeOwnerCorrelation RuntimeOwnerStatus runtimeOwnerGaps)

namespace Correlated

/-- What a reading raises: a failure that names its gap, or anything else. -/
inductive Fault where
  | docker (gap : String)
  | process (gap : String)
  | other

def gapPrefix : String := "management_path.runtime_owner."

def Fault.gap : Fault → String
  | .docker gap | .process gap => gap
  | .other => gapPrefix ++ "daemon_process_unattested"

structure DockerDirectEngineAttestation where
  contract : String
  runtime : String
  engineTransport : String
  engineEndpoint : String
  engineUnitId : String
  engineProcessRole : String
  engineScope : String
  enginePrivilege : String
  fingerprint : String
  deriving DecidableEq

structure DockerDirectAttestationRead where
  status : String
  reason : String
  attestation : Option DockerDirectEngineAttestation

/-- The attestation of a reading that can be trusted. -/
def DockerDirectAttestationRead.trusted (r : DockerDirectAttestationRead) : Option DockerDirectEngineAttestation :=
  if r.status = "trusted" then r.attestation else none

structure Peer where
  pid : Int
  pidfd : Int

abbrev Identity := ℕ × ℕ

/-- One process generation and its cgroup. -/
structure PinnedProcessCgroup where
  pid : Int
  startTimeTicks : Int
  cgroupPath : String
  cgroup : Identity
  deriving DecidableEq

structure ProcessUnitResolution where
  status : String
  canonicalId : Option String
  invocationId : Option String
  facts : Option Fields

structure DockerRuntimeVersion where
  engineVersion : String
  apiVersion : String
  minimumApiVersion : String
  os : String
  arch : String
  deriving DecidableEq

structure DockerRuntimeInfo where
  engineId : String
  serverVersion : String
  osType : String
  cgroupDriver : String
  cgroupVersion : String
  liveRestoreEnabled : Bool
  deriving DecidableEq

inductive Call where
  | readAttestation
  | cgroupIdentity (path : String)
  | openSnapshot (attestation : DockerDirectEngineAttestation)
  | inspectExisting (pid pidfd : Int)
  | sharesObserverPidNamespace (process : PinnedProcessCgroup)
  | resolveProcessUnit (pidfd : Int)
  | readVersion
  | readInfo
  | listContainerIds
  | inspectListedContainer (containerId : String)
  | pin (pid : Int)
  | stable (process : PinnedProcessCgroup)
  | requirePeerLive
  | closeSnapshot

def Answer : Call → Type
  | .readAttestation => DockerDirectAttestationRead
  | .cgroupIdentity _ => Identity
  | .openSnapshot _ => Peer
  | .inspectExisting _ _ | .pin _ => PinnedProcessCgroup
  | .sharesObserverPidNamespace _ | .stable _ => Bool
  | .resolveProcessUnit _ => ProcessUnitResolution
  | .readVersion => DockerRuntimeVersion
  | .readInfo => DockerRuntimeInfo
  | .listContainerIds => List String
  | .inspectListedContainer _ => Fields
  | .requirePeerLive | .closeSnapshot => Unit

def Session : Signature where
  Op := Call
  Ret call := Except Fault (Answer call)

abbrev Reading (α : Type) := Program Session Fault α

def ask (call : Call) : Reading (Answer call) := .act (S:=Session) call .ret

def lift {α : Type} (x : Except Fault α) : Reading α := .ret x

def fail {α : Type} (gap : String) : Reading α := .ret (.error (.docker (gapPrefix ++ gap)))

section Cgroups

/-- The components of a path. -/
def parts (path : String) : List (List Char) := (path.toList.splitOn '/').filter (· ≠ [])

/-- One absolute path that is its own normal form. -/
def validCgroupPath (path : String) : Bool :=
  path.toList.head? = some '/' && path.toList.all (· ∉ ['\x00','\r','\n']) &&
    (path = "/" || (path.toList.tail.splitOn '/').all fun part => decide (part ≠ []) && decide (part ≠ ['.']) && decide (part ≠ ['.','.']))

/-- The root holds every process, so it is the ancestor of nothing. -/
def cgroupRelation (ancestor descendant : String) : Option String :=
  if ¬(validCgroupPath ancestor && validCgroupPath descendant) then none
  else if ancestor = "/" ∨ descendant = "/" then none
  else if parts ancestor = parts descendant then some "equal"
  else if (parts ancestor).isPrefixOf (parts descendant) then some "ancestor"
  else none

end Cgroups

section Systemd

def isInvocationId (t : String) : Bool :=
  t.toList.length = 32 && t.toList.all (fun c => c ∈ "0123456789abcdef".toList) && t.toList.any (· ≠ '0')

/-- What the two readings of the service have to agree on. -/
structure ServiceState where
  unitId : String
  invocationId : String
  loadState : Json
  activeState : Json
  subState : Json
  currentJob : Json
  mainPid : Int
  controlGroup : String
  deriving DecidableEq

def refuse {α : Type} (gap : String) : Except Fault α := .error (.docker (gapPrefix ++ gap))

def validateSystemdOwner (resolution : ProcessUnitResolution) (attestation : DockerDirectEngineAttestation) (peerPid : Int)
    (peerCgroup : String) : Except Fault ServiceState :=
  match resolution.facts with
  | none => refuse (if resolution.status = "resolved" then "socket_activation_unsupported" else "daemon_unit_unresolved")
  | some facts =>
    if resolution.status ≠ "resolved" then refuse "daemon_unit_unresolved"
    else if fact facts "unit_type" ≠ .str "service" then refuse "socket_activation_unsupported"
    else if resolution.canonicalId ≠ some attestation.engineUnitId then refuse "daemon_unit_mismatch"
    else
      match resolution.invocationId with
      | none => refuse "daemon_process_unattested"
      | some invocation =>
        if fact facts "canonical_id" ≠ .str attestation.engineUnitId ∨ fact facts "load_state" ≠ .str "loaded" ∨
            fact facts "active_state" ≠ .str "active" ∨ fact facts "transient" ≠ .bool false ∨
            fact facts "current_job" ≠ .null ∨ ¬isInvocationId invocation ∨ fact facts "invocation_id" ≠ .str invocation then
          refuse "daemon_process_unattested"
        else
          let service := (Planning.Json.obj? (fact facts "service")).getD []
          if ¬(0 < peerPid ∧ fact service "main_pid" = .num peerPid) then refuse "daemon_main_pid_mismatch"
          else
            match fact service "control_group" with
            | .str controlGroup =>
              if cgroupRelation controlGroup peerCgroup = none then refuse "daemon_process_unattested"
              else .ok ⟨attestation.engineUnitId,invocation,fact facts "load_state",fact facts "active_state",
                fact facts "sub_state",fact facts "current_job",peerPid,controlGroup⟩
            | _ => refuse "daemon_process_unattested"

end Systemd

-- whether a text is an instant with a date, a time of day and an offset
variable (validStartedAt : String → Bool)

/-- The start and the main process of a container that runs in the host's network, if it has both. -/
def runtimeCandidate (inspected : Fields) (listedId : String) : Except Fault (Option (String × Int)) :=
  if fact inspected "Id" ≠ .str listedId then refuse "engine_snapshot_changed"
  else
    match fact inspected "State",fact inspected "HostConfig" with
    | .obj state,.obj host =>
      if fact state "Running" ≠ .bool true ∨ fact host "NetworkMode" ≠ .str "host" then .ok none
      else
        match fact state "Pid",fact state "StartedAt" with
        | .num pid,.str startedAt => if 0 < pid ∧ startedAt ≠ "" ∧ validStartedAt startedAt then .ok (some (startedAt,pid)) else .ok none
        | _,_ => .ok none
    | _,_ => refuse "engine_snapshot_changed"

structure Match where
  containerId : String
  startedAt : String
  relation : String
  process : PinnedProcessCgroup

/-- One container: its process is pinned before it is compared, and a match is read again. -/
def inspectOne (accepted : String) (identity : Identity) (containerId : String) : Reading (Option Match) := do
  let inspected ← ask (.inspectListedContainer containerId)
  let candidate ← lift (runtimeCandidate validStartedAt inspected containerId)
  match candidate with
  | none => return none
  | some (startedAt,pid) =>
    let pinned ← ask (.pin pid)
    match cgroupRelation pinned.cgroupPath accepted with
    | none => return none
    | some relation =>
      let again ← ask (.inspectListedContainer containerId)
      let candidateAgain ← lift (runtimeCandidate validStartedAt again containerId)
      if candidateAgain ≠ some (startedAt,pid) then fail "container_changed"
      else
        let stable : Bool ← ask (.stable pinned)
        if ¬stable then fail "container_changed"
        else
          let current : Identity ← ask (.cgroupIdentity accepted)
          if current ≠ identity then fail "container_changed" else return some ⟨containerId,startedAt,relation,pinned⟩

def inspectAll (accepted : String) (identity : Identity) : List String → Reading (List Match)
  | [] => return []
  | containerId :: rest => do
    let found ← inspectOne validStartedAt accepted identity containerId
    let more ← inspectAll accepted identity rest
    return found.toList ++ more

/-- What is refused when a correlation is built. -/
def build (o : RuntimeOwnerCorrelation) : Except Fault RuntimeOwnerCorrelation :=
  if o.check fun _ => true then .ok o else .error .other

def incomplete (gaps : List String) (semantic : Option DockerDirectEngineAttestation) : Reading RuntimeOwnerCorrelation :=
  lift (build
    { contractVersion := "docker-direct-unix-v1"
      methodVersion := 1
      provider := "docker"
      status := .incomplete
      attestationFingerprint := semantic.map (·.fingerprint)
      endpoint := semantic.map (·.engineEndpoint)
      containerId := none
      containerStartedAt := none
      engineId := none
      directTransportVerified := false
      peerServiceMainVerified := false
      ownerUnitId := none
      ownerInvocationId := none
      executionCgroupRelation := none
      gaps := sorted gaps.dedup })

/-- The correlation of the one match there is. -/
def resolvedOwner (attestation : DockerDirectEngineAttestation) (info : DockerRuntimeInfo) (unit : ProcessUnitResolution)
    (found : Match) : RuntimeOwnerCorrelation where
  contractVersion := attestation.contract
  methodVersion := 1
  provider := "docker"
  status := .resolved
  attestationFingerprint := some attestation.fingerprint
  endpoint := some attestation.engineEndpoint
  containerId := some found.containerId
  containerStartedAt := some found.startedAt
  engineId := some info.engineId
  directTransportVerified := true
  peerServiceMainVerified := true
  ownerUnitId := unit.canonicalId
  ownerInvocationId := unit.invocationId
  executionCgroupRelation := some found.relation
  gaps := []

/-- The second half: everything that was read is read again around the match. -/
def confirm (accepted : String) (attestation : DockerDirectEngineAttestation) (identity : Identity) (peer : Peer)
    (process : PinnedProcessCgroup) (unit : ProcessUnitResolution) (service : ServiceState) (version : DockerRuntimeVersion)
    (info : DockerRuntimeInfo) (found : Match) : Reading RuntimeOwnerCorrelation := do
  let infoAgain : DockerRuntimeInfo ← ask .readInfo
  let versionAgain : DockerRuntimeVersion ← ask .readVersion
  if version ≠ versionAgain ∨ info ≠ infoAgain then fail "engine_snapshot_changed"
  else
    let unitAgain ← ask (.resolveProcessUnit peer.pidfd)
    let serviceAgain ← lift (validateSystemdOwner unitAgain attestation peer.pid process.cgroupPath)
    if service ≠ serviceAgain then fail "daemon_process_unattested"
    else
      let final ← ask (.inspectListedContainer found.containerId)
      if fact final "Id" ≠ .str found.containerId then fail "container_changed"
      else
        let candidate ← lift (runtimeCandidate validStartedAt final found.containerId)
        if candidate ≠ some (found.startedAt,found.process.pid) ∨
            cgroupRelation found.process.cgroupPath accepted ≠ some found.relation then fail "container_changed"
        else
          let peerStable : Bool ← ask (.stable process)
          if ¬peerStable then fail "container_changed"
          else
            let matchStable : Bool ← ask (.stable found.process)
            if ¬matchStable then fail "container_changed"
            else
              let current : Identity ← ask (.cgroupIdentity accepted)
              if current ≠ identity then fail "container_changed"
              else
                let read : DockerDirectAttestationRead ← ask .readAttestation
                if read.trusted ≠ some attestation then fail "attestation_changed"
                else
                  let _ ← ask .requirePeerLive
                  lift (build (resolvedOwner attestation info unit found))

def observeOwner (accepted : String) (attestation : DockerDirectEngineAttestation) (identity : Identity) (peer : Peer) :
    Reading RuntimeOwnerCorrelation := do
  let process ← ask (.inspectExisting peer.pid peer.pidfd)
  let shared : Bool ← ask (.sharesObserverPidNamespace process)
  if ¬shared then .ret (.error (.process (gapPrefix ++ "pid_namespace_mismatch")))
  else
    let unit ← ask (.resolveProcessUnit peer.pidfd)
    let service ← lift (validateSystemdOwner unit attestation peer.pid process.cgroupPath)
    let version ← ask .readVersion
    let info ← ask .readInfo
    let listed ← ask .listContainerIds
    let found ← inspectAll validStartedAt accepted identity listed
    match found with
    | [] => fail "container_not_found"
    | [one] => confirm validStartedAt accepted attestation identity peer process unit service version info one
    | _ :: _ :: _ => fail "container_ambiguous"

/-- `with`: the snapshot is closed on every way out, and what closing raises replaces it. -/
def closing {α : Type} (body : Reading α) : Reading α := body.settle fun x => .act (S:=Session) .closeSnapshot fun
  | .ok _ => .ret x
  | .error fault => .ret (.error fault)

def correlate (accepted : String) : Reading RuntimeOwnerCorrelation := do
  let read : DockerDirectAttestationRead ← ask .readAttestation
  match read.trusted with
  | none => incomplete [gapPrefix ++ read.reason] none
  | some attestation =>
    Program.tryCatch (do
      let identity : Identity ← ask (.cgroupIdentity accepted)
      let peer ← ask (.openSnapshot attestation)
      closing (observeOwner validStartedAt accepted attestation identity peer))
      fun fault => incomplete [fault.gap] (some attestation)

end Correlated
end LocalPlane
