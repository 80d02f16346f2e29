import LocalPlane.Estate
import LocalPlane.PreviewStore

/-!
# What the agent observes for a lifecycle plan

One request-scoped reading: the closure of the action, the unit behind the accepted
connection, the units of the providers on the management path, and the agent's own unit.
What each source answers is given; what is made of it follows the reader step by step.
-/

set_option linter.dupNamespace false

namespace LocalPlane

open LineProtocol (Json Fields)
open Planning (SystemdLifecycleContext RuntimeOwnerCorrelation RuntimeOwnerStatus EffectEdge SystemdServiceAction)

namespace Lifecycle

structure EffectGraphObservation where
  status : String
  targetFacts : Option Fields
  units : List String
  edges : List EffectEdge
  activeActivationSources : List String
  activeUpholdingSources : List String
  gaps : List String

def EffectGraphObservation.complete (g : EffectGraphObservation) : Bool := g.status = "complete" ∧ g.gaps = []

/-- A unit systemd answered with: its type is what the observation says, never read off the name. -/
structure AgentUnitResolution where
  status : String
  canonicalId : Option String
  unitType : Option String
  reason : Option String

/-- The unit a resolution settles on. -/
def AgentUnitResolution.resolved (r : AgentUnitResolution) : Option String :=
  if r.status = "resolved" then r.canonicalId.filter (· ≠ "") else none

structure TcpSocketTuple where
  family : String
  peerIp : String
  peerPort : Int
  localIp : String
  localPort : Int

/-- A socket lookup: the cgroup of the one socket that matched, if one did. -/
structure SocketDiagResult where
  status : String
  reason : String
  cgroupId : Option ℕ

structure CgroupPathResult where
  status : String
  reason : String
  path : Option String

structure IpAddress where
  version : ℕ
  isLoopback : Bool

/-- What the sources answer in one observation, and how the language reads an address or a number. -/
structure Sources where
  now : String
  graph : String → String → EffectGraphObservation
  ipAddress : String → Option IpAddress
  intOf : String → Option Int
  networkNamespaceInode : Option Int
  lookup : TcpSocketTuple → SocketDiagResult
  resolveCgroupPath : ℕ → CgroupPathResult
  resolveControlGroupUnit : String → AgentUnitResolution
  correlate : Option (String → RuntimeOwnerCorrelation)
  resolveProviderUnit : String → AgentUnitResolution
  resolveCurrentProcessUnit : AgentUnitResolution
  evidence : Fields

structure LifecycleContextObservation where
  status : String
  observedAt : String
  targetUnit : String
  action : String
  targetFacts : Fields
  effectUnits : List String
  effectEdges : List EffectEdge
  effectComplete : Bool
  activeActivationSources : List String
  activeUpholdingSources : List String
  managementUnits : List String
  managementComplete : Bool
  connectionUnit : Option String
  connectionUnitType : Option String
  agentUnit : Option String
  agentComplete : Bool
  agentUnitType : Option String
  gaps : List String
  evidence : Fields
  runtimeOwner : Option RuntimeOwnerCorrelation

def managementProviders : List String := ["networkmanager","docker","tailscale"]

section Socket

variable (s : Sources)

/-- `int(x)` of what an answer can carry. -/
def intOf : Json → Option Int
  | .num n => some n
  | .bool b => some b.toNat
  | .str t => s.intOf t
  | _ => none

/-- An integer as the language counts them: a truth value is one. -/
def integer : Json → Option Int
  | .num n => some n
  | .bool b => some b.toNat
  | _ => none

/-- The accepted socket, if what the request carries describes one. -/
def acceptedTuple (connection : Fields) : Option TcpSocketTuple := do
  let family ← Planning.Json.text? (fact connection "family")
  let peerIp ← Planning.Json.text? (fact connection "peer_ip")
  let peerPort ← intOf s (fact connection "peer_port")
  let localIp ← Planning.Json.text? (fact connection "local_ip")
  let localPort ← intOf s (fact connection "local_port")
  let peer ← s.ipAddress peerIp
  let here ← s.ipAddress localIp
  let expected : ℕ := if family = "ipv4" then 4 else if family = "ipv6" then 6 else 0
  if expected = 0 ∨ peer.version ≠ expected ∨ here.version ≠ expected then none
  else if ¬(1 ≤ peerPort ∧ peerPort ≤ 65535 ∧ 1 ≤ localPort ∧ localPort ≤ 65535) then none
  else return ⟨family,peerIp,peerPort,localIp,localPort⟩

def isLoopback (ip : String) : Bool := (s.ipAddress ip).any (·.isLoopback)

/-- The unit that contains the accepted socket, its cgroup and its type, or the gap that stood in the way. -/
structure SocketContext where
  unit : Option String
  cgroupPath : Option String
  unitType : Option String
  gap : Option String

def socketContext (connection : Fields) : SocketContext :=
  match acceptedTuple s connection with
  | none => ⟨none,none,none,some "management_path.accepted_tcp_tuple_invalid"⟩
  | some query =>
    if isLoopback s query.peerIp || isLoopback s query.localIp then ⟨none,none,none,some "management_path.loopback_transport"⟩
    else
      let diag := s.lookup query
      match diag.cgroupId with
      | none => ⟨none,none,none,some ("management_path.socket_diag:" ++ diag.reason)⟩
      | some cgroupId =>
        if diag.status ≠ "matched" then ⟨none,none,none,some ("management_path.socket_diag:" ++ diag.reason)⟩
        else
          let cgroup := s.resolveCgroupPath cgroupId
          match cgroup.path with
          | none => ⟨none,none,none,some ("management_path.cgroup:" ++ cgroup.reason)⟩
          | some path =>
            if cgroup.status ≠ "resolved" then ⟨none,none,none,some ("management_path.cgroup:" ++ cgroup.reason)⟩
            else
              let resolution := s.resolveControlGroupUnit path
              match resolution.resolved with
              | none => ⟨none,some path,none,some ("management_path.systemd_unit:" ++ resolution.reason.getD "None")⟩
              | some unit => ⟨some unit,some path,resolution.unitType,none⟩

end Socket

/-- What has been learned of the management path. -/
structure ManagementPart where
  units : List String
  complete : Bool
  gaps : List String
  connectionUnit : Option String := none
  connectionUnitType : Option String := none
  runtimeOwner : Option RuntimeOwnerCorrelation := none

/-- The containing unit of the connection, and the owner of a unit that is not a service. -/
def connectionPart (s : Sources) (connection : Fields) : ManagementPart :=
  match integer (fact connection "backend_netns_inode"),s.networkNamespaceInode with
  | some backend,some agent =>
    if backend ≠ agent then { units := [], complete := false, gaps := ["management_path.network_namespace_mismatch"] }
    else
      let socket := socketContext s connection
      let found : ManagementPart :=
        { units := socket.unit.toList
          complete := true
          gaps := []
          connectionUnit := socket.unit
          connectionUnitType := socket.unitType }
      match socket.gap with
      | some gap => { found with complete := false, gaps := [gap] }
      | none =>
        if socket.unitType = some "service" then found
        else
          match s.correlate,socket.cgroupPath with
          | some correlate,some path =>
            let owner := correlate path
            let found := { found with runtimeOwner := some owner }
            match owner.status,owner.ownerUnitId with
            | .resolved,some unit =>
              if unit ≠ "" then { found with units := found.units ++ [unit] }
              else { found with complete := false, gaps := Planning.runtimeOwnerUmbrellaGap :: owner.gaps }
            | _,_ => { found with complete := false, gaps := Planning.runtimeOwnerUmbrellaGap :: owner.gaps }
          | _,_ => { found with complete := false, gaps := [Planning.runtimeOwnerUmbrellaGap] }
  | _,_ => { units := [], complete := false, gaps := ["management_path.network_namespace"] }

/-- One provider on the management path: its unit is on it too. -/
def addProvider (s : Sources) (part : ManagementPart) (provider : String) : ManagementPart :=
  if provider ∉ managementProviders then
    { part with complete := false, gaps := part.gaps ++ ["management_path.provider_vocabulary_unknown"] }
  else
    match (s.resolveProviderUnit provider).resolved with
    | some unit => { part with units := part.units ++ [unit] }
    | none => { part with complete := false, gaps := part.gaps ++ ["management_path.provider_owner:" ++ provider] }

def managementPart (s : Sources) (connection : Fields) (providers : List String) (evidenceComplete : Bool) : ManagementPart :=
  let part := connectionPart s connection
  let part := if evidenceComplete then part
    else { part with complete := false, gaps := part.gaps ++ ["management_path.provider_evidence_incomplete"] }
  providers.foldl (addProvider s) part

def graphGaps (graph : EffectGraphObservation) : List String :=
  graph.gaps ++ if graph.complete then [] else ["systemd.effect_graph"]

def agentGaps (agent : AgentUnitResolution) : List String :=
  if agent.resolved.isSome then [] else ["localplane_agent.containing_unit"]

def observe (s : Sources) (targetUnit action : String) (connection : Fields) (providers : List String)
    (evidenceComplete : Bool) : LifecycleContextObservation :=
  let graph := s.graph targetUnit action
  let part := managementPart s connection providers evidenceComplete
  let agent := s.resolveCurrentProcessUnit
  let gaps := graphGaps graph ++ part.gaps ++ agentGaps agent
  { status := if graph.complete && part.complete && agent.resolved.isSome && gaps.isEmpty then "complete" else "partial"
    observedAt := s.now
    targetUnit := targetUnit
    action := action
    targetFacts := graph.targetFacts.getD []
    effectUnits := graph.units
    effectEdges := graph.edges
    effectComplete := graph.complete
    activeActivationSources := graph.activeActivationSources
    activeUpholdingSources := graph.activeUpholdingSources
    managementUnits := sorted part.units.dedup
    managementComplete := part.complete
    connectionUnit := part.connectionUnit
    connectionUnitType := part.connectionUnitType
    agentUnit := agent.canonicalId
    agentComplete := agent.resolved.isSome
    agentUnitType := agent.unitType
    gaps := sorted gaps.dedup
    evidence := s.evidence
    runtimeOwner := part.runtimeOwner }

end Lifecycle
end LocalPlane
