import LocalPlane.InsertionOrder
import LocalPlane.StableSort
import LocalPlane.TextNumbers
import LocalPlane.Texts

/-!
# The relationship graph of the console

The console draws four columns from four answers of the backend: what is upstream, the path
the operator arrives over, the host, and what is attached to it. Docker networks are joined
to their links and to their containers by network id, subnets are arithmetic on the
addresses observed, and a long column is folded into a count.
-/

set_option linter.dupNamespace false

namespace LocalPlane
namespace Topology

abbrev Text := List Char

instance : Coe String Text := ⟨String.toList⟩

inductive Tone where
  | good | warn | bad | attention | unknown | neutral
deriving DecidableEq,Repr

structure Semantic where
  tone : Tone
  label : Text
  description : Text
deriving DecidableEq,Repr

inductive EdgeKind where
  | plain | active | drift | standby
deriving DecidableEq,Repr

structure TopologyEdge where
  source : Text
  kind : EdgeKind
  label : Option Text := none
  why : Text
deriving DecidableEq,Repr

structure TopologyPort where
  name : Text
  detail : Text
  tone : Tone
  objectId : Text
  drifted : Bool
deriving DecidableEq,Repr

structure TopologyNode where
  id : Text
  column : ℕ
  name : Text
  kind : Text
  mark : Semantic
  detail : Option Text := none
  note : Option Text := none
  page : Option Text := none
  facts : List Text := []
  ports : List TopologyPort := []
  portsLabel : Option Text := none
  drifted : Bool := false
  evidence : Option Text := none
  sources : List Text := []
  edges : List TopologyEdge := []
deriving DecidableEq,Repr

section Vocabulary

def NOT_KNOWN : Semantic where
  tone := .unknown
  label := "unknown"
  description := "The backend did not establish this. It is not a negative answer — it is the absence of one."

def unrecognised (token : Text) : Semantic where
  tone := .unknown
  label := token
  description := "This build does not recognise this value. It is shown exactly as the backend sent it, and no meaning has been assumed for it."

def lookup (table : List (Text × Semantic)) (token : Option Text) (absent : Semantic) : Semantic :=
  match token with
  | none => absent
  | some [] => absent
  | some token => ((table.find? fun e => e.1 = token).map (·.2)).getD (unrecognised token)

def HEALTH : List (Text × Semantic) :=
  [("healthy",⟨.good,"healthy","Observed working."⟩),
   ("degraded",⟨.warn,"degraded","Working, with something wrong."⟩),
   ("failed",⟨.bad,"failed","Observed not working."⟩),
   ("inactive",⟨.neutral,"inactive","Not running. Not the same as failed."⟩),
   ("unknown",⟨.unknown,"unknown","Health could not be established from what was observed."⟩)]

def healthOf (token : Option Text) : Semantic := lookup HEALTH token NOT_KNOWN

def MANAGEMENT_PATH_STATE : List (Text × Semantic) :=
  [("confirmed",⟨.good,"confirmed","LocalPlane knows which object carries this connection."⟩),
   ("unresolved",⟨.unknown,"unresolved",
     "LocalPlane cannot tell which object carries this connection. Nothing is assumed from the absence."⟩)]

def managementPathState (token : Option Text) : Semantic := lookup MANAGEMENT_PATH_STATE token NOT_KNOWN

end Vocabulary

structure Address where
  family : Text
  address : Text
  prefixLength : ℤ
  scope : Text
deriving DecidableEq,Repr

structure Link where
  linkKind : Option Text := none
  master : Option Text := none
  carrier : Option Bool := none
  operstate : Option Text := none
deriving DecidableEq,Repr

structure Owner where
  provider : Text
  ownerInstance : Option Text
  label : Option Text
deriving DecidableEq,Repr

structure OwnershipClaim where
  owner : Owner
  reason : Text
  evidenceSources : List Text
deriving DecidableEq,Repr

structure NetworkInterface where
  objectId : Text
  name : Text
  interfaceKind : Text
  reconciliation : Option Text := none
  createdBy : Option OwnershipClaim := none
  health : Option Text := none
  link : Option Link := none
  addresses : Option (List Address) := none
deriving DecidableEq,Repr

structure ContainerPort where
  protocol : Text
  hostPort : Option ℤ
  published : Bool
deriving DecidableEq,Repr

structure DockerContainer where
  state : Text
  networkIds : List (Option Text)
  ports : List ContainerPort
deriving DecidableEq,Repr

structure Route where
  status : Option Text := none
  gateway : Option Text := none
  destination : Option Text := none
  destinationPrefixLength : Option ℤ := none
  protocol : Option Text := none
  scope : Option Text := none
deriving DecidableEq,Repr

structure ManagementPath where
  state : Text
  objectId : Option Text
  objectName : Option Text
  reason : Text
  missingEvidence : List Text
  peerAddress : Option Text
  route : Option Route
deriving DecidableEq,Repr

structure Host where
  hostId : Text
  identityBasis : Text
  hostname : Option Text
  osPrettyName : Option Text
  kernelRelease : Option Text
  architecture : Option Text
deriving DecidableEq,Repr

structure Input where
  host : Host
  reachable : Bool
  path : ManagementPath
  interfaces : List NetworkInterface
  containers : List DockerContainer
  interfacesRead : Bool := true
  containersRead : Bool := true
  unitCount : Option ℕ := none
deriving DecidableEq,Repr

section Texts

/-- A string that is there and not empty. -/
def truthy : Option Text → Option Text
  | some [] => none
  | text => text

def integer (n : ℤ) : Text := if n < 0 then '-' :: TextNumbers.decimal (-n).toNat else TextNumbers.decimal n.toNat

def number (n : ℕ) : Text := TextNumbers.decimal n

def join (separator : Text) (texts : List Text) : Text := separator.intercalate texts

/-- `[…].filter(Boolean).join(' · ')` -/
def joinPresent (texts : List (Option Text)) : Text := join " · " (texts.filterMap truthy)

/-- What `parseInt` skips. -/
def jsBlank (c : Char) : Bool :=
  c.toNat ∈ [9,10,11,12,13,32,160,5760,8232,8233,8239,8287,12288,65279] || (8192 ≤ c.toNat && c.toNat ≤ 8202)

def digit (c : Char) : Bool := 48 ≤ c.toNat && c.toNat ≤ 57

def parseDigits (text : Text) : Option ℕ :=
  match text.takeWhile digit with
  | [] => none
  | digits => some (TextNumbers.ofDigits (digits.map fun c => c.toNat - 48))

/-- `Number.parseInt(text, 10)` -/
def parseInt (text : Text) : Option ℤ :=
  match text.dropWhile jsBlank with
  | '-' :: rest => (parseDigits rest).map fun n => -(n : ℤ)
  | '+' :: rest => (parseDigits rest).map fun n => (n : ℤ)
  | rest => (parseDigits rest).map fun n => (n : ℤ)

end Texts

/-- `0xffffffff << (32 - prefix)` as an unsigned number: the shift counts modulo 32. -/
def maskOf (prefixLength : ℤ) : ℕ :=
  if prefixLength = 0 then 0 else 0xffffffff * 2 ^ ((32 - prefixLength) % 32).toNat % 2 ^ 32

def dotted (value : ℕ) : Text :=
  number (value / 2 ^ 24 % 256) ++ '.' :: number (value / 2 ^ 16 % 256) ++ '.' :: number (value / 2 ^ 8 % 256) ++ '.' :: number (value % 256)

def octets (parts : List Text) : Option (List ℕ) :=
  parts.mapM fun part => (parseInt part).bind fun o => if o < 0 ∨ 255 < o then none else some o.toNat

def subnetOf (address : Text) (prefixLength : ℤ) : Option Text :=
  match octets (address.splitOn '.') with
  | some [a,b,c,d] =>
    let value := a * 2 ^ 24 + b * 2 ^ 16 + c * 2 ^ 8 + d
    some (dotted (value &&& maskOf prefixLength) ++ '/' :: integer prefixLength)
  | _ => none

def scopeGlobal : Text := "global"
def inet : Text := "inet"
def docker : Text := "docker"
def bridge : Text := "bridge"
def confirmed : Text := "confirmed"
def drifted : Text := "drifted"

/-- The subnet a bridge holds a global address on, when it holds one. -/
def subnetFor (item : NetworkInterface) : Option Text :=
  (item.addresses.getD []).findSome? fun a =>
    if a.scope ≠ scopeGlobal ∨ a.family ≠ inet then none else subnetOf a.address a.prefixLength

def INTERFACE_LINE_LIMIT : ℕ := 6
def ATTACHED_NODE_LIMIT : ℕ := 4

def plural (n : ℕ) : Text := if n = 1 then "" else "s"

section Columns

variable (input : Input)

def gatewayNode : TopologyNode :=
  match input.path.route.bind fun route => (truthy route.gateway).map fun gateway => (route,gateway) with
  | some (route,gateway) => {
      id := "gateway"
      column := 0
      name := gateway
      kind := "gateway"
      mark := ⟨.good,"route resolved","The kernel answered which route it would use."⟩
      detail := (truthy route.destination).map fun destination =>
        match route.destinationPrefixLength with
        | some n => destination ++ '/' :: integer n
        | none => destination
      note := (truthy route.protocol).map fun protocol =>
        protocol ++ ((truthy route.scope).map fun scope => (" · " : Text) ++ scope).getD []
      evidence := some (("The kernel answered RTM_GETROUTE for the peer address with this gateway" : Text) ++
        ((truthy route.protocol).map fun protocol => (", learned by " : Text) ++ protocol).getD [] ++ ['.'])
      sources := ["management_path.evidence.route"] }
  | none => {
      id := "gateway"
      column := 0
      name := "not established"
      kind := "route"
      mark := NOT_KNOWN
      detail := some ((input.path.route.bind (·.status)).getD input.path.reason)
      note := some "A route is read only as part of proving the management path. Nothing upstream of this host has been established."
      evidence := some "No route was resolved, so nothing upstream of this host is established. This is an unknown, not an absence."
      sources := input.path.missingEvidence }

def pathNode : TopologyNode :=
  let path := input.path
  let known := path.state = confirmed
  let gateway := path.route.bind fun route => truthy route.gateway
  let found := (truthy path.objectId).bind fun id => input.interfaces.find? fun item => item.objectId = id
  { id := "path"
    column := 1
    name := if known then (truthy path.objectName).getD "unresolved" else "unresolved"
    kind := "management path"
    mark := managementPathState (some path.state)
    detail := path.peerAddress
    note := some (if known then "This request arrives over this interface. Changing it is guarded."
      else path.reason ++ (" — " : Text) ++ number path.missingEvidence.length ++ (" piece(s) of evidence missing" : Text))
    page := found.map fun item => ("/network/" : Text) ++ item.objectId
    evidence := some (if known then ("This request arrives over " : Text) ++ path.objectName.getD "null" ++
        (". A change to that interface is guarded, because losing it would lose the way back in." : Text)
      else ("The interface carrying this connection is not established — " : Text) ++ path.reason ++ ['.'])
    sources := if known then ["management_path.evidence"] else path.missingEvidence
    edges := [{
      source := "gateway"
      kind := if known ∧ gateway.isSome then .active else .standby
      label := path.route.bind fun route => truthy route.destination
      why := match gateway with
        | some gateway => if known then ("The kernel would reach the peer through " : Text) ++ gateway ++ ['.']
          else "No route was resolved for the peer, so this leg is not established."
        | none => "No route was resolved for the peer, so this leg is not established." }] }

def globalAddress (item : NetworkInterface) : Option Address :=
  (item.addresses.getD []).find? fun a => a.scope = scopeGlobal

/-- The host's own interfaces that carry traffic: neither loopback nor a bridge nor a member of one. -/
def reachableThrough : List TopologyPort :=
  let candidates := input.interfaces.filter fun item =>
    item.interfaceKind ≠ ("loopback" : Text) ∧ item.name ≠ ("lo" : Text) ∧
    item.interfaceKind ≠ bridge ∧ (item.link.bind (·.linkKind)) ≠ some bridge ∧
    (truthy (item.link.bind (·.master))).isNone ∧
    ((item.link.bind (·.carrier)) = some true ∨ (globalAddress item).isSome)
  (candidates.take INTERFACE_LINE_LIMIT).map fun item => {
    name := item.name
    detail := match globalAddress item with
      | some a => a.address ++ '/' :: integer a.prefixLength
      | none => (item.link.bind (·.operstate)).getD []
    tone := (healthOf item.health).tone
    objectId := item.objectId
    drifted := item.reconciliation = some drifted }

def hostNode : TopologyNode :=
  let host := input.host
  let known := input.path.state = confirmed
  { id := "host"
    column := 2
    name := host.hostname.getD host.hostId
    kind := "this host"
    mark := if input.reachable then ⟨.good,"agent reachable","The agent answered this request."⟩
      else ⟨.bad,"agent unreachable","Nothing here is current."⟩
    detail := truthy (some (joinPresent [host.osPrettyName,host.architecture]))
    note := host.kernelRelease
    facts := (if input.interfacesRead then [number input.interfaces.length ++ (" interfaces" : Text)] else []) ++
      (if input.containersRead then [number input.containers.length ++ (" workloads" : Text)] else []) ++
      (input.unitCount.map fun n => number n ++ (" units" : Text)).toList
    ports := reachableThrough input
    portsLabel := some "reachable through"
    evidence := some (host.identityBasis ++ (" identifies this host. " : Text) ++
      (if input.reachable then ("The agent answered this request." : Text)
        else "The agent did not answer, so everything here is what was last recorded."))
    sources := ["host.observe"]
    edges := [{
      source := "path"
      kind := if known then .active else .standby
      label := truthy input.path.peerAddress
      why := if known then ("The connection carrying this page terminates on " : Text) ++ input.path.objectName.getD "null" ++ ['.']
        else "Which interface carries this connection is not established." }] }

end Columns

section Attached

/-- A link whose creation the backend attributes to Docker. -/
def dockerOwned (item : NetworkInterface) : Bool := item.createdBy.any fun claim => claim.owner.provider = docker

def instanceOf (item : NetworkInterface) : Option Text := truthy (item.createdBy.bind fun claim => claim.owner.ownerInstance)

structure SubnetInfo where
  via : List Text
  family : Text
deriving DecidableEq,Repr

/-- The subnets the interfaces hold global addresses on, with the interface that holds each. -/
def held (interfaces : List NetworkInterface) : List (Text × Text × Text) :=
  interfaces.flatMap fun item => (item.addresses.getD []).filterMap fun a =>
    if a.scope ≠ scopeGlobal then none
    else if a.family = inet then (subnetOf a.address a.prefixLength).map fun subnet => (subnet,item.name,a.family)
    else none

def subnets (interfaces : List NetworkInterface) : List (Text × SubnetInfo) :=
  InsertionOrder.gather (·.1) (fun existing a =>
    match existing with
    | some info => { info with via := info.via ++ [a.2.1] }
    | none => ⟨[a.2.1],a.2.2⟩) (held interfaces)

def dockerBridges (interfaces : List NetworkInterface) : List NetworkInterface := interfaces.filter dockerOwned

/-- Each Docker link that names its network, under that network's id. -/
def identified (interfaces : List NetworkInterface) : List (Text × NetworkInterface) :=
  (dockerBridges interfaces).filterMap fun item => (instanceOf item).map fun id => (id,item)

def bridgeByNetworkId (interfaces : List NetworkInterface) : List (Text × NetworkInterface) :=
  InsertionOrder.gather (·.1) (fun _ e => e.2) (identified interfaces)

def memberships (containers : List DockerContainer) : List (Text × DockerContainer) :=
  containers.flatMap fun container => container.networkIds.filterMap fun id => (truthy id).map fun id => (id,container)

def containersByNetworkId (containers : List DockerContainer) : List (Text × List DockerContainer) :=
  InsertionOrder.gather (·.1) (fun list e => list.getD [] ++ [e.2]) (memberships containers)

def attachedTo (containers : List DockerContainer) (networkId : Text) : List DockerContainer :=
  (InsertionOrder.get (containersByNetworkId containers) networkId).getD []

structure NetworkEntry where
  networkId : Text
  link : NetworkInterface
  attached : List DockerContainer
deriving DecidableEq,Repr

def networkEntries (input : Input) : List NetworkEntry :=
  sortBy (fun e => -(e.attached.length : ℤ))
    ((bridgeByNetworkId input.interfaces).map fun e => ⟨e.1,e.2,attachedTo input.containers e.1⟩)

def running (container : DockerContainer) : Bool := container.state = ("running" : Text)

def networkNote (attached running : ℕ) : Text :=
  if attached = 0 then "no container is attached to this network"
  else number attached ++ (" container" : Text) ++ plural attached ++ (" · " : Text) ++ number running ++ (" running" : Text)

def networkNode (e : NetworkEntry) : TopologyNode :=
  let subnet := subnetFor e.link
  let changed : Bool := e.link.reconciliation = some drifted
  { id := ("net:" : Text) ++ e.networkId
    column := 3
    name := (e.link.createdBy.bind fun claim => claim.owner.label).getD e.link.name
    kind := "container net"
    mark := healthOf e.link.health
    detail := some (joinPresent [some e.link.name,subnet])
    note := some (networkNote e.attached.length (e.attached.filter running).length)
    page := some (("/network/" : Text) ++ e.link.objectId)
    drifted := changed
    evidence := some (("Docker attributes this network to the link " : Text) ++ e.link.name ++
      ("; its gateway address sits on that link. Containers are joined to it by network id, never by name." : Text))
    sources := (e.link.createdBy.map (·.evidenceSources)).getD []
    edges := [{
      source := "host"
      kind := if changed then .drift else .plain
      label := some (subnet.getD e.link.name)
      why := e.link.name ++ (" carries this network's gateway address (docker attribution: " : Text) ++
        (e.link.createdBy.map fun claim => claim.reason).getD ("unstated" : Text) ++ (")." : Text) }] }

def subnetNode (subnet : Text) (info : SubnetInfo) : TopologyNode where
  id := ("subnet:" : Text) ++ subnet
  column := 3
  name := subnet
  kind := if info.family = inet then "lan" else "network"
  mark := ⟨.neutral,"observed","A network this host holds a global address on."⟩
  detail := some (join ", " info.via)
  evidence := some (("This host holds a global address inside " : Text) ++ subnet ++
    (". The network address is arithmetic on the observed address and prefix, not a guess." : Text))
  sources := ["network.observe"]
  edges := [{
    source := "host"
    kind := .plain
    label := some (join ", " info.via)
    why := ("The host is attached to " : Text) ++ subnet ++ (" through " : Text) ++ join ", " info.via ++ ['.'] }]

/-- The subnets that are not accounted for by name. -/
def subnetNodes (interfaces : List NetworkInterface) : List TopologyNode :=
  let bridgeNames := (dockerBridges interfaces).map (·.name)
  (subnets interfaces).filterMap fun e => if e.2.via.all (· ∈ bridgeNames) then none else some (subnetNode e.1 e.2)

def publishedPorts (containers : List DockerContainer) : List (Text × Text) :=
  containers.flatMap fun container => container.ports.filterMap fun port =>
    if port.published then port.hostPort.map fun host => (integer host,port.protocol) else none

def exposedNode (published : List (Text × Text)) : TopologyNode where
  id := "exposed"
  column := 3
  name := "Exposed"
  kind := "listeners"
  mark := ⟨.attention,"reachable from off-host",
    "Docker reports these container ports as published to a host address. What can reach them is not established here."⟩
  detail := some (number published.length ++ (" published" : Text))
  note := some (join " " ((published.take 3).map fun e => e.1 ++ '/' :: e.2) ++ (if 3 < published.length then (" …" : Text) else []))
  page := some "/workloads"
  evidence := some "Docker reports these container ports as published to a host address. What can actually reach them from off-host is not established here — no reachability probe exists in this build."
  sources := ["docker.containers.observe"]
  edges := [{
    source := "host"
    kind := .plain
    label := some (number published.length ++ (" published" : Text))
    why := number published.length ++ (" container port" : Text) ++ (if published.length = 1 then (" is" : Text) else "s are") ++
      (" published to a host address." : Text) }]

def unreadNode (unread : List Text) : TopologyNode where
  id := "estate-unread"
  column := 3
  name := "not read"
  kind := join " · " unread
  mark := NOT_KNOWN
  note := some (("This console could not read " : Text) ++ join " or " unread ++
    (". What is missing from this column is unknown, not absent." : Text))
  evidence := some (("The " : Text) ++ join " and " unread ++ (" read failed. This column is incomplete by an unknown amount." : Text))
  edges := [{
    source := "host"
    kind := .standby
    why := join " and " unread ++ (" could not be read, so what attaches here is unknown." : Text) }]

/-- What is attached, before the column is folded. -/
def attachedNodes (input : Input) : List TopologyNode :=
  let published := publishedPorts input.containers
  let unread : List Text := (if input.interfacesRead then [] else ["interfaces"]) ++ (if input.containersRead then [] else ["containers"])
  (networkEntries input).map networkNode ++ subnetNodes input.interfaces ++
    (if 0 < published.length then [exposedNode published] else []) ++
    (if !input.interfacesRead || !input.containersRead then [unreadNode unread] else [])

def moreNode (folded : List TopologyNode) : TopologyNode where
  id := "attached:more"
  column := 3
  name := number folded.length ++ (" more" : Text)
  kind := "attached"
  mark := ⟨.neutral,"observed","Further attached networks and subnets, listed in full on the Network surface."⟩
  note := some (join " · " ((folded.map (·.name)).take 4))
  page := some "/network"
  evidence := some (number folded.length ++ (" further attached network" : Text) ++ plural folded.length ++
    (" are not drawn, to keep the plane readable. They are listed in full on the Network surface." : Text))
  edges := [{
    source := "host"
    kind := .plain
    why := number folded.length ++ (" further attachment" : Text) ++ plural folded.length ++ (" folded into one node." : Text) }]

def capAttached (nodes : List TopologyNode) : List TopologyNode :=
  let attached := nodes.filter fun node => node.column = 3
  if attached.length ≤ ATTACHED_NODE_LIMIT then nodes
  else
    let rest := nodes.filter fun node => node.column ≠ 3
    let kept := attached.take (ATTACHED_NODE_LIMIT - 1)
    let folded := attached.drop (ATTACHED_NODE_LIMIT - 1)
    rest ++ kept ++ [moreNode folded]

end Attached

def buildTopology (input : Input) : List TopologyNode :=
  capAttached ([gatewayNode input,pathNode input,hostNode input] ++ attachedNodes input)

end Topology
end LocalPlane
