import LocalPlane.Estate
import LocalPlane.StableSort
import Mathlib.Data.List.Dedup
import Mathlib.Data.String.Basic

/-!
# Which object carries a request's management path

Two readings must agree: the object that lists the address the connection ended on, and the
one the kernel routes the peer out of. The evidence is a row recorded for these very
endpoints, and everything else is left unresolved.
-/

set_option linter.dupNamespace false

namespace LocalPlane

open LineProtocol (Json Fields)
namespace Path

inductive Ip where
  | v4 (n : Fin (2 ^ 32))
  | v6 (n : Fin (2 ^ 128)) (scope : Option String)
  deriving DecidableEq

namespace Ip

def version : Ip → ℕ
  | .v4 _ => 4
  | .v6 _ _ => 6

def isLoopback : Ip → Bool
  | .v4 n => n.val / 2 ^ 24 = 127
  | .v6 n _ => n.val = 1

def isUnspecified : Ip → Bool
  | .v4 n => n.val = 0
  | .v6 n _ => n.val = 0

def isLinkLocal : Ip → Bool
  | .v4 n => n.val / 2 ^ 16 = 0xa9fe
  | .v6 n _ => n.val / 2 ^ 118 = 0x3fa

def isMulticast : Ip → Bool
  | .v4 n => n.val / 2 ^ 28 = 0xe
  | .v6 n _ => n.val / 2 ^ 120 = 0xff

/-- The block that was never allocated, with the limited broadcast address at its end. -/
def isReserved : Ip → Bool
  | .v4 n => n.val / 2 ^ 28 = 0xf
  | .v6 _ _ => false

/-- An IPv4 address carried in an IPv6 one is that IPv4 address. -/
def normal : Ip → Ip
  | .v4 n => .v4 n
  | .v6 n scope => if n.val / 2 ^ 32 = 0xffff then .v4 ⟨n.val % 2 ^ 32,Nat.mod_lt _ (by decide)⟩ else .v6 n scope

def family (ip : Ip) : String := if ip.version = 4 then "inet" else "inet6"

/-- One host that packets can be routed to. -/
def Routable (ip : Ip) : Prop :=
  ip.isLoopback = false ∧ ip.isUnspecified = false ∧ ip.isLinkLocal = false ∧ ip.isMulticast = false ∧ ip.isReserved = false

end Ip

/-- How the language reads an address and an instant, and spells an address. -/
structure Language where
  ipAddress : String → Option Ip
  spell : Ip → String
  instantOf : String → Option Instant

structure TransportEvidence where
  peerAddress : Option String
  peerFamily : Option String
  localAddress : Option String
  localFamily : Option String
  unusableReason : Option String
  rawPeer : Option String
  rawLocal : Option String

/-- What is said of an endpoint that establishes nothing. -/
structure EndpointReasons where
  unavailable : String
  unparseable : String
  loopback : String
  linkLocal : String
  unspecified : String

def peerReasons : EndpointReasons :=
  ⟨"transport_peer_unavailable","transport_peer_unparseable","transport_peer_local","transport_peer_link_local",
    "transport_peer_unspecified"⟩

def localReasons : EndpointReasons :=
  ⟨"local_endpoint_unavailable","local_endpoint_unparseable","local_endpoint_local","local_endpoint_link_local",
    "local_endpoint_unspecified"⟩

section Transport

variable (l : Language)

def classify (reasons : EndpointReasons) (value : Option String) : Option Ip × Option String :=
  match value with
  | none => (none,some reasons.unavailable)
  | some text =>
    if text = "" then (none,some reasons.unavailable)
    else
      match l.ipAddress text with
      | none => (none,some reasons.unparseable)
      | some parsed =>
        let ip := parsed.normal
        if ip.isLoopback then (some ip,some reasons.loopback)
        else if ip.isUnspecified then (some ip,some reasons.unspecified)
        else if ip.isLinkLocal then (some ip,some reasons.linkLocal)
        else (some ip,none)

def readTransport (peer here : Option String) : TransportEvidence :=
  let p := classify l peerReasons peer
  let h := classify l localReasons here
  let mismatch : Option String :=
    match p.1,h.1 with
    | some a,some b => if a.version ≠ b.version then some "address_family_mismatch" else none
    | _,_ => none
  { peerAddress := p.1.map l.spell
    peerFamily := p.1.map Ip.family
    localAddress := h.1.map l.spell
    localFamily := h.1.map Ip.family
    unusableReason := (p.2.or h.2).or mismatch
    rawPeer := peer
    rawLocal := here }

end Transport

/-- What the kernel answered about the route to the peer, as far as anything is derived from it. -/
structure RouteEvidence where
  status : String
  oifIndex : Option Int

structure ManagementPathObservation where
  observationId : String
  hostId : HostId
  observedAt : String
  transportPeerAddress : String
  transportPeerFamily : String
  localEndpointAddress : String
  localEndpointFamily : String
  route : RouteEvidence

def ManagementPathObservation.matches (o : ManagementPathObservation) (t : TransportEvidence) (hostId : HostId) : Bool :=
  o.hostId = hostId ∧ some o.transportPeerAddress = t.peerAddress ∧ some o.localEndpointAddress = t.localAddress ∧
    some o.transportPeerFamily = t.peerFamily ∧ some o.localEndpointFamily = t.localFamily

/-- What is stored: the objects with what was seen of them, and the recorded path evidence. -/
structure PathStore where
  estate : Estate
  rows : List ManagementPathObservation

/-- The clock and the horizon of one derivation. The objects are read before the evidence is judged. -/
structure Horizon where
  readAt : Instant
  now : Instant
  ttl : Int

def current (now : Instant) (ttl : Int) (observedAt : Option Instant) : Bool := observedAt.any fun at' => decide (now - at' ≤ ttl)

section Objects

variable (l : Language) (e : Estate) (hostId : HostId)

/-- The interfaces of a host that were ever observed, each with its newest observation. -/
def interfaces : List (ObjectId × Observation) :=
  (e.observations.map (·.objectId)).dedup.filterMap fun id =>
    match e.get id with
    | some ⟨row,some o⟩ => if row.hostId = hostId ∧ row.kind = .networkInterface then some (id,o) else none
    | _ => none

def canonical : Json → Option String
  | .str text => (l.ipAddress text).map fun ip => l.spell ip.normal
  | _ => none

def addressesOf (facts : Fields) : List String :=
  match fact facts "addresses" with
  | .arr items => items.filterMap fun item => match item with
    | .obj fields => canonical l (fact fields "address")
    | _ => none
  | _ => []

def indexOf (facts : Fields) : Option Int :=
  match fact facts "ifindex" with
  | .num n => some n
  | .bool b => some b.toNat
  | _ => none

def byAddress (address : String) : List ObjectId :=
  sorted (((interfaces e hostId).filter fun p => address ∈ addressesOf l p.2.facts).map (·.1)).dedup

def byIndex (index : Int) : List ObjectId :=
  sorted (((interfaces e hostId).filter fun p => indexOf p.2.facts = some index).map (·.1)).dedup

def stale (h : Horizon) : List ObjectId :=
  ((interfaces e hostId).filter fun p => ¬current h.readAt h.ttl (some p.2.observedAt)).map (·.1)

end Objects

/-- The object that carries the path of a request, or why none is named. -/
structure ManagementPathVerdict where
  resourceId : Option ObjectId
  reason : String
  evidenceId : Option String
  observedAt : Option String
  missingEvidence : List String

def managementPathEvidence : List String := ["session.peer","route.observe"]

def unresolved (reason : String) (evidence : Option ManagementPathObservation) : ManagementPathVerdict :=
  ⟨none,reason,evidence.map (·.observationId),evidence.map (·.observedAt),managementPathEvidence⟩

def routeFailureReason (status : String) : String :=
  if status = "unreachable" then "route_unreachable"
  else if status = "unavailable" then "route_lookup_unavailable"
  else "route_lookup_failed"

/-- The evidence, in the order in which it stops mattering. -/
def deriveManagementPath (l : Language) (t : TransportEvidence) (hostId : HostId)
    (observation : Option ManagementPathObservation) (e : Estate) (h : Horizon) : ManagementPathVerdict :=
  match t.unusableReason with
  | some reason => unresolved reason none
  | none =>
    match observation with
    | none => unresolved "management_path_unobserved" none
    | some o =>
      if ¬o.matches t hostId then unresolved "request_context_mismatch" none
      else if ¬current h.now h.ttl (l.instantOf o.observedAt) then unresolved "evidence_stale" (some o)
      else
        match byAddress l e hostId o.localEndpointAddress with
        | [] => unresolved "local_endpoint_unmapped" (some o)
        | _ :: _ :: _ => unresolved "local_endpoint_ambiguous" (some o)
        | [endpoint] =>
          if o.route.status ≠ "resolved" then unresolved (routeFailureReason o.route.status) (some o)
          else
            match o.route.oifIndex with
            | none => unresolved "route_egress_unspecified" (some o)
            | some index =>
              match byIndex e hostId index with
              | [] => unresolved "route_interface_unmapped" (some o)
              | _ :: _ :: _ => unresolved "route_interface_ambiguous" (some o)
              | [egress] =>
                if egress ≠ endpoint then unresolved "route_conflicts_with_local_endpoint" (some o)
                else if endpoint ∈ stale e hostId h then unresolved "interface_observation_stale" (some o)
                else ⟨some endpoint,"management_path_confirmed",some o.observationId,some o.observedAt,[]⟩

/-- The newest row recorded for these two endpoints on this host. -/
def newestMatching (rows : List ManagementPathObservation) (hostId : HostId) (peer here : String) :
    Option ManagementPathObservation :=
  Table.latest ManagementPathObservation.observedAt
    (rows.filter fun o => o.hostId = hostId ∧ o.transportPeerAddress = peer ∧ o.localEndpointAddress = here)

def assess (l : Language) (s : PathStore) (h : Horizon) (hostId : HostId) (peer here : Option String) :
    ManagementPathVerdict :=
  let t := readTransport l peer here
  let observation : Option ManagementPathObservation :=
    match t.unusableReason,t.peerAddress,t.localAddress with
    | none,some p,some q => newestMatching s.rows hostId p q
    | _,_,_ => none
  deriveManagementPath l t hostId observation s.estate h

end Path
end LocalPlane
