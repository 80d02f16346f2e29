import LocalPlane.Netlink
import LocalPlane.LengthPrefixed
import LocalPlane.StableSort
import Mathlib.Data.List.Dedup

/-!
# Reading the kernel's answer to a route lookup

One datagram comes back. It is split into messages, a route message into its header and
attributes, and each of the three layers has lengths of its own. The answer is the first
message that decides: an error with a code, or a route.
-/

set_option linter.dupNamespace false

namespace LocalPlane
namespace RouteLookup

open Netlink

def rtmNewroute : ℕ := 24
def rtmsgSize : ℕ := 12
def rtattrSize : ℕ := 4

def rtaDst : ℕ := 1
def rtaOif : ℕ := 4
def rtaGateway : ℕ := 5
def rtaPriority : ℕ := 6
def rtaPrefsrc : ℕ := 7
def rtaTable : ℕ := 15

def messageLayout : Layout UInt8 := ⟨headerSize,fun b => unsigned 4 b 0,4,headerSize_pos,alignment_pos⟩
def attributeLayout : Layout UInt8 := ⟨rtattrSize,fun b => unsigned 2 b 0,4,by decide,alignment_pos⟩

def familyOf (number : ℕ) : Option AddressFamily :=
  if number = AddressFamily.inet.number then some .inet
  else if number = AddressFamily.inet6.number then some .inet6
  else none

def routeTypes : List (ℕ × String) :=
  [(0,"unspec"),(1,"unicast"),(2,"local"),(3,"broadcast"),(4,"anycast"),(5,"multicast"),(6,"blackhole"),
    (7,"unreachable"),(8,"prohibit"),(9,"throw"),(10,"nat"),(11,"xresolve")]

def routeScopes : List (ℕ × String) :=
  [(0,"universe"),(200,"site"),(253,"link"),(254,"host"),(255,"nowhere")]

def routeProtocols : List (ℕ × String) :=
  [(0,"unspec"),(1,"redirect"),(2,"kernel"),(3,"boot"),(4,"static"),(16,"dhcp"),(42,"babel"),(186,"bgp"),
    (187,"isis"),(188,"ospf"),(189,"rip"),(192,"eigrp")]

/-- The kernel's name for a number, or the number itself. -/
def named (table : List (ℕ × String)) (number : ℕ) : String := (table.lookup number).getD (toString number)

/-- Errors that say there is no route, as opposed to the lookup having failed. -/
def unreachable : List (Int × String) :=
  [(101,"network_unreachable"),(113,"host_unreachable"),(100,"network_down"),(13,"route_prohibited"),
    (22,"route_lookup_rejected")]

inductive RouteLookupStatus where
  | resolved | unreachable | failed | unavailable
  deriving DecidableEq

/-- One route as the kernel described it. Addresses are in their packed form, which with the family
determines how they are written. -/
structure RouteFacts where
  family : AddressFamily
  destination : Option Bytes
  destinationPrefixLength : ℕ
  preferredSource : Option Bytes
  gateway : Option Bytes
  oifIndex : Option ℕ
  table : Option ℕ
  routeType : String
  scope : String
  protocol : String
  priority : Option ℕ
  deriving DecidableEq

inductive ErrorDetail where
  | given (detail : String)
  | malformed (declaredLength remaining : ℕ)
  | errno (number : Int)
  | messageTypes (kinds : List ℕ)
  deriving DecidableEq

structure RouteObservation where
  destination : String
  family : AddressFamily
  status : RouteLookupStatus
  observedAt : String
  reason : Option String := none
  route : Option RouteFacts := none
  error : Option ErrorDetail := none
  deriving DecidableEq

/-! The three layers -/

/-- Split a datagram into the kinds and bodies of its messages, or say what is malformed. What
follows an end marker is not read. The datagram's own length bounds the number of messages. -/
def messagesFrom : ℕ → Bytes → Except ErrorDetail (List (ℕ × Bytes))
  | 0,_ => .ok []
  | bound+1,reply =>
    if reply.length < headerSize then .ok []
    else
      let length := unsigned 4 reply 0
      if length < headerSize ∨ reply.length < length then .error (.malformed length reply.length)
      else if unsigned 2 reply 4 = nlmsgDone then .ok []
      else (messagesFrom bound (reply.drop ((length + 3) / 4 * 4))).map fun rest =>
        (unsigned 2 reply 4,(reply.take length).drop headerSize) :: rest

def messages (reply : Bytes) : Except ErrorDetail (List (ℕ × Bytes)) := messagesFrom reply.length reply

/-- The attributes after a route's header; one that is too short or too long ends them. -/
def attributes (body : Bytes) : List (ℕ × Bytes) :=
  (attributeLayout.records (body.drop rtmsgSize)).map fun r => (unsigned 2 r 2,r.drop rtattrSize)

/-- An attribute that is given twice is read as it was given last. -/
def attributeOf (kind : ℕ) (body : Bytes) : Option Bytes := ((attributes body).reverse.find? (·.1 = kind)).map (·.2)

def address (payload : Option Bytes) (family : AddressFamily) : Option Bytes := payload.filter (·.length = family.width)

def uint32 (payload : Option Bytes) (default : Option ℕ) : Option ℕ :=
  match payload with
  | some payload => if payload.length < 4 then default else some (unsigned 4 payload 0)
  | none => default

def routeFacts (body : Bytes) : Option RouteFacts :=
  if body.length < rtmsgSize then none
  else (familyOf (unsigned 1 body 0)).map fun family => {
    family
    destination := address (attributeOf rtaDst body) family
    destinationPrefixLength := unsigned 1 body 1
    preferredSource := address (attributeOf rtaPrefsrc body) family
    gateway := address (attributeOf rtaGateway body) family
    oifIndex := uint32 (attributeOf rtaOif body) none
    -- the byte in the header saturates, so the attribute wins where there is one
    table := uint32 (attributeOf rtaTable body) (some (unsigned 1 body 4))
    routeType := named routeTypes (unsigned 1 body 7)
    scope := named routeScopes (unsigned 1 body 6)
    protocol := named routeProtocols (unsigned 1 body 5)
    priority := uint32 (attributeOf rtaPriority body) none }

/-! The answer -/

/-- What the kernel side returned to one query. -/
inductive Reply where
  | unavailable (reason detail : String)
  | failed (reason detail : String)
  | datagram (payload : Bytes)

section Observing

variable (destination : String) (family : AddressFamily) (observedAt : String)

def refused (status : RouteLookupStatus) (reason : String) (error : ErrorDetail) : RouteObservation :=
  ⟨destination,family,status,observedAt,some reason,none,some error⟩

def resolvedTo (route : RouteFacts) : RouteObservation := ⟨destination,family,.resolved,observedAt,none,some route,none⟩

def noRoute (kinds : List ℕ) : RouteObservation :=
  refused destination family observedAt .failed "no_route_in_reply" (.messageTypes (sorted kinds.dedup))

/-- Go through the messages to the first that decides; nothing where reading one raises. -/
def interpretFrom (kinds : List ℕ) : List (ℕ × Bytes) → Option RouteObservation
  | [] => some (noRoute destination family observedAt kinds)
  | (kind,body) :: rest =>
    if kind = nlmsgError then
      if body.length < 4 then none
      else
        let code := signed32 body 0
        if code = 0 then interpretFrom kinds rest
        -- the text of an error number can be asked for only where the number fits a C integer
        else if 0x80000000 ≤ -code then none
        else match unreachable.lookup (-code) with
          | some reason => some (refused destination family observedAt .unreachable reason (.errno (-code)))
          | none => some (refused destination family observedAt .failed "netlink_error" (.errno (-code)))
    else if kind = rtmNewroute then
      match routeFacts body with
      | none => some (noRoute destination family observedAt kinds)
      | some facts => some (resolvedTo destination family observedAt facts)
    else interpretFrom kinds rest

def interpret (reply : Bytes) : Option RouteObservation :=
  match messages reply with
  | .error detail => some (refused destination family observedAt .failed "malformed_netlink_response" detail)
  | .ok found => interpretFrom destination family observedAt (found.map Prod.fst) found

def observeRoute : Reply → Option RouteObservation
  | .unavailable reason detail => some (refused destination family observedAt .unavailable reason (.given detail))
  | .failed reason detail => some (refused destination family observedAt .failed reason (.given detail))
  | .datagram payload => interpret destination family observedAt payload

end Observing

end RouteLookup
end LocalPlane
