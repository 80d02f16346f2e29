import LocalPlane.Netlink
import LocalPlane.LengthPrefixed
import Mathlib.Algebra.BigOperators.Group.List.Basic

/-!
# Looking up one socket

The kernel is asked for every established TCP socket of one family and answers in frames of
messages. An answer is accepted when the dump has ended and exactly one socket has both
endpoints of the query; a frame or a message that cannot be read to its end is passed over.
-/

set_option linter.dupNamespace false

namespace LocalPlane
namespace SocketDiag

open Netlink

def sockDiagByFamily : ℕ := 20
def inetDiagCgroupId : ℕ := 21
def tcpEstablished : ℕ := 1
def receiveBytes : ℕ := 65535
def eio : Int := 5

def messageLayout : Layout UInt8 := ⟨headerSize,fun b => unsigned 4 b 0,4,headerSize_pos,alignment_pos⟩
def attributeLayout : Layout UInt8 := ⟨4,fun b => unsigned 2 b 0,4,alignment_pos,alignment_pos⟩

/-- An address as it is written: its packed form and, where it has one, its scope determine the text. -/
structure IpAddress where
  packed : Bytes
  scope : Option String := none
  deriving DecidableEq

structure TcpSocketTuple where
  family : AddressFamily
  peerIp : IpAddress
  peerPort : ℕ
  localIp : IpAddress
  localPort : ℕ
  agree : peerIp.packed.length = family.width ∧ localIp.packed.length = family.width
  ports : 1 ≤ peerPort ∧ peerPort ≤ 65535 ∧ 1 ≤ localPort ∧ localPort ≤ 65535

structure SocketDiagMatch where
  cgroupId : ℕ
  socketInode : ℕ
  uid : ℕ
  deriving DecidableEq

/-! Frames and messages -/

def message (r : Bytes) : Message := ⟨unsigned 2 r 4,unsigned 4 r 8,r.drop headerSize⟩

/-- The messages of a frame up to the first one that does not fit into it. -/
def iterNetlink (frame : Bytes) : List Message := (messageLayout.records frame).map message

def attributes (payload : Bytes) : List (ℕ × Bytes) :=
  (attributeLayout.records (payload.drop 72)).map fun r => (unsigned 2 r 2,r.drop 4)

/-- An attribute that is given twice counts as it was given last. -/
def attributeOf (kind : ℕ) (payload : Bytes) : Option Bytes :=
  ((attributes payload).reverse.find? (·.1 = kind)).map (·.2)

structure Decoded where
  family : ℕ
  state : ℕ
  localIp : Option Bytes
  localPort : ℕ
  peerIp : Option Bytes
  peerPort : ℕ
  uid : ℕ
  inode : ℕ
  cgroupId : Option ℕ

/-- Ports are in network byte order. -/
def port (payload : Bytes) (offset : ℕ) : ℕ := 256 * unsigned 1 payload offset + unsigned 1 payload (offset + 1)

def decodeAddress (raw : Bytes) (family : ℕ) : Option Bytes :=
  if family = AddressFamily.inet.number then some (raw.take 4)
  else if family = AddressFamily.inet6.number then some (raw.take 16)
  else none

def decodeDiagMessage (payload : Bytes) : Option Decoded :=
  if payload.length < 72 then none
  else
    let family := unsigned 1 payload 0
    some {
      family
      state := unsigned 1 payload 1
      localIp := decodeAddress ((payload.drop 8).take 16) family
      localPort := port payload 4
      peerIp := decodeAddress ((payload.drop 24).take 16) family
      peerPort := port payload 6
      uid := unsigned 4 payload 64
      inode := unsigned 4 payload 68
      cgroupId := (attributeOf inetDiagCgroupId payload).bind fun c => if 8 ≤ c.length then some (unsigned 8 c 0) else none }

/-- What was decoded is written as the address of the query is. -/
def IpAddress.sameText (a : IpAddress) (decoded : Option Bytes) : Bool := a.scope.isNone && decoded = some a.packed

namespace TcpSocketTuple

variable (query : TcpSocketTuple)

def isMatch (d : Decoded) : Bool :=
  d.state = tcpEstablished && query.localIp.sameText d.localIp && d.localPort = query.localPort &&
    query.peerIp.sameText d.peerIp && d.peerPort = query.peerPort

/-- The socket a message is about, where it is the one that was asked for. -/
def established (m : Message) : Option Decoded :=
  if m.kind = sockDiagByFamily then
    (decodeDiagMessage m.body).filter fun d => d.family = query.family.number && query.isMatch d
  else none

end TcpSocketTuple

/-- What a matching socket is remembered as; without a positive cgroup id it only counts. -/
def Decoded.remembered (d : Decoded) : Option SocketDiagMatch :=
  d.cgroupId.bind fun cgroupId => if cgroupId = 0 then none else some ⟨cgroupId,d.inode,d.uid⟩

/-! The lookup -/

inductive Status where
  | matched | notFound | ambiguous | unsupported | failed
  deriving DecidableEq

inductive Detail where
  | nothing
  | limit (limit : ℕ)
  | errno (number : ℕ)
  | error
  deriving DecidableEq

structure SocketDiagResult where
  status : Status
  reason : String
  found : Option SocketDiagMatch := none
  matchCount : ℕ := 0
  inspectedCount : ℕ := 0
  detail : Detail := .nothing
  deriving DecidableEq

structure Tally where
  inspected : ℕ
  matched : List (Option SocketDiagMatch)

structure Limits where
  maxMessages : ℕ := 4096
  maxBytes : ℕ := 8 * 1024 * 1024

/-- How far reading has come: it goes on, the dump has ended, it has failed or it has raised. -/
inductive Stop where
  | going
  | done
  | failed (reason : String) (detail : Detail)
  | raised

/-- The code of an error message; one too short to hold a code counts as an I/O error. -/
def errorCode (m : Message) : Int := if 4 ≤ m.body.length then signed32 m.body 0 else -eio

section Reading

variable (query : TcpSocketTuple) (sequence : ℕ) (limits : Limits)

def readMessage (t : Tally) (m : Message) : Tally × Stop :=
  if m.sequence ≠ sequence then (t,.going)
  else if m.kind = nlmsgDone then (t,.done)
  else if m.kind = nlmsgError then
    let code := errorCode m
    if code = 0 then (t,.going)
    -- the text of an error number can be asked for only where the number fits a C integer
    else if 0x80000000 ≤ code.natAbs then (t,.raised)
    else (t,.failed "socket_diag_kernel_error" (.errno code.natAbs))
  else if m.kind ≠ sockDiagByFamily then (t,.going)
  else
    let t := { t with inspected := t.inspected + 1 }
    if limits.maxMessages < t.inspected then (t,.failed "socket_diag_result_limit_exceeded" (.limit limits.maxMessages))
    else match decodeDiagMessage m.body with
      | none => (t,.going)
      | some d =>
        if d.family ≠ query.family.number then (t,.going)
        else if query.isMatch d then ({ t with matched := t.matched ++ [d.remembered] },.going)
        else (t,.going)

def readMessages : Tally → List Message → Tally × Stop
  | t,[] => (t,.going)
  | t,m :: rest =>
    match readMessage query sequence limits t m with
    | (t,.going) => readMessages t rest
    | stopped => stopped

/-- What became of waiting for one frame: the deadline had passed, reading failed, or one arrived. -/
inductive Arrival where
  | expired
  | error
  | frame (payload : Bytes)

/-- Read frames until the dump has ended. A socket that stays silent runs into its timeout. -/
def receive : Tally → ℕ → List Arrival → Tally × Stop
  | t,_,[] | t,_,.error :: _ => (t,.failed "socket_diag_read_failed" .error)
  | t,_,.expired :: _ => (t,.failed "socket_diag_deadline_expired" .nothing)
  | t,received,.frame payload :: rest =>
    let frame := payload.take receiveBytes
    if limits.maxBytes < received + frame.length then
      (t,.failed "socket_diag_byte_limit_exceeded" (.limit limits.maxBytes))
    else match readMessages query sequence limits t (iterNetlink frame) with
      | (t,.going) => receive t (received + frame.length) rest
      | stopped => stopped

end Reading

def Tally.failure (t : Tally) (reason : String) (detail : Detail) : SocketDiagResult :=
  ⟨.failed,reason,none,t.matched.length,t.inspected,detail⟩

def Tally.conclude (t : Tally) : SocketDiagResult :=
  match t.matched with
  | [] => ⟨.notFound,"exact_tcp_socket_not_found",none,0,t.inspected,.nothing⟩
  | [none] => ⟨.unsupported,"inet_diag_cgroup_id_unavailable",none,1,t.inspected,.nothing⟩
  | [some found] => ⟨.matched,"exact_tcp_socket_matched",some found,1,t.inspected,.nothing⟩
  | matched => ⟨.ambiguous,"exact_tcp_socket_ambiguous",none,matched.length,t.inspected,.nothing⟩

/-- One exchange over a socket of its own: whether it opens, whether it is bound and the request is
sent, what arrives, and whether closing it succeeds. -/
structure Channel where
  opens : Bool
  sends : Bool
  arrivals : List Arrival
  closes : Bool

/-- Look one socket up; nothing where the lookup raises. -/
def lookup (query : TcpSocketTuple) (sequence : ℕ) (limits : Limits) (channel : Channel) : Option SocketDiagResult :=
  let readFailed (t : Tally) := some (t.failure "socket_diag_read_failed" .error)
  if !channel.opens then readFailed ⟨0,[]⟩
  else
    let read := if channel.sends then receive query sequence limits ⟨0,[]⟩ 0 channel.arrivals
      else (⟨0,[]⟩,.failed "socket_diag_read_failed" .error)
    if !channel.closes then readFailed read.1
    else match read with
      | (t,.done) => some t.conclude
      | (t,.failed reason detail) => some (t.failure reason detail)
      | (_,.raised) | (_,.going) => none

end SocketDiag
end LocalPlane
