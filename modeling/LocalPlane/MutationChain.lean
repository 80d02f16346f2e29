import LocalPlane.LineProtocol
import LocalPlane.AttemptMemory

/-!
# From the engine to the kernel and back

One mutation goes from the backend to the agent, from the agent to the helper and from the
helper to the kernel, over two connections that can each be lost at any moment while the far
side goes on. Each party turns what it saw into one of three outcomes.
-/

set_option linter.dupNamespace false

namespace LocalPlane
namespace Chain

open LineProtocol Helper

def outcomeText : MutationOutcome → String
  | .notWritten => "not_written"
  | .written => "written"
  | .writeUnknown => "write_unknown"

def parseOutcome : Option Json → Option MutationOutcome
  | some (.str text) =>
    if text = "not_written" then some .notWritten
    else if text = "written" then some .written
    else if text = "write_unknown" then some .writeUnknown
    else none
  | _ => none

@[simp] theorem parseOutcome_text (outcome : MutationOutcome) :
    parseOutcome (some (.str (outcomeText outcome))) = some outcome := by cases outcome <;> rfl

/-- The client's side of one connection. -/
inductive Client where
  | idle
  | waiting
  | done (answer : Except CallError Fields)

/-- The serving side: nothing arrived, a whole request arrived, it is being handled, it was
answered, or the handling went away without an answer. -/
inductive Server where
  | absent | delivered | running
  | replied (answer : Except String Fields)
  | gone

/-- One connection of one call. -/
structure Hop where
  requestId : String
  client : Client
  server : Server

inductive HopAct where
  | fail (exchange : Exchange)
  | send
  | serve
  | leave
  | reply (answer : Except String Fields)
  | receive (bytes : ℕ)
  | garble (received : Received)

def Exchange.left : Exchange → Bool
  | .sent _ => true
  | _ => false

namespace Hop

def start (requestId : String) : Hop := ⟨requestId,.idle,.absent⟩

/-- A request leaves once and in full or not at all; what is received is the server's own frame, or
something that is no result of this request. -/
def step (c : Codec) (unavailable : String) (h : Hop) : HopAct → Option Hop
  | .fail exchange =>
    match h.client with
    | .idle => if Exchange.left exchange then none
      else some { h with client := .done (call c unavailable h.requestId exchange) }
    | _ => none
  | .send =>
    match h.client with
    | .idle => some { h with client := .waiting, server := .delivered }
    | _ => none
  | .serve =>
    match h.server with
    | .delivered => some { h with server := .running }
    | _ => none
  | .leave =>
    match h.server with
    | .delivered | .running => some { h with server := .gone }
    | _ => none
  | .reply answer =>
    match h.server with
    | .running => some { h with server := .replied answer }
    | _ => none
  | .receive bytes =>
    match h.client,h.server with
    | .waiting,.replied answer => some { h with
        client := .done (call c unavailable h.requestId (.sent (.frame (c.response h.requestId answer bytes)))) }
    | _,_ => none
  | .garble received =>
    match h.client,call c unavailable h.requestId (.sent received) with
    | .waiting,.error e => some { h with client := .done (.error e) }
    | _,_ => none

end Hop

/-- What the helper answers with. -/
def resultFields (result : MutationResult) (replayed : Bool) : Fields :=
  [("outcome",.str (outcomeText result.outcome)),("reason",.str result.reason),
    ("attempt_id",.str result.request.attemptId),("ifindex",.num result.request.ifindex),
    ("expected_current_mtu",.num result.request.expectedCurrentMtu),("desired_mtu",.num result.request.desiredMtu),
    ("replayed",.bool replayed)]

/-- The agent's one place where a helper failure becomes an outcome. -/
def agentMutation (request : SetMtu) : Except CallError Fields → Fields
  | .ok result => result
  | .error e =>
    [("outcome",.str (outcomeText (if e.dispatched then .writeUnknown else .notWritten))),("reason",.str e.code),
      ("attempt_id",.str request.attemptId),("ifindex",.num request.ifindex),
      ("expected_current_mtu",.num request.expectedCurrentMtu),("desired_mtu",.num request.desiredMtu)]

def agentFields (agentInstanceId hostId : String) (mutation : Fields) : Fields :=
  [("agent_instance_id",.str agentInstanceId),("host_id",.str hostId),("mutation",.obj mutation)]

structure MutationReport where
  outcome : MutationOutcome
  reason : String

def textOr (default : String) : Option Json → String
  | some (.str text) => if text = "" then default else text
  | _ => default

def Json.truthy : Json → Bool
  | .null => false
  | .bool value => value
  | .num value => value ≠ 0
  | .str value => value ≠ ""
  | .arr items => !items.isEmpty
  | .obj fields => !fields.isEmpty

def readMutation (mutation : Fields) : MutationReport :=
  match parseOutcome (mutation.lookup "outcome") with
  | some outcome => ⟨outcome,textOr "unstated" (mutation.lookup "reason")⟩
  | none => ⟨.writeUnknown,"unreadable_mutation_outcome"⟩

/-- What the executor reports to the engine; nothing when reading the answer raises. -/
def report : Except CallError Fields → Option MutationReport
  | .error e => some ⟨if e.dispatched then .writeUnknown else .notWritten,e.code⟩
  | .ok answer =>
    match answer.lookup "mutation" with
    | some (.obj mutation) => some (readMutation mutation)
    | some other => if Json.truthy other then none else some (readMutation [])
    | none => some (readMutation [])

/-- One mutation under way: its two connections, and the helper's thread that handles it. -/
structure Flight where
  request : SetMtu
  outer : Hop
  inner : Hop
  thread : Option ℕ

structure State where
  flights : List Flight
  helper : Helper.State

def State.set (s : State) (k : ℕ) (f : Flight) : State := { s with flights := s.flights.set k f }

inductive Act where
  | begin (request : SetMtu) (outerId innerId : String)
  | outer (flight : ℕ) (a : HopAct)
  | agentAnswer (flight : ℕ) (agentInstanceId hostId : String)
  | inner (flight : ℕ) (a : HopAct)
  | helperServe (flight : ℕ)
  | helperAnswer (flight : ℕ)
  | helper (a : Helper.Act)

/-- The agent can take up its own connection only while it is handling the request. -/
def agentActs (f : Flight) : HopAct → Bool
  | .fail _ | .send | .receive _ | .garble _ => match f.outer.server with
    | .running => true
    | _ => false
  | .leave => true
  | .reply (.error _) => true
  | .serve | .reply (.ok _) => false

/-- The backend's connection; the agent refuses only before it calls or after it was answered. -/
def backendActs (f : Flight) : HopAct → Bool
  | .reply (.ok _) => false
  | .reply (.error _) => match f.inner.client with
    | .waiting => false
    | _ => true
  | _ => true

/-- Requests reach the helper over its connections only, and the kernel acknowledges what it decided. -/
def helperActs : Helper.Act → Bool
  | .submit _ => false
  | .dispatch _ sequence verdict (.answered reply) => Netlink.Genuine reply sequence verdict
  | _ => true

def onFlight (s : State) (k : ℕ) (change : Flight → Option Flight) : Option State :=
  (s.flights[k]?.bind change).map (s.set k)

def step : Act → State → Option State
  | .begin request outerId innerId,s =>
    -- every attempt gets an identifier of its own
    if s.flights.any fun f => f.request.attemptId = request.attemptId then none
    else some { s with flights := s.flights ++ [⟨request,.start outerId,.start innerId,none⟩] }
  | .outer k a,s => onFlight s k fun f =>
    if backendActs f a then (f.outer.step agentCodec "agent_unavailable" a).map fun outer => { f with outer } else none
  | .agentAnswer k agentInstanceId hostId,s => onFlight s k fun f =>
    match f.inner.client with
    | .done answer =>
      (f.outer.step agentCodec "agent_unavailable"
        (.reply (.ok (agentFields agentInstanceId hostId (agentMutation f.request answer))))).map fun outer => { f with outer }
    | _ => none
  | .inner k a,s => onFlight s k fun f =>
    if agentActs f a then (f.inner.step helperCodec "helper_unavailable" a).map fun inner => { f with inner } else none
  | .helperServe k,s =>
    match s.flights[k]? with
    | some f =>
      match f.inner.step helperCodec "helper_unavailable" .serve,Helper.step (.submit f.request) s.helper with
      | some inner,some helper => some { s.set k { f with inner, thread := some s.helper.threads.length } with helper }
      | _,_ => none
    | none => none
  | .helperAnswer k,s => onFlight s k fun f =>
    match f.thread.bind fun i => s.helper.threads[i]? with
    | some ⟨_,.answered result replayed⟩ =>
      (f.inner.step helperCodec "helper_unavailable" (.reply (.ok (resultFields result replayed)))).map fun inner =>
        { f with inner }
    | _ => none
  | .helper a,s => if helperActs a then (Helper.step a s.helper).map fun helper => { s with helper } else none

def machine : Machine where
  State := State
  Act := Act
  initial s := s = ⟨[],.empty⟩
  step := step

end Chain
end LocalPlane
