import LocalPlane.Machine
import LocalPlane.Netlink
import LocalPlane.Outcomes

/-!
# The privileged helper

The one mutating operation of the helper, served on several threads at once. A request is
validated, looked up among the attempts that are remembered, checked against the kernel's own
link, sent as one frame and remembered with what became of it, each a step of its own.
-/

set_option linter.dupNamespace false

namespace LocalPlane
namespace Helper

abbrev AttemptId := String

def minMtu : Int := 68
def maxMtu : Int := 65536
def maxIfindex : Int := 0x7fffffff
def attemptMemory : ℕ := 256

structure SetMtu where
  attemptId : AttemptId
  ifindex : Int
  expectedCurrentMtu : Int
  desiredMtu : Int
  expectedInterfaceName : Option String
  deriving DecidableEq

def attemptIdChar (c : Char) : Bool :=
  c.isAlphanum || c = '_' || c = '.' || c = ':' || c = '-'

/-- A short opaque identifier. The pattern's end also matches before one final line break. -/
def validAttemptId (id : AttemptId) : Bool :=
  let chars := if id.toList.getLast? = some '\n' then id.toList.dropLast else id.toList
  1 ≤ chars.length && chars.length ≤ 128 && chars.all attemptIdChar

/-- The parameters are typed and in range. -/
def SetMtu.valid (request : SetMtu) : Bool :=
  validAttemptId request.attemptId &&
    (1 ≤ request.ifindex && request.ifindex ≤ maxIfindex) &&
    (0 ≤ request.expectedCurrentMtu && request.expectedCurrentMtu ≤ maxMtu) &&
    (0 ≤ request.desiredMtu && request.desiredMtu ≤ maxMtu) &&
    request.expectedInterfaceName.all fun name => 1 ≤ name.length && name.length ≤ 15

/-- One link as the kernel described it. -/
structure LinkFacts where
  name : Option String
  mtu : Option Int
  deriving DecidableEq

/-- What became of asking the kernel about the link: it was told, it was not told for a reason that
refuses the write, or the handling of the answer raised. -/
inductive LinkReading where
  | facts (link : LinkFacts)
  | refused (reason : String)
  | raised
  deriving DecidableEq

structure MutationResult where
  outcome : MutationOutcome
  reason : String
  request : SetMtu
  observed : Option LinkFacts
  kernelErrno : Option Int
  deriving DecidableEq

inductive Check where
  | passed (link : LinkFacts)
  | refused (reason : String) (link : Option LinkFacts)
  | raised
  deriving DecidableEq

/-- What can be refused before the link is read. -/
def precheck (request : SetMtu) : Option String :=
  if ¬(minMtu ≤ request.desiredMtu ∧ request.desiredMtu ≤ maxMtu) then some "mtu_out_of_range"
  else if ¬(minMtu ≤ request.expectedCurrentMtu ∧ request.expectedCurrentMtu ≤ maxMtu) then
    some "expected_mtu_out_of_range"
  else if request.desiredMtu = request.expectedCurrentMtu then some "desired_equals_current"
  else none

/-- Everything that can refuse this, refused before a mutating frame can exist. -/
def check (request : SetMtu) (reading : LinkReading) : Check :=
  match precheck request with
  | some reason => .refused reason none
  | none =>
    match reading with
    | .raised => .raised
    | .refused reason => .refused reason none
    | .facts link =>
      if link.mtu = none then .refused "current_mtu_unreadable" (some link)
      else if request.expectedInterfaceName.isSome ∧ link.name ≠ request.expectedInterfaceName then
        .refused "interface_identity_mismatch" (some link)
      else if link.mtu ≠ some request.expectedCurrentMtu then .refused "mtu_precondition_failed" (some link)
      else if link.mtu = some request.desiredMtu then .refused "desired_equals_current" (some link)
      else .passed link

/-- What the exchange of the mutating frame came to: it never left, it left and no answer of the
kernel's came back, it was answered, or something raised after it left. -/
inductive Delivery where
  | sendFailed (reason : String)
  | unanswered (reason : String)
  | answered (reply : Netlink.Bytes)
  | raised

def Delivery.sent : Delivery → Bool
  | .sendFailed _ => false
  | _ => true

/-- The result of the exchange, unless reading the answer raised. -/
def conclude (request : SetMtu) (link : LinkFacts) (sequence : ℕ) : Delivery → Option MutationResult
  | .sendFailed reason => some ⟨.notWritten,reason,request,some link,none⟩
  | .unanswered reason => some ⟨.writeUnknown,reason,request,some link,none⟩
  | .raised => none
  | .answered reply =>
    match Netlink.acknowledgement reply sequence with
    | .malformed => some ⟨.writeUnknown,"malformed_netlink_response",request,some link,none⟩
    | .uncorrelated => some ⟨.writeUnknown,"acknowledgement_uncorrelated",request,some link,none⟩
    | .echoesAnother => some ⟨.writeUnknown,"acknowledgement_echoes_another_request",request,some link,none⟩
    | .missing => some ⟨.writeUnknown,"no_acknowledgement_in_reply",request,some link,none⟩
    | .raised => none
    | .code errno =>
      if errno = 0 then some ⟨.written,"kernel_acknowledged",request,some link,none⟩
      -- the text of an error number that does not fit a C integer cannot be asked for
      else if 0x80000000 ≤ errno then none
      else some ⟨.notWritten,"kernel_rejected",request,some link,some errno⟩

/-- Where the handling of one request stands. -/
inductive Stage where
  | received
  | missed
  | checked (link : LinkFacts)
  | decided (result : MutationResult)
  | raised (sent : Bool)
  | answered (result : MutationResult) (replayed : Bool)
  deriving DecidableEq

structure Thread where
  request : SetMtu
  stage : Stage
  deriving DecidableEq

/-- A mutating frame that was sent, with what the kernel made of it and what its handling
concluded; nothing when that raised. -/
structure Frame where
  request : SetMtu
  verdict : Netlink.Verdict
  result : Option MutationResult

structure State where
  threads : List Thread
  memory : List (AttemptId × MutationResult)
  frames : List Frame

def State.empty : State := ⟨[],[],[]⟩

def retained (memory : List (AttemptId × MutationResult)) (attempt : AttemptId) : Option MutationResult :=
  (memory.find? (·.1 = attempt)).map (·.2)

/-- A key that is written again keeps its place; the oldest are forgotten. -/
def remember (memory : List (AttemptId × MutationResult)) (attempt : AttemptId) (result : MutationResult) :
    List (AttemptId × MutationResult) :=
  let memory := if (retained memory attempt).isSome then
      memory.map fun entry => if entry.1 = attempt then (attempt,result) else entry
    else memory ++ [(attempt,result)]
  memory.drop (memory.length - attemptMemory)

inductive Act where
  | submit (request : SetMtu)
  | lookup (thread : ℕ)
  | check (thread : ℕ) (reading : LinkReading)
  | dispatch (thread : ℕ) (sequence : ℕ) (verdict : Netlink.Verdict) (delivery : Delivery)
  | remember (thread : ℕ)

def State.set (s : State) (i : ℕ) (request : SetMtu) (stage : Stage) : State :=
  { s with threads := s.threads.set i ⟨request,stage⟩ }

def step : Act → State → Option State
  | .submit request,s =>
    some { s with threads := s.threads ++ [⟨request,if request.valid then .received else .raised false⟩] }
  | .lookup i,s =>
    match s.threads[i]? with
    | some ⟨request,.received⟩ =>
      match retained s.memory request.attemptId with
      | some result => some (s.set i request (.answered result true))
      | none => some (s.set i request .missed)
    | _ => none
  | .check i reading,s =>
    match s.threads[i]? with
    | some ⟨request,.missed⟩ =>
      match check request reading with
      | .passed link => some (s.set i request (.checked link))
      | .refused reason link => some (s.set i request (.decided ⟨.notWritten,reason,request,link,none⟩))
      | .raised => some (s.set i request (.raised false))
    | _ => none
  | .dispatch i sequence verdict delivery,s =>
    match s.threads[i]? with
    | some ⟨request,.checked link⟩ =>
      let result := conclude request link sequence delivery
      let stage := match result with
        | some result => .decided result
        | none => .raised delivery.sent
      let s := s.set i request stage
      if delivery.sent then some { s with frames := ⟨request,verdict,result⟩ :: s.frames } else some s
    | _ => none
  | .remember i,s =>
    match s.threads[i]? with
    | some ⟨request,.decided result⟩ =>
      some { s.set i request (.answered result false) with memory := remember s.memory request.attemptId result }
    | _ => none

def machine : Machine where
  State := State
  Act := Act
  initial s := s = .empty
  step := step

end Helper
end LocalPlane
