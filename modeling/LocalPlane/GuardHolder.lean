import LocalPlane.Machine
import LocalPlane.Outcomes
import Mathlib.Data.List.Nodup

/-!
# The component that holds guards

The agent's registry of armed reversals as its source has it: one lock is held through each
of arming, releasing, asking and firing, so these are atomic, and what interleaves is their
order. A deadline is a callback that may run once its guard was armed; releasing cancels it
unless it is already under way, and the reversal it dispatches may raise.
-/

set_option linter.dupNamespace false

namespace LocalPlane
namespace GuardHolder

abbrev GuardId := ℕ
abbrev AttemptId := ℕ

inductive Phase where
  | armed | disarmed | fired | lost
  deriving DecidableEq

/-- One armed reversal. Everything in it was decided by the backend. -/
structure Guard where
  guardId : GuardId
  attemptId : AttemptId
  ifindex : Int
  expectedInterfaceName : Option String
  guardedMtu : Int
  restoreMtu : Int
  windowS : Int
  armedAt : Int
  expiresAt : Int
  phase : Phase
  firedAt : Option Int
  mutation : Option MutationOutcome
  timer : Bool
  deriving DecidableEq

structure ArmRequest where
  guardId : GuardId
  attemptId : AttemptId
  ifindex : Int
  expectedInterfaceName : Option String
  guardedMtu : Int
  restoreMtu : Int
  windowS : Int
  deriving DecidableEq

/-- What a caller is told; nothing but the id and the phase for a guard that is lost. -/
structure Report where
  guardId : GuardId
  phase : Phase
  guard : Option Guard

def Guard.report (guard : Guard) : Report := ⟨guard.guardId,guard.phase,some guard⟩

def lost (guardId : GuardId) : Report := ⟨guardId,.lost,none⟩

inductive GuardRefusal where
  | windowOutOfRange | nothingToRevert | duplicate | targetHeld (by' : GuardId)
  deriving DecidableEq

def GuardRefusal.code : GuardRefusal → String
  | .windowOutOfRange => "guard_window_out_of_range"
  | .nothingToRevert => "guard_reversal_would_change_nothing"
  | .duplicate => "guard_already_armed"
  | .targetHeld _ => "guard_already_armed_for_target"

def minWindowS : Int := 5
def maxWindowS : Int := 600
def settledMemory : ℕ := 64

/-- Guards by id, oldest first: a key that is written again keeps its place. -/
def find (guards : List Guard) (guardId : GuardId) : Option Guard := guards.find? (·.guardId = guardId)

def put (guards : List Guard) (guard : Guard) : List Guard :=
  if (find guards guard.guardId).isSome then guards.map fun g => if g.guardId = guard.guardId then guard else g
  else guards ++ [guard]

structure Registry where
  armed : List Guard
  settled : List Guard
  deriving DecidableEq

namespace Registry

def hold (request : ArmRequest) (now : Int) : Guard where
  guardId := request.guardId
  attemptId := request.attemptId
  ifindex := request.ifindex
  expectedInterfaceName := request.expectedInterfaceName
  guardedMtu := request.guardedMtu
  restoreMtu := request.restoreMtu
  windowS := request.windowS
  armedAt := now
  expiresAt := now + request.windowS
  phase := .armed
  firedAt := none
  mutation := none
  timer := true

/-- Hold a reversal, and say so; or say which rule refuses it. -/
def arm (r : Registry) (request : ArmRequest) (now : Int) : Except GuardRefusal (Report × Registry) :=
  if ¬(minWindowS ≤ request.windowS ∧ request.windowS ≤ maxWindowS) then .error .windowOutOfRange
  else if request.guardedMtu = request.restoreMtu then .error .nothingToRevert
  else if (find r.armed request.guardId).isSome ∨ (find r.settled request.guardId).isSome then .error .duplicate
  else match r.armed.find? (·.ifindex = request.ifindex) with
    | some held => .error (.targetHeld held.guardId)
    | none =>
      let guard := hold request now
      .ok (guard.report,{ r with armed := put r.armed guard })

/-- A guard is over: it is no longer held, and the oldest are forgotten. -/
def settle (r : Registry) (guard : Guard) : Registry where
  armed := r.armed.filter (·.guardId ≠ guard.guardId)
  settled := let settled := put r.settled guard; settled.drop (settled.length - settledMemory)

/-- Release a guard that is still holding, and report what became of it. -/
def disarm (r : Registry) (guardId : GuardId) : Report × Registry :=
  match find r.armed guardId with
  | some guard =>
    let guard := { guard with timer := false, phase := .disarmed }
    (guard.report,r.settle guard)
  | none =>
    match find r.settled guardId with
    | some settled => (settled.report,r)
    | none => (lost guardId,r)

/-- What a guard is doing, without changing it. -/
def status (r : Registry) (guardId : GuardId) : Report :=
  match (find r.armed guardId).or (find r.settled guardId) with
  | none => lost guardId
  | some guard => guard.report

/-- The write a guard dispatches: the inverse of the change, over the value the change left. -/
structure Reversal where
  attemptId : AttemptId
  ifindex : Int
  expectedCurrentMtu : Int
  desiredMtu : Int
  expectedInterfaceName : Option String
  deriving DecidableEq

def reversal (guard : Guard) : Reversal :=
  ⟨guard.attemptId,guard.ifindex,guard.guardedMtu,guard.restoreMtu,guard.expectedInterfaceName⟩

/-- The deadline passed. What the write came to is `none` when the call raised: the guard has
fired by then, and it stays where it is held. -/
def fire (r : Registry) (guardId : GuardId) (now : Int) (answer : Option MutationOutcome) :
    Option Reversal × Registry :=
  match find r.armed guardId with
  | none => (none,r)
  | some guard =>
    let fired := { guard with timer := false, phase := .fired, firedAt := some now }
    match answer with
    | some outcome => (some (reversal guard),r.settle { fired with mutation := some outcome })
    | none => (some (reversal guard),{ r with armed := put r.armed fired })

/-- Cancel every timer. Nothing is reversed and nothing is settled. -/
def shutdown (r : Registry) : Registry := { r with armed := r.armed.map fun g => { g with timer := false } }

end Registry

/-- What happened to a guard, in the order it happened, newest first. -/
inductive Event where
  | armed (guardId : GuardId)
  | reported (guardId : GuardId) (phase : Phase)
  | dispatched (guardId : GuardId) (reversal : Registry.Reversal)
  | settled (guardId : GuardId) (phase : Phase)
  deriving DecidableEq

/-- The registry, the callbacks that may still run, and what has happened. -/
structure State where
  registry : Registry
  deadlines : List GuardId
  trace : List Event

inductive Act where
  | arm (request : ArmRequest) (now : Int)
  | disarm (guardId : GuardId) (late : Bool)
  | status (guardId : GuardId)
  | fire (guardId : GuardId) (now : Int) (answer : Option MutationOutcome)
  | shutdown (late : List GuardId)

/-- The callbacks that are left when a guard's timer is cancelled: one already under way stays. -/
def cancelled (guard : Option Guard) (late : Bool) (deadlines : List GuardId) : List GuardId :=
  match guard with
  | some guard => if guard.timer ∧ late = false then deadlines.erase guard.guardId else deadlines
  | none => deadlines

def step : Act → State → Option State
  | .arm request now,s =>
    match s.registry.arm request now with
    | .error _ => some s
    | .ok (report,registry) =>
      some ⟨registry,s.deadlines ++ [request.guardId],
        .reported request.guardId report.phase :: .armed request.guardId :: s.trace⟩
  | .disarm guardId late,s =>
    let held := find s.registry.armed guardId
    let (report,registry) := s.registry.disarm guardId
    let settled := if held.isSome then [Event.settled guardId .disarmed] else []
    some ⟨registry,cancelled held late s.deadlines,.reported guardId report.phase :: (settled ++ s.trace)⟩
  | .status guardId,s =>
    some { s with trace := .reported guardId (s.registry.status guardId).phase :: s.trace }
  | .fire guardId now answer,s =>
    if guardId ∈ s.deadlines then
      let (reversal,registry) := s.registry.fire guardId now answer
      let settled := if answer.isSome then [Event.settled guardId .fired] else []
      some ⟨registry,s.deadlines.erase guardId,match reversal with
        | some reversal => settled ++ .dispatched guardId reversal :: s.trace
        | none => s.trace⟩
    else none
  | .shutdown late,s => some ⟨s.registry.shutdown,s.deadlines.filter (· ∈ late),s.trace⟩

def machine : Machine where
  State := State
  Act := Act
  initial s := s = ⟨⟨[],[]⟩,[],[]⟩
  step := step

end GuardHolder
end LocalPlane
