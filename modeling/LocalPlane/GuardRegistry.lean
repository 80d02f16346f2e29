import LocalPlane.Schema

/-!
# The agent's guard registry

Every reversal this agent instance is holding and the ones it has settled. A guard
is armed, then disarmed by a request or fired by its deadline, and remembered after
that only as long as the memory of settled guards lasts.
-/

set_option linter.dupNamespace false

namespace LocalPlane

/-- One armed reversal. The target it would write is the object's interface. -/
structure ArmedGuard where
  run : RunId
  object : ObjectId
  guarded : Int
  restore : Int
  window : ℕ
  deriving DecidableEq

/-- What became of a guard, as the component holding it describes it. A reversal outcome
is present exactly for a guard that fired. -/
inductive GuardReport where
  | armed | disarmed | lost | unreachable
  | fired (reversal : MutationOutcome)
  deriving DecidableEq

namespace GuardReport

def phase : GuardReport → GuardPhase
  | .armed => .armed
  | .disarmed => .disarmed
  | .lost => .lost
  | .unreachable => .unreachable
  | .fired _ => .fired

def reversal : GuardReport → Option MutationOutcome
  | .fired outcome => some outcome
  | _ => none

/-- The reversal is claimed to have reached the host. -/
def reverted (r : GuardReport) : Bool := r.reversal = some .written

end GuardReport

/-- A guard that is over; it is remembered by what became of it. -/
structure SettledGuard where
  run : RunId
  report : GuardReport
  past : report ≠ .armed
  deriving DecidableEq

structure GuardRegistry where
  armed : List ArmedGuard
  settled : List SettledGuard
  deriving DecidableEq

namespace GuardRegistry

def minWindow : ℕ := 5
def maxWindow : ℕ := 600
def settledMemory : ℕ := 64

def empty : GuardRegistry := ⟨[],[]⟩

def armedFor (g : GuardRegistry) (run : RunId) : Option ArmedGuard := g.armed.find? (·.run = run)
def settledFor (g : GuardRegistry) (run : RunId) : Option SettledGuard := g.settled.find? (·.run = run)

/-- Hold a reversal, or say which rule refuses it. -/
def arm (g : GuardRegistry) (guard : ArmedGuard) : Except String GuardRegistry :=
  if guard.window < minWindow ∨ maxWindow < guard.window then .error "guard_window_out_of_range"
  else if guard.guarded = guard.restore then .error "guard_reversal_would_change_nothing"
  else if (g.armedFor guard.run).isSome ∨ (g.settledFor guard.run).isSome then .error "guard_already_armed"
  else if (g.armed.find? (·.object = guard.object)).isSome then .error "guard_already_armed_for_target"
  else .ok ⟨guard :: g.armed,g.settled⟩

/-- What a guard is doing, without changing it. -/
def status (g : GuardRegistry) (run : RunId) : GuardReport :=
  if (g.armedFor run).isSome then .armed
  else match g.settledFor run with
    | some settled => settled.report
    | none => .lost

def settle (g : GuardRegistry) (run : RunId) (report : GuardReport) (past : report ≠ .armed := by decide) :
    GuardRegistry :=
  ⟨g.armed.filter (·.run ≠ run),(⟨run,report,past⟩ :: g.settled).take settledMemory⟩

/-- Release a guard that is still holding, and report what became of it. -/
def disarm (g : GuardRegistry) (run : RunId) : GuardReport × GuardRegistry :=
  if (g.armedFor run).isSome then (.disarmed,g.settle run .disarmed) else (g.status run,g)

theorem armedFor_settle (g : GuardRegistry) (run r : RunId) (report : GuardReport) (past : report ≠ .armed) :
    (g.settle run report past).armedFor r = if r = run then none else g.armedFor r := by
  split
  · next h => subst h; simp [armedFor,settle]
  · next h =>
    simp only [armedFor,settle,List.find?_filter]
    congr 1
    funext guard
    by_cases hg : guard.run = r <;> simp [hg,h]

theorem armedFor_disarm (g : GuardRegistry) (run r : RunId) :
    (g.disarm run).2.armedFor r = if r = run then none else g.armedFor r := by
  unfold disarm
  split
  · exact armedFor_settle g run r _ _
  · next h =>
    split
    · next hr => subst hr; simpa using h
    · rfl

/-- A guard the registry accepts is held from then on, and nothing else changes. -/
theorem armedFor_arm {g g' : GuardRegistry} {guard : ArmedGuard} (h : g.arm guard = .ok g') (r : RunId) :
    g'.armedFor r = if r = guard.run then some guard else g.armedFor r := by
  unfold arm at h
  repeat' split at h
  all_goals cases h
  split
  · next hr => simp [armedFor,hr]
  · next hr => simp [armedFor,Ne.symm hr]

/-- Two armed guards never address one object. -/
theorem arm_object {g g' : GuardRegistry} {guard : ArmedGuard} (h : g.arm guard = .ok g') {other : ArmedGuard}
    (ho : other ∈ g.armed) : other.object ≠ guard.object := by
  unfold arm at h
  repeat' split at h
  all_goals cases h
  next _ _ _ hf =>
  simp only [List.find?_isSome,decide_eq_true_eq,not_exists,not_and] at hf
  exact hf other ho

@[simp] theorem status_armed {g : GuardRegistry} {run : RunId} :
    g.status run = .armed ↔ (g.armedFor run).isSome := by
  unfold status
  split
  · simp [*]
  · next h =>
    cases hs : g.settledFor run with
    | none => simp [h]
    | some settled => simp [h,settled.past]

/-- Nobody is told by a release that the guard is still armed. -/
theorem disarm_ne_armed (g : GuardRegistry) (run : RunId) : (g.disarm run).1 ≠ .armed := by
  unfold disarm
  split
  · simp
  · next h => simpa using h

end GuardRegistry
end LocalPlane
