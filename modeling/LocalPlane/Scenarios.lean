import LocalPlane.RecoveryService

/-!
# Published Runs to start from

Initial worlds built from the plans the planner published, and a few plans of each kind
to run them on.
-/

set_option linter.dupNamespace false

namespace LocalPlane

/-- A Run as it is published, on a host the engine knows under number 0. -/
def RunFile.published (object : ObjectId) (preview : Preview) : RunFile where
  host := 0
  object := object
  supported := true
  preview := preview
  run := ⟨⟨.preview,.none,false,false⟩,rfl⟩
  confirmation := none
  override := none
  grants := []
  checkpoint := none
  guard := none
  change := none
  attempts := []
  events := [.planned]
  journal := []

/-- The Runs `0 … n-1` are listed, each published with its own plan. -/
def World.published (n : ℕ) (object : RunId → ObjectId) (preview : RunId → Preview)
    (host : ObjectId → HostObject) : World where
  runs := List.range n
  listed := List.nodup_range
  files r := .published (object r) (preview r)
  locks := .empty
  host := host
  agent := .empty
  phase := .down
  requests := []

theorem World.published_initial (n : ℕ) (object : RunId → ObjectId) (preview : RunId → Preview)
    (host : ObjectId → HostObject) : Initial (published n object preview host) where
  pristine _ := ⟨rfl,rfl,rfl,rfl,rfl,rfl,rfl,rfl,rfl,rfl⟩
  locks := rfl
  agent := rfl
  phase := rfl
  requests := rfl

namespace Preview

/-- A field change off the management path. -/
def offPath (name : String) (current desired : Int) (h : current ≠ desired) : Preview where
  digest := 7
  change := .field name current desired
  availability := .available
  eligibility := .eligible
  confirmationRequired := true
  confirmationMethod := .acknowledge
  managementPath := .notOnManagementPath
  evidence := some 1
  guardWindow := 0
  verificationCapability := "capability"
  verificationProvider := "provider"
  moves _ _ _ hc := by cases hc; exact h
  guarded_field h := nomatch h
  guarded_onPath h := nomatch h
  guarded_evidence h := nomatch h
  guarded_window h := nomatch h
  guarded_typed h := nomatch h
  override_action h := nomatch h
  eligible_offPath _ _ := nofun

/-- The same change on the management path, under a guard. -/
def onPath (name : String) (current desired : Int) (h : current ≠ desired) : Preview where
  digest := 7
  change := .field name current desired
  availability := .available
  eligibility := .guarded
  confirmationRequired := true
  confirmationMethod := .typed
  managementPath := .onManagementPath
  evidence := some 1
  guardWindow := 60
  verificationCapability := "capability"
  verificationProvider := "provider"
  moves _ _ _ hc := by cases hc; exact h
  guarded_field _ := rfl
  guarded_onPath _ := rfl
  guarded_evidence _ := rfl
  guarded_window _ := by decide
  guarded_typed _ := rfl
  override_action h := nomatch h
  eligible_offPath h := nomatch h

/-- A declared verb carried out on the object. -/
def verb (name observed expected : String) (eligibility : ExecutionEligibility) (h : eligibility ≠ .guarded) : Preview where
  digest := 7
  change := .action name observed expected
  availability := .available
  eligibility := eligibility
  confirmationRequired := true
  confirmationMethod := .acknowledge
  managementPath := .notOnManagementPath
  evidence := some 1
  guardWindow := 0
  verificationCapability := "capability"
  verificationProvider := "provider"
  moves _ _ _ hc := nomatch hc
  guarded_field hg := absurd hg h
  guarded_onPath hg := absurd hg h
  guarded_evidence hg := absurd hg h
  guarded_window hg := absurd hg h
  guarded_typed hg := absurd hg h
  override_action _ := rfl
  eligible_offPath _ _ := nofun

end Preview

open Interleaved

/-- A request takes its next `n` steps, and the outside answers each in the usual way. -/
def advance (request : RequestId) (n : ℕ) : List engine.Move := List.replicate n (.step request {})

/-- A request takes one step on this answer. -/
def answer (request : RequestId) (out : Outside) : List engine.Move := [.step request out]

/-- The service starts with nothing to settle. -/
def started : List engine.Move := .enter .startup :: advance 0 4

/-- One Run that moves an MTU off the management path. -/
def mtuWorld : World :=
  .published 1 (fun _ => 0) (fun _ => .offPath "mtu" 1500 9000 (by decide)) fun _ => ⟨1500,none⟩

theorem mtuWorld_initial : World.Initial mtuWorld := World.published_initial ..

/-- Run 0 is confirmed by request 1. -/
def confirmed : List engine.Move := started ++ .enter (.confirm 0 none true none "") :: advance 1 3

/-- One Run that moves the MTU of the interface this very request arrives over. -/
def guardedWorld : World :=
  .published 1 (fun _ => 0) (fun _ => .onPath "mtu" 1500 9000 (by decide)) fun _ => ⟨1500,none⟩

theorem guardedWorld_initial : World.Initial guardedWorld := World.published_initial ..

/-- A fresh reading of the controlled value. -/
def reading (value : Int) : Outside := { observed := .taken 1 "capability" "provider" ⟨some value,.verified,none⟩ }

/-- Run 0 is confirmed by request 1, and request 2 applies it until it waits on its connection. -/
def guardHeld : List engine.Move :=
  started ++ .enter (.confirm 0 none true (some "") "") :: advance 1 4 ++ .enter (.apply 0) :: advance 2 24 ++
    answer 2 (reading 9000) ++ advance 2 6

/-- A request that arrives over an object the engine could not resolve. -/
def unresolved : Verdict := ⟨none,none,nofun⟩

/-- A request that arrives over the very object Run 0 changed. -/
def resolved : Verdict := ⟨some 0,some 1,fun _ => rfl⟩

end LocalPlane
