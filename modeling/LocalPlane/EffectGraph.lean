import LocalPlane.CanonicalPlan
import LocalPlane.Estate
import LocalPlane.StableSort
import Mathlib.Data.List.Dedup
import Mathlib.Logic.Function.Basic

/-!
# What one action may reach

A walk over pairs of a unit and the kind of work that may be done to it, with a limit on each
of its dimensions. Whatever is cut short, is not loaded or can set off more than its tables
say leaves a gap, and a gap is never taken back.
-/

set_option linter.dupNamespace false

namespace LocalPlane

open LineProtocol (Json Fields)
open Planning (EffectEdge SystemdServiceAction)

namespace Effects

/-- Four potential jobs and three readings that are none. -/
inductive Work where
  | start | stop | restart | verify | inspect | source | footprint
  deriving DecidableEq

def Work.all : List Work := [.start,.stop,.restart,.verify,.inspect,.source,.footprint]

def Work.ofAction : SystemdServiceAction → Work
  | .start => .start
  | .stop => .stop
  | .restart => .restart

def startJobRelationships : List (String × Work) :=
  [("Requires",.start),("Wants",.start),("BindsTo",.start),("Upholds",.start),("Requisite",.verify),("Conflicts",.stop),
    ("ConflictedBy",.stop)]

def stopJobRelationships : List String := ["RequiredBy","RequisiteOf","BoundBy","ConsistsOf"]

def releasedDependencies : List String := ["Requires","Requisite","Wants","BindsTo","Upholds"]

def conditionalRelationships : List String := ["OnFailure","OnSuccess","Triggers"]

def reactivationRelationships : List String := ["TriggeredBy","UpheldBy"]

/-- How a relation is taken: which work it brings to what it names, whether along an edge, and the gap it leaves
wherever it names anything. -/
structure Rule where
  relation : String
  child : Work
  follows : Bool
  mark : Option String

def startRules : List Rule := startJobRelationships.map fun r =>
  ⟨r.1,r.2,true,if r.1 = "Upholds" then some "effect_graph.runtime_upholding" else none⟩

/-- A stop that is propagated gracefully can merge with a start, so both are kept. -/
def stopRules (kind : Work) : List Rule :=
  stopJobRelationships.map (fun relation => ⟨relation,kind,true,none⟩) ++
    [⟨"PropagatesStopTo",.restart,true,some "effect_graph.graceful_stop"⟩] ++
    releasedDependencies.map fun relation => ⟨relation,.inspect,false,none⟩

def handlerRules : List Rule :=
  conditionalRelationships.map (fun relation => ⟨relation,.footprint,true,some ("effect_graph.conditional:" ++ relation)⟩) ++
    reactivationRelationships.map fun relation => ⟨relation,.source,true,none⟩

def rulesFor : Work → List Rule
  | .start => startRules ++ handlerRules
  | .stop => stopRules .stop ++ handlerRules
  | .restart => startRules ++ stopRules .restart ++ handlerRules
  | _ => []

/-- Why a loaded unit could not be read. -/
inductive ReadError where
  | absent
  | other

/-- What the manager answers while it is asked. -/
structure Bus where
  unavailable : Option String
  managerProperties : Except ReadError Unit
  observeTarget : String → Except ReadError String
  read : String → Except ReadError Fields

structure Limits where
  nodes : ℕ
  depth : ℕ
  edges : ℕ

/-- The ceilings a caller may lower and never raise. -/
def limitsOf (maxNodes maxDepth maxEdges : Int) : Limits :=
  ⟨(max 1 (min maxNodes 128)).toNat,(max 0 (min maxDepth 12)).toNat,(max 1 (min maxEdges 2048)).toNat⟩

structure Traversal where
  pending : List (String × Work × ℕ)
  queued : List (String × Work)
  visited : List (String × Work)
  admitted : List String
  attempted : List String
  aliases : String → Option String
  nodes : String → Option Fields
  provisional : List EffectEdge
  edges : List EffectEdge
  units : List String
  activeSources : List String
  activeUpholdingSources : List String
  gaps : List String
  -- how many more list entries are looked at
  references : ℕ
  -- how many more looks at the clock come before the deadline, with one look for each unit that is read
  patience : ℕ

/-- What is raised ends the walk where it stands. -/
abbrev Step := Except Traversal Traversal

def unitName (name : String) : Bool :=
  1 ≤ name.toList.length && name.toList.length ≤ 255 && name.toList.all (· ∉ ['/','\x00','\r','\n'])

namespace Traversal

def gap (t : Traversal) (g : String) : Traversal := {t with gaps := g :: t.gaps}

def remaining (t : Traversal) : Step :=
  match t.patience with
  | 0 => .error t
  | n + 1 => .ok {t with patience := n}

end Traversal

section Walk

variable (bus : Bus) (limits : Limits)

def enqueue (referenced : String) (kind : Work) (depth : ℕ) (t : Traversal) : Traversal :=
  if (referenced,kind) ∈ t.queued then t
  else if limits.depth < depth then t.gap "effect_graph.depth_limit"
  else if referenced ∈ t.admitted then
    {t with queued := (referenced,kind) :: t.queued,pending := t.pending ++ [(referenced,kind,depth)]}
  else if limits.nodes ≤ t.admitted.length then t.gap "effect_graph.node_limit"
  else
    {t with
      admitted := referenced :: t.admitted
      queued := (referenced,kind) :: t.queued
      pending := t.pending ++ [(referenced,kind,depth)] }

def follow (canonical relation referenced : String) (kind : Work) (depth : ℕ) (t : Traversal) : Traversal :=
  let edge : EffectEdge := ⟨canonical,relation,referenced⟩
  if edge ∈ t.provisional then enqueue limits referenced kind (depth + 1) t
  else if limits.edges ≤ t.provisional.length then t.gap "effect_graph.edge_limit"
  else enqueue limits referenced kind (depth + 1) {t with provisional := edge :: t.provisional}

/-- One name a relation lists. -/
def takeName (rule : Rule) (canonical : String) (depth : ℕ) (referenced : String) (t : Traversal) : Traversal :=
  let t := match rule.mark with
    | some mark => t.gap (mark ++ ":" ++ canonical)
    | none => t
  if rule.follows then follow limits canonical rule.relation referenced rule.child depth t
  else enqueue limits referenced rule.child (depth + 1) t

/-- The entries of a list, until the budget for entries is spent. -/
def takeEach (rule : Rule) (canonical : String) (depth : ℕ) : List Json → Traversal → Step
  | [],t => .ok t
  | item :: rest,t => do
    let t ← t.remaining
    if t.references = 0 then .ok (t.gap "effect_graph.edge_limit")
    else
      let t := {t with references := t.references - 1}
      match item with
      | .str referenced =>
        if unitName referenced then takeEach rule canonical depth rest (takeName limits rule canonical depth referenced t)
        else takeEach rule canonical depth rest (t.gap ("effect_graph.unreadable:" ++ rule.relation ++ ":" ++ canonical))
      | _ => takeEach rule canonical depth rest (t.gap ("effect_graph.unreadable:" ++ rule.relation ++ ":" ++ canonical))

def takeRule (canonical : String) (depth : ℕ) (properties : Fields) (t : Traversal) (rule : Rule) : Step :=
  match fact properties rule.relation with
  | .null => .ok (t.gap ("effect_graph.unsupported:" ++ rule.relation ++ ":" ++ canonical))
  | .arr items => takeEach limits rule canonical depth items t
  | _ => .ok (t.gap ("effect_graph.unreadable:" ++ rule.relation ++ ":" ++ canonical))

def stableNegativeStates : List String := ["inactive","failed"]
def changingStates : List String := ["activating","deactivating","reloading","refreshing","maintenance"]

def reactivationJobGaps : Json → List String
  | .arr [.num jobId,.str path] =>
    if jobId = 0 ∧ path = "/" then []
    else if 0 < jobId ∧ path ≠ "" ∧ path ≠ "/" then ["job_pending"]
    else ["job_unreadable"]
  | _ => ["job_unreadable"]

/-- Whether a unit is active, and what keeps that from being certain. -/
def reactivationSourceEvidence (properties : Fields) : Bool × List String :=
  let job := reactivationJobGaps (fact properties "Job")
  match fact properties "ActiveState" with
  | .str state =>
    if state = "active" then (true,job)
    else if state ∈ stableNegativeStates then (false,job)
    else if state ∈ changingStates then (false,"state_changing" :: job)
    else if state ≠ "" then (false,"state_unknown" :: job)
    else (false,"state_unreadable" :: job)
  | _ => (false,"state_unreadable" :: job)

/-- Whether a unit that nobody needs any more may be stopped for it. -/
def stopping (action : SystemdServiceAction) (kind : Work) : Bool :=
  action ≠ .start || kind = .stop || kind = .restart || kind = .inspect

def stopWhenUnneeded (canonical : String) (properties : Fields) (t : Traversal) : Traversal :=
  match fact properties "StopWhenUnneeded" with
  | .null => t.gap ("effect_graph.unsupported:StopWhenUnneeded:" ++ canonical)
  | .bool true => {t.gap ("effect_graph.stop_when_unneeded:" ++ canonical) with units := canonical :: t.units}
  | .bool false => t
  | _ => t.gap ("effect_graph.unreadable:StopWhenUnneeded:" ++ canonical)

/-- What is asked of every unit the walk comes to, whatever it comes for. -/
def visitUnit (action : SystemdServiceAction) (canonical : String) (kind : Work) (properties : Fields) (t : Traversal) : Traversal :=
  let t := {t with visited := (canonical,kind) :: t.visited,units := if kind ≠ Work.inspect then canonical :: t.units else t.units}
  let t := if fact properties "LoadState" ≠ .str "loaded" then t.gap ("effect_graph.load_state:" ++ canonical) else t
  let runtime := (reactivationSourceEvidence properties).2.map fun g => "effect_graph.runtime_" ++ g ++ ":" ++ canonical
  let t := {t with gaps := runtime ++ t.gaps}
  if stopping action kind then stopWhenUnneeded canonical properties t else t

/-- A unit is read once for each name it is called by, and a name that is not its own is never certain. -/
def readUnit (requested : String) (t : Traversal) : Step :=
  if requested ∈ t.attempted then .ok t
  else do
    let t ← {t with attempted := requested :: t.attempted}.remaining
    match bus.read requested with
    | .error .absent => .ok (t.gap ("effect_graph.unresolved:" ++ requested))
    | .error .other => .error t
    | .ok properties =>
      match fact properties "Id" with
      | .str canonical =>
        if unitName canonical then
          let t := {t with
            aliases := Function.update t.aliases requested (some canonical)
            nodes := Function.update t.nodes canonical (some ((t.nodes canonical).getD properties)) }
          .ok (if requested ≠ canonical then t.gap ("effect_graph.alias_reference:" ++ requested) else t)
        else .ok (t.gap ("effect_graph.canonical_id:" ++ requested))
      | _ => .ok (t.gap ("effect_graph.canonical_id:" ++ requested))

/-- The next piece of work. -/
def take (action : SystemdServiceAction) (requested : String) (kind : Work) (depth : ℕ) (t : Traversal) : Step := do
  let t ← t.remaining
  let t ← readUnit bus requested t
  match t.aliases requested with
  | none => .ok t
  | some canonical =>
    if (canonical,kind) ∈ t.visited then .ok t
    else
      match t.nodes canonical with
      | none => .error t
      | some properties => (rulesFor kind).foldlM (takeRule limits canonical depth properties) (visitUnit action canonical kind properties t)

/-- The walk, for as many steps as there is fuel. -/
def walk (action : SystemdServiceAction) : ℕ → Traversal → Option Step
  | fuel,t =>
    match t.pending,fuel with
    | [],_ => some (.ok t)
    | _ :: _,0 => none
    | (requested,kind,depth) :: rest,fuel + 1 =>
      match take bus limits action requested kind depth {t with pending := rest} with
      | .error t => some (.error t)
      | .ok t => walk action fuel t

/-- Whether a unit has a job of its own in the closure. -/
def inClosure (visited : List (String × Work)) (unit : String) : Bool := [Work.start,.stop,.restart].any fun kind => (unit,kind) ∈ visited

/-- What an edge says, once every name in it can be resolved. -/
def settleEdge (target : String) (t : Traversal) (edge : EffectEdge) : Step := do
  let t ← t.remaining
  let resolved := (t.aliases edge.target).getD edge.target
  let t := {t with edges := ⟨edge.source,edge.relation,resolved⟩ :: t.edges}
  match t.nodes resolved with
  | none => .ok (t.gap ("effect_graph.unresolved:" ++ edge.target))
  | some properties =>
    if edge.relation ∈ reactivationRelationships then
      let (active,uncertain) := reactivationSourceEvidence properties
      let t := {t with
        gaps := uncertain.map (fun g => "effect_graph.reactivation_source_" ++ g ++ ":" ++ edge.relation ++ ":" ++ resolved) ++ t.gaps }
      let t := if inClosure t.visited resolved then
        t.gap ("effect_graph.reactivation_source_in_closure:" ++ edge.relation ++ ":" ++ resolved) else t
      if active then
        if edge.source ≠ target then .ok (t.gap ("effect_graph.transitive_reactivation:" ++ edge.relation ++ ":" ++ edge.source))
        else if edge.relation = "TriggeredBy" then .ok {t with activeSources := resolved :: t.activeSources}
        else .ok {t with activeUpholdingSources := resolved :: t.activeUpholdingSources}
      else .ok t
    else .ok t

def opening (target : String) (action : SystemdServiceAction) (patience : ℕ) : Traversal where
  pending := [(target,.ofAction action,0)]
  queued := [(target,.ofAction action)]
  visited := []
  admitted := [target]
  attempted := []
  aliases := fun _ => none
  nodes := fun _ => none
  provisional := []
  edges := []
  units := []
  activeSources := []
  activeUpholdingSources := []
  gaps := []
  references := limits.edges * Work.all.length
  patience := patience

end Walk

structure EffectGraphAnswer where
  status : String
  reason : Option String
  units : List String
  edges : List EffectEdge
  activeActivationSources : List String
  activeUpholdingSources : List String
  gaps : List String
  deriving DecidableEq

/-- What the walk leaves, as one answer. -/
def answerOf (t : Traversal) (status : String) (reason : Option String) : EffectGraphAnswer where
  status := status
  reason := reason
  units := sorted t.units.dedup
  edges := sortBy EffectEdge.key t.edges.dedup
  activeActivationSources := sorted t.activeSources.dedup
  activeUpholdingSources := sorted t.activeUpholdingSources.dedup
  gaps := sorted t.gaps.dedup

def failed (reason : String) (gaps : List String) : EffectGraphAnswer := ⟨"failed",some reason,[],[],[],[],gaps⟩

/-- The answer for one service and one action, when the clock is found before the deadline `patience` times. -/
def observeEffectGraph (bus : Bus) (limits : Limits) (patience : ℕ) (unitId : String) (action : SystemdServiceAction) :
    Option EffectGraphAnswer :=
  if ¬".service".toList.isSuffixOf unitId.toList then some (failed "target_not_service" [])
  else
    match bus.unavailable with
    | some reason => some (failed reason ["systemd.manager"])
    | none =>
      match bus.managerProperties with
      | .error _ => some (failed "effect_graph_read_failed" ["effect_graph.read_failed"])
      | .ok _ =>
        match bus.observeTarget unitId with
        | .error .absent => some (failed "loaded_unit_absent" ["target.loaded_unit"])
        | .error .other => some (failed "effect_graph_read_failed" ["effect_graph.read_failed"])
        | .ok canonical =>
          if canonical ≠ unitId then some (failed "canonical_target_mismatch" ["target.canonical_id"])
          else
            (walk bus limits action (Work.all.length * limits.nodes) (opening limits unitId action patience)).map fun walked =>
              match walked.bind fun t => t.provisional.foldlM (settleEdge unitId) t with
              | .error t => answerOf (t.gap "effect_graph.read_failed") "partial" (some "effect_graph_read_failed")
              | .ok t => if t.gaps = [] then answerOf t "complete" none else answerOf t "partial" (some "effect_graph_incomplete")

end Effects
end LocalPlane
