import LocalPlane.Episodes
import LocalPlane.Intent
import LocalPlane.Provenance

/-!
# Adopting, revising and releasing, and the sweeps in between

Every operation on the management axis is one transaction over the tables below, and a
sweep of the network brings the claims about the managed objects it saw up to date in its
own. What a transaction refuses leaves the store as it was.
-/

set_option linter.dupNamespace false

namespace LocalPlane

open LineProtocol (Json Fields)

inductive TransitionKind where
  | adopt | release
  deriving DecidableEq

structure IntentRow where
  intentId : IntentId
  objectId : ObjectId
  version : ℕ
  supersedes : Option IntentId
  schemaVersion : ℕ
  capability : String
  provider : String
  sweepId : SweepId
  fields : List CapturedField
  deriving DecidableEq

structure TransitionRow where
  objectId : ObjectId
  transition : TransitionKind
  intentId : IntentId
  deriving DecidableEq

structure RevisionRow where
  objectId : ObjectId
  kind : RevisionKind
  intentId : IntentId
  deriving DecidableEq

/-- The evidence of an open drift finding. -/
structure Drift where
  intentId : IntentId
  intended : CapturedField
  observed : Option Value
  comparison : Comparison
  reason : String
  sweepId : Option SweepId
  lastSeenAt : Instant
  updatedAt : Instant

inductive FindingResolution where
  | observedMatchesIntent | intentRevised | intentReleased
  deriving DecidableEq

/-- The evidence of an open ownership conflict. -/
structure Conflict where
  intentId : IntentId
  ownerProvider : String
  owner : Json
  label : Json
  confidence : OwnershipConfidence
  source : String
  reason : String
  lastSeenAt : Instant
  updatedAt : Instant

inductive OwnershipResolution where
  | ownerNoLongerClaims | intentReleased
  deriving DecidableEq

abbrev Findings := Episodes (ObjectId × String) Drift FindingResolution
abbrev Conflicts := Episodes (ObjectId × OwnershipRelation) Conflict OwnershipResolution

structure Store where
  estate : Estate
  readings : List (HostId × ProviderReading)
  intents : List IntentRow
  transitions : List TransitionRow
  revisions : List RevisionRow
  findings : Findings
  conflicts : Conflicts

def integrity : String := "integrity"

def refuseIf (c : Prop) [Decidable c] (code : String) : Except String Unit := if c then .error code else .ok ()

def orElse {α : Type} (o : Option α) (code : String) : Except String α :=
  match o with
  | none => .error code
  | some a => .ok a

namespace Store

section Reads

variable (s : Store)

/-- The fields of an intent are read by name. -/
def intent? (id : IntentId) : Option IntentRow :=
  (s.intents.find? (·.intentId = id)).map fun row => {row with fields := sortBy (·.field) row.fields}

def intentsOf (id : ObjectId) : List IntentRow := s.intents.filter (·.objectId = id)

def nextVersion (id : ObjectId) : ℕ := ((s.intentsOf id).map (·.version)).foldr max 0 + 1

def previous (id : ObjectId) : Option IntentId := (Table.latest IntentRow.version (s.intentsOf id)).map (·.intentId)

/-- The newest reading of each source, in the order of the providers. -/
def latestReadings (hostId : HostId) : ProviderEvidence :=
  let rows := (s.readings.filter (·.1 = hostId)).map (·.2)
  sortBy (·.provider) (rows.filter fun r =>
    decide (Table.latest ProviderReading.observedAt (rows.filter fun q => q.provider = r.provider ∧ q.source = r.source) = some r))

/-- The intent in force for an object: the one it points at, retained for itself. -/
def activeFor (row : ObjectRow) : Option IntentRow :=
  (row.activeIntent.bind s.intent?).filter (·.objectId = row.objectId)

/-- The read path: what an object's intent and newest observation say of each controlled field. -/
def reconciliationFor (id : ObjectId) : Option (List FieldComparison) := do
  let record ← s.estate.get id
  if record.row.managementState ≠ .managed then none
  let intent ← s.activeFor record.row
  return reconcile intent.capability intent.provider intent.fields record.observation

end Reads

/-- A clock and how old an observation may be to count as current. -/
structure Clock where
  now : Instant
  ttl : Int

def Clock.stale (clock : Clock) (o : Observation) : Prop := clock.ttl < clock.now - o.observedAt

instance (clock : Clock) (o : Observation) : Decidable (clock.stale o) := inferInstanceAs (Decidable (_ < _))

/-- What this sweep found of one controlled field, brought into the claim about it. -/
def evaluateField (objectId : ObjectId) (intentId : IntentId) (sweepId : Option SweepId) (now : Instant)
    (revised : List String) (t : Findings) (c : FieldComparison) : Except String Findings :=
  let evidence (lastSeenAt : Instant) : Drift := ⟨intentId,c.intended,c.observed,c.comparison,c.reason,sweepId,lastSeenAt,now⟩
  let storable := (c.intended.value :: c.observed.toList).all Value.storable
  match t.openForKey (objectId,c.intended.field),c.comparison with
  | none,.agrees => .ok t
  | some r,.agrees =>
    .ok (t.resolve r.id (if c.intended.field ∈ revised then .intentRevised else .observedMatchesIntent))
  | none,.unknown => .ok t
  | none,.differs => if storable then orElse (t.insert (objectId,c.intended.field) (evidence now)) integrity else .error integrity
  | some r,.differs => if storable then .ok (t.update r.id fun _ => evidence now) else .error integrity
  | some r,.unknown => if storable then .ok (t.update r.id fun e => evidence e.lastSeenAt) else .error integrity

/-- Compare, then bring the durable claims into line with what the comparison found. -/
def evaluate (s : Store) (record : ObjectRecord) (intent : IntentRow) (now : Instant) (revised : List String) :
    Except String Store := do
  let result := reconcile intent.capability intent.provider intent.fields record.observation
  let findings ← result.foldlM
    (evaluateField record.row.objectId intent.intentId (record.observation.map (·.sweepId)) now revised) s.findings
  return {s with findings := findings}

/-- One relation of one managed object: a claim opens or refreshes its conflict, and without one the provider
named on the conflict decides between looking again and closing it. -/
def evaluateRelation (objectId : ObjectId) (intentId : IntentId) (provenance : Provenance) (evidence : ProviderEvidence)
    (now : Instant) (t : Conflicts) (relation : OwnershipRelation) : Except String Conflicts :=
  match t.openForKey (objectId,relation),provenance.externalClaims relation with
  | existing,claim :: _ =>
    let found : Conflict :=
      ⟨intentId,claim.provider,claim.owner,claim.label,claim.confidence,claim.source,claim.reason,now,now⟩
    match existing with
    | none => orElse (t.insert (objectId,relation) found) integrity
    | some r => .ok (t.update r.id fun _ => found)
  | none,[] => .ok t
  | some r,[] =>
    match evidence.get r.evidence.ownerProvider with
    | none => .ok (t.update r.id fun e => {e with updatedAt := now})
    | some reading =>
      if reading.status = .ok ∨ reading.status = .absent then .ok (t.resolve r.id .ownerNoLongerClaims)
      else .ok (t.update r.id fun e => {e with updatedAt := now})

def relations : List OwnershipRelation := [.createdBy,.configuredBy]

def evaluateOwnership (s : Store) (record : ObjectRecord) (intent : IntentRow) (evidence : ProviderEvidence) (now : Instant) :
    Except String Store := do
  let provenance := forObject record.row.kind record.observation evidence
  let conflicts ← relations.foldlM (evaluateRelation record.row.objectId intent.intentId provenance evidence now) s.conflicts
  return {s with conflicts := conflicts}

/-- Bring the claims about one object a sweep saw up to date, if it is managed. -/
def evaluateSeen (evidence : ProviderEvidence) (now : Instant) (s : Store) (id : ObjectId) : Except String Store :=
  match s.estate.get id with
  | none => .ok s
  | some record =>
    if record.row.managementState ≠ .managed then .ok s
    else match s.activeFor record.row with
      | none => .ok s
      | some intent => do (← s.evaluate record intent now []).evaluateOwnership record intent evidence now

/-- What an agent reports for one source: its status as spelled, and everything it carries. -/
structure ReportedReading where
  provider : String
  source : String
  status : Option ProviderStatus
  reason : Option String
  observedAt : Instant
  records : List Fields

/-- A reading the store would refuse is kept as an error that says what was wrong. -/
def ReportedReading.row (r : ReportedReading) : ProviderReading :=
  match r.status with
  | none => ⟨r.provider,r.source,.error,some "unknown_reading_status",r.observedAt,[]⟩
  | some status =>
    if status ≠ .ok ∧ (r.records ≠ [] ∨ r.reason.getD "" = "") then
      ⟨r.provider,r.source,.error,some "agent_reading_incoherent",r.observedAt,[]⟩
    else ⟨r.provider,r.source,status,r.reason,r.observedAt,r.records⟩

/-- Readings that name a provider and a source, each pair once. -/
def providerRows : List ReportedReading → List (String × String) → List ProviderReading
  | [],_ => []
  | r :: rest,seen =>
    if r.provider = "" ∨ r.source = "" ∨ (r.provider,r.source) ∈ seen then providerRows rest seen
    else r.row :: providerRows rest ((r.provider,r.source) :: seen)

/-- A sweep of the network, with the claims it justifies. -/
def ingestNetwork (s : Store) (sweep : SweepId) (batch : Batch) (reported : List ReportedReading) (now : Instant) :
    Except String Store := do
  let rows := providerRows reported []
  let estate ← orElse (s.estate.ingest .networkInterface sweep batch) integrity
  let s := {s with estate := estate,readings := s.readings ++ rows.map fun r => (batch.hostId,r)}
  (batch.identified.map (·.1)).dedup.foldlM (evaluateSeen rows now) s

/-- A sweep of another kind: nothing about it is reconciled. -/
def ingestOther (s : Store) (kind : ObjectKind) (sweep : SweepId) (batch : Batch) : Except String Store := do
  let estate ← orElse (s.estate.ingest kind sweep batch) integrity
  return {s with estate := estate}

/-- Every reason an object cannot become intent, in the order they stop mattering. -/
def verifyAdoptable (s : Store) (clock : Clock) (record : ObjectRecord) : Except String (Observation × Capture) := do
  refuseIf (record.row.managementState = .managed) "already_managed"
  refuseIf (record.row.managementState = .observeOnly) "object_observe_only"
  let o ← orElse record.observation "no_observation"
  refuseIf ((classifyManagement .networkInterface o.facts).1 = .observeOnly) "object_observe_only"
  refuseIf (clock.stale o) "observation_stale"
  match ownershipBlock (forObject record.row.kind record.observation (s.latestReadings record.row.hostId)) with
  | some reason => .error reason
  | none =>
    let capture := captureInterfaceIntent o.facts
    refuseIf (¬capture.complete) "controlled_values_unverified"
    return (o,capture)

/-- One immutable intent version with the values it controls. -/
def insertIntent (s : Store) (row : IntentRow) : Except String Store :=
  if s.intents.any (fun r => r.intentId = row.intentId ∨ (r.objectId = row.objectId ∧ r.version = row.version)) ∨
      ¬row.fields.all (·.value.storable) ∨ ¬(row.fields.map (·.field)).Nodup then .error integrity
  else .ok {s with intents := s.intents ++ [row]}

def recordTransition (s : Store) (row : TransitionRow) : Store := {s with transitions := s.transitions ++ [row]}

def recordRevision (s : Store) (row : RevisionRow) : Store := {s with revisions := s.revisions ++ [row]}

def setObject (s : Store) (id : ObjectId) (f : ObjectRow → ObjectRow) : Store :=
  {s with estate := {s.estate with objects := Function.update s.estate.objects id ((s.estate.objects id).map f)}}

def managedRow (intentId : IntentId) (row : ObjectRow) : ObjectRow :=
  {row with managementState := .managed,managementReason := "adopted",activeIntent := some intentId,pointed := by simp}

/-- Only a managed object has its active intent moved. -/
def repointedRow (intentId : IntentId) (row : ObjectRow) : ObjectRow :=
  if h : row.managementState = .managed then {row with activeIntent := some intentId,pointed := by simpa using h} else row

def observedRow (row : ObjectRow) : ObjectRow :=
  {row with managementState := .observed,managementReason := "released",activeIntent := none,pointed := ManagementState.observed_unpointed}

/-- `before` is the store when the object was first read and checked, without the write lock. -/
def adopt (before s : Store) (clock : Clock) (intentId : IntentId) (record : ObjectRecord) : Except String Store := do
  let _ ← before.verifyAdoptable clock record
  let id := record.row.objectId
  let current ← orElse (s.estate.get id) "object_not_found"
  let (o,capture) : Observation × Capture ← s.verifyAdoptable clock current
  let s' : Store ← s.insertIntent
    ⟨intentId,id,s.nextVersion id,s.previous id,intentSchemaVersion,o.capability,o.provider,o.sweepId,capture.fields⟩
  let s' : Store := s'.setObject id (managedRow intentId)
  let s' : Store := s'.recordTransition ⟨id,.adopt,intentId⟩
  let intent ← orElse (s'.intent? intentId) integrity
  s'.evaluate current intent clock.now []

/-- Every reason an intent cannot be revised, in the order they stop mattering. -/
def verifyRevisable (s : Store) (clock : Clock) (record : ObjectRecord) (expected : IntentId) (expectedVersion : Option ℕ) :
    Except String (IntentRow × Observation) := do
  refuseIf (record.row.managementState = .observeOnly) "object_observe_only"
  refuseIf (record.row.managementState ≠ .managed) "not_managed"
  let active ← orElse (s.activeFor record.row) "active_intent_missing"
  refuseIf (active.schemaVersion ≠ intentSchemaVersion) "intent_schema_unsupported"
  refuseIf (active.intentId ≠ expected ∨ ∃ v ∈ expectedVersion, active.version ≠ v) "intent_revision_conflict"
  let o ← orElse record.observation "no_observation"
  refuseIf (clock.stale o) "observation_stale"
  refuseIf (o.capability ≠ active.capability ∨ o.provider ≠ active.provider) "observation_source_incompatible"
  match ownershipBlock (forObject record.row.kind record.observation (s.latestReadings record.row.hostId)) with
  | some reason => .error reason
  | none => return (active,o)

/-- What a request wants of the active intent: values of its own, or the ones the host has. -/
inductive Wanted where
  | explicit (requested : List (String × Json))
  | runtime

def planRevision (active : IntentRow) (o : Observation) : Wanted → Except String RevisionPlan
  | .explicit requested => planExplicitRevision active.fields requested
  | .runtime => planRuntimeRevision active.fields (captureInterfaceIntent o.facts)

def revise (before s : Store) (clock : Clock) (intentId : IntentId) (record : ObjectRecord) (wanted : Wanted)
    (expected : IntentId) (expectedVersion : Option ℕ) : Except String Store := do
  let _ ← before.verifyRevisable clock record expected expectedVersion
  let id := record.row.objectId
  let current ← orElse (s.estate.get id) "object_not_found"
  let (active,o) : IntentRow × Observation ← s.verifyRevisable clock current expected expectedVersion
  let plan : RevisionPlan ← planRevision active o wanted
  let s' : Store ← s.insertIntent
    ⟨intentId,id,s.nextVersion id,some active.intentId,intentSchemaVersion,o.capability,o.provider,o.sweepId,plan.fields⟩
  let s' : Store := s'.setObject id (repointedRow intentId)
  let s' : Store := s'.recordRevision ⟨id,plan.kind,intentId⟩
  let intent ← orElse (s'.intent? intentId) integrity
  s'.evaluate current intent clock.now (plan.changed.map (·.field))

def release (s : Store) (record : ObjectRecord) : Except String Store := do
  refuseIf (record.row.managementState ≠ .managed) "not_managed"
  let id := record.row.objectId
  let current ← orElse (s.estate.get id) "not_managed"
  refuseIf (current.row.managementState ≠ .managed) "not_managed"
  let intent ← orElse (current.row.activeIntent.bind s.intent?) "active_intent_missing"
  let s' : Store := (s.setObject id observedRow).recordTransition ⟨id,.release,intent.intentId⟩
  return {s' with
    findings := (s'.findings.openWhere (·.1 = id)).foldl (fun t r => t.resolve r.id .intentReleased) s'.findings
    conflicts := (s'.conflicts.openWhere (·.1 = id)).foldl (fun t r => t.resolve r.id .intentReleased) s'.conflicts }

def empty : Store := ⟨⟨[],fun _ => none,[]⟩,[],[],[],[],{},{}⟩

end Store
end LocalPlane
