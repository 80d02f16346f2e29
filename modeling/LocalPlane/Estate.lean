import LocalPlane.LatestRow
import LocalPlane.LineProtocol
import LocalPlane.Schema

/-!
# The objects of a host and what was seen of them

Every sweep lands in one transaction: its own row, the objects it saw, and one observation
of each. Nothing is ever deleted, and the current state of an object is the newest of its
observations.
-/

set_option linter.dupNamespace false

namespace LocalPlane

open LineProtocol (Json Fields)

abbrev Instant := Int
abbrev HostId := String
abbrev SweepId := ℕ
abbrev IntentId := ℕ

inductive ObjectKind where
  | networkInterface | dockerContainer | systemdUnit
  deriving DecidableEq

inductive ManagementState where
  | observeOnly | observed | managed
  deriving DecidableEq

theorem ManagementState.observed_unpointed : ManagementState.observed = .managed ↔ (none : Option IntentId).isSome := by simp

/-- What the store says about an object besides its observations. Its CHECK ties the management
state and the active intent together. -/
structure ObjectRow where
  objectId : ObjectId
  hostId : HostId
  kind : ObjectKind
  identityValue : String
  displayName : String
  managementState : ManagementState
  managementReason : String
  activeIntent : Option IntentId
  pointed : managementState = .managed ↔ activeIntent.isSome

structure Observation where
  sweepId : SweepId
  objectId : ObjectId
  capability : String
  provider : String
  observedAt : Instant
  facts : Fields

/-- `facts.get(key)`, with a missing key read as null. -/
def fact (facts : Fields) (key : String) : Json := (facts.lookup key).getD .null

/-- LocalPlane's stance towards what it observes, from the facts alone. -/
def classifyManagement (kind : ObjectKind) (facts : Fields) : ManagementState × String :=
  match kind with
  | .networkInterface =>
    if fact facts "kind" = .str "loopback" then (.observeOnly,"loopback")
    else if fact facts "kind" = .str "virtual_ethernet" then (.observeOnly,"ephemeral_virtual_pair")
    else if fact facts "kind" = .str "tunnel" then (.observeOnly,"userspace_owned_tunnel")
    else (.observed,"management_candidate")
  | .dockerContainer => (.observed,"container_lifecycle_candidate")
  | .systemdUnit => (.observeOnly,"systemd_observation_only")

theorem classifyManagement_unmanaged (kind : ObjectKind) (facts : Fields) : (classifyManagement kind facts).1 ≠ .managed := by
  cases kind <;> simp only [classifyManagement] <;> repeat' split
  all_goals simp

/-- One resource of a sweep, with the object its identity resolves it to. -/
structure Reported where
  objectId : Option ObjectId
  identityValue : String
  displayName : String
  observedAt : Instant
  facts : Fields

structure Batch where
  hostId : HostId
  capability : String
  provider : String
  status : String
  reported : List Reported

/-- What one sweep saw that has an identity. -/
def Batch.identified (b : Batch) : List (ObjectId × Reported) :=
  b.reported.filterMap fun r => r.objectId.map fun id => (id,r)

structure Estate where
  sweeps : List SweepId
  objects : ObjectId → Option ObjectRow
  observations : List Observation

/-- An object as a read returns it, with its newest observation. -/
structure ObjectRecord where
  row : ObjectRow
  observation : Option Observation

namespace Estate

variable (e : Estate)

def insertRow (hostId : HostId) (kind : ObjectKind) (id : ObjectId) (r : Reported) : ObjectRow where
  objectId := id
  hostId := hostId
  kind := kind
  identityValue := r.identityValue
  displayName := r.displayName
  managementState := (classifyManagement kind r.facts).1
  managementReason := (classifyManagement kind r.facts).2
  activeIntent := none
  pointed := by simpa using classifyManagement_unmanaged kind r.facts

/-- Observing never changes the stance on a managed object, nor the intent it points at. -/
def conflictRow (kind : ObjectKind) (row : ObjectRow) (r : Reported) : ObjectRow :=
  if h : row.managementState = .managed then {row with displayName := r.displayName}
  else {row with
    displayName := r.displayName
    managementState := (classifyManagement kind r.facts).1
    managementReason := (classifyManagement kind r.facts).2
    pointed := iff_of_false (classifyManagement_unmanaged kind r.facts) (mt row.pointed.mpr h)}

def upsert (hostId : HostId) (kind : ObjectKind) (objects : ObjectId → Option ObjectRow) (seen : ObjectId × Reported) :
    ObjectId → Option ObjectRow :=
  Function.update objects seen.1 (some (match objects seen.1 with
    | none => insertRow hostId kind seen.1 seen.2
    | some row => conflictRow kind row seen.2))

def observationOf (sweep : SweepId) (b : Batch) (seen : ObjectId × Reported) : Observation :=
  ⟨sweep,seen.1,b.capability,b.provider,seen.2.observedAt,seen.2.facts⟩

/-- One sweep, whole or not at all: a sweep id the store has already is refused. -/
def ingest (kind : ObjectKind) (sweep : SweepId) (b : Batch) : Option Estate :=
  if sweep ∈ e.sweeps then none
  else some {
    sweeps := e.sweeps ++ [sweep]
    objects := b.identified.foldl (upsert b.hostId kind) e.objects
    observations := e.observations ++ b.identified.map (observationOf sweep b) }

def observationsOf (id : ObjectId) : List Observation := e.observations.filter (·.objectId = id)

def newest (id : ObjectId) : Option Observation := Table.latest Observation.observedAt (e.observationsOf id)

def get (id : ObjectId) : Option ObjectRecord := (e.objects id).map fun row => ⟨row,e.newest id⟩

/-- Every observation belongs to a stored sweep and a stored object. -/
def Related : Prop := ∀ o ∈ e.observations, o.sweepId ∈ e.sweeps ∧ (e.objects o.objectId).isSome

variable {e} {e' : Estate} {kind : ObjectKind} {sweep : SweepId} {batch : Batch} {id : ObjectId}

theorem ingest_eq (h : e.ingest kind sweep batch = some e') : sweep ∉ e.sweeps ∧ e' =
    ⟨e.sweeps ++ [sweep],batch.identified.foldl (upsert batch.hostId kind) e.objects,
      e.observations ++ batch.identified.map (observationOf sweep batch)⟩ := by
  unfold ingest at h
  split at h
  · cases h
  · next hfresh => exact ⟨hfresh,(Option.some.inj h).symm⟩

theorem upserts_isSome (hostId : HostId) (kind : ObjectKind) (l : List (ObjectId × Reported)) (objects : ObjectId → Option ObjectRow)
    (h : (objects id).isSome ∨ ∃ seen ∈ l, seen.1 = id) : (l.foldl (upsert hostId kind) objects id).isSome := by
  induction l generalizing objects with
  | nil => simpa using h
  | cons seen l ih =>
    refine ih _ ?_
    by_cases hid : id = seen.1
    · exact .inl (by simp [upsert,hid])
    · rcases h with h | ⟨other,hother,rfl⟩
      · exact .inl (by simpa [upsert,hid] using h)
      · rcases List.mem_cons.mp hother with rfl | hother
        · exact absurd rfl hid
        · exact .inr ⟨other,hother,rfl⟩

theorem Related.ingest (hr : e.Related) (h : e.ingest kind sweep batch = some e') : e'.Related := by
  obtain ⟨-,rfl⟩ := ingest_eq h
  intro o ho
  rcases List.mem_append.mp ho with ho | ho
  · exact ⟨List.mem_append_left _ (hr o ho).1,upserts_isSome _ _ _ _ (.inl (hr o ho).2)⟩
  · obtain ⟨seen,hseen,rfl⟩ := List.mem_map.mp ho
    exact ⟨List.mem_append_right _ (List.mem_singleton.mpr rfl),upserts_isSome _ _ _ _ (.inr ⟨seen,hseen,rfl⟩)⟩

end Estate
end LocalPlane
