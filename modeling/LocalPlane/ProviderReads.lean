import LocalPlane.InterfaceIdentity
import LocalPlane.LoadedUnits
import LocalPlane.ReadBack

/-!
# What the providers answer when a target is read again

The interface provider lists sysfs and reads what it was asked for, the Docker provider lists
the containers and inspects each, and the systemd provider asks the manager for one unit. Each
says in its answer what it could not read. The coordinator hands the answer on for ingestion,
unless the agent, or the daemon behind it, refused.
-/

set_option linter.dupNamespace false

namespace LocalPlane
namespace ProviderReads

open LineProtocol (Json Fields)
open Identity (SysfsLink NetworkSweep IdentityBasis deriveObjectId observeOne)
open LoadedUnits (Raised Properties UnitObservation property textOrNone namesOf unitType typeInterfaces unknownMethodErrors supportedUnitSuffixes)

/-- What a provider could not read, with the target that it was reading. -/
structure Issue where
  source : String
  code : String
  target : Option String
deriving DecidableEq,Repr

/-- `$` also matches before a final newline. -/
def body (text : String) : List Char :=
  if text.toList.getLast? = some '\n' then text.toList.dropLast else text.toList

/-! Interfaces -/

/-- What the kernel offers: the entries of sysfs that have an index, with when each is read, whether the core
files of a link are readable, and what the two rtnetlink commands come to. -/
structure Sysfs where
  listed : Except String (List (SysfsLink × Instant))
  coreRead : SysfsLink → Bool
  link : Except String Unit
  addr : Except String Unit
  named : ∀ links, listed = .ok links → (links.map (·.1.name)).Nodup ∧ ∀ link ∈ links, link.1.name ≠ ""

structure InterfaceBatch where
  interfaces : List (SysfsLink × Instant)
  status : String
  missing : List String
  issues : List Issue
  named : (interfaces.map (·.1.name)).Nodup ∧ ∀ link ∈ interfaces, link.1.name ≠ ""

def maxRequestedNames : ℕ := 64

def interfaceName (name : String) : Bool :=
  (body name).all (fun c => c.isAlphanum || c ∈ "_.@:+-".toList) && 1 ≤ (body name).length && (body name).length ≤ 15

def validateNames : Option (List String) → Except String Unit
  | none => .ok ()
  | some names => if maxRequestedNames < names.length then .error "invalid_params" else if names.all interfaceName then .ok () else .error "invalid_params"

def commandIssue (source : String) : Except String Unit → List Issue
  | .ok _ => []
  | .error code => [⟨source,code,none⟩]

def deriveStatus (interfaces : List (SysfsLink × Instant)) (issues : List Issue) (coreRead : SysfsLink → Bool) : String :=
  if interfaces = [] ∧ issues ≠ [] then "failed"
  else if issues ≠ [] ∨ ¬interfaces.all (fun link => coreRead link.1) then "partial"
  else "ok"

/-- The filter over what was discovered. -/
def selected (names : Option (List String)) (discovered : List (SysfsLink × Instant)) : List (SysfsLink × Instant) :=
  discovered.filter fun link => names.all (link.1.name ∈ ·)

theorem mem_selected {names : Option (List String)} {discovered : List (SysfsLink × Instant)} {link : SysfsLink × Instant} :
    link ∈ selected names discovered ↔ link ∈ discovered ∧ ∀ asked ∈ names, link.1.name ∈ asked := by
  cases names <;> simp [selected]

/-- A sysfs that cannot be listed leaves a batch in which everything asked for is missing. -/
def observeInterfaces (s : Sysfs) (names : Option (List String)) : Except String InterfaceBatch := do
  validateNames names
  match h : s.listed with
  | .error _ =>
    let issues := [⟨"sysfs","sysfs_unreadable",none⟩]
    return ⟨[],deriveStatus [] issues s.coreRead,names.getD [],issues,by simp⟩
  | .ok discovered =>
    let issues := commandIssue "rtnetlink.link" s.link ++ commandIssue "rtnetlink.addr" s.addr
    return {
      interfaces := selected names discovered
      status := deriveStatus (selected names discovered) issues s.coreRead
      missing := (names.getD []).filter (· ∉ discovered.map (·.1.name))
      issues := issues
      named := ⟨(s.named discovered h).1.sublist (List.filter_sublist.map _),
        fun link hlink => (s.named discovered h).2 link (mem_selected.mp hlink).1⟩ }

def InterfaceBatch.sweep (b : InterfaceBatch) (hostId : HostId) : NetworkSweep where
  hostId := hostId
  provider := "linux.network"
  status := b.status
  links := b.interfaces
  named := b.named

/-! Containers -/

def maxContainers : ℕ := 200

/-- What the daemon answers on its socket. Its inspections are numbered in the order in which they are made. -/
structure Daemon where
  socketExists : Bool
  version : Except String Json
  listed : Except String Json
  inspect : ℕ → String → Except String Json
  now : ℕ → Instant

structure ContainerObservation where
  containerId : Json
  facts : Fields
  observedAt : Instant

/-- The id that an observation can be recorded under, or nothing. -/
def ContainerObservation.id (o : ContainerObservation) : String :=
  match o.containerId with
  | .str id => id
  | _ => ""

structure ContainerBatch where
  status : String
  containers : List ContainerObservation
  issues : List Issue

def entryId : Json → Option String
  | .obj entry =>
    match fact entry "Id" with
    | .str id => if id = "" then none else some id
    | _ => none
  | _ => none

/-- `_CONTAINER_ID` -/
def containerId (id : String) : Bool :=
  (body id).all (fun c => c ∈ "0123456789abcdef".toList) && 12 ≤ (body id).length && (body id).length ≤ 64

/-- `_name` -/
def nameOf : Json → Json
  | .str raw => if raw = "" then .null else .str (if raw.toList.head? = some '/' then String.ofList raw.toList.tail else raw)
  | _ => .null

/-- `[:12]` -/
def shortened : Json → Option Json
  | .str text => some (.str (String.ofList (text.toList.take 12)))
  | .arr items => some (.arr (items.take 12))
  | _ => none

/-- `for … in entry.get("Aliases") or []` -/
def aliasesLooped (entry : Json) : Bool :=
  match entry with
  | .obj fields =>
    match fact fields "Aliases" with
    | .str _ | .arr _ | .obj _ => true
    | aliases => !truthy aliases
  | _ => true

/-- `_networks`, as far as a loop over something that is no collection raises. -/
def networksLooped (inspected : Fields) : Bool :=
  match fact inspected "NetworkSettings" with
  | .obj settings =>
    match fact settings "Networks" with
    | .obj networks => networks.all fun entry => aliasesLooped entry.2
    | _ => true
  | _ => true

/-- `inspected.get("Id") or ""` -/
def givenId (inspected : Fields) : Json := if truthy (fact inspected "Id") then fact inspected "Id" else .str ""

/-- One inspect answer, reduced to what tells the container apart. The facts about its workload are left out. -/
def containerObservation (inspected : Fields) (now : Instant) : Except String ContainerObservation :=
  match shortened (givenId inspected) with
  | none => .error "internal_error"
  | some short =>
    if networksLooped inspected then
      .ok ⟨givenId inspected,[("container_id",givenId inspected),("short_id",short),("name",nameOf (fact inspected "Name"))],now⟩
    else .error "internal_error"

def Daemon.inspection (d : Daemon) (n : ℕ) (id : String) : Except String Json :=
  if containerId id then d.inspect n id else .error "invalid_container_id"

/-- The loop over the ids within the limit. An inspection that comes to nothing costs its own container. -/
def Daemon.inspectEach (d : Daemon) : ℕ → List String → Except String (List ContainerObservation × List Issue)
  | _,[] => .ok ([],[])
  | n,id :: rest =>
    match d.inspection n id with
    | .ok (.obj inspected) => do
      let observation ← containerObservation inspected (d.now n)
      let (observations,issues) ← d.inspectEach (n+1) rest
      return (observation :: observations,issues)
    | .ok _ => do
      let (observations,issues) ← d.inspectEach (n+1) rest
      return (observations,⟨"docker.containers","unexpected_shape",some id⟩ :: issues)
    | .error code => do
      let (observations,issues) ← d.inspectEach (n+1) rest
      return (observations,⟨"docker.containers",code,some id⟩ :: issues)

/-- The list of every container, where the daemon gave one. -/
def Daemon.entries (d : Daemon) : Option (List Json) :=
  match d.socketExists,d.version,d.listed with
  | true,.ok _,.ok (.arr entries) => some entries
  | _,_,_ => none

/-- The ids of the list that are within the limit. -/
def Daemon.asked (d : Daemon) : List String := ((d.entries.getD []).filterMap entryId).take maxContainers

def Daemon.observeContainers (d : Daemon) : Except String ContainerBatch :=
  match d.entries with
  | none => .ok ⟨"failed",[],[]⟩
  | some entries => do
    let omitted := if (entries.filterMap entryId).drop maxContainers = [] then [] else [⟨"docker.containers","container_limit_reached",none⟩]
    let (observations,issues) ← d.inspectEach 0 d.asked
    return ⟨if omitted ++ issues = [] then "ok" else "partial",observations,omitted ++ issues⟩

/-! Units -/

/-- What the manager answers to a read of one unit over a connection of its own. -/
structure Bus where
  runtimeMissing : Bool
  connect : Except Raised Unit
  managerProperties : Except Raised Properties
  getUnit : String → Except Raised String
  unitProperties : String → Except Raised Properties
  typeProperties : String → LoadedUnits.Text → Except Raised Properties
  close : Except Raised Unit
  now : Instant

def noSuchUnitErrors : List LoadedUnits.Text := ["org.freedesktop.systemd1.NoSuchUnit".toList]

/-- What is refused before the manager is asked. -/
def unitName (unitId : String) : Bool :=
  let chars := unitId.toList
  1 ≤ chars.length && chars.length ≤ 255 && chars.all (· ∉ ['/','\x00','\r','\n','*','?','[']) &&
    supportedUnitSuffixes.any (·.isSuffixOf chars)

def Bus.observePath (b : Bus) (path listedName : String) : Except Raised UnitObservation := do
  let properties ← b.unitProperties path
  match textOrNone (property properties "Id") with
  | none => throw (.systemd "canonical_id_unavailable")
  | some canonicalId =>
    match unitType canonicalId with
    | none => throw (.systemd "unsupported_unit_type")
    | some type =>
      if type ∈ typeInterfaces then
        match b.typeProperties path type with
        | .ok _ => pure ⟨canonicalId,namesOf properties,type,false,listedName.toList⟩
        | .error (.dbus name) =>
          if name ∈ unknownMethodErrors then pure ⟨canonicalId,namesOf properties,type,true,listedName.toList⟩ else throw (.dbus name)
        | .error e => throw e
      else pure ⟨canonicalId,namesOf properties,type,false,listedName.toList⟩

/-- No unit is the manager's answer that none of that name is loaded. -/
def Bus.loadedUnit (b : Bus) (unitId : String) : Except Raised (Option UnitObservation) :=
  match b.getUnit unitId with
  | .ok path => some <$> b.observePath path unitId
  | .error (.dbus name) => if name ∈ noSuchUnitErrors then .ok none else .error (.dbus name)
  | .error e => .error e

/-- `with self._connection_factory() as connection` -/
def Bus.connected (b : Bus) (unitId : String) : Except Raised (Option UnitObservation) := do
  b.connect
  let _ ← b.managerProperties
  let found ← b.loadedUnit unitId
  b.close
  return found

def Bus.read (b : Bus) (unitId : String) : Except Raised (Option UnitObservation) :=
  if b.runtimeMissing then .error (.systemd "systemd_system_manager_absent") else b.connected unitId

inductive UnitStatus where
  | observed | absent | failed
deriving DecidableEq,Repr

structure TargetedUnit where
  status : UnitStatus
  unit : Option UnitObservation
  reason : Option String

def Bus.observeUnit (b : Bus) (unitId : String) : Except String TargetedUnit :=
  if unitName unitId then
    match b.read unitId with
    | .ok (some u) => .ok ⟨.observed,some u,none⟩
    | .ok none => .ok ⟨.absent,none,some "loaded_unit_absent"⟩
    | .error (.systemd "systemd_system_manager_absent") => .ok ⟨.failed,none,some "systemd_system_manager_absent"⟩
    | .error _ => .ok ⟨.failed,none,some "targeted_unit_read_failed"⟩
  else .error "invalid_params"

/-! The coordinator -/

inductive CapabilityStatus where
  | available | degraded | unavailable
deriving DecidableEq,Repr

/-- The agent as the coordinator meets it. A call brings the host along, or fails for a reason of its own. -/
structure Agent where
  hello : Except String (List (String × CapabilityStatus))
  call : Except String HostId
  sysfs : Sysfs
  docker : Daemon
  systemd : Bus

def Agent.handshakeFor (a : Agent) (capability : String) : Except String Unit := do
  let capabilities ← a.hello
  match capabilities.reverse.lookup capability with
  | none => throw "capability_unavailable"
  | some .unavailable => throw "capability_unavailable"
  | some _ => return ()

section Answers

variable (sha256 : String → ℕ)

/-- `facts.get("name") or container_id[:12]` -/
def ContainerObservation.displayName (o : ContainerObservation) : String :=
  match fact o.facts "name" with
  | .str name => if name = "" then String.ofList (o.id.toList.take 12) else name
  | _ => String.ofList (o.id.toList.take 12)

/-- `identify_container`, for an observation that names a container. -/
def ContainerObservation.report (hostId : HostId) (o : ContainerObservation) : Reported where
  objectId := if o.id = "" then none else some (deriveObjectId sha256 hostId "docker.container" (.providerId,o.id))
  identityValue := o.id
  displayName := o.displayName
  observedAt := o.observedAt
  facts := o.facts

def ContainerBatch.batch (b : ContainerBatch) (hostId : HostId) : Batch where
  hostId := hostId
  capability := "docker.containers.observe"
  provider := "docker"
  status := b.status
  reported := b.containers.map (·.report sha256 hostId)

def unitFacts (u : UnitObservation) : Fields :=
  [("canonical_id",.str (String.ofList u.canonicalId)),
    ("names",(u.names.map fun names => Json.arr (names.map fun name => .str (String.ofList name))).getD .null),
    ("unit_type",.str (String.ofList u.unitType))]

/-- `identify_systemd_unit` -/
def unitReport (hostId : HostId) (now : Instant) (u : UnitObservation) : Reported where
  objectId :=
    if u.canonicalId = [] then none
    else some (deriveObjectId sha256 hostId "systemd.unit" (.providerId,String.ofList u.canonicalId))
  identityValue := String.ofList u.canonicalId
  displayName := String.ofList u.canonicalId
  observedAt := now
  facts := unitFacts u

/-- A read that failed is handed on like one that found nothing, with another status. -/
def TargetedUnit.batch (t : TargetedUnit) (hostId : HostId) (now : Instant) : Batch where
  hostId := hostId
  capability := "systemd.units.observe"
  provider := "systemd"
  status := if t.status = .failed then "failed" else "ok"
  reported := t.unit.toList.map (unitReport sha256 hostId now)

/-- What one observation of the coordinator has for ingestion. -/
def Agent.answer (a : Agent) : Asked → Except String Batch
  | .interfaces names => do
    a.handshakeFor "network.observe"
    let hostId ← a.call
    let observation ← observeInterfaces a.sysfs names
    return (observation.sweep hostId).batch sha256
  | .containers => do
    a.handshakeFor "docker.containers.observe"
    let hostId ← a.call
    let containers ← a.docker.observeContainers
    return containers.batch sha256 hostId
  | .unit unitId => do
    a.handshakeFor "systemd.units.observe"
    let hostId ← a.call
    let targeted ← a.systemd.observeUnit unitId
    return targeted.batch sha256 hostId a.systemd.now

end Answers

/-! What the answers hold -/

section Interfaces

variable {s : Sysfs} {names : Option (List String)} {b : InterfaceBatch}

theorem observeInterfaces_error : (∃ code, observeInterfaces s names = .error code) ↔ ∃ code, validateNames names = .error code := by
  unfold observeInterfaces
  cases validateNames names with
  | error code => exact ⟨fun _ => ⟨code,rfl⟩,fun _ => ⟨code,rfl⟩⟩
  | ok _ =>
    simp only [bind,Except.bind]
    split <;> simp [pure,Except.pure]

/-- Every link asked for is in the batch of a sysfs that could be listed, and no other. -/
theorem mem_observeInterfaces (h : observeInterfaces s names = .ok b) {link : SysfsLink × Instant} :
    link ∈ b.interfaces ↔ ∃ discovered, s.listed = .ok discovered ∧ link ∈ selected names discovered := by
  unfold observeInterfaces at h
  obtain ⟨-,-,h⟩ := bind_ok.mp h
  split at h
  · next heq =>
    cases h
    simp [heq]
  · next discovered heq =>
    cases h
    simp [heq]

end Interfaces

section Containers

variable {d : Daemon} {n : ℕ} {ids : List String} {observations : List ContainerObservation} {issues : List Issue}

/-- The inspection of the id in this place came to an object. -/
def Inspected (d : Daemon) (n : ℕ) (ids : List String) (i : ℕ) (inspected : Fields) : Prop :=
  ∃ id, ids[i]? = some id ∧ d.inspection (n+i) id = .ok (.obj inspected)

theorem exists_inspected_cons {id : String} {P : ℕ → Fields → Prop} :
    (∃ i inspected, Inspected d n (id :: ids) i inspected ∧ P (n+i) inspected) ↔
      (∃ inspected, d.inspection n id = .ok (.obj inspected) ∧ P n inspected) ∨
        ∃ i inspected, Inspected d (n+1) ids i inspected ∧ P (n+1+i) inspected := by
  rw [← Nat.or_exists_add_one]
  refine or_congr (by simp [Inspected]) (exists_congr fun i => ?_)
  rw [show n+(i+1) = n+1+i by omega]
  simp [Inspected,show n+(i+1) = n+1+i by omega]

/-- An inspection answer that cannot be reduced ends the whole read. -/
theorem inspectEach_error : (∃ code, d.inspectEach n ids = .error code) ↔
    ∃ i inspected, Inspected d n ids i inspected ∧ ∃ code, containerObservation inspected (d.now (n+i)) = .error code := by
  induction ids generalizing n with
  | nil => simp [Daemon.inspectEach,Inspected]
  | cons id ids ih =>
    rw [exists_inspected_cons (P:=fun m inspected => ∃ code, containerObservation inspected (d.now m) = .error code),← ih,
      Daemon.inspectEach]
    have hrest : ∀ f : List ContainerObservation × List Issue → List ContainerObservation × List Issue,
        (∃ code, (do let r ← d.inspectEach (n+1) ids; return f r : Except String _) = .error code) ↔
          ∃ code, d.inspectEach (n+1) ids = .error code := by
      intro f
      cases d.inspectEach (n+1) ids <;> simp [bind,Except.bind,pure,Except.pure]
    split
    · next answer inspected heq =>
      cases hc : containerObservation inspected (d.now n) with
      | error code => simp [heq,hc,bind,Except.bind]
      | ok o => simpa [heq,hc,bind,Except.bind] using hrest fun r => (o :: r.1,r.2)
    · next answer json hnot heq =>
      have hnot : ∀ inspected, json ≠ .obj inspected := hnot
      simpa [heq,hnot] using hrest fun r => (r.1,⟨"docker.containers","unexpected_shape",some id⟩ :: r.2)
    · next code heq => simpa [heq] using hrest fun r => (r.1,⟨"docker.containers",code,some id⟩ :: r.2)

/-- An observation of the loop is what an inspection of its own was reduced to. -/
theorem mem_inspectEach (h : d.inspectEach n ids = .ok (observations,issues)) {o : ContainerObservation} :
    o ∈ observations ↔ ∃ i inspected, Inspected d n ids i inspected ∧ containerObservation inspected (d.now (n+i)) = .ok o := by
  induction ids generalizing n observations issues with
  | nil =>
    cases h
    simp [Inspected]
  | cons id ids ih =>
    rw [exists_inspected_cons (P:=fun m inspected => containerObservation inspected (d.now m) = .ok o)]
    rw [Daemon.inspectEach] at h
    split at h
    · next answer inspected heq =>
      obtain ⟨o',ho',h⟩ := bind_ok.mp h
      obtain ⟨⟨rest,others⟩,hrest,h⟩ := bind_ok.mp h
      cases h
      simp [ih hrest,heq,ho',eq_comm]
    · next answer json hnot heq =>
      obtain ⟨⟨rest,others⟩,hrest,h⟩ := bind_ok.mp h
      cases h
      have hnot : ∀ inspected, json ≠ .obj inspected := hnot
      simp [ih hrest,heq,hnot]
    · next code heq =>
      obtain ⟨⟨rest,others⟩,hrest,h⟩ := bind_ok.mp h
      cases h
      simp [ih hrest,heq]

theorem givenId_str {inspected : Fields} {id : String} (hid : id ≠ "") : givenId inspected = .str id ↔ fact inspected "Id" = .str id := by
  unfold givenId
  split
  · rfl
  · next hfalse =>
    refine iff_of_false (fun h => hid (Json.str.inj h).symm) fun h => hfalse ?_
    simp [h,truthy,hid]

/-- An answer is reduced to its own id, at the time it came. -/
theorem containerObservation_ok {inspected : Fields} {now : Instant} {o : ContainerObservation}
    (h : containerObservation inspected now = .ok o) : o.observedAt = now ∧ o.containerId = givenId inspected := by
  unfold containerObservation at h
  split at h
  · cases h
  · split at h <;> cases h
    exact ⟨rfl,rfl⟩

theorem ContainerObservation.id_eq {o : ContainerObservation} {id : String} (hid : id ≠ "") : o.id = id ↔ o.containerId = .str id := by
  unfold ContainerObservation.id
  split
  · next text heq => simp [heq]
  · next hnot => exact iff_of_false (fun h => hid h.symm) (hnot id)

theorem asked_of_entries (h : d.entries = none) : d.asked = [] := by simp [Daemon.asked,h]

theorem observeContainers_error : (∃ code, d.observeContainers = .error code) ↔
    ∃ i inspected, Inspected d 0 d.asked i inspected ∧ ∃ code, containerObservation inspected (d.now i) = .error code := by
  have heach := @inspectEach_error d 0 d.asked
  simp only [Nat.zero_add] at heach
  rw [← heach,Daemon.observeContainers]
  cases hentries : d.entries with
  | none => simp [asked_of_entries hentries,Daemon.inspectEach]
  | some entries => cases d.inspectEach 0 d.asked <;> simp [bind,Except.bind,pure,Except.pure]

/-- A container is in the batch when its own inspection was reduced to it. -/
theorem mem_observeContainers {b : ContainerBatch} (h : d.observeContainers = .ok b) {o : ContainerObservation} :
    o ∈ b.containers ↔ ∃ i inspected, Inspected d 0 d.asked i inspected ∧ containerObservation inspected (d.now i) = .ok o := by
  unfold Daemon.observeContainers at h
  cases hentries : d.entries with
  | none =>
    rw [hentries] at h
    cases h
    simp [asked_of_entries hentries,Inspected]
  | some entries =>
    rw [hentries] at h
    obtain ⟨⟨observations,issues⟩,heach,h⟩ := bind_ok.mp h
    cases h
    simpa using mem_inspectEach heach (o:=o)

/-- No inspection of a batch came to an object that could not be reduced. -/
theorem reduced_of_observeContainers {b : ContainerBatch} (h : d.observeContainers = .ok b) {i : ℕ} {inspected : Fields}
    (hi : Inspected d 0 d.asked i inspected) : ∃ o, containerObservation inspected (d.now i) = .ok o := by
  cases ho : containerObservation inspected (d.now i) with
  | ok o => exact ⟨o,rfl⟩
  | error code =>
    obtain ⟨code',herror⟩ := observeContainers_error.mpr ⟨i,inspected,hi,code,ho⟩
    rw [h] at herror
    cases herror

theorem observeContainers_failed {b : ContainerBatch} (h : d.observeContainers = .ok b) : b.status = "failed" ↔ d.entries = none := by
  unfold Daemon.observeContainers at h
  cases hentries : d.entries with
  | none =>
    rw [hentries] at h
    cases h
    simp
  | some entries =>
    rw [hentries] at h
    obtain ⟨⟨observations,issues⟩,-,h⟩ := bind_ok.mp h
    cases h
    simp only [reduceCtorEq,iff_false]
    split_ifs <;> simp

end Containers

section Units

variable {b : Bus} {unitId : String} {t : TargetedUnit}

theorem observeUnit_error : (∃ code, b.observeUnit unitId = .error code) ↔ unitName unitId = false := by
  unfold Bus.observeUnit
  split
  · next hname =>
    rw [hname]
    split <;> simp
  · next hname => simpa using hname

/-- A unit is in the answer exactly when it was read. -/
theorem observeUnit_ok (h : b.observeUnit unitId = .ok t) {u : UnitObservation} : t.unit = some u ↔ b.read unitId = .ok (some u) := by
  unfold Bus.observeUnit at h
  split at h
  · split at h <;> cases h <;> simp [*]
  · cases h

theorem textOrNone_ne {v : Option LoadedUnits.Value} {text : LoadedUnits.Text} (h : textOrNone v = some text) : text ≠ [] := by
  unfold textOrNone at h
  split at h <;> cases h
  assumption

theorem observePath_named {path listedName : String} {u : UnitObservation} (h : b.observePath path listedName = .ok u) :
    u.canonicalId ≠ [] := by
  obtain ⟨properties,-,h⟩ := bind_ok.mp h
  split at h
  · cases h
  · next canonicalId hid =>
    have hcanonical : u.canonicalId = canonicalId := by
      repeat' split at h
      all_goals cases h
      all_goals rfl
    exact hcanonical ▸ textOrNone_ne hid

/-- A unit that was read has a name. -/
theorem read_named {u : UnitObservation} (h : b.read unitId = .ok (some u)) : u.canonicalId ≠ [] := by
  unfold Bus.read at h
  split at h
  · cases h
  · obtain ⟨-,-,h⟩ := bind_ok.mp h
    obtain ⟨-,-,h⟩ := bind_ok.mp h
    obtain ⟨found,hfound,h⟩ := bind_ok.mp h
    obtain ⟨-,-,h⟩ := bind_ok.mp h
    cases h
    unfold Bus.loadedUnit at hfound
    split at hfound
    · next path hpath =>
      cases ho : b.observePath path unitId with
      | error e =>
        rw [ho] at hfound
        cases hfound
      | ok o =>
        rw [ho] at hfound
        cases hfound
        exact observePath_named ho
    · split at hfound <;> cases hfound
    · cases hfound

end Units

end ProviderReads
end LocalPlane
