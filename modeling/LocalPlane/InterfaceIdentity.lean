import LocalPlane.DriftFindings
import LocalPlane.ManagementPath

/-!
# Which object a link is recorded as

Identity is chosen for each link of a sweep from what that link offers, without a look at the
others. What the store says of an object afterwards is whatever was last recorded under it.
-/

set_option linter.dupNamespace false

namespace LocalPlane

open LineProtocol (Json Fields)

namespace Identity

inductive IdentityBasis where
  | providerId | permanentMac | devicePath | kernelName
  deriving DecidableEq

def IdentityBasis.text : IdentityBasis → String
  | .providerId => "provider_id"
  | .permanentMac => "permanent_mac"
  | .devicePath => "device_path"
  | .kernelName => "kernel_name"

/-- What sysfs holds of one link, as far as its identity goes, and whatever else was read of it. -/
structure SysfsLink where
  name : String
  address : Option String
  addrAssignType : Option Int
  devicePath : Option String
  rest : Fields

structure InterfaceFacts where
  name : String
  macAddress : Option String
  macIsPermanent : Option Bool
  devicePath : Option String
  rest : Fields

def lower (text : String) : String := String.ofList (text.toList.map Char.toLower)

def parseMac (raw : Option String) : Option String := raw.bind fun text => if text = "" then none else some (lower text)

def observeOne (link : SysfsLink) : InterfaceFacts where
  name := link.name
  macAddress := parseMac link.address
  macIsPermanent := link.addrAssignType.map fun n => decide (n = 0)
  devicePath := link.devicePath
  rest := link.rest

def textOrNull : Option String → Json
  | none => .null
  | some text => .str text

def InterfaceFacts.facts (f : InterfaceFacts) : Fields :=
  ("name",.str f.name) :: ("mac_address",textOrNull f.macAddress) ::
    ("mac_is_permanent",(f.macIsPermanent.map Json.bool).getD .null) :: ("device_path",textOrNull f.devicePath) :: f.rest

def unusableMacs : List String := ["00:00:00:00:00:00","ff:ff:ff:ff:ff:ff"]

/-- The most durable evidence that this interface offers. -/
def InterfaceFacts.evidence (f : InterfaceFacts) : IdentityBasis × String :=
  match f.macAddress.filter fun mac => f.macIsPermanent = some true ∧ mac ≠ "" ∧ lower mac ∉ unusableMacs with
  | some mac => (.permanentMac,lower mac)
  | none =>
    match f.devicePath.filter (· ≠ "") with
    | some path => (.devicePath,path)
    | none => (.kernelName,f.name)

def identityText (hostId : HostId) (kind : String) (evidence : IdentityBasis × String) : String :=
  hostId ++ "|" ++ kind ++ "|" ++ evidence.1.text ++ "|" ++ evidence.2

/-- An object is known by the first half of a digest. -/
def deriveObjectId (sha256 : String → ℕ) (hostId : HostId) (kind : String) (evidence : IdentityBasis × String) : ObjectId :=
  sha256 (identityText hostId kind evidence) / 2 ^ 128

/-- One sweep of a host's network: every entry that has an index, by its name, and when it was read. -/
structure NetworkSweep where
  hostId : HostId
  provider : String
  status : String
  links : List (SysfsLink × Instant)
  named : (links.map (·.1.name)).Nodup ∧ ∀ link ∈ links, link.1.name ≠ ""

variable (sha256 : String → ℕ)

def NetworkSweep.objectId (sweep : NetworkSweep) (link : SysfsLink) : ObjectId :=
  deriveObjectId sha256 sweep.hostId "network.interface" (observeOne link).evidence

def NetworkSweep.report (sweep : NetworkSweep) (link : SysfsLink × Instant) : Reported where
  objectId := some (sweep.objectId sha256 link.1)
  identityValue := (observeOne link.1).evidence.2
  displayName := link.1.name
  observedAt := link.2
  facts := (observeOne link.1).facts

def NetworkSweep.batch (sweep : NetworkSweep) : Batch where
  hostId := sweep.hostId
  capability := "network.observe"
  provider := sweep.provider
  status := sweep.status
  reported := sweep.links.map (sweep.report sha256)

/-- A sweep with the identifier it was given, the provider evidence beside it and when it came in. -/
structure Cycle where
  sweepId : SweepId
  sweep : NetworkSweep
  readings : List ReportedReading
  now : Instant

def Cycle.ingest (c : Cycle) (s : Store) : Except String Store :=
  s.ingestNetwork c.sweepId (c.sweep.batch sha256) c.readings c.now

def sweepsAfter (run : List Cycle) : Except String Store := run.foldlM (fun s c => c.ingest sha256 s) Store.empty

/-- What a write to an interface is addressed to. -/
def correlate (record : ObjectRecord) : Except String (Int × String) := do
  let o ← orElse record.observation "no_observation"
  let index ← orElse (coerce .integer (fact o.facts "ifindex")) "execution_identity_unreadable"
  match fact o.facts "name" with
  | .str name => return (index.encode,if name = "" then record.row.displayName else name)
  | _ => return (index.encode,record.row.displayName)

/-- Everything that is said of an object is said of one link: no two links of a sweep are recorded as one
object, and an object's newest observation, which every reader of it goes by, is the only one its sweep has of it. -/
structure OneLink (l : Path.Language) (s : Store) : Prop where
  recorded : ∀ o ∈ s.estate.observations, ∀ o' ∈ s.estate.observations, o.sweepId = o'.sweepId → o.objectId = o'.objectId →
    fact o.facts "name" = fact o'.facts "name"
  newest : ∀ id o, s.estate.newest id = some o →
    ∀ o' ∈ s.estate.observations, o'.sweepId = o.sweepId → o'.objectId = id → o' = o
  reconciled : ∀ id fields, s.reconciliationFor id = some fields →
    ∃ intent : IntentRow, fields = reconcile intent.capability intent.provider intent.fields (s.estate.newest id)
  address : ∀ hostId id text, id ∈ Path.byAddress l s.estate hostId text →
    ∃ o, s.estate.newest id = some o ∧ text ∈ Path.addressesOf l o.facts
  index : ∀ hostId id n, id ∈ Path.byIndex s.estate hostId n → ∃ o, s.estate.newest id = some o ∧ Path.indexOf o.facts = some n
  target : ∀ id record n name, s.estate.get id = some record → correlate record = .ok (n,name) →
    ∃ o, s.estate.newest id = some o ∧ Path.indexOf o.facts = some n ∧ fact o.facts "name" = .str name

/-- No two links of a sweep offer the same evidence. -/
def Distinct (sweep : NetworkSweep) : Prop :=
  ∀ a ∈ sweep.links, ∀ b ∈ sweep.links, (observeOne a.1).evidence = (observeOne b.1).evidence → a.1.name = b.1.name

section Texts

variable {hostId : HostId} {kind : String} {e e' : IdentityBasis × String}

/-- What is hashed tells the evidence apart. -/
theorem evidence_of_identityText (h : identityText hostId kind e = identityText hostId kind e') : e = e' := by
  obtain ⟨basis,value⟩ := e
  obtain ⟨basis',value'⟩ := e'
  simp only [identityText,String.append_assoc,String.append_right_inj] at h
  have hl := congrArg String.toList h
  simp only [String.toList_append] at hl
  cases basis <;> cases basis' <;> simp_all [IdentityBasis.text]

end Texts

section Runs

variable {sha256 : String → ℕ} {run : List Cycle} {s s' : Store} {c : Cycle}

/-- The observations that one cycle adds. -/
def Cycle.observed (sha256 : String → ℕ) (c : Cycle) : List Observation :=
  c.sweep.links.map fun link => ⟨c.sweepId,c.sweep.objectId sha256 link.1,"network.observe",c.sweep.provider,link.2,(observeOne link.1).facts⟩

theorem identified_batch (sweep : NetworkSweep) :
    (sweep.batch sha256).identified = sweep.links.map fun link => (sweep.objectId sha256 link.1,sweep.report sha256 link) := by
  simp [Batch.identified,NetworkSweep.batch,NetworkSweep.report,List.filterMap_map,Function.comp_def]

theorem ingest_ok (h : c.ingest sha256 s = .ok s') : c.sweepId ∉ s.estate.sweeps ∧
    s'.estate.sweeps = s.estate.sweeps ++ [c.sweepId] ∧ s'.estate.observations = s.estate.observations ++ c.observed sha256 := by
  obtain ⟨estate,he,hfold⟩ := Store.ingestNetwork_ok h
  obtain ⟨hfresh,rfl⟩ := Estate.ingest_eq he
  rw [Store.foldlM_evaluateSeen_ok hfold]
  refine ⟨hfresh,rfl,?_⟩
  simp only [identified_batch,List.map_map]
  rfl

/-- Every run leaves the observations of its sweeps in their order, and no two of its sweeps share an identifier. -/
theorem sweepsAfter_ok (h : sweepsAfter sha256 run = .ok s) : s.estate.observations = run.flatMap (Cycle.observed sha256) ∧
    s.estate.sweeps = run.map (·.sweepId) ∧ (run.map (·.sweepId)).Nodup := by
  induction run using List.reverseRecOn generalizing s with
  | nil =>
    cases h
    exact ⟨rfl,rfl,List.nodup_nil⟩
  | append_singleton run c ih =>
    rw [sweepsAfter,List.foldlM_append] at h
    obtain ⟨t,ht,h⟩ := bind_ok.mp h
    obtain ⟨hobservations,hsweeps,hnodup⟩ := ih ht
    obtain ⟨hfresh,hs,ho⟩ := ingest_ok (by simpa using h)
    rw [hsweeps] at hfresh hs
    refine ⟨by simp [ho,hobservations],by simp [hs],?_⟩
    simpa [List.nodup_append,-List.mem_map] using ⟨hnodup,fun a ha => ne_of_mem_of_not_mem ha hfresh⟩

theorem mem_observations (h : sweepsAfter sha256 run = .ok s) {o : Observation} :
    o ∈ s.estate.observations ↔ ∃ c ∈ run, ∃ link ∈ c.sweep.links,
      (⟨c.sweepId,c.sweep.objectId sha256 link.1,"network.observe",c.sweep.provider,link.2,(observeOne link.1).facts⟩ :
        Observation) = o := by
  simp [(sweepsAfter_ok h).1,Cycle.observed]

/-- What was seen in one sweep under one name is one observation. -/
theorem observation_unique (h : sweepsAfter sha256 run = .ok s) {o o' : Observation} (ho : o ∈ s.estate.observations)
    (ho' : o' ∈ s.estate.observations) (hsweep : o.sweepId = o'.sweepId) (hname : fact o.facts "name" = fact o'.facts "name") :
    o = o' := by
  obtain ⟨c,hc,link,hlink,rfl⟩ := (mem_observations h).mp ho
  obtain ⟨c',hc',link',hlink',rfl⟩ := (mem_observations h).mp ho'
  obtain rfl := List.inj_on_of_nodup_map (sweepsAfter_ok h).2.2 hc hc' hsweep
  have hsame : link.1.name = link'.1.name := by simpa [fact,InterfaceFacts.facts,observeOne] using hname
  rw [List.inj_on_of_nodup_map c.sweep.named.1 hlink hlink' hsame]

variable {l : Path.Language} {id : ObjectId}

/-- The joins go by the newest observation of each object. -/
theorem mem_interfaces {e : Estate} {hostId : HostId} {o : Observation} (h : (id,o) ∈ Path.interfaces e hostId) :
    e.newest id = some o := by
  obtain ⟨id',-,h⟩ := List.mem_filterMap.mp h
  split at h
  · next row o' hget =>
    split at h
    · cases h
      obtain ⟨row',-,hrecord⟩ := Option.map_eq_some_iff.mp hget
      exact congrArg ObjectRecord.observation hrecord
    · cases h
  · cases h

theorem mem_joined {rows : List (ObjectId × Observation)} {p : ObjectId × Observation → Bool}
    (h : id ∈ sorted ((rows.filter p).map (·.1)).dedup) : ∃ o, (id,o) ∈ rows ∧ p (id,o) = true := by
  obtain ⟨⟨id',o⟩,hrow,rfl⟩ := List.mem_map.mp (List.mem_dedup.mp (SortBy.mem.mp h))
  exact ⟨o,List.mem_filter.mp hrow⟩

theorem correlate_ok {record : ObjectRecord} {n : Int} {name : String} (h : correlate record = .ok (n,name)) :
    ∃ o, record.observation = some o ∧ Path.indexOf o.facts = some n ∧
      ∀ text, fact o.facts "name" = .str text → text ≠ "" → text = name := by
  simp only [correlate,bind_ok (x := orElse _ _),orElse_ok] at h
  obtain ⟨o,ho,index,hindex,h⟩ := h
  refine ⟨o,ho,?_,fun text htext hne => ?_⟩
  · cases hraw : fact o.facts "ifindex" with
    | num m =>
      rw [hraw] at hindex
      simp only [coerce] at hindex
      obtain rfl := Option.some.inj (Option.ite_none_right_eq_some.mp hindex).2
      have hn : m = n := by split at h <;> cases h <;> rfl
      rw [Path.indexOf,hraw,hn]
    | _ => simp [hraw,coerce] at hindex
  · simp only [htext,if_neg hne] at h
    cases h
    rfl

/-- Two links of one sweep that share their evidence are recorded as one object. -/
theorem distinct_of_recorded (h : sweepsAfter sha256 run = .ok s)
    (hrecorded : ∀ o ∈ s.estate.observations, ∀ o' ∈ s.estate.observations, o.sweepId = o'.sweepId → o.objectId = o'.objectId →
      fact o.facts "name" = fact o'.facts "name") (hc : c ∈ run) : Distinct c.sweep := by
  intro a ha b hb hevidence
  have hname := hrecorded _ ((mem_observations h).mpr ⟨c,hc,a,ha,rfl⟩) _ ((mem_observations h).mpr ⟨c,hc,b,hb,rfl⟩) rfl
    (congrArg (deriveObjectId sha256 c.sweep.hostId "network.interface") hevidence)
  simpa [fact,InterfaceFacts.facts,observeOne] using hname

/-- Whatever the sweeps of a run see, the store says one link of each object exactly where every sweep's links offer
evidence of their own. The digest keeps what is hashed in one sweep apart. -/
theorem oneLink_iff (l : Path.Language) (sha256 : String → ℕ) (run : List Cycle) (s : Store)
    (h : sweepsAfter sha256 run = .ok s)
    (hapart : ∀ c ∈ run, ∀ a ∈ c.sweep.links, ∀ b ∈ c.sweep.links, c.sweep.objectId sha256 a.1 = c.sweep.objectId sha256 b.1 →
      identityText c.sweep.hostId "network.interface" (observeOne a.1).evidence =
        identityText c.sweep.hostId "network.interface" (observeOne b.1).evidence) :
    OneLink l s ↔ ∀ c ∈ run, Distinct c.sweep := by
  refine ⟨fun hone c hc => distinct_of_recorded h hone.recorded hc,fun hdistinct => ?_⟩
  have hrecorded : ∀ o ∈ s.estate.observations, ∀ o' ∈ s.estate.observations, o.sweepId = o'.sweepId →
      o.objectId = o'.objectId → fact o.facts "name" = fact o'.facts "name" := by
    intro o ho o' ho' hsweep hobject
    obtain ⟨c,hc,a,ha,rfl⟩ := (mem_observations h).mp ho
    obtain ⟨c',hc',b,hb,rfl⟩ := (mem_observations h).mp ho'
    obtain rfl := List.inj_on_of_nodup_map (sweepsAfter_ok h).2.2 hc hc' hsweep
    have hname := hdistinct c hc a ha b hb (evidence_of_identityText (hapart c hc a ha b hb hobject))
    simp [fact,InterfaceFacts.facts,observeOne,hname]
  have hnewest {id : ObjectId} {o : Observation} (ho : s.estate.newest id = some o) :
      o ∈ s.estate.observations ∧ o.objectId = id := by
    simpa [Estate.observationsOf] using Table.latest_mem ho
  constructor
  case recorded => exact hrecorded
  case newest =>
    intro id o ho o' ho' hsweep hid
    exact observation_unique h ho' (hnewest ho).1 hsweep
      (hrecorded o' ho' o (hnewest ho).1 hsweep (hid.trans (hnewest ho).2.symm))
  case reconciled =>
    intro id fields hfields
    obtain ⟨row,intent,-,-,-,rfl⟩ := Managed.reconciliationFor_some hfields
    exact ⟨intent,rfl⟩
  case address =>
    intro hostId id text hid
    obtain ⟨o,hrow,htext⟩ := mem_joined hid
    exact ⟨o,mem_interfaces hrow,of_decide_eq_true htext⟩
  case index =>
    intro hostId id n hid
    obtain ⟨o,hrow,hn⟩ := mem_joined hid
    exact ⟨o,mem_interfaces hrow,of_decide_eq_true hn⟩
  case target =>
    intro id record n name hget hcorrelate
    obtain ⟨o,ho,hindex,hname⟩ := correlate_ok hcorrelate
    obtain ⟨-,hrecord⟩ := Store.get_some hget
    obtain ⟨c,hc,link,hlink,rfl⟩ := (mem_observations h).mp (hnewest (hrecord ▸ ho)).1
    refine ⟨_,hrecord ▸ ho,hindex,?_⟩
    have hfact : fact (observeOne link.1).facts "name" = .str link.1.name := by simp [fact,InterfaceFacts.facts,observeOne]
    rw [hfact,hname _ hfact (c.sweep.named.2 link hlink)]

/-- A wired link with an address of its own, and the loopback. -/
def wired : NetworkSweep where
  hostId := "host_1"
  provider := "linux.sysfs"
  status := "complete"
  links := [(⟨"eth0",some "02:00:00:00:00:10",some 0,some "platform/eth",[("ifindex",.num 2),("mtu",.num 1500)]⟩,10),
    (⟨"lo",some "00:00:00:00:00:00",some 0,none,[("ifindex",.num 1),("mtu",.num 65536)]⟩,11)]
  named := by decide

/-- The digests of what these two links are hashed under. -/
def wiredDigest (text : String) : ℕ :=
  if text = "host_1|network.interface|permanent_mac|02:00:00:00:00:10" then
    0x24a0387d506bc4a7471933befc91106946dbc54c51b2f4c4f5fc8a7ffb4c648d
  else if text = "host_1|network.interface|kernel_name|lo" then
    0xf0335fc671a34d609d940277debb1cd2cb49d3f3e4b6de5202e9fb483b70d402
  else 0

def unlisted : Path.Language := ⟨fun _ => none,fun _ => "",fun _ => none⟩

theorem oneLink_wired : ∃ s, sweepsAfter wiredDigest [⟨1,wired,[],20⟩] = .ok s ∧
    (OneLink unlisted s ↔ ∀ c ∈ [(⟨1,wired,[],20⟩ : Cycle)], Distinct c.sweep) := by
  refine ⟨_,rfl,oneLink_iff unlisted wiredDigest [⟨1,wired,[],20⟩] _ rfl ?_⟩
  decide

/-- A wireless card with a second interface on it: both report the card's own address, and both sit on its slot. -/
def monitored : NetworkSweep where
  hostId := "host_1"
  provider := "linux.sysfs"
  status := "complete"
  links := [(⟨"mon0",some "02:00:00:00:00:20",some 0,some "pci/0000:03:00.0",[("ifindex",.num 4),("mtu",.num 1500)]⟩,10),
    (⟨"wlan0",some "02:00:00:00:00:20",some 0,some "pci/0000:03:00.0",[("ifindex",.num 3),("mtu",.num 1500)]⟩,11)]
  named := by decide

theorem monitored_merged : ∃ s, sweepsAfter wiredDigest [⟨1,monitored,[],20⟩] = .ok s ∧ ¬OneLink unlisted s := by
  refine ⟨_,rfl,fun hone => ?_⟩
  have hdistinct : Distinct monitored :=
    @distinct_of_recorded wiredDigest [⟨1,monitored,[],20⟩] _ ⟨1,monitored,[],20⟩ rfl hone.recorded (List.mem_singleton_self _)
  exact absurd (hdistinct _ (List.mem_cons_self ..) _ (List.mem_cons_of_mem _ (List.mem_cons_self ..)) (by decide)) (by decide)

end Runs

end Identity
end LocalPlane
