import LocalPlane.ManagementGate
import LocalPlane.OwnershipConflicts
import LocalPlane.SelfImpact

/-!
# How old the ownership evidence under a write may be

A plan for an interface is gated on the age of its observation and rests on the newest reading
of each provider, whichever sweep that is from. The two ages keep together in the runs whose
sweeps ask again what they rely on.
-/

set_option linter.dupNamespace false

namespace LocalPlane

open LineProtocol (Json Fields)
open Store (Clock ReportedReading providerRows managedRow repointedRow observedRow)

def Provenance.gaps (p : Provenance) : List String := (p.sources.filter (·.gap)).map (·.source)

def ownershipProviders : List String := correlators.map (·.provider)

/-- What a request brings to planning besides the store. -/
structure PlanRequest where
  clock : Clock
  evidenceSources : List String
  managementPath : Planning.ManagementPathVerdict
  spelled : ObjectId → String

/-- `_intended_mtu` -/
def intendedMtu (intent : IntentRow) : Option Value :=
  (intent.fields.find? (·.field = "mtu")).bind fun f =>
    match f.value with
    | .int n => if 0 < n then some (.int n) else none
    | .bool _ => none

namespace Store

variable (s : Store)

/-- Every reason reconciling an interface cannot be planned, in the order they stop mattering; then the
observation planned from, the value it has and the value it should have. -/
def verifyReconcilable (clock : Clock) (record : ObjectRecord) : Except String (Observation × Value × Value) := do
  refuseIf (record.row.managementState = .observeOnly) "object_observe_only"
  refuseIf (record.row.managementState ≠ .managed) "not_managed"
  let intent ← orElse (s.activeFor record.row) "active_intent_missing"
  refuseIf (intent.schemaVersion ≠ intentSchemaVersion) "intent_schema_unsupported"
  let desired ← orElse (intendedMtu intent) "field_not_controlled"
  let o ← orElse record.observation "no_observation"
  refuseIf (clock.stale o) "observation_stale"
  refuseIf (o.capability ≠ intent.capability ∨ o.provider ≠ intent.provider) "observation_source_incompatible"
  let current ← orElse (coerce .integer (fact o.facts "mtu")) "current_value_unreadable"
  refuseIf (current = desired) "already_reconciled"
  return (o,current,desired)

def provenanceOf (record : ObjectRecord) : Provenance :=
  forObject record.row.kind record.observation (s.latestReadings record.row.hostId)

/-- `RunService._context` for an interface, and the planner's own checks on it. -/
def mtuContext (record : ObjectRecord) (q : PlanRequest) : Planning.PlanningContext where
  operation := .networkInterfaceReconcileMtu
  resourceId := q.spelled record.row.objectId
  refusal := match s.verifyReconcilable q.clock record with
    | .error code => some code
    | .ok _ => none
  evidenceSources := q.evidenceSources
  ownershipBlockReason := ownershipBlock (s.provenanceOf record)
  ownershipGaps := (s.provenanceOf record).gaps
  managementPath := q.managementPath
  lifecycle := none
  selfImpact := Planning.assessBackendSelfImpact

end Store

namespace Relied

/-- The store, and every reading in it with the sweep that brought it. -/
structure State where
  store : Store
  taken : List (SweepId × HostId × ProviderReading)

/-- The observations a sweep records. -/
def seen : Operation → List Observation
  | .sweepNetwork sweep batch _ _ | .sweepOther _ sweep batch => batch.identified.map (Estate.observationOf sweep batch)
  | _ => []

/-- The readings a sweep records. -/
def brought : Operation → List (SweepId × HostId × ProviderReading)
  | .sweepNetwork sweep batch reported _ => (providerRows reported []).map fun r => (sweep,batch.hostId,r)
  | _ => []

def machine : Machine where
  State := State
  Act := Operation
  initial c := c = ⟨Store.empty,[]⟩
  step op c :=
    match op.run c.store with
    | .ok s' => some ⟨s',c.taken ++ brought op⟩
    | .error _ => some c

/-- The reading is no older than an observation may be, or it is from the sweep of this one. -/
def Current (c : State) (clock : Clock) (hostId : HostId) (o : Observation) (r : ProviderReading) : Prop :=
  clock.now - r.observedAt ≤ clock.ttl ∨ (o.sweepId,hostId,r) ∈ c.taken

/-- What the plan reports of every provider without a gap rests on a current reading, if on any. -/
def EvidenceCurrent (c : State) (record : ObjectRecord) (clock : Clock) : Prop :=
  ∀ o ∈ record.observation, ∀ source ∈ (c.store.provenanceOf record).sources, source.gap = false →
    source.provider ∈ ownershipProviders → ∀ r ∈ (c.store.latestReadings record.row.hostId).get source.provider,
      Conflicted.Settling r.status → Current c clock record.row.hostId o r

/-- The interface as it was read on the way to this state. -/
def Known (R : State → Operation → Prop) (c : State) (record : ObjectRecord) : Prop :=
  record.row.kind = .networkInterface ∧
    ∃ c₀ id, Machine.Reach machine R c₀ ∧ Machine.Steps machine R c₀ c ∧ c₀.store.estate.get id = some record

/-- Every plan that would be allowed to run rests on current evidence. -/
def PlansCurrent (R : State → Operation → Prop) (c : State) : Prop :=
  ∀ record (q : PlanRequest) plan, Known R c record → (c.store.mtuContext record q).replan = .ok plan →
    plan.execution.eligibility ≠ .blocked → EvidenceCurrent c record q.clock

open Planning Service Interleaved in
/-- Every apply that is planned again from this state and comes to the write boundary rests on current evidence. -/
def CrossingsCurrent (R : State → Operation → Prop) (c : State) : Prop :=
  ∀ (site : Site) (config : engine.Config) (i : RequestId) (r r' : RunId) (expected : RunState) (correlation : Correlation)
    (next : Except Error Unit → Service Response) record (q : PlanRequest),
    Reach site.gated config → (World.requests config.world)[i]? = some (.apply r) →
    config.pool i = some (.act (.commit r' (.cross expected correlation)) next) →
    Known R c record → site.context i r = c.store.mtuContext record q → EvidenceCurrent c record q.clock

/-- No reading of the same source of the host is dated later. -/
def Newest (s : Store) (hostId : HostId) (r : ProviderReading) : Prop :=
  (hostId,r) ∈ s.readings ∧
    ∀ q, (hostId,q) ∈ s.readings → q.provider = r.provider → q.source = r.source → q.observedAt ≤ r.observedAt

/-- An observation of an interface of the host. -/
def Of (s : Store) (hostId : HostId) (o : Observation) : Prop :=
  ∃ row, s.estate.objects o.objectId = some row ∧ row.kind = .networkInterface ∧ row.hostId = hostId

/-- A sweep asks again every provider whose newest reading settles something about the host and is older than
what the sweep saw of its interfaces, and no reading is dated before what is stored of them by then. -/
structure Consulted (s : Store) (op : Operation) (s' : Store) : Prop where
  asked : ∀ hostId, ∀ o ∈ seen op, Of s' hostId o → ∀ r, Newest s hostId r → r.provider ∈ ownershipProviders →
    Conflicted.Settling r.status → o.observedAt ≤ r.observedAt ∨
      ∃ x ∈ brought op, x.2.1 = hostId ∧ x.2.2.provider = r.provider ∧ x.2.2.source = r.source
  dated : ∀ x ∈ brought op, ∀ o ∈ s'.estate.observations, Of s' x.2.1 o → o.observedAt ≤ x.2.2.observedAt

def consulting (c : State) (op : Operation) : Prop := ∀ s', op.run c.store = .ok s' → Consulted c.store op s'

/-- Objects stay on their host and of their kind. -/
def Keeps (objects objects' : ObjectId → Option ObjectRow) : Prop :=
  ∀ id row, objects id = some row → ∃ row', objects' id = some row' ∧ row'.hostId = row.hostId ∧ row'.kind = row.kind

namespace Keeps

variable {objects objects' objects'' : ObjectId → Option ObjectRow}

theorem refl (objects : ObjectId → Option ObjectRow) : Keeps objects objects := fun _ row h => ⟨row,h,rfl,rfl⟩

theorem trans (h : Keeps objects objects') (h' : Keeps objects' objects'') : Keeps objects objects'' := by
  intro id row hrow
  obtain ⟨row',hrow',hhost,hkind⟩ := h id row hrow
  obtain ⟨row'',hrow'',hhost',hkind'⟩ := h' id row' hrow'
  exact ⟨row'',hrow'',hhost'.trans hhost,hkind'.trans hkind⟩

theorem update {id : ObjectId} {row' : ObjectRow}
    (h : ∀ row, objects id = some row → row'.hostId = row.hostId ∧ row'.kind = row.kind) :
    Keeps objects (Function.update objects id (some row')) := by
  intro other row hrow
  by_cases ho : other = id
  · subst ho
    exact ⟨row',Function.update_self ..,h row hrow⟩
  · exact ⟨row,by rwa [Function.update_of_ne ho],rfl,rfl⟩

theorem upserts (hostId : HostId) (kind : ObjectKind) (l : List (ObjectId × Reported)) (objects : ObjectId → Option ObjectRow) :
    Keeps objects (l.foldl (Estate.upsert hostId kind) objects) := by
  induction l generalizing objects with
  | nil => exact refl objects
  | cons seen l ih =>
    refine trans (update fun row hrow => ?_) (ih _)
    simp only [hrow,Estate.conflictRow]
    split <;> exact ⟨rfl,rfl⟩

theorem setObject (s : Store) (id : ObjectId) {f : ObjectRow → ObjectRow}
    (hf : ∀ row, (f row).hostId = row.hostId ∧ (f row).kind = row.kind) :
    Keeps s.estate.objects (s.setObject id f).estate.objects := by
  intro other row hrow
  by_cases ho : other = id
  · subst ho
    exact ⟨f row,by simp [Store.setObject,hrow],hf row⟩
  · exact ⟨row,by simpa [Store.setObject,ho] using hrow,rfl,rfl⟩

end Keeps

/-- What an operation does to the observations, the readings and the objects. -/
structure Stepped (s : Store) (op : Operation) (s' : Store) : Prop where
  observations : s'.estate.observations = s.estate.observations ++ seen op
  readings : s'.readings = s.readings ++ (brought op).map (·.2)
  objects : Keeps s.estate.objects s'.estate.objects
  related : s.estate.Related → s'.estate.Related

section Steps

variable {s s' : Store} {op : Operation}

theorem stepped_unswept {objects : ObjectId → Option ObjectRow} (hseen : seen op = []) (hbrought : brought op = [])
    (hestate : s'.estate = {s.estate with objects := objects}) (hreadings : s'.readings = s.readings)
    (hobjects : Keeps s.estate.objects objects) : Stepped s op s' where
  observations := by rw [hestate,hseen,List.append_nil]
  readings := by rw [hreadings,hbrought,List.map_nil,List.append_nil]
  objects := by rwa [hestate]
  related hr := by
    rw [hestate]
    intro o ho
    obtain ⟨hsweep,hobject⟩ := hr o ho
    obtain ⟨row,hrow⟩ := Option.isSome_iff_exists.mp hobject
    obtain ⟨row',hrow',-,-⟩ := hobjects _ row hrow
    exact ⟨hsweep,Option.isSome_iff_exists.mpr ⟨row',hrow'⟩⟩

theorem stepped_of_run (h : op.run s = .ok s') : Stepped s op s' := by
  cases op with
  | sweepNetwork sweep batch reported now =>
    obtain ⟨estate,he,hfold⟩ := Store.ingestNetwork_ok h
    have hs' := Store.foldlM_evaluateSeen_ok hfold
    rw [hs']
    have hrelated := fun hr : s.estate.Related => hr.ingest he
    obtain ⟨-,rfl⟩ := Estate.ingest_eq he
    exact ⟨rfl,by simp [brought,Function.comp_def],Keeps.upserts _ _ _ _,hrelated⟩
  | sweepOther kind sweep batch =>
    obtain ⟨estate,he,rfl⟩ := Store.ingestOther_ok h
    have hrelated := fun hr : s.estate.Related => hr.ingest he
    obtain ⟨-,rfl⟩ := Estate.ingest_eq he
    exact ⟨rfl,(List.append_nil _).symm,Keeps.upserts _ _ _ _,hrelated⟩
  | adopt before clock intentId record =>
    obtain ⟨row,o,findings,-,-,-,-,-,rfl,-⟩ := Store.adopt_ok h
    exact stepped_unswept rfl rfl rfl rfl (Keeps.setObject _ _ fun _ => ⟨rfl,rfl⟩)
  | revise before clock intentId record wanted expected expectedVersion =>
    obtain ⟨row,active,o,plan,findings,-,-,-,-,-,-,-,rfl,-⟩ := Store.revise_ok h
    refine stepped_unswept rfl rfl rfl rfl (Keeps.setObject _ _ fun row => ?_)
    unfold repointedRow
    split <;> exact ⟨rfl,rfl⟩
  | release record =>
    obtain ⟨row,intentId,-,-,-,rfl⟩ := Store.release_ok h
    exact stepped_unswept rfl rfl rfl rfl (Keeps.setObject _ _ fun _ => ⟨rfl,rfl⟩)

end Steps

/-- What settles something about a host is no older than anything stored of its interfaces. -/
structure Inv (s : Store) : Prop where
  related : s.estate.Related
  fresh : ∀ hostId r, Newest s hostId r → r.provider ∈ ownershipProviders → Conflicted.Settling r.status →
    ∀ o ∈ s.estate.observations, Of s hostId o → o.observedAt ≤ r.observedAt

section Runs

variable {s s' : Store} {op : Operation} {c c₀ : State} {hostId : HostId} {o : Observation} {r : ProviderReading}

theorem Of.before (hr : s.estate.Related) (hstep : Stepped s op s') (ho : o ∈ s.estate.observations) (h : Of s' hostId o) :
    Of s hostId o := by
  obtain ⟨row,hrow⟩ := Option.isSome_iff_exists.mp (hr o ho).2
  obtain ⟨row',hrow',hhost,hkind⟩ := hstep.objects _ row hrow
  obtain ⟨row'',hrow'',hkind',hhost'⟩ := h
  obtain rfl := Option.some.inj (hrow'.symm.trans hrow'')
  exact ⟨row,hrow,hkind.symm.trans hkind',hhost.symm.trans hhost'⟩

theorem Newest.before (hstep : Stepped s op s') (h : Newest s' hostId r) (hr : (hostId,r) ∈ s.readings) : Newest s hostId r := by
  refine ⟨hr,fun q hq => h.2 q ?_⟩
  rw [hstep.readings]
  exact List.mem_append_left _ hq

theorem inv_step (hI : Inv s) (hstep : Stepped s op s') (hc : Consulted s op s') : Inv s' where
  related := hstep.related hI.related
  fresh := by
    intro hostId r hnewest howner hsettling o ho hof
    have hreading := hnewest.1
    rw [hstep.readings,List.mem_append] at hreading
    rcases hreading with hold | hnew
    · -- a reading that was there before
      have hbefore := hnewest.before hstep hold
      rw [hstep.observations,List.mem_append] at ho
      rcases ho with ho | ho
      · exact hI.fresh hostId r hbefore howner hsettling o ho (hof.before hI.related hstep ho)
      · rcases hc.asked hostId o ho hof r hbefore howner hsettling with hle | ⟨x,hx,rfl,hprovider,hsource⟩
        · exact hle
        · have hdated := hc.dated x hx o (by rw [hstep.observations]; exact List.mem_append_right _ ho) hof
          have hstored : (x.2.1,x.2.2) ∈ s'.readings := by
            rw [hstep.readings]
            exact List.mem_append_right _ (List.mem_map_of_mem hx)
          exact hdated.trans (hnewest.2 _ hstored hprovider hsource)
    · obtain ⟨x,hx,hxr⟩ := List.mem_map.mp hnew
      have hdated := hc.dated x hx o ho (by rwa [hxr])
      rwa [hxr] at hdated

theorem reached_inv (h : Machine.Reach machine consulting c) : Inv c.store := by
  refine Machine.Reach.invariant (M := machine) (I := fun c : State => Inv c.store) (fun c hc => ?_) (fun op c c' hI hop hs => ?_) h
  · obtain rfl : c = ⟨Store.empty,[]⟩ := hc
    exact ⟨fun o ho => (nomatch ho),fun _ r hr => (nomatch hr.1)⟩
  · simp only [machine] at hs
    split at hs
    · next s' hrun =>
      cases hs
      exact inv_step hI (stepped_of_run hrun) (hop s' hrun)
    · cases hs
      exact hI

/-- What was stored on the way to a state is in it. -/
structure Grown (c₀ c : State) : Prop where
  observations : c₀.store.estate.observations ⊆ c.store.estate.observations
  objects : Keeps c₀.store.estate.objects c.store.estate.objects

theorem grown_of_steps {R : State → Operation → Prop} (h₀ : Machine.Reach machine R c₀) (h : Machine.Steps machine R c₀ c) :
    Grown c₀ c := by
  refine Machine.Steps.relation (K := Grown) (fun c => ⟨fun _ => id,.refl _⟩)
    (fun _ _ _ h h' => ⟨fun _ ho => h'.observations (h.observations ho),h.objects.trans h'.objects⟩)
    (fun op c c' _ _ hs => ?_) h₀ h
  simp only [machine] at hs
  split at hs
  · next s' hrun =>
    cases hs
    have hstep := stepped_of_run hrun
    exact ⟨fun o ho => by rw [hstep.observations]; exact List.mem_append_left _ ho,hstep.objects⟩
  · cases hs
    exact ⟨fun _ => id,.refl _⟩

/-- A record that was read is of an object the state still has, and so is its observation. -/
theorem Known.of {R : State → Operation → Prop} {record : ObjectRecord} (h : Known R c record) (ho : record.observation = some o) :
    o ∈ c.store.estate.observations ∧ Of c.store record.row.hostId o := by
  obtain ⟨hkind,c₀,id,h₀,hsteps,hget⟩ := h
  obtain ⟨hrow,hobservation⟩ := Store.get_some hget
  have hgrown := grown_of_steps h₀ hsteps
  have hnewest : c₀.store.estate.newest id = some o := hobservation.symm.trans ho
  have hmem := List.mem_filter.mp (Table.latest_mem hnewest)
  have hid : o.objectId = id := of_decide_eq_true hmem.2
  obtain ⟨row',hrow',hhost,hkind'⟩ := hgrown.objects id record.row hrow
  exact ⟨hgrown.observations hmem.1,row',hid ▸ hrow',hkind'.trans hkind,hhost⟩

theorem newest_of_latest {provider : String} (h : (s.latestReadings hostId).get provider = some r) :
    Newest s hostId r ∧ r.provider = provider := by
  have hmem : r ∈ s.latestReadings hostId := List.mem_reverse.mp (List.mem_of_find?_eq_some h)
  have hprovider : r.provider = provider := by simpa using List.find?_some h
  simp only [Store.latestReadings,SortBy.mem,List.mem_filter,decide_eq_true_eq] at hmem
  obtain ⟨hrow,hlatest⟩ := hmem
  obtain ⟨x,hx,rfl⟩ := List.mem_map.mp hrow
  obtain ⟨hstored,hhost⟩ := List.mem_filter.mp hx
  obtain rfl : x.1 = hostId := of_decide_eq_true hhost
  refine ⟨⟨hstored,fun q hq hp hs => ?_⟩,hprovider⟩
  refine Table.le_latest hlatest (List.mem_filter.mpr ⟨List.mem_map.mpr ⟨(x.1,q),?_,rfl⟩,?_⟩)
  · exact List.mem_filter.mpr ⟨hq,decide_eq_true rfl⟩
  · exact decide_eq_true ⟨hp,hs⟩

/-- A plan that can be made has an observation that is not stale. -/
theorem observed_of_replan {record : ObjectRecord} {q : PlanRequest} {plan : Planning.FreshPlan}
    (h : (s.mtuContext record q).replan = .ok plan) (ho : record.observation = some o) : q.clock.now - o.observedAt ≤ q.clock.ttl := by
  have hverify : ∃ found, s.verifyReconcilable q.clock record = .ok found := by
    cases hv : s.verifyReconcilable q.clock record with
    | ok found => exact ⟨found,rfl⟩
    | error code => simp [Planning.PlanningContext.replan,Store.mtuContext,hv] at h
  obtain ⟨found,hv⟩ := hverify
  simp only [Store.verifyReconcilable,refuseIf_ok,bind_ok (x := orElse _ _),orElse_ok] at hv
  obtain ⟨-,-,intent,-,-,desired,-,o',ho',hstale,-⟩ := hv
  obtain rfl := Option.some.inj (ho.symm.trans ho')
  exact not_lt.mp hstale

theorem evidence_of_replan {R : State → Operation → Prop} {record : ObjectRecord} {q : PlanRequest} {plan : Planning.FreshPlan}
    (hI : Inv c.store) (hknown : Known R c record) (h : (c.store.mtuContext record q).replan = .ok plan) :
    EvidenceCurrent c record q.clock := by
  intro o ho source _ _ howner r hr hsettling
  obtain ⟨hmem,hof⟩ := hknown.of ho
  obtain ⟨hnewest,hprovider⟩ := newest_of_latest hr
  have hle := hI.fresh _ r hnewest (hprovider ▸ howner) hsettling o hmem hof
  have hcurrent := observed_of_replan h ho
  exact .inl ((Int.sub_le_sub_left hle _).trans hcurrent)

/-- In a run whose sweeps ask again what they rely on, every plan that may run and every apply that comes to
the write boundary rests on readings no older than an observation may be. -/
theorem evidence_current (c : State) (h : Machine.Reach machine consulting c) :
    PlansCurrent consulting c ∧ CrossingsCurrent consulting c := by
  have hI := reached_inv h
  refine ⟨fun record q plan hknown hplan _ => evidence_of_replan hI hknown hplan,?_⟩
  intro site config i r r' expected correlation next record q hreach hasked hpool hknown hcontext
  obtain ⟨-,hadmits⟩ := crossing_admitted hreach hasked hpool
  obtain ⟨plan,hplan,-⟩ := hadmits.replanned
  rw [hcontext] at hplan
  exact evidence_of_replan hI hknown hplan

end Runs

section Forgotten

instance (status : ProviderStatus) : Decidable (Conflicted.Settling status) := inferInstanceAs (Decidable (_ ∨ _))

instance (c : State) (clock : Clock) (hostId : HostId) (o : Observation) (r : ProviderReading) :
    Decidable (Current c clock hostId o r) := inferInstanceAs (Decidable (_ ∨ _))

instance (c : State) (record : ObjectRecord) (clock : Clock) : Decidable (EvidenceCurrent c record clock) :=
  inferInstanceAs (Decidable (∀ o ∈ record.observation, _))

/-- Every provider is asked: NetworkManager holds the link and applies nothing to it. -/
def asked (observedAt : Instant) : List ReportedReading :=
  [⟨"docker","docker.networks",some .ok,none,observedAt,[]⟩,
    ⟨"networkmanager","networkmanager.devices",some .ok,none,observedAt,[[("device",.str "eth0"),("state",.str "disconnected")]]⟩,
    ⟨"tailscale","tailscale.status",some .absent,some "tailscale_absent",observedAt,[]⟩]

def firstSweep : Operation := .sweepNetwork 0 (Managed.eth0Sweep 10 1500) (asked 11) 12
def firstStore : Store := Managed.commit Store.empty firstSweep
def adoption : Operation := .adopt firstStore ⟨30,60⟩ 100 (Managed.eth0Record firstStore)
def adoptedStore : Store := Managed.commit firstStore adoption

/-- Much later the link is read again and no provider could be asked. -/
def lastSweep : Operation := .sweepNetwork 1 (Managed.eth0Sweep 1000 1300) [] 1001
def lastStore : Store := Managed.commit adoptedStore lastSweep
def forgotten : State := ⟨lastStore,brought firstSweep⟩

def lateRequest : PlanRequest where
  clock := ⟨1010,60⟩
  evidenceSources := ["network.interface.set_mtu"]
  managementPath := ⟨some "eth1","kernel_route",some "1",none,[]⟩
  spelled _ := "eth0"

theorem reach_commit {R : State → Operation → Prop} {c : State} (h : Machine.Reach machine R c) (op : Operation) (hop : R c op)
    (hrun : (op.run c.store).isOk = true) : Machine.Reach machine R ⟨Managed.commit c.store op,c.taken ++ brought op⟩ := by
  refine Machine.Reach.step h hop ?_
  cases hs : op.run c.store with
  | ok s' => simp [machine,Managed.commit,hs]
  | error code => simp [hs,Except.isOk,Except.toBool] at hrun

theorem reach_forgotten : Machine.Reach machine Machine.free forgotten := by
  have h₀ : Machine.Reach machine Machine.free ⟨Store.empty,[]⟩ := .start rfl
  have h₁ := reach_commit h₀ firstSweep trivial (by decide)
  have h₂ := reach_commit h₁ adoption trivial (by decide)
  exact reach_commit h₂ lastSweep trivial (by decide)

theorem known_forgotten : Known (Machine.free (M := machine)) forgotten (Managed.eth0Record lastStore) := by
  have hget : lastStore.estate.get 7 = some (Managed.eth0Record lastStore) := by
    obtain ⟨record,hrecord⟩ := Option.isSome_iff_exists.mp (by decide : (lastStore.estate.get 7).isSome = true)
    rw [Managed.eth0Record,hrecord,Option.getD_some]
  exact ⟨by decide,forgotten,7,reach_forgotten,.refl,hget⟩

open Planning Interleaved

/-- Every request plans from the late store. -/
def lateSite : Site where
  operation _ := .networkInterfaceReconcileMtu
  resource _ := "eth0"
  context _ _ := lastStore.mtuContext (Managed.eth0Record lastStore) lateRequest
  stale _ _ := false
  sameOperation _ _ := rfl
  sameTarget _ _ := rfl

/-- The Run that was planned from it. -/
def lateWorld : World :=
  .published 1 (fun _ => 7) (fun _ => .offPath "mtu" 1300 1500 (by decide)) fun _ => ⟨1300,none⟩

theorem late_crossing : ∃ config : engine.Config, Reach lateSite.gated config ∧
    (World.requests config.world)[2]? = some (.apply 0) ∧ atBoundary (config.pool 2) = true := by
  obtain ⟨config,hreach,hp⟩ := exists_of_playUnder lateSite.gated (w := lateWorld) (World.published_initial ..)
    (confirmed ++ .enter (.apply 0) :: advance 2 11)
    (fun c => decide ((World.requests c.world)[2]? = some (Request.apply 0)) && atBoundary (c.pool 2)) (by decide +kernel)
  simp only [Bool.and_eq_true,decide_eq_true_eq] at hp
  exact ⟨config,hreach,hp⟩

/-- The plan made of the late store is eligible and an apply of it comes to the write boundary, on what
NetworkManager said long before the observation. -/
theorem forgotten_reading_admits_write : Machine.Reach machine Machine.free forgotten ∧
    (∃ plan, (lastStore.mtuContext (Managed.eth0Record lastStore) lateRequest).replan = .ok plan ∧
      plan.execution.eligibility = .eligible) ∧
    ¬PlansCurrent (Machine.free (M := machine)) forgotten ∧ ¬CrossingsCurrent (Machine.free (M := machine)) forgotten := by
  have hstale : ¬EvidenceCurrent forgotten (Managed.eth0Record lastStore) lateRequest.clock := by decide
  have hplan : ∃ plan, (lastStore.mtuContext (Managed.eth0Record lastStore) lateRequest).replan = .ok plan ∧
      plan.execution.eligibility = .eligible := by
    have hnone : (lastStore.mtuContext (Managed.eth0Record lastStore) lateRequest).refusal = none := by decide
    exact ⟨_,by rw [PlanningContext.replan,hnone]; rfl,by decide⟩
  refine ⟨reach_forgotten,hplan,fun h => ?_,fun h => ?_⟩
  · obtain ⟨plan,hplan,heligible⟩ := hplan
    exact hstale (h _ lateRequest plan known_forgotten hplan (by rw [heligible]; decide))
  · obtain ⟨config,hreach,hasked,hat⟩ := late_crossing
    obtain ⟨r',expected,correlation,next,hpool⟩ := exists_of_atBoundary hat
    exact hstale (h lateSite config 2 0 r' expected correlation next _ lateRequest hreach hasked hpool known_forgotten rfl)

/-- Much later the link is read again and every provider is asked again. -/
def renewal : Operation := .sweepNetwork 1 (Managed.eth0Sweep 1000 1300) (asked 1001) 1002
def renewedStore : Store := Managed.commit adoptedStore renewal
def renewed : State := ⟨renewedStore,brought firstSweep ++ brought renewal⟩

/-- A sweep that asks every source there is a reading of and dates nothing back. -/
theorem consulting_of_asked {c : State} {op : Operation}
    (hasked : ∀ q ∈ c.store.readings,∃ x ∈ brought op,x.2.1 = q.1 ∧ x.2.2.provider = q.2.provider ∧ x.2.2.source = q.2.source)
    (hdated : ∀ x ∈ brought op,∀ o ∈ (Managed.commit c.store op).estate.observations,o.observedAt ≤ x.2.2.observedAt) :
    consulting c op := by
  intro s' hrun
  have hcommit : Managed.commit c.store op = s' := by simp [Managed.commit,hrun]
  exact ⟨fun hostId o _ _ r hr _ _ => .inr (hasked _ hr.1),fun x hx o ho _ => hdated x hx o (hcommit ▸ ho)⟩

theorem reach_renewed : Machine.Reach machine consulting renewed := by
  have h₀ : Machine.Reach machine consulting ⟨Store.empty,[]⟩ := .start rfl
  have h₁ := reach_commit h₀ firstSweep (consulting_of_asked (by decide) (by decide)) (by decide)
  have h₂ := reach_commit h₁ adoption (fun _ _ => ⟨fun _ _ ho => (nomatch ho),fun _ hx => (nomatch hx)⟩) (by decide)
  exact reach_commit h₂ renewal (consulting_of_asked (by decide) (by decide)) (by decide)

theorem evidence_current_of_renewed : (∃ plan, (renewedStore.mtuContext (Managed.eth0Record renewedStore) lateRequest).replan = .ok plan ∧
    plan.execution.eligibility = .eligible) ∧ PlansCurrent consulting renewed ∧ CrossingsCurrent consulting renewed := by
  have hnone : (renewedStore.mtuContext (Managed.eth0Record renewedStore) lateRequest).refusal = none := by decide
  exact ⟨⟨_,by rw [PlanningContext.replan,hnone]; rfl,by decide⟩,evidence_current renewed reach_renewed⟩

end Forgotten

end Relied
end LocalPlane
