import LocalPlane.ChangeService
import LocalPlane.ProviderReads

/-!
# When a target may be called absent

The executors go by one thing: whether the newest observation of the target belongs to their
own sweep. What the provider failed to read, and what another request saw meanwhile, both
look to them like a target that is gone.
-/

set_option linter.dupNamespace false

namespace LocalPlane
namespace Absence

open ProviderReads ReadBack
open LineProtocol (Fields)
open Identity (deriveObjectId observeOne)

/-- A sweep of another request, as it lands. -/
structure Landing where
  kind : ObjectKind
  sweep : SweepId
  batch : Batch

def land : Estate → List Landing → Option Estate
  | e,[] => some e
  | e,l :: later => (e.ingest l.kind l.sweep l.batch).bind fun e' => land e' later

/-- An estate as the store keeps it, under its foreign keys. -/
abbrev Kept := {e : Estate // e.Related}

def executorOf : ObjectKind → Executor
  | .networkInterface => interfaceMtuExecutor
  | .dockerContainer => containerLifecycleExecutor
  | .systemdUnit => systemdLifecycleExecutor

def capabilityOf : ObjectKind → String
  | .networkInterface => "network.observe"
  | .dockerContainer => "docker.containers.observe"
  | .systemdUnit => "systemd.units.observe"

section Observe

variable (sha256 : String → ℕ) (a : Agent) (kind : ObjectKind) (target : ObjectRow)

/-- What the executor's own sweep brings for ingestion. -/
def reread : Except String Batch := refresh kind (a.answer sha256 ((executorOf kind).asked target))

/-- One call of `observe`, with the sweeps of other requests that land before the target is read back. -/
def observe (kept : Kept) (own : SweepId) (later : List Landing) : Option ObservationAttempt :=
  match reread sha256 a kind target with
  | .error code => some (.observationUnavailable code)
  | .ok batch => do
    let landed ← kept.1.ingest kind own batch
    let found ← land landed later
    return readBack found target.objectId own

/-- The host says that it has no such target: sysfs was listed and has no link of the name asked for, every
container was listed with its id and none is the target's, or the manager has no unit of that name loaded. -/
def Denied : Prop :=
  a.handshakeFor (capabilityOf kind) = .ok () ∧ (∃ hostId, a.call = .ok hostId) ∧
    match kind with
    | .networkInterface => target.displayName ≠ "" ∧
        ∃ links, a.sysfs.listed = .ok links ∧ ∀ link ∈ links, link.1.name ≠ target.displayName
    | .dockerContainer => ∃ entries, a.docker.entries = some entries ∧
        ∀ entry ∈ entries, ∃ id, entryId entry = some id ∧ id ≠ target.identityValue
    | .systemdUnit => a.systemd.read target.identityValue = .ok none

/-- The agent, or the daemon behind it, does not take the request. -/
def Refused : Prop :=
  (∃ code, a.handshakeFor (capabilityOf kind) = .error code) ∨ (∃ code, a.call = .error code) ∨
    match kind with
    | .networkInterface => target.displayName ≠ "" ∧ interfaceName target.displayName = false
    | .dockerContainer => a.docker.entries = none ∨
        ∃ i inspected, Inspected a.docker 0 a.docker.asked i inspected ∧
          ∃ code, containerObservation inspected (a.docker.now i) = .error code
    | .systemdUnit => unitName target.identityValue = false

/-- The host shows the target at this time: a link asked for, a container inspected or the unit itself is
identified as the target. -/
def Shown (t : Instant) : Prop :=
  ∃ hostId, a.call = .ok hostId ∧
    match kind with
    | .networkInterface => ∃ links, a.sysfs.listed = .ok links ∧
        ∃ link ∈ links, (target.displayName = "" ∨ link.1.name = target.displayName) ∧
          deriveObjectId sha256 hostId "network.interface" (observeOne link.1).evidence = target.objectId ∧ link.2 = t
    | .dockerContainer => ∃ i inspected, Inspected a.docker 0 a.docker.asked i inspected ∧
        ∃ id, fact inspected "Id" = .str id ∧ id ≠ "" ∧
          deriveObjectId sha256 hostId "docker.container" (.providerId,id) = target.objectId ∧ a.docker.now i = t
    | .systemdUnit => ∃ u, a.systemd.read target.identityValue = .ok (some u) ∧
        deriveObjectId sha256 hostId "systemd.unit" (.providerId,String.ofList u.canonicalId) = target.objectId ∧ a.systemd.now = t

end Observe

/-- Nothing that is known of the target sorts after this time: not in the store, and not in what others land. -/
def Current (e : Estate) (later : List Landing) (id : ObjectId) (t : Instant) : Prop :=
  (∀ o ∈ e.observationsOf id, o.observedAt ≤ t) ∧
    ∀ l ∈ later, ∀ seen ∈ l.batch.identified, seen.1 = id → seen.2.observedAt < t

/-- How a reading that was taken is judged. An executor never judges a reading to be absent. -/
structure Reading where
  observation : ObservationId
  capability : String
  provider : String
  facts : Facts
  judged : facts.judged ≠ .targetAbsent

/-- The attempt as the engine takes it up. -/
def observed (reading : ObjectRecord → Reading) : ObservationAttempt → Observed
  | .taken record =>
    let r := reading record
    .taken r.observation r.capability r.provider r.facts
  | .observationUnavailable _ => .unavailable false
  | .targetAbsent => .unavailable true

/-- What is said of a target that was not read: it is absent only where that was proved, it is unavailable
otherwise, and no Change is recorded as ended by an absence that was not. -/
structure Authoritative (proved : Prop) (attempt : ObservationAttempt) : Prop where
  absent : attempt = .targetAbsent → proved
  unavailable : ¬proved → (∀ record, attempt ≠ .taken record) → ∃ code, attempt = .observationUnavailable code
  recorded : ∀ preview expectation reading, (Service.judge preview expectation (observed reading attempt)).outcome = .targetAbsent → proved

/-! What lands -/

section Landings

variable {e e' : Estate} {later : List Landing} {id : ObjectId}

theorem land_related (hr : e.Related) (h : land e later = some e') : e'.Related := by
  induction later generalizing e with
  | nil =>
    cases h
    exact hr
  | cons l later ih =>
    obtain ⟨next,hnext,h⟩ := Option.bind_eq_some_iff.mp h
    exact ih (hr.ingest hnext) h

/-- A sweep that is stored already lands no more. -/
theorem land_fresh (h : land e later = some e') {l : Landing} (hl : l ∈ later) : l.sweep ∉ e.sweeps := by
  induction later generalizing e with
  | nil => cases hl
  | cons first later ih =>
    obtain ⟨next,hnext,h⟩ := Option.bind_eq_some_iff.mp h
    obtain ⟨hfresh,hsweeps,-⟩ := ingest_observations hnext
    rcases List.mem_cons.mp hl with rfl | hl
    · exact hfresh
    · exact fun hmem => ih h hl (hsweeps ▸ List.mem_append_left _ hmem)

theorem observationsOf_land (h : land e later = some e') :
    e'.observationsOf id = e.observationsOf id ++ later.flatMap fun l => added l.sweep l.batch id := by
  induction later generalizing e with
  | nil =>
    cases h
    simp
  | cons l later ih =>
    obtain ⟨next,hnext,h⟩ := Option.bind_eq_some_iff.mp h
    rw [ih h,observationsOf_ingest hnext,List.flatMap_cons,List.append_assoc]

theorem sweepId_of_added {sweep : SweepId} {batch : Batch} {o : Observation} (h : o ∈ added sweep batch id) : o.sweepId = sweep := by
  obtain ⟨-,-,-,rfl⟩ := mem_added.mp h
  rfl

/-- The newest observation is of the own sweep exactly when that sweep saw the target and nothing sorts after. -/
theorem newest_iff {landed : Estate} {kind : ObjectKind} {own : SweepId} {batch : Batch} (hr : e.Related)
    (hlanded : e.ingest kind own batch = some landed) (h : land landed later = some e') :
    Newest e' own id ↔ ∃ seen ∈ batch.identified, seen.1 = id ∧ Current e later id seen.2.observedAt := by
  obtain ⟨hfresh,hsweeps,-⟩ := ingest_observations hlanded
  have hbefore : ∀ o ∈ e.observationsOf id, o.sweepId ≠ own := fun o ho heq =>
    hfresh (heq ▸ (hr o (List.mem_filter.mp ho).1).1)
  have hafter : ∀ o ∈ later.flatMap (fun l => added l.sweep l.batch id), o.sweepId ≠ own := by
    intro o ho heq
    obtain ⟨l,hl,ho⟩ := List.mem_flatMap.mp ho
    have hown : own ∈ landed.sweeps := hsweeps ▸ List.mem_append_right _ (List.mem_singleton.mpr rfl)
    exact land_fresh h hl ((sweepId_of_added ho).symm.trans heq ▸ hown)
  have hdisjoint : ∀ o ∈ added own batch id, o ∉ later.flatMap fun l => added l.sweep l.batch id :=
    fun o ho hmem => hafter o hmem (sweepId_of_added ho)
  have hnewest : Newest e' own id ↔ ∃ o ∈ added own batch id, e'.newest id = some o := by
    constructor
    · rintro ⟨o,ho,hown⟩
      refine ⟨o,?_,ho⟩
      have hmem := Table.latest_mem ho
      rw [observationsOf_land h,observationsOf_ingest hlanded,List.append_assoc] at hmem
      rcases List.mem_append.mp hmem with hmem | hmem
      · exact absurd hown (hbefore o hmem)
      · exact (List.mem_append.mp hmem).resolve_right fun hmem => hafter o hmem hown
    · rintro ⟨o,hmem,ho⟩
      exact ⟨o,ho,sweepId_of_added hmem⟩
  rw [hnewest,Estate.newest,observationsOf_land h,observationsOf_ingest hlanded,Table.latest_mem_between hdisjoint]
  constructor
  · rintro ⟨o,ho,hle,hlt⟩
    obtain ⟨seen,hseen,hid,rfl⟩ := mem_added.mp ho
    refine ⟨seen,hseen,hid,hle,fun l hl other hother hoid => ?_⟩
    exact hlt _ (List.mem_flatMap.mpr ⟨l,hl,mem_added.mpr ⟨other,hother,hoid,rfl⟩⟩)
  · rintro ⟨seen,hseen,hid,hle,hlt⟩
    refine ⟨Estate.observationOf own batch seen,mem_added.mpr ⟨seen,hseen,hid,rfl⟩,hle,fun o ho => ?_⟩
    obtain ⟨l,hl,ho⟩ := List.mem_flatMap.mp ho
    obtain ⟨other,hother,hoid,rfl⟩ := mem_added.mp ho
    exact hlt l hl other hother hoid

end Landings

section Reading

variable {proved : Prop} {attempt : ObservationAttempt}

theorem judge_targetAbsent {preview : Preview} {expectation : Service.Expectation} {reading : ObjectRecord → Reading}
    (h : (Service.judge preview expectation (observed reading attempt)).outcome = .targetAbsent) : attempt = .targetAbsent := by
  cases attempt with
  | targetAbsent => rfl
  | observationUnavailable code => cases h
  | taken record =>
    simp only [observed,Service.judge] at h
    split at h
    · cases h
    · cases expectation with
      | action state => exact absurd h (reading record).judged
      | field value =>
        simp only [Service.prove] at h
        split at h
        · cases h
        · split at h <;> cases h

/-- All of it comes down to what is called absent. -/
theorem authoritative_iff : Authoritative proved attempt ↔ (attempt = .targetAbsent → proved) := by
  refine ⟨Authoritative.absent,fun h => ⟨h,fun hnot htaken => ?_,fun _ _ _ hj => h (judge_targetAbsent hj)⟩⟩
  cases attempt with
  | taken record => exact absurd rfl (htaken record)
  | observationUnavailable code => exact ⟨code,rfl⟩
  | targetAbsent => exact absurd (h rfl) hnot

/-- The target reads as absent unless the newest observation is the sweep's own. -/
theorem readBack_absent {e : Estate} {id : ObjectId} {own : SweepId} (hr : e.Related) :
    readBack e id own = .targetAbsent ↔ ¬Newest e own id := by
  constructor
  · rintro h hnew
    obtain ⟨o,ho,-,hid⟩ := hnew.saw
    exact readBack_newest (hid ▸ (hr o ho).2) hnew h
  · intro h
    unfold readBack
    split
    · rfl
    · next fresh hget =>
      split
      · rfl
      · next o ho =>
        obtain ⟨row,-,rfl⟩ := Option.map_eq_some_iff.mp hget
        exact if_pos fun hown => h ⟨o,ho,hown⟩

end Reading

section Answers

variable {sha256 : String → ℕ} {a : Agent} {kind : ObjectKind} {target : ObjectRow}

/-- A step that ends a computation, or one after it that does. -/
theorem bind_error {ε α β : Type} {x : Except ε α} {f : α → Except ε β} :
    (∃ code, (x >>= f) = .error code) ↔ (∃ code, x = .error code) ∨ ∃ b, x = .ok b ∧ ∃ code, f b = .error code := by
  cases x <;> simp [bind,Except.bind]

theorem refresh_error {answer : Except String Batch} : (∃ code, refresh kind answer = .error code) ↔
    (∃ code, answer = .error code) ∨ ∃ batch, answer = .ok batch ∧ kind = .dockerContainer ∧ batch.status = "failed" := by
  cases answer with
  | error code => simp [refresh]
  | ok batch =>
    simp only [refresh]
    split <;> simp_all

theorem refresh_ok {answer : Except String Batch} {batch : Batch} (h : refresh kind answer = .ok batch) : answer = .ok batch := by
  cases answer with
  | error code => cases h
  | ok batch' =>
    simp only [refresh] at h
    split at h <;> cases h
    rfl

theorem mem_identified {b : Batch} {seen : ObjectId × Reported} :
    seen ∈ b.identified ↔ seen.2 ∈ b.reported ∧ seen.2.objectId = some seen.1 := by
  obtain ⟨id,r⟩ := seen
  simp only [Batch.identified,List.mem_filterMap,Option.map_eq_some_iff,Prod.mk.injEq]
  constructor
  · rintro ⟨r',hr,id',hid,rfl,rfl⟩
    exact ⟨hr,hid⟩
  · rintro ⟨hr,hid⟩
    exact ⟨r,hr,id,hid,rfl,rfl⟩

/-- What a batch saw of an object, in terms of what was reported. -/
theorem exists_identified {b : Batch} {id : ObjectId} {P : Instant → Prop} :
    (∃ seen ∈ b.identified, seen.1 = id ∧ P seen.2.observedAt) ↔ ∃ r ∈ b.reported, r.objectId = some id ∧ P r.observedAt := by
  constructor
  · rintro ⟨seen,hseen,rfl,hP⟩
    obtain ⟨hr,hid⟩ := mem_identified.mp hseen
    exact ⟨seen.2,hr,hid,hP⟩
  · rintro ⟨r,hr,hid,hP⟩
    exact ⟨(id,r),mem_identified.mpr ⟨hr,hid⟩,rfl,hP⟩

theorem validateNames_error {target : ObjectRow} :
    (∃ code, validateNames (if target.displayName = "" then none else some [target.displayName]) = .error code) ↔
      target.displayName ≠ "" ∧ interfaceName target.displayName = false := by
  split
  · next h => simp [validateNames,h]
  · next h =>
    cases hname : interfaceName target.displayName <;> simp [validateNames,h,hname,maxRequestedNames]

theorem error_or {ε α : Type} {x : Except ε α} {P : Prop} :
    ((∃ code, x = .error code) ∨ ∃ b, x = .ok b ∧ P) ↔ (∃ code, x = .error code) ∨ P := by
  cases x <;> simp

theorem pure_error {ε α : Type} {b : α} : ¬∃ code, (pure b : Except ε α) = .error code := by simp [pure,Except.pure]

/-- The batch that a daemon's answer is handed on as has failed where there was no list of containers. -/
theorem answer_failed {batch : Batch} (h : a.answer sha256 .containers = .ok batch) : batch.status = "failed" ↔ a.docker.entries = none := by
  obtain ⟨-,-,h⟩ := bind_ok.mp h
  obtain ⟨hostId,-,h⟩ := bind_ok.mp h
  obtain ⟨containers,hcontainers,h⟩ := bind_ok.mp h
  cases h
  exact observeContainers_failed hcontainers

theorem answer_refused : ((∃ code, a.answer sha256 .containers = .error code) ∨
      ∃ batch, a.answer sha256 .containers = .ok batch ∧ batch.status = "failed") ↔
    (∃ code, a.answer sha256 .containers = .error code) ∨ a.docker.entries = none := by
  cases hanswer : a.answer sha256 .containers with
  | error code => simp
  | ok batch => simp [answer_failed hanswer]

/-- The read raises exactly where the agent or the daemon refuses. -/
theorem reread_error : (∃ code, reread sha256 a kind target = .error code) ↔ Refused a kind target := by
  rw [reread,refresh_error]
  cases kind with
  | networkInterface =>
    simp only [executorOf,interfaceMtuExecutor,Agent.answer,bind_error,observeInterfaces_error,validateNames_error,Refused,capabilityOf,
      pure_error,and_false,exists_false,or_false,error_or,reduceCtorEq,false_and]
  | dockerContainer =>
    simp only [executorOf,containerLifecycleExecutor,true_and,answer_refused,Refused,capabilityOf]
    simp only [Agent.answer,bind_error,observeContainers_error,pure_error,and_false,exists_false,or_false,error_or,or_assoc]
    rw [or_comm (a:=a.docker.entries = none)]
  | systemdUnit =>
    simp only [executorOf,systemdLifecycleExecutor,Agent.answer,bind_error,observeUnit_error,Refused,capabilityOf,
      pure_error,and_false,exists_false,or_false,error_or,reduceCtorEq,false_and]

section Shown

variable {hostId : HostId} {P : Instant → Prop}

theorem exists_interface {b : InterfaceBatch}
    (h : observeInterfaces a.sysfs (if target.displayName = "" then none else some [target.displayName]) = .ok b) (hcall : a.call = .ok hostId) :
    (∃ r ∈ ((b.sweep hostId).batch sha256).reported, r.objectId = some target.objectId ∧ P r.observedAt) ↔
      ∃ t, Shown sha256 a .networkInterface target t ∧ P t := by
  have hasked : ∀ name, (∀ asked ∈ (if target.displayName = "" then none else some [target.displayName] : Option (List String)),
      name ∈ asked) ↔ target.displayName = "" ∨ name = target.displayName := by
    intro name
    split <;> simp [*]
  simp only [Identity.NetworkSweep.batch,List.mem_map,exists_exists_and_eq_and,Identity.NetworkSweep.report,InterfaceBatch.sweep,
    Identity.NetworkSweep.objectId,mem_observeInterfaces h,Option.some.injEq,mem_selected,hasked,Shown,hcall,Except.ok.injEq,
    exists_eq_left']
  constructor
  · rintro ⟨link,⟨links,hlinks,hlink,hname⟩,hid,hP⟩
    exact ⟨link.2,⟨links,hlinks,link,hlink,hname,hid,rfl⟩,hP⟩
  · rintro ⟨t,⟨links,hlinks,link,hlink,hname,hid,rfl⟩,hP⟩
    exact ⟨link,⟨links,hlinks,hlink,hname⟩,hid,hP⟩

theorem exists_container {b : ContainerBatch} (h : a.docker.observeContainers = .ok b) (hcall : a.call = .ok hostId) :
    (∃ r ∈ (b.batch sha256 hostId).reported, r.objectId = some target.objectId ∧ P r.observedAt) ↔
      ∃ t, Shown sha256 a .dockerContainer target t ∧ P t := by
  simp only [ContainerBatch.batch,List.mem_map,exists_exists_and_eq_and,ContainerObservation.report,mem_observeContainers h,Shown,hcall,
    Except.ok.injEq,exists_eq_left']
  constructor
  · rintro ⟨o,⟨i,inspected,hi,ho⟩,hid,hP⟩
    obtain ⟨htime,hgiven⟩ := containerObservation_ok ho
    split at hid
    · cases hid
    · next hne =>
      have hfact := (givenId_str hne).mp (hgiven.symm.trans ((ContainerObservation.id_eq hne).mp rfl))
      exact ⟨a.docker.now i,⟨i,inspected,hi,o.id,hfact,hne,Option.some.inj hid,rfl⟩,htime ▸ hP⟩
  · rintro ⟨t,⟨i,inspected,hi,id,hfact,hne,hid,rfl⟩,hP⟩
    obtain ⟨o,ho⟩ := reduced_of_observeContainers h hi
    obtain ⟨htime,hgiven⟩ := containerObservation_ok ho
    have hown : o.id = id := (ContainerObservation.id_eq hne).mpr (hgiven.trans ((givenId_str hne).mpr hfact))
    exact ⟨o,⟨i,inspected,hi,ho⟩,by rw [hown,if_neg hne,hid],htime.symm ▸ hP⟩

theorem exists_unit {targeted : TargetedUnit} (h : a.systemd.observeUnit target.identityValue = .ok targeted) (hcall : a.call = .ok hostId) :
    (∃ r ∈ (targeted.batch sha256 hostId a.systemd.now).reported, r.objectId = some target.objectId ∧ P r.observedAt) ↔
      ∃ t, Shown sha256 a .systemdUnit target t ∧ P t := by
  simp only [TargetedUnit.batch,List.mem_map,exists_exists_and_eq_and,unitReport,Option.mem_toList,observeUnit_ok h,Shown,hcall,
    Except.ok.injEq,exists_eq_left']
  constructor
  · rintro ⟨u,hu,hid,hP⟩
    rw [if_neg (read_named hu)] at hid
    exact ⟨a.systemd.now,⟨u,hu,Option.some.inj hid,rfl⟩,hP⟩
  · rintro ⟨t,⟨u,hu,hid,rfl⟩,hP⟩
    exact ⟨u,hu,by rw [if_neg (read_named hu),hid],hP⟩

end Shown

/-- What the own sweep has of the target is what the host shows of it. -/
theorem exists_shown {batch : Batch} (h : reread sha256 a kind target = .ok batch) {P : Instant → Prop} :
    (∃ seen ∈ batch.identified, seen.1 = target.objectId ∧ P seen.2.observedAt) ↔ ∃ t, Shown sha256 a kind target t ∧ P t := by
  rw [exists_identified]
  have hanswer := refresh_ok h
  cases kind with
  | networkInterface =>
    obtain ⟨-,-,hanswer⟩ := bind_ok.mp hanswer
    obtain ⟨hostId,hcall,hanswer⟩ := bind_ok.mp hanswer
    obtain ⟨observation,hobservation,hanswer⟩ := bind_ok.mp hanswer
    cases hanswer
    exact exists_interface hobservation hcall
  | dockerContainer =>
    obtain ⟨-,-,hanswer⟩ := bind_ok.mp hanswer
    obtain ⟨hostId,hcall,hanswer⟩ := bind_ok.mp hanswer
    obtain ⟨containers,hcontainers,hanswer⟩ := bind_ok.mp hanswer
    cases hanswer
    exact exists_container hcontainers hcall
  | systemdUnit =>
    obtain ⟨-,-,hanswer⟩ := bind_ok.mp hanswer
    obtain ⟨hostId,hcall,hanswer⟩ := bind_ok.mp hanswer
    obtain ⟨targeted,htargeted,hanswer⟩ := bind_ok.mp hanswer
    cases hanswer
    exact exists_unit htargeted hcall

end Answers

/-- What `observe` says of a target is borne out exactly where the agent or the daemon refused, the host denied
the target, or the host showed it and nothing known of it sorts after. -/
theorem observe_authoritative_iff (sha256 : String → ℕ) (a : Agent) (kind : ObjectKind) (target : ObjectRow) (kept : Kept)
    (own : SweepId) (later : List Landing) (attempt : ObservationAttempt) (h : observe sha256 a kind target kept own later = some attempt) :
    Authoritative (Denied a kind target) attempt ↔
      Refused a kind target ∨ Denied a kind target ∨
        ∃ t, Shown sha256 a kind target t ∧ Current kept.1 later target.objectId t := by
  rw [authoritative_iff]
  unfold observe at h
  split at h
  · next code herror =>
    cases h
    exact iff_of_true (fun hab => nomatch hab) (.inl (reread_error.mp ⟨code,herror⟩))
  · next batch hbatch =>
    obtain ⟨landed,hlanded,h⟩ := Option.bind_eq_some_iff.mp h
    obtain ⟨found,hfound,h⟩ := Option.bind_eq_some_iff.mp h
    cases h
    have hrefused : ¬Refused a kind target := fun hr => by
      obtain ⟨code,herror⟩ := (@reread_error sha256 _ _ _).mpr hr
      rw [hbatch] at herror
      cases herror
    have hrelated : found.Related := land_related (kept.2.ingest hlanded) hfound
    rw [readBack_absent hrelated,newest_iff kept.2 hlanded hfound,exists_shown hbatch,
      or_iff_right hrefused,or_comm,or_iff_not_imp_left]

/-! Reads that fail -/

def byLength (text : String) : ℕ := text.length * 2 ^ 128

/-- A target of each kind, known under the only name it has. -/
def sought : ObjectKind → ObjectRow
  | .networkInterface => ⟨deriveObjectId byLength "host" "network.interface" (.kernelName,"eth0"),"host",.networkInterface,"eth0","eth0",
    .observed,"management_candidate",none,ManagementState.observed_unpointed⟩
  | .dockerContainer => ⟨deriveObjectId byLength "host" "docker.container" (.providerId,"0123456789ab"),"host",.dockerContainer,
    "0123456789ab","web",.observed,"container_lifecycle_candidate",none,ManagementState.observed_unpointed⟩
  | .systemdUnit => ⟨deriveObjectId byLength "host" "systemd.unit" (.providerId,"ssh.service"),"host",.systemdUnit,"ssh.service",
    "ssh.service",.observeOnly,"systemd_observation_only",none,by simp⟩

/-- The target as an earlier sweep left it in the store. -/
def known (target : ObjectRow) : Kept :=
  ⟨⟨[0],fun id => if id = target.objectId then some target else none,[⟨0,target.objectId,"capability","provider",3,[]⟩]⟩,
    by simp [Estate.Related]⟩

/-- A host whose sysfs cannot be listed, whose daemon inspects one container of two, and whose manager does not answer. -/
def faltering : Agent where
  hello := .ok [("network.observe",.available),("docker.containers.observe",.available),("systemd.units.observe",.available)]
  call := .ok "host"
  sysfs := ⟨.error "EACCES",fun _ => true,.ok (),.ok (),by simp⟩
  docker :=
    { socketExists := true
      version := .ok (.obj [])
      listed := .ok (.arr [.obj [("Id",.str "0123456789ab")],.obj [("Id",.str "0123456789abcd")]])
      inspect := fun _ id => if id = "0123456789ab" then .error "daemon_not_answering" else .ok (.obj [("Id",.str id)])
      now := fun _ => 5 }
  systemd :=
    { runtimeMissing := false
      connect := .ok ()
      managerProperties := .error .timeout
      getUnit := fun _ => .error .timeout
      unitProperties := fun _ => .error .timeout
      typeProperties := fun _ _ => .error .timeout
      close := .ok ()
      now := 5 }

/-- The same host with a manager that answers that it has loaded no such unit. -/
def answering : Agent :=
  {faltering with systemd :=
    {faltering.systemd with
      managerProperties := .ok []
      getUnit := fun _ => .error (.dbus "org.freedesktop.systemd1.NoSuchUnit".toList) } }

/-- A unit that is not loaded any more is rightly called absent. -/
theorem unloaded_authoritative : Authoritative (Denied answering .systemdUnit (sought .systemdUnit)) .targetAbsent :=
  (observe_authoritative_iff byLength answering .systemdUnit (sought .systemdUnit) (known (sought .systemdUnit)) 1 [] .targetAbsent rfl).mpr
    (.inr (.inl ⟨rfl,⟨"host",rfl⟩,rfl⟩))

theorem faltering_absent (kind : ObjectKind) :
    observe byLength faltering kind (sought kind) (known (sought kind)) 1 [] = some .targetAbsent := by
  cases kind with
  | networkInterface => rfl
  | dockerContainer => rfl
  | systemdUnit => rfl

theorem faltering_undenied (kind : ObjectKind) : ¬Denied faltering kind (sought kind) := by
  rintro ⟨-,-,h⟩
  cases kind with
  | networkInterface =>
    obtain ⟨-,links,hlinks,-⟩ := h
    cases hlinks
  | dockerContainer =>
    obtain ⟨entries,hentries,h⟩ := h
    cases hentries
    obtain ⟨id,hid,hne⟩ := h _ (List.mem_cons_self ..)
    cases hid
    exact hne rfl
  | systemdUnit => cases h

/-- None of the executors keeps a failed read and a target that is gone apart. -/
theorem failed_read_called_absent : ¬∃ kind, ∀ (sha256 : String → ℕ) (a : Agent) (target : ObjectRow) (kept : Kept) (own : SweepId)
    (later : List Landing) (attempt : ObservationAttempt), observe sha256 a kind target kept own later = some attempt →
      Authoritative (Denied a kind target) attempt := by
  rintro ⟨kind,h⟩
  have hrun := faltering_absent kind
  exact faltering_undenied kind ((h byLength faltering (sought kind) (known (sought kind)) 1 [] .targetAbsent hrun).absent rfl)

end Absence
end LocalPlane
