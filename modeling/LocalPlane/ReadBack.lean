import LocalPlane.Estate
import LocalPlane.Machine

/-!
# Reading a target back after a mutation

An executor re-observes its target through an ordinary sweep and then reads the object
back, while sweeps of any other request land in between. The reading is its own when the
newest observation of the target belongs to its own sweep.
-/

set_option linter.dupNamespace false

namespace LocalPlane

/-- What a sweep asks the agent to look at. -/
inductive Asked where
  | interfaces (names : Option (List String))
  | containers
  | unit (identityValue : String)

inductive ObservationAttempt where
  | taken (record : ObjectRecord)
  | observationUnavailable (code : String)
  | targetAbsent

/-- How one kind of resource is observed again. -/
structure Executor where
  kind : ObjectKind
  asked : ObjectRow → Asked

def interfaceMtuExecutor : Executor where
  kind := .networkInterface
  asked row := .interfaces (if row.displayName = "" then none else some [row.displayName])

def containerLifecycleExecutor : Executor := ⟨.dockerContainer,fun _ => .containers⟩
def systemdLifecycleExecutor : Executor := ⟨.systemdUnit,fun row => .unit row.identityValue⟩

/-- What a sweep has to ingest from an answer of the agent. A daemon that would not answer is not an
empty estate. -/
def refresh (kind : ObjectKind) : Except String Batch → Except String Batch
  | .error code => .error code
  | .ok batch => if kind = .dockerContainer ∧ batch.status = "failed" then .error "provider_error" else .ok batch

/-- Reading the target back once the executor's own sweep has landed. -/
def readBack (e : Estate) (target : ObjectId) (own : SweepId) : ObservationAttempt :=
  match e.get target with
  | none => .targetAbsent
  | some fresh =>
    match fresh.observation with
    | none => .targetAbsent
    | some o => if o.sweepId ≠ own then .targetAbsent else .taken fresh

namespace ReadBack

/-- A sweep some request has begun and not yet ingested. -/
structure Sweeping where
  kind : ObjectKind
  began : ℕ

inductive Phase where
  | mutating
  | returned (mutated : ℕ)
  | sweeping (mutated began : ℕ) (asked : Asked)
  | ingested (mutated : ℕ) (own : SweepId)
  | done (mutated : ℕ) (own : Option SweepId) (attempt : ObservationAttempt)

/-- The executor's own sweep, while it has landed and the target is not read back. -/
def Phase.landed : Phase → Option SweepId
  | .ingested _ own => some own
  | _ => none

structure State where
  clock : ℕ
  estate : Estate
  began : SweepId → ℕ
  underway : List Sweeping
  phase : Phase

inductive Act where
  | begin (kind : ObjectKind)
  | ingest (n : ℕ) (sweep : SweepId) (batch : Batch)
  | abandon (n : ℕ)
  | mutated
  | observe
  | land (sweep : SweepId) (answer : Except String Batch)
  | read

variable (executor : Executor) (target : ObjectRow)

/-- One step of any request, or of the executor's `observe` after its mutation returned. -/
def step : Act → State → Option State
  | .begin kind,s => some {s with clock := s.clock + 1,underway := s.underway ++ [⟨kind,s.clock⟩]}
  | .ingest n sweep batch,s => do
    let sweeping ← s.underway[n]?
    let estate ← s.estate.ingest sweeping.kind sweep batch
    some {s with
      clock := s.clock + 1
      estate := estate
      began := Function.update s.began sweep sweeping.began
      underway := s.underway.eraseIdx n}
  | .abandon n,s => some {s with clock := s.clock + 1,underway := s.underway.eraseIdx n}
  | .mutated,s =>
    match s.phase with
    | .mutating => some {s with clock := s.clock + 1,phase := .returned s.clock}
    | _ => none
  | .observe,s =>
    match s.phase with
    | .returned mutated => some {s with clock := s.clock + 1,phase := .sweeping mutated s.clock (executor.asked target)}
    | _ => none
  | .land sweep answer,s =>
    match s.phase with
    | .sweeping mutated began _ =>
      match refresh executor.kind answer with
      | .error code => some {s with clock := s.clock + 1,phase := .done mutated none (.observationUnavailable code)}
      | .ok batch => (s.estate.ingest executor.kind sweep batch).map fun estate =>
        {s with
          clock := s.clock + 1
          estate := estate
          began := Function.update s.began sweep began
          phase := .ingested mutated sweep}
    | _ => none
  | .read,s =>
    match s.phase with
    | .ingested mutated own =>
      some {s with clock := s.clock + 1,phase := .done mutated (some own) (readBack s.estate target.objectId own)}
    | _ => none

def machine : Machine where
  State := State
  Act := Act
  initial s := s.phase = .mutating ∧ s.underway = [] ∧ s.estate.Related
  step := step executor target

/-- The sweep recorded an observation of the object. -/
def Saw (e : Estate) (sweep : SweepId) (id : ObjectId) : Prop :=
  ∃ o ∈ e.observations, o.sweepId = sweep ∧ o.objectId = id

instance (e : Estate) (sweep : SweepId) (id : ObjectId) : Decidable (Saw e sweep id) :=
  inferInstanceAs (Decidable (∃ o ∈ e.observations, o.sweepId = sweep ∧ o.objectId = id))

/-- What verification may rely on: a record handed over was seen by a sweep that began after the
mutation returned, and an absent target was not seen by the executor's own sweep. -/
def Truthful (s : State) : Prop :=
  match s.phase with
  | .done mutated own attempt =>
    (∀ record, attempt = .taken record → ∃ o, record.observation = some o ∧ mutated < s.began o.sweepId) ∧
      (attempt = .targetAbsent → ∀ sweep, own = some sweep → ¬Saw s.estate sweep target.objectId)
  | _ => True

/-- Nothing else is seen of the target that sorts after what the executor's own sweep sees of it: not
in the store when that sweep lands, and not between its landing and the reading back. -/
def Unsurpassed (s : State) : Act → Prop
  | .land _ (.ok batch) => ∀ seen ∈ batch.identified, seen.1 = target.objectId →
      ∃ latest ∈ batch.identified, latest.1 = target.objectId ∧
        ∀ o ∈ s.estate.observationsOf target.objectId, o.observedAt ≤ latest.2.observedAt
  | .ingest _ _ batch => ∀ own ∈ s.phase.landed, Saw s.estate own target.objectId →
      ∃ o ∈ s.estate.observationsOf target.objectId, o.sweepId = own ∧
        ∀ seen ∈ batch.identified, seen.1 = target.objectId → seen.2.observedAt < o.observedAt
  | _ => True

def Unsurpassed.decide (s : State) : (a : Act) → Decidable (Unsurpassed target s a)
  | .land _ (.ok b) => inferInstanceAs (Decidable (∀ seen ∈ b.identified, seen.1 = target.objectId → _))
  | .ingest _ _ _ => inferInstanceAs (Decidable (∀ own ∈ s.phase.landed, Saw s.estate own target.objectId → _))
  | .begin _ | .abandon _ | .mutated | .observe | .land _ (.error _) | .read => .isTrue trivial

instance (s : (machine executor target).State) (a : (machine executor target).Act) : Decidable (Unsurpassed target s a) :=
  Unsurpassed.decide target s a

variable {executor target}

section Ingest

variable {e e' : Estate} {kind : ObjectKind} {sweep other : SweepId} {batch : Batch} {id : ObjectId}

theorem ingest_observations (h : e.ingest kind sweep batch = some e') : sweep ∉ e.sweeps ∧ e'.sweeps = e.sweeps ++ [sweep] ∧
    e'.observations = e.observations ++ batch.identified.map (Estate.observationOf sweep batch) := by
  obtain ⟨hfresh,rfl⟩ := Estate.ingest_eq h
  exact ⟨hfresh,rfl,rfl⟩

/-- What a stored sweep saw is settled. -/
theorem saw_ingest (h : e.ingest kind sweep batch = some e') (hother : other ∈ e.sweeps) :
    Saw e' other id ↔ Saw e other id := by
  obtain ⟨hfresh,-,hobs⟩ := ingest_observations h
  constructor
  · rintro ⟨o,ho,hs,hi⟩
    rw [hobs] at ho
    rcases List.mem_append.mp ho with ho | ho
    · exact ⟨o,ho,hs,hi⟩
    · obtain ⟨seen,-,rfl⟩ := List.mem_map.mp ho
      exact absurd (show sweep ∈ e.sweeps from (show sweep = other from hs) ▸ hother) hfresh
  · rintro ⟨o,ho,hs,hi⟩
    exact ⟨o,hobs ▸ List.mem_append_left _ ho,hs,hi⟩

def added (sweep : SweepId) (batch : Batch) (id : ObjectId) : List Observation :=
  (batch.identified.map (Estate.observationOf sweep batch)).filter (·.objectId = id)

theorem mem_added {o : Observation} : o ∈ added sweep batch id ↔
    ∃ seen ∈ batch.identified, seen.1 = id ∧ Estate.observationOf sweep batch seen = o := by
  simp only [added,List.mem_filter,List.mem_map,decide_eq_true_eq]
  constructor
  · rintro ⟨⟨seen,hs,rfl⟩,hi⟩
    exact ⟨seen,hs,hi,rfl⟩
  · rintro ⟨seen,hs,hi,rfl⟩
    exact ⟨⟨seen,hs,rfl⟩,hi⟩

theorem observationsOf_ingest (h : e.ingest kind sweep batch = some e') :
    e'.observationsOf id = e.observationsOf id ++ added sweep batch id := by
  simp only [Estate.observationsOf,(ingest_observations h).2.2,List.filter_append,added]

theorem saw_new (h : e.ingest kind sweep batch = some e') (hr : e.Related)
    (hsaw : Saw e' sweep id) : ∃ seen ∈ batch.identified, seen.1 = id := by
  obtain ⟨hfresh,-,hobs⟩ := ingest_observations h
  obtain ⟨o,ho,hs,hi⟩ := hsaw
  rw [hobs] at ho
  rcases List.mem_append.mp ho with ho | ho
  · exact absurd (hs ▸ (hr o ho).1) hfresh
  · obtain ⟨seen,hseen,rfl⟩ := List.mem_map.mp ho
    exact ⟨seen,hseen,hi⟩

end Ingest

/-- The newest observation of the object is one of this sweep. -/
def Newest (e : Estate) (sweep : SweepId) (id : ObjectId) : Prop :=
  ∃ o, e.newest id = some o ∧ o.sweepId = sweep

/-- A sweep whose reading sorts no earlier than any stored one has the newest. -/
theorem newest_land {e e' : Estate} {kind : ObjectKind} {sweep : SweepId} {batch : Batch} {id : ObjectId}
    (h : e.ingest kind sweep batch = some e') {seen : ObjectId × Reported} (hseen : seen ∈ batch.identified)
    (hid : seen.1 = id) (hle : ∀ o ∈ e.observationsOf id, o.observedAt ≤ seen.2.observedAt) : Newest e' sweep id := by
  have hmem : Estate.observationOf sweep batch seen ∈ added sweep batch id := mem_added.mpr ⟨seen,hseen,hid,rfl⟩
  obtain ⟨o,ho,hlatest⟩ := Table.latest_append_added hmem hle
  obtain ⟨own,-,-,rfl⟩ := mem_added.mp ho
  exact ⟨_,by rw [Estate.newest,observationsOf_ingest h]; exact hlatest,rfl⟩

/-- A sweep of another request that sees the target no later than the newest leaves it the newest. -/
theorem newest_ingest {e e' : Estate} {kind : ObjectKind} {sweep own : SweepId} {batch : Batch} {id : ObjectId}
    (h : e.ingest kind sweep batch = some e') (hnew : Newest e own id) {o : Observation} (ho : o ∈ e.observationsOf id)
    (hlt : ∀ seen ∈ batch.identified, seen.1 = id → seen.2.observedAt < o.observedAt) : Newest e' own id := by
  obtain ⟨n,hn,hown⟩ := hnew
  refine ⟨n,?_,hown⟩
  rw [Estate.newest,observationsOf_ingest h]
  refine Table.latest_append_below hn fun b hb => ?_
  obtain ⟨seen,hseen,hid,rfl⟩ := mem_added.mp hb
  exact lt_of_lt_of_le (hlt seen hseen hid) (Table.le_latest hn ho)

theorem readBack_taken {e : Estate} {id : ObjectId} {own : SweepId} {record : ObjectRecord}
    (h : readBack e id own = .taken record) : ∃ o ∈ e.observations, record.observation = some o ∧ o.sweepId = own := by
  unfold readBack at h
  split at h
  · cases h
  · next fresh hget =>
    split at h
    · cases h
    · next o ho =>
      split at h
      · cases h
      · next hown =>
        cases h
        obtain ⟨row,-,rfl⟩ := Option.map_eq_some_iff.mp hget
        have hmem := Table.latest_mem (show Table.latest Observation.observedAt (e.observationsOf id) = some o from ho)
        exact ⟨o,(List.mem_filter.mp hmem).1,ho,not_not.mp hown⟩

/-- The reading is its own once the newest observation of the target is. -/
theorem readBack_newest {e : Estate} {id : ObjectId} {own : SweepId} (hrow : (e.objects id).isSome)
    (h : Newest e own id) : readBack e id own ≠ .targetAbsent := by
  obtain ⟨o,ho,hown⟩ := h
  obtain ⟨row,hrow⟩ := Option.isSome_iff_exists.mp hrow
  simp [readBack,Estate.get,hrow,ho,hown]

theorem Newest.saw {e : Estate} {own : SweepId} {id : ObjectId} (h : Newest e own id) : Saw e own id := by
  obtain ⟨o,ho,hown⟩ := h
  have hmem := List.mem_filter.mp (Table.latest_mem ho)
  exact ⟨o,hmem.1,hown,of_decide_eq_true hmem.2⟩

/-- How far the executor has got, and what it holds then. -/
def Held (target : ObjectRow) (s : State) : Phase → Prop
  | .mutating => True
  | .returned mutated => mutated < s.clock
  | .sweeping mutated began _ => mutated < began
  | .ingested mutated own => own ∈ s.estate.sweeps ∧ mutated < s.began own ∧
      (Saw s.estate own target.objectId → Newest s.estate own target.objectId)
  | .done mutated own attempt =>
    (∀ record, attempt = .taken record → ∃ o, record.observation = some o ∧ o.sweepId ∈ s.estate.sweeps ∧
      mutated < s.began o.sweepId) ∧
    (attempt = .targetAbsent → ∀ sweep, own = some sweep → sweep ∈ s.estate.sweeps ∧ ¬Saw s.estate sweep target.objectId)

theorem Held.truthful {s : State} (h : Held target s s.phase) : Truthful target s := by
  unfold Truthful
  split
  · next mutated own attempt hp =>
    rw [hp] at h
    refine ⟨fun record hr => ?_,fun ha sweep hs => (h.2 ha sweep hs).2⟩
    obtain ⟨o,ho,-,hb⟩ := h.1 record hr
    exact ⟨o,ho,hb⟩
  · trivial

/-- A sweep of another request that lands leaves what the executor holds, if it does not surpass it. -/
theorem Held.ingest {s : State} {e' : Estate} {n : ℕ} {sweeping : Sweeping} {sweep : SweepId} {batch : Batch}
    (h : Held target s s.phase) (ha : Unsurpassed target s (.ingest n sweep batch))
    (he : s.estate.ingest sweeping.kind sweep batch = some e') :
    Held target {s with
      clock := s.clock + 1
      estate := e'
      began := Function.update s.began sweep sweeping.began
      underway := s.underway.eraseIdx n} s.phase := by
  obtain ⟨hfresh,hsweeps,-⟩ := ingest_observations he
  have hbegan : ∀ other ∈ s.estate.sweeps, Function.update s.began sweep sweeping.began other = s.began other :=
    fun other ho => Function.update_of_ne (fun heq : other = sweep => hfresh (heq ▸ ho)) ..
  have hkept : ∀ other ∈ s.estate.sweeps, other ∈ e'.sweeps := fun other ho => hsweeps ▸ List.mem_append_left _ ho
  cases hp : s.phase with
  | mutating => trivial
  | returned mutated =>
    rw [hp] at h
    exact Nat.lt_succ_of_lt h
  | sweeping mutated began asked =>
    rw [hp] at h
    exact h
  | ingested mutated own =>
    rw [hp] at h
    obtain ⟨hown,hlt,hnew⟩ := h
    refine ⟨hkept own hown,hlt.trans_eq (hbegan own hown).symm,fun hsaw => ?_⟩
    have hsaw := (saw_ingest he hown).mp hsaw
    obtain ⟨o,ho,-,hbelow⟩ := ha own (by rw [hp]; rfl) hsaw
    exact newest_ingest he (hnew hsaw) ho hbelow
  | done mutated own attempt =>
    rw [hp] at h
    refine ⟨fun record hr => ?_,fun hab other ho => ?_⟩
    · obtain ⟨o,hobs,hmem,hlt⟩ := h.1 record hr
      exact ⟨o,hobs,hkept _ hmem,hlt.trans_eq (hbegan _ hmem).symm⟩
    · obtain ⟨hmem,hsaw⟩ := h.2 hab other ho
      exact ⟨hkept _ hmem,fun hs => hsaw ((saw_ingest he hmem).mp hs)⟩

/-- Time passing changes nothing the executor holds. -/
theorem Held.tick {s : State} {p : Phase} {underway : List Sweeping} (h : Held target s p) :
    Held target {s with clock := s.clock + 1,underway := underway} p := by
  cases p with
  | returned mutated => exact Nat.lt_succ_of_lt h
  | _ => exact h

theorem held_land {s : State} {e' : Estate} {mutated began : ℕ} {sweep : SweepId} {batch : Batch} (hr : s.estate.Related)
    (hlt : mutated < began) (ha : Unsurpassed target s (.land sweep (.ok batch)))
    (he : s.estate.ingest executor.kind sweep batch = some e') :
    Held target {s with
      clock := s.clock + 1
      estate := e'
      began := Function.update s.began sweep began
      phase := .ingested mutated sweep} (.ingested mutated sweep) := by
  obtain ⟨-,hsweeps,-⟩ := ingest_observations he
  refine ⟨by simp [hsweeps],by simpa using hlt,fun hsaw => ?_⟩
  obtain ⟨seen,hseen,hid⟩ := saw_new he hr hsaw
  obtain ⟨best,hbest,hbid,hle⟩ := ha seen hseen hid
  exact newest_land he hbest hbid hle

theorem held_read {s : State} {mutated : ℕ} {own : SweepId} (hr : s.estate.Related)
    (h : Held target s (.ingested mutated own)) :
    Held target s (.done mutated (some own) (readBack s.estate target.objectId own)) := by
  obtain ⟨hown,hlt,hnew⟩ := h
  refine ⟨fun record htaken => ?_,fun habsent sweep hs => ?_⟩
  · obtain ⟨o,-,hobs,hsweep⟩ := readBack_taken htaken
    exact ⟨o,hobs,hsweep ▸ hown,hsweep ▸ hlt⟩
  · cases hs
    refine ⟨hown,fun hsaw => ?_⟩
    have hrow : (s.estate.objects target.objectId).isSome := by
      obtain ⟨o,ho,-,hid⟩ := hsaw
      exact hid ▸ (hr o ho).2
    exact readBack_newest hrow (hnew hsaw) habsent

theorem held_unavailable {s : State} {mutated : ℕ} {own : Option SweepId} {code : String} :
    Held target s (.done mutated own (.observationUnavailable code)) :=
  ⟨fun _ h => ObservationAttempt.noConfusion h,fun h => ObservationAttempt.noConfusion h⟩

theorem reached_held {s : State} (h : Machine.Reach (machine executor target) (Unsurpassed target) s) :
    s.estate.Related ∧ Held target s s.phase := by
  let I : State → Prop := fun s => s.estate.Related ∧ Held target s s.phase
  refine Machine.Reach.invariant (M:=machine executor target) (I:=I) (fun s hs => ⟨hs.2.2,?_⟩) (fun a s s' hI ha hs => ?_) h
  · have hp : s.phase = .mutating := hs.1
    exact hp ▸ trivial
  obtain ⟨hr,hheld⟩ := hI
  cases a with
  | begin kind =>
    cases hs
    exact ⟨hr,hheld.tick⟩
  | abandon n =>
    cases hs
    exact ⟨hr,hheld.tick⟩
  | ingest n sweep batch =>
    obtain ⟨sweeping,-,hs⟩ := Option.bind_eq_some_iff.mp hs
    obtain ⟨e',he,hs⟩ := Option.bind_eq_some_iff.mp hs
    cases hs
    exact ⟨hr.ingest he,hheld.ingest ha he⟩
  | mutated =>
    simp only [machine,step] at hs
    split at hs <;> cases hs
    exact ⟨hr,Nat.lt_succ_self _⟩
  | observe =>
    simp only [machine,step] at hs
    split at hs <;> cases hs
    next mutated hp =>
    rw [hp] at hheld
    exact ⟨hr,hheld⟩
  | land sweep answer =>
    simp only [machine,step] at hs
    split at hs
    · next mutated began asked hp =>
      rw [hp] at hheld
      cases answer with
      | error code =>
        cases hs
        exact ⟨hr,held_unavailable⟩
      | ok batch =>
        simp only [refresh] at hs
        split at hs
        · next code heq =>
          cases hs
          exact ⟨hr,held_unavailable⟩
        · next batch' heq =>
          split at heq <;> cases heq
          obtain ⟨e',he,hs⟩ := Option.map_eq_some_iff.mp hs
          cases hs
          exact ⟨hr.ingest he,held_land hr hheld ha he⟩
    · cases hs
  | read =>
    simp only [machine,step] at hs
    split at hs <;> cases hs
    next mutated own hp =>
    rw [hp] at hheld
    exact ⟨hr,held_read hr hheld⟩

theorem truthful_of_unsurpassed (executor : Executor) (target : ObjectRow) (s : State)
    (h : Machine.Reach (machine executor target) (Unsurpassed target) s) : Truthful target s :=
  (reached_held h).2.truthful

def eth0 : ObjectRow := ⟨7,"host",.networkInterface,"eth0","eth0",.observed,"management_candidate",none,ManagementState.observed_unpointed⟩

def unobserved : State := ⟨0,⟨[],fun id => if id = 7 then some eth0 else none,[]⟩,fun _ => 0,[],.mutating⟩

def eth0Batch (observedAt : Instant) : Batch :=
  ⟨"host","network.observe","linux.network","ok",[⟨some 7,"eth0","eth0",observedAt,[("mtu",.num 1400)]⟩]⟩

theorem unobserved_initial : (machine interfaceMtuExecutor eth0).initial unobserved :=
  ⟨rfl,rfl,by simp [unobserved,Estate.Related]⟩

/-- Another request's sweep lands in between, with an earlier reading of the target. -/
theorem truthful_of_own_sweep : ∃ s, s.estate.observations.length = 2 ∧ Truthful eth0 s := by
  obtain ⟨s,hs,hp⟩ := Machine.exists_of_play (M:=machine interfaceMtuExecutor eth0) (R:=Unsurpassed eth0) unobserved_initial
    [.mutated,.begin .networkInterface,.observe,.land 0 (.ok (eth0Batch 5)),.ingest 0 1 (eth0Batch 4),.read]
    (fun s => s.estate.observations.length = 2) (by decide)
  exact ⟨s,of_decide_eq_true hp,truthful_of_unsurpassed interfaceMtuExecutor eth0 s hs⟩

def Phase.endedAbsent (own : SweepId) : Phase → Bool
  | .done _ (some last) .targetAbsent => last = own
  | _ => false

theorem Phase.endedAbsent_spec {own : SweepId} {phase : Phase} (h : phase.endedAbsent own = true) :
    ∃ mutated, phase = .done mutated (some own) .targetAbsent := by
  unfold Phase.endedAbsent at h
  split at h
  · next mutated last =>
    obtain rfl := of_decide_eq_true h
    exact ⟨mutated,rfl⟩
  · cases h

/-- A sweep of another request that saw the target as well makes it read as absent. -/
theorem absent_beside_later_sweep : ¬∀ (executor : Executor) (target : ObjectRow) (s : State),
    Machine.Reach (machine executor target) Machine.free s → Truthful target s := by
  intro h
  obtain ⟨s,hs,hp⟩ := Machine.exists_of_play (M:=machine interfaceMtuExecutor eth0) (R:=Machine.free) unobserved_initial
    [.mutated,.begin .networkInterface,.observe,.land 0 (.ok (eth0Batch 5)),.ingest 0 1 (eth0Batch 6),.read]
    (fun s => (s.estate.observations.any fun o => o.sweepId = 0 && o.objectId = 7) &&
      s.phase.endedAbsent 0) (by decide)
  obtain ⟨hsaw,hp⟩ := Bool.and_eq_true_iff.mp hp
  obtain ⟨o,ho,hown⟩ := List.any_eq_true.mp hsaw
  have htruth := h interfaceMtuExecutor eth0 s hs
  obtain ⟨mutated,hphase⟩ := Phase.endedAbsent_spec hp
  unfold Truthful at htruth
  rw [hphase] at htruth
  obtain ⟨hsweep,hid⟩ := Bool.and_eq_true_iff.mp hown
  exact htruth.2 rfl 0 rfl ⟨o,ho,of_decide_eq_true hsweep,of_decide_eq_true hid⟩

end ReadBack
end LocalPlane
