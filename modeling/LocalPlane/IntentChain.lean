import LocalPlane.Machine
import LocalPlane.ManagementLaws

/-!
# The chain of intent versions

The versions retained for one object form a chain counted from one, each explained by one
event and each revision by the version it replaces; what is in force is the last of them.
-/

set_option linter.dupNamespace false

namespace LocalPlane

open Store (ReportedReading Clock Wanted adopted revised managedRow repointedRow observedRow)

namespace Managed

/-- The store, and the intents that revisions have been accepted against. -/
structure State where
  store : Store
  won : List IntentId

/-- The store after an operation: one that is refused has written nothing. -/
def commit (s : Store) (op : Operation) : Store :=
  match op.run s with
  | .ok s' => s'
  | .error _ => s

def against (s : Store) : Operation → List IntentId
  | .revise before clock intentId record wanted expected expectedVersion =>
    match Store.revise before s clock intentId record wanted expected expectedVersion with
    | .ok _ => [expected]
    | .error _ => []
  | _ => []

def machine : Machine where
  State := State
  Act := Operation
  initial c := c = ⟨Store.empty,[]⟩
  step op c := some ⟨commit c.store op,c.won ++ against c.store op⟩

/-- Each version supersedes the one before it. -/
def Chained : Option IntentId → List IntentRow → Prop
  | _,[] => True
  | before,row :: rest => row.supersedes = before ∧ Chained (some row.intentId) rest

/-- The events that say how a version came to exist. -/
def explanations (s : Store) (intentId : IntentId) : ℕ :=
  (s.transitions.filter fun t => t.transition = .adopt ∧ t.intentId = intentId).length +
    (s.revisions.filter (·.intentId = intentId)).length

/-- What the tables say together of one object's intents. -/
structure Chain (s : Store) (id : ObjectId) : Prop where
  counted : (s.intentsOf id).map (·.version) = List.range' 1 (s.intentsOf id).length
  chained : Chained none (s.intentsOf id)
  explained : ∀ row ∈ s.intentsOf id, explanations s row.intentId = 1
  managed : ∀ row, s.estate.objects id = some row → (row.managementState = .managed ↔ row.activeIntent.isSome)
  active : ∀ row intentId, s.estate.objects id = some row → row.activeIntent = some intentId →
    ∃ last, (s.intentsOf id).getLast? = some last ∧ last.intentId = intentId
  controls : ∀ event ∈ s.revisions, event.objectId = id → ∃ new ∈ s.intentsOf id, ∃ old ∈ s.intentsOf id,
    new.intentId = event.intentId ∧ new.supersedes = some old.intentId ∧
      new.fields.map CapturedField.key = old.fields.map CapturedField.key

/-- A managed object keeps its stance and its active intent. -/
def KeepsManaged (s s' : Store) : Prop :=
  ∀ id row, s.estate.objects id = some row → row.managementState = .managed →
    ∃ row', s'.estate.objects id = some row' ∧ row'.managementState = .managed ∧ row'.activeIntent = row.activeIntent

section Versions

variable {l : List IntentRow} {row r : IntentRow} {before : Option IntentId} {x : IntentId}

theorem chained_concat : Chained before (l ++ [row]) ↔
    Chained before l ∧ row.supersedes = (l.getLast?.map (·.intentId)).or before := by
  induction l generalizing before with
  | nil => simp [Chained]
  | cons a l ih =>
    have hlast : ((a :: l).getLast?.map (·.intentId)).or before = (l.getLast?.map (·.intentId)).or (some a.intentId) := by
      cases hl : l.getLast? <;> simp [List.getLast?_cons,hl]
    rw [List.cons_append,Chained,Chained,ih,hlast,and_assoc]

/-- What a version supersedes stands before the last. -/
theorem superseded_before (h : Chained before l) (hr : r ∈ l) (hx : r.supersedes = some x) :
    before = some x ∨ x ∈ l.dropLast.map (·.intentId) := by
  induction l generalizing before with
  | nil => cases hr
  | cons a l ih =>
    obtain ⟨ha,h⟩ := h
    rcases List.mem_cons.mp hr with rfl | hr
    · exact .inl (ha ▸ hx)
    · have hne : l ≠ [] := List.ne_nil_of_mem hr
      rw [List.dropLast_cons_of_ne_nil hne,List.map_cons]
      rcases ih h hr with heq | hmem
      · exact .inr (List.mem_cons.mpr (.inl (Option.some.inj heq).symm))
      · exact .inr (List.mem_cons.mpr (.inr hmem))

theorem foldr_max_counted (h : l.map (·.version) = List.range' 1 l.length) :
    (l.map (·.version)).foldr max 0 = l.length := by
  rw [h]
  have hcount : ∀ n k, (List.range' k n).foldr max 0 = if n = 0 then 0 else k + n - 1 := by
    intro n
    induction n with
    | zero => simp
    | succ n ih =>
      intro k
      rw [List.range'_succ,List.foldr_cons,ih,if_neg n.succ_ne_zero]
      split
      · next hn => simp [hn]
      · omega
  rw [hcount]
  split <;> omega

theorem latest_counted (h : l.map (·.version) = List.range' 1 l.length) : Table.latest IntentRow.version l = l.getLast? := by
  induction l using List.reverseRecOn with
  | nil => rfl
  | append_singleton l a _ =>
    rw [List.getLast?_concat]
    rw [List.map_append,List.length_append,List.map_singleton,List.length_singleton,List.range'_1_concat] at h
    obtain ⟨hl,ha⟩ := List.append_inj h (by simp)
    refine Table.latest_concat_of_le fun b hb => ?_
    have hmem : b.version ∈ List.range' 1 l.length := hl ▸ List.mem_map_of_mem hb
    rw [List.mem_range'_1] at hmem
    have hversion : a.version = 1 + l.length := by simpa using ha
    omega

end Versions

section Rows

variable {s : Store} {id : ObjectId}

theorem names_nodup {fields : List CapturedField} (h : fields.map CapturedField.key = adoptableKeys) :
    (fields.map (·.field)).Nodup := by
  have hnames : fields.map (·.field) = adoptableKeys.map Prod.fst := by
    rw [← h,List.map_map]
    rfl
  rw [hnames]
  decide

theorem sort_keys {fields : List CapturedField} (h : fields.map CapturedField.key = adoptableKeys) :
    sortBy (·.field) fields = fields := by
  have hnames : fields.map (·.field) = ["admin_up","mtu"] := by
    have hfst := congrArg (List.map Prod.fst) h
    simpa [Function.comp_def,CapturedField.key,adoptableKeys,adoptableInterfaceFields] using hfst
  have hsorted : (fields.map (·.field)).Pairwise (· ≤ ·) := by
    rw [hnames]
    simp only [List.pairwise_cons,List.mem_singleton,forall_eq,List.not_mem_nil,false_imp_iff,implies_true,
      List.Pairwise.nil,and_true]
    decide
  exact (List.pairwise_map.mp hsorted).insertionSort_eq

theorem upserts_some (hostId : HostId) (kind : ObjectKind) (l : List (ObjectId × Reported)) (objects : ObjectId → Option ObjectRow)
    (row : ObjectRow) (h : objects id = some row) (hm : row.managementState = .managed) :
    ∃ row', l.foldl (Estate.upsert hostId kind) objects id = some row' ∧ row'.managementState = .managed ∧
      row'.activeIntent = row.activeIntent := by
  induction l generalizing objects row with
  | nil => exact ⟨row,h,hm,rfl⟩
  | cons seen l ih =>
    by_cases hid : id = seen.1
    · subst hid
      have hupsert : Estate.upsert hostId kind objects seen seen.1 = some {row with displayName := seen.2.displayName} := by
        simp [Estate.upsert,h,Estate.conflictRow,hm]
      have hrest := ih (Estate.upsert hostId kind objects seen) _ hupsert hm
      exact hrest
    · exact ih (Estate.upsert hostId kind objects seen) row (by simpa [Estate.upsert,hid] using h) hm

/-- A sweep points no object at an intent, and keeps every row under its own object. -/
theorem upserts_active (hostId : HostId) (kind : ObjectKind) (l : List (ObjectId × Reported)) (objects : ObjectId → Option ObjectRow)
    (howned : ∀ id row, objects id = some row → row.objectId = id) {row' : ObjectRow}
    (h : l.foldl (Estate.upsert hostId kind) objects id = some row') :
    row'.objectId = id ∧ ∀ a, row'.activeIntent = some a → ∃ row, objects id = some row ∧ row.activeIntent = some a := by
  induction l generalizing objects with
  | nil => exact ⟨howned id row' h,fun a ha => ⟨row',h,ha⟩⟩
  | cons seen l ih =>
    have hupsert : ∀ other row, Estate.upsert hostId kind objects seen other = some row →
        row.objectId = other ∧ ∀ a, row.activeIntent = some a → ∃ row, objects other = some row ∧ row.activeIntent = some a := by
      intro other row hrow
      by_cases hid : other = seen.1
      · subst hid
        simp only [Estate.upsert,Function.update_self,Option.some.injEq] at hrow
        cases ho : objects seen.1 with
        | none =>
          simp only [ho] at hrow
          subst hrow
          exact ⟨rfl,fun a ha => absurd ha (Option.some_ne_none a).symm⟩
        | some old =>
          simp only [ho] at hrow
          subst hrow
          have hold : old.objectId = seen.1 := howned _ _ ho
          unfold Estate.conflictRow
          split <;> exact ⟨hold,fun a ha => ⟨old,rfl,ha⟩⟩
      · rw [Estate.upsert,Function.update_of_ne hid] at hrow
        exact ⟨howned _ _ hrow,fun a ha => ⟨row,hrow,ha⟩⟩
    obtain ⟨hobj,hact⟩ := ih _ (fun other row hrow => (hupsert other row hrow).1) h
    refine ⟨hobj,fun a ha => ?_⟩
    obtain ⟨row,hrow,ha⟩ := hact a ha
    exact (hupsert id row hrow).2 a ha

end Rows

/-- What every reachable store keeps. -/
structure Inv (s : Store) : Prop where
  primary : (s.intents.map (·.intentId)).Nodup
  keys : ∀ row ∈ s.intents, row.fields.map CapturedField.key = adoptableKeys
  owned : ∀ id row, s.estate.objects id = some row → row.objectId = id
  adoptions : ∀ t ∈ s.transitions, ∃ row ∈ s.intents, row.intentId = t.intentId
  revisions : ∀ event ∈ s.revisions, ∃ row ∈ s.intents, row.intentId = event.intentId
  chain : ∀ id, Chain s id

namespace Inv

variable {s s' : Store} {id : ObjectId} {new : IntentRow}

theorem intentsOf_mem {row : IntentRow} (h : row ∈ s.intentsOf id) : row ∈ s.intents ∧ row.objectId = id := by
  simpa [Store.intentsOf] using h

theorem explanations_fresh (h : Inv s) {x : IntentId} (hx : ∀ r ∈ s.intents, r.intentId ≠ x) : explanations s x = 0 := by
  have htrans : (s.transitions.filter fun t => t.transition = .adopt ∧ t.intentId = x) = [] := by
    refine List.filter_eq_nil_iff.mpr fun t ht => ?_
    obtain ⟨r,hr,he⟩ := h.adoptions t ht
    simpa using fun _ => he ▸ hx r hr
  have hrev : s.revisions.filter (·.intentId = x) = [] := by
    refine List.filter_eq_nil_iff.mpr fun event hevent => ?_
    obtain ⟨r,hr,he⟩ := h.revisions event hevent
    simpa using he ▸ hx r hr
  rw [explanations,htrans,hrev]
  rfl

theorem last_of_active (h : Inv s) {row : ObjectRow} (hrow : s.estate.objects id = some row) {active : IntentRow}
    (hactive : s.activeFor row = some active) : ∃ stored, (s.intentsOf id).getLast? = some stored ∧
      active = {stored with fields := sortBy (·.field) stored.fields} ∧ active.fields = stored.fields := by
  obtain ⟨stored,hstored,hpoints,hobj,rfl⟩ := Store.activeFor_some hactive
  obtain ⟨last,hlast,hid⟩ := (h.chain id).active row stored.intentId hrow hpoints
  have hmem := intentsOf_mem (List.mem_of_getLast? hlast)
  obtain rfl : last = stored := List.inj_on_of_nodup_map h.primary hmem.1 hstored hid
  exact ⟨last,hlast,rfl,sort_keys (h.keys last hstored)⟩

/-- One more version of an object, with the event that explains it. -/
theorem extend (h : Inv s) (hobj : new.objectId = id) (hfresh : ∀ r ∈ s.intents, r.intentId ≠ new.intentId)
    (hversion : new.version = s.nextVersion id) (hsupersedes : new.supersedes = (s.intentsOf id).getLast?.map (·.intentId))
    (hkeys : new.fields.map CapturedField.key = adoptableKeys) (hintents : s'.intents = s.intents ++ [new])
    (hobjects : ∃ row, row.objectId = id ∧ row.activeIntent = some new.intentId ∧
      s'.estate.objects = Function.update s.estate.objects id (some row))
    (hexplained : ∀ x, explanations s' x = explanations s x + if x = new.intentId then 1 else 0)
    (hadoptions : ∀ t ∈ s'.transitions, t ∈ s.transitions ∨ t.intentId = new.intentId)
    (hrevisions : ∀ event ∈ s'.revisions, event ∈ s.revisions ∨ (event.intentId = new.intentId ∧ event.objectId = id ∧
      ∃ old ∈ s.intentsOf id, new.supersedes = some old.intentId)) : Inv s' := by
  have hmem : ∀ r ∈ s.intents, r ∈ s'.intents := fun r hr => hintents ▸ List.mem_append_left _ hr
  have hnew : new ∈ s'.intents := hintents ▸ List.mem_append_right _ (List.mem_singleton.mpr rfl)
  have hown : s'.intentsOf id = s.intentsOf id ++ [new] := by
    simp [Store.intentsOf,hintents,List.filter_append,hobj]
  have hother : ∀ other, other ≠ id → s'.intentsOf other = s.intentsOf other := fun other ho => by
    simp [Store.intentsOf,hintents,List.filter_append,hobj,Ne.symm ho]
  have hkept : ∀ other, ∀ r ∈ s.intentsOf other, r ∈ s'.intentsOf other := fun other r hr => by
    by_cases ho : other = id
    · rw [ho,hown]
      exact List.mem_append_left _ (ho ▸ hr)
    · rwa [hother other ho]
  have hallkeys : ∀ row ∈ s'.intents, row.fields.map CapturedField.key = adoptableKeys := fun row hr => by
    rw [hintents] at hr
    rcases List.mem_append.mp hr with hr | hr
    · exact h.keys row hr
    · rwa [List.mem_singleton.mp hr]
  obtain ⟨row₀,hrow₀,hactive₀,hobjects⟩ := hobjects
  refine ⟨?_,hallkeys,fun other row hrow => ?_,fun t ht => ?_,fun event hevent => ?_,fun other => ?_⟩
  · rw [hintents,List.map_append,List.map_singleton]
    refine List.nodup_append.mpr ⟨h.primary,List.nodup_singleton _,fun a ha b hb => ?_⟩
    obtain ⟨r,hr,rfl⟩ := List.mem_map.mp ha
    rw [List.mem_singleton.mp hb]
    exact hfresh r hr
  · rw [hobjects] at hrow
    by_cases ho : other = id
    · subst ho
      rw [Function.update_self] at hrow
      exact (Option.some.inj hrow) ▸ hrow₀
    · rw [Function.update_of_ne ho] at hrow
      exact h.owned other row hrow
  · rcases hadoptions t ht with ht | he
    · obtain ⟨r,hr,he⟩ := h.adoptions t ht
      exact ⟨r,hmem r hr,he⟩
    · exact ⟨new,hnew,he.symm⟩
  · rcases hrevisions event hevent with hevent | ⟨he,-⟩
    · obtain ⟨r,hr,he⟩ := h.revisions event hevent
      exact ⟨r,hmem r hr,he⟩
    · exact ⟨new,hnew,he.symm⟩
  · have hchain := h.chain other
    have hexplain : ∀ row ∈ s'.intentsOf other, explanations s' row.intentId = 1 := fun row hr => by
      rw [hexplained]
      obtain ⟨hin,hrobj⟩ := intentsOf_mem hr
      rw [hintents] at hin
      rcases List.mem_append.mp hin with hin | hin
      · rw [if_neg (hfresh row hin)]
        exact hchain.explained row (by simp [Store.intentsOf,hin,hrobj])
      · rw [List.mem_singleton.mp hin,if_pos rfl,h.explanations_fresh hfresh]
    have hcontrols : ∀ event ∈ s'.revisions, event.objectId = other → ∃ new ∈ s'.intentsOf other, ∃ old ∈ s'.intentsOf other,
        new.intentId = event.intentId ∧ new.supersedes = some old.intentId ∧
          new.fields.map CapturedField.key = old.fields.map CapturedField.key := by
      intro event hevent hobj'
      rcases hrevisions event hevent with hevent | ⟨he,heobj,old,hold,hsup⟩
      · obtain ⟨r,hr,old,hold,hid,hsup,hk⟩ := hchain.controls event hevent hobj'
        exact ⟨r,hkept other r hr,old,hkept other old hold,hid,hsup,hk⟩
      · obtain rfl : other = id := hobj'.symm.trans heobj
        exact ⟨new,hown ▸ List.mem_append_right _ (List.mem_singleton.mpr rfl),old,hkept other old hold,he.symm,hsup,
          hkeys.trans (h.keys old (intentsOf_mem hold).1).symm⟩
    by_cases ho : other = id
    · subst ho
      have hcount : new.version = 1 + (s.intentsOf other).length := by
        rw [hversion,Store.nextVersion,foldr_max_counted hchain.counted,Nat.add_comm]
      refine ⟨?_,?_,hexplain,fun row _ => row.pointed,fun row a hrow ha => ?_,hcontrols⟩
      · rw [hown,List.map_append,List.length_append,List.length_singleton,List.range'_1_concat,hchain.counted,List.map_singleton,
          hcount]
      · rw [hown]
        exact chained_concat.mpr ⟨hchain.chained,by rw [hsupersedes,Option.or_none]⟩
      · rw [hobjects,Function.update_self] at hrow
        cases hrow
        exact ⟨new,by rw [hown,List.getLast?_concat],Option.some.inj (hactive₀.symm.trans ha)⟩
    · refine ⟨?_,?_,hexplain,fun row _ => row.pointed,fun row a hrow ha => ?_,hcontrols⟩
      · rw [hother other ho]
        exact hchain.counted
      · rw [hother other ho]
        exact hchain.chained
      · rw [hobjects,Function.update_of_ne ho] at hrow
        rw [hother other ho]
        exact hchain.active row a hrow ha

/-- An operation that adds no version and points no object elsewhere. -/
theorem repoint (h : Inv s) (hintents : s'.intents = s.intents) (hrevisions : s'.revisions = s.revisions)
    (hadopts : ∀ x, (s'.transitions.filter fun t => t.transition = .adopt ∧ t.intentId = x) =
      s.transitions.filter fun t => t.transition = .adopt ∧ t.intentId = x)
    (htransitions : ∀ t ∈ s'.transitions, t ∈ s.transitions ∨ ∃ row ∈ s.intents, row.intentId = t.intentId)
    (howned : ∀ id row, s'.estate.objects id = some row → row.objectId = id)
    (hactive : ∀ id row a, s'.estate.objects id = some row → row.activeIntent = some a →
      ∃ old, s.estate.objects id = some old ∧ old.activeIntent = some a) : Inv s' := by
  have hof : ∀ id, s'.intentsOf id = s.intentsOf id := fun id => by rw [Store.intentsOf,Store.intentsOf,hintents]
  refine ⟨hintents ▸ h.primary,hintents ▸ h.keys,howned,fun t ht => ?_,hintents ▸ hrevisions ▸ h.revisions,fun id => ?_⟩
  · rw [hintents]
    rcases htransitions t ht with ht | hrow
    · exact h.adoptions t ht
    · exact hrow
  · have hchain := h.chain id
    refine ⟨?_,?_,fun row hr => ?_,fun row _ => row.pointed,fun row a hrow ha => ?_,?_⟩
    · rw [hof]
      exact hchain.counted
    · rw [hof]
      exact hchain.chained
    · rw [explanations,hadopts,hrevisions]
      exact hchain.explained row (hof id ▸ hr)
    · obtain ⟨old,hold,hpoints⟩ := hactive id row a hrow ha
      rw [hof]
      exact hchain.active old a hold hpoints
    · rw [hof,hrevisions]
      exact hchain.controls

end Inv

section Steps

variable {s s' : Store}

theorem inv_ingest {estate : Estate} {kind : ObjectKind} {sweep : SweepId} {batch : Batch} (h : Inv s)
    (he : s.estate.ingest kind sweep batch = some estate) (hestate : s'.estate = estate) (hintents : s'.intents = s.intents)
    (htransitions : s'.transitions = s.transitions) (hrevisions : s'.revisions = s.revisions) : Inv s' := by
  obtain ⟨-,rfl⟩ := Estate.ingest_eq he
  refine h.repoint hintents hrevisions (fun x => by rw [htransitions]) (fun t ht => .inl (htransitions ▸ ht))
    (fun id row hrow => ?_) fun id row a hrow ha => ?_
  · rw [hestate] at hrow
    exact (upserts_active _ _ _ _ h.owned hrow).1
  · rw [hestate] at hrow
    exact (upserts_active _ _ _ _ h.owned hrow).2 a ha

theorem kept_ingest {estate : Estate} {kind : ObjectKind} {sweep : SweepId} {batch : Batch}
    (he : s.estate.ingest kind sweep batch = some estate) (hestate : s'.estate = estate) : KeepsManaged s s' := by
  obtain ⟨-,rfl⟩ := Estate.ingest_eq he
  intro id row hrow hm
  rw [hestate]
  exact upserts_some _ _ _ _ row hrow hm

theorem ingestNetwork_tables {sweep : SweepId} {batch : Batch} {reported : List ReportedReading} {now : Instant}
    (h : s.ingestNetwork sweep batch reported now = .ok s') : s.estate.ingest .networkInterface sweep batch = some s'.estate ∧
      s'.intents = s.intents ∧ s'.transitions = s.transitions ∧ s'.revisions = s.revisions := by
  obtain ⟨estate,he,hfold⟩ := Store.ingestNetwork_ok h
  have hs' := Store.foldlM_evaluateSeen_ok hfold
  rw [hs']
  exact ⟨he,rfl,rfl,rfl⟩

theorem keys_of_plan (h : Inv s) {stored active : IntentRow} (hstored : stored ∈ s.intents) (hfields : active.fields = stored.fields)
    {o : Observation} {wanted : Wanted} {plan : RevisionPlan} (hplan : Store.planRevision active o wanted = .ok plan) :
    plan.fields.map CapturedField.key = adoptableKeys := by
  have hkeys : active.fields.map CapturedField.key = adoptableKeys := hfields ▸ h.keys stored hstored
  cases wanted with
  | explicit requested => exact (planExplicitRevision_keys (names_nodup hkeys) hplan).trans hkeys
  | runtime => exact (planRuntimeRevision_keys (fun f hf => hkeys ▸ List.mem_map_of_mem hf) hplan).trans hkeys

theorem inv_adopt {before : Store} {clock : Clock} {intentId : IntentId} {record : ObjectRecord} (h : Inv s)
    (hop : Store.adopt before s clock intentId record = .ok s') : Inv s' := by
  obtain ⟨row,o,findings,hrow,hstate,ho,hcomplete,hfresh,rfl,-⟩ := Store.adopt_ok hop
  have hchain := h.chain record.row.objectId
  have hobj : (s.adopted record.row.objectId intentId o).objectId = record.row.objectId := rfl
  have howned : (managedRow intentId row).objectId = record.row.objectId := h.owned _ row hrow
  refine h.extend hobj hfresh rfl ?_ (capture_complete hcomplete) rfl
    ⟨managedRow intentId row,howned,rfl,by simp [Store.recordTransition,Store.setObject,hrow]⟩ (fun x => ?_)
    (fun t ht => ?_) fun event hevent => .inl hevent
  · simp only [adopted,Store.previous,latest_counted hchain.counted]
  · simp only [explanations,Store.recordTransition,Store.setObject,adopted,List.filter_append,List.length_append]
    by_cases hx : x = intentId
    · simp [hx]
      omega
    · simp [hx,Ne.symm hx]
  · rcases List.mem_append.mp ht with ht | ht
    · exact .inl ht
    · exact .inr (List.mem_singleton.mp ht ▸ rfl)

theorem inv_revise {before : Store} {clock : Clock} {intentId : IntentId} {record : ObjectRecord} {wanted : Wanted}
    {expected : IntentId} {expectedVersion : Option ℕ} (h : Inv s)
    (hop : Store.revise before s clock intentId record wanted expected expectedVersion = .ok s') : Inv s' := by
  obtain ⟨row,active,o,plan,findings,hrow,hstate,hactive,rfl,ho,hplan,hfresh,rfl,-⟩ := Store.revise_ok hop
  obtain ⟨stored,hlast,hstored,hfields⟩ := h.last_of_active hrow hactive
  have hmem := List.mem_of_getLast? hlast
  have hid : active.intentId = stored.intentId := by rw [hstored]
  have hobj : (s.revised record.row.objectId intentId active.intentId o plan).objectId = record.row.objectId := rfl
  have howned : row.objectId = record.row.objectId := h.owned _ row hrow
  refine h.extend hobj hfresh rfl ?_ (keys_of_plan h (Inv.intentsOf_mem hmem).1 hfields hplan) rfl
    ⟨repointedRow intentId row,?_,?_,by simp [Store.recordRevision,Store.setObject,hrow]⟩ (fun x => ?_)
    (fun t ht => .inl ht) fun event hevent => ?_
  · simp [revised,hlast,hid]
  · unfold repointedRow
    split <;> exact howned
  · simp [repointedRow,hstate,revised]
  · simp only [explanations,Store.recordRevision,Store.setObject,revised,List.filter_append,List.length_append]
    by_cases hx : x = intentId
    · simp [hx]
      omega
    · simp [hx,Ne.symm hx]
  · rcases List.mem_append.mp hevent with hevent | hevent
    · exact .inl hevent
    · rw [List.mem_singleton.mp hevent]
      exact .inr ⟨rfl,rfl,stored,hmem,congrArg some hid⟩

theorem inv_release {record : ObjectRecord} (h : Inv s) (hop : Store.release s record = .ok s') : Inv s' := by
  obtain ⟨row,intentId,hrow,hstate,hactive,rfl⟩ := Store.release_ok hop
  have hobjects : ∀ id r, (Function.update s.estate.objects record.row.objectId (some (observedRow row))) id = some r →
      (id = record.row.objectId ∧ r = observedRow row) ∨ s.estate.objects id = some r := by
    intro id r hr
    by_cases hid : id = record.row.objectId
    · subst hid
      rw [Function.update_self] at hr
      exact .inl ⟨rfl,(Option.some.inj hr).symm⟩
    · rw [Function.update_of_ne hid] at hr
      exact .inr hr
  have hset : ((s.estate.objects record.row.objectId).map observedRow) = some (observedRow row) := by rw [hrow]; rfl
  refine h.repoint rfl rfl (fun x => ?_) (fun t ht => ?_) (fun id r hr => ?_) fun id r a hr ha => ?_
  · simp [Store.recordTransition,Store.setObject,List.filter_append]
  · rcases List.mem_append.mp ht with ht | ht
    · exact .inl ht
    · rw [List.mem_singleton.mp ht]
      obtain ⟨last,hlast,hid⟩ := (h.chain record.row.objectId).active row intentId hrow hactive
      exact .inr ⟨last,(Inv.intentsOf_mem (List.mem_of_getLast? hlast)).1,hid⟩
  · simp only [Store.recordTransition,Store.setObject,hset] at hr
    rcases hobjects id r hr with ⟨rfl,rfl⟩ | hr
    · exact h.owned _ row hrow
    · exact h.owned _ _ hr
  · simp only [Store.recordTransition,Store.setObject,hset] at hr
    rcases hobjects id r hr with ⟨rfl,rfl⟩ | hr
    · cases ha
    · exact ⟨r,hr,ha⟩

theorem inv_commit (h : Inv s) (op : Operation) : Inv (commit s op) := by
  unfold commit
  split
  · next s' hop =>
    cases op with
    | sweepNetwork sweep batch reported now =>
      obtain ⟨he,hi,ht,hr⟩ := ingestNetwork_tables hop
      exact inv_ingest h he rfl hi ht hr
    | sweepOther kind sweep batch =>
      obtain ⟨estate,he,rfl⟩ := Store.ingestOther_ok hop
      exact inv_ingest h he rfl rfl rfl rfl
    | adopt before clock intentId record => exact inv_adopt h hop
    | revise before clock intentId record wanted expected expectedVersion => exact inv_revise h hop
    | release record => exact inv_release h hop
  · exact h

end Steps

section Runs

variable {s : Store}

theorem kept_ingests (s : Store) (kind : ObjectKind) (sweep : SweepId) (batch : Batch) (reported : List ReportedReading)
    (now : Instant) : KeepsManaged s (commit s (.sweepNetwork sweep batch reported now)) ∧
      KeepsManaged s (commit s (.sweepOther kind sweep batch)) := by
  have hrefl : KeepsManaged s s := fun id row hrow hm => ⟨row,hrow,hm,rfl⟩
  constructor
  · unfold commit
    split
    · next s' hop => exact kept_ingest (ingestNetwork_tables hop).1 rfl
    · exact hrefl
  · unfold commit
    split
    · next s' hop =>
      obtain ⟨estate,he,rfl⟩ := Store.ingestOther_ok hop
      exact kept_ingest he rfl
    · exact hrefl

theorem commit_intents (s : Store) (op : Operation) : ∃ l, (commit s op).intents = s.intents ++ l := by
  unfold commit
  split
  · next s' hop =>
    cases op with
    | sweepNetwork sweep batch reported now => exact ⟨[],by rw [(ingestNetwork_tables hop).2.1,List.append_nil]⟩
    | sweepOther kind sweep batch =>
      obtain ⟨estate,he,rfl⟩ := Store.ingestOther_ok hop
      exact ⟨[],(List.append_nil _).symm⟩
    | adopt before clock intentId record =>
      obtain ⟨row,o,findings,-,-,-,-,-,rfl,-⟩ := Store.adopt_ok hop
      exact ⟨_,rfl⟩
    | revise before clock intentId record wanted expected expectedVersion =>
      obtain ⟨row,active,o,plan,findings,-,-,-,-,-,-,-,rfl,-⟩ := Store.revise_ok hop
      exact ⟨_,rfl⟩
    | release record =>
      obtain ⟨row,intentId,-,-,-,rfl⟩ := Store.release_ok hop
      exact ⟨[],(List.append_nil _).symm⟩
  · exact ⟨[],(List.append_nil _).symm⟩

theorem unsuperseded_last (h : Inv s) {id : ObjectId} {last r : IntentRow} (hlast : (s.intentsOf id).getLast? = some last)
    (hr : r ∈ s.intents) : r.supersedes ≠ some last.intentId := by
  intro hsup
  have hmem : r ∈ s.intentsOf r.objectId := by simp [Store.intentsOf,hr]
  rcases superseded_before (h.chain r.objectId).chained hmem hsup with hnone | hbefore
  · cases hnone
  obtain ⟨q,hq,hid⟩ := List.mem_map.mp hbefore
  have hqmem := Inv.intentsOf_mem (List.dropLast_subset _ hq)
  have hlmem := Inv.intentsOf_mem (List.mem_of_getLast? hlast)
  have heq : q = last := List.inj_on_of_nodup_map h.primary hqmem.1 hlmem.1 hid
  obtain rfl : r.objectId = id := hqmem.2.symm.trans (heq ▸ hlmem.2)
  -- the last row would stand before itself
  have hsplit := List.dropLast_append_getLast? last hlast
  have hnodup : (s.intentsOf r.objectId).Nodup := (List.Nodup.of_map _ h.primary).filter _
  rw [← hsplit] at hnodup
  exact (List.nodup_append.mp hnodup).2.2 q hq last (List.mem_singleton.mpr rfl) heq

/-- A revision is accepted against the last version, and is then what supersedes it. -/
theorem against_ok (h : Inv s) {op : Operation} {x : IntentId} (hx : x ∈ against s op) :
    against s op = [x] ∧ (∀ r ∈ s.intents, r.supersedes ≠ some x) ∧ ∃ r ∈ (commit s op).intents, r.supersedes = some x := by
  unfold against at hx
  split at hx
  · next before clock intentId record wanted expected expectedVersion =>
    split at hx
    · next s' hop =>
      obtain rfl := List.mem_singleton.mp hx
      have hcommit : commit s (.revise before clock intentId record wanted x expectedVersion) = s' := by
        simp only [commit,Operation.run,hop]
      have hagainst : against s (.revise before clock intentId record wanted x expectedVersion) = [x] := by
        simp only [against,hop]
      obtain ⟨row,active,o,plan,findings,hrow,-,hactive,rfl,-,-,-,rfl,-⟩ := Store.revise_ok hop
      obtain ⟨stored,hlast,hstored,-⟩ := h.last_of_active hrow hactive
      have hid : active.intentId = stored.intentId := by rw [hstored]
      refine ⟨hagainst,fun r hr => hid ▸ unsuperseded_last h hlast hr,?_⟩
      rw [hcommit]
      exact ⟨_,List.mem_append_right _ (List.mem_singleton.mpr rfl),rfl⟩
    · cases hx
  · cases hx

theorem reached_inv {c : State} (h : Machine.Reach machine Machine.free c) :
    Inv c.store ∧ c.won.Nodup ∧ ∀ x ∈ c.won, ∃ r ∈ c.store.intents, r.supersedes = some x := by
  let I : State → Prop := fun c => Inv c.store ∧ c.won.Nodup ∧ ∀ x ∈ c.won, ∃ r ∈ c.store.intents, r.supersedes = some x
  refine Machine.Reach.invariant (M:=machine) (I:=I) (fun c hc => ?_) (fun op c c' hI _ hs => ?_) h
  · obtain rfl : c = ⟨Store.empty,[]⟩ := hc
    refine ⟨⟨List.nodup_nil,by simp [Store.empty],by simp [Store.empty],by simp [Store.empty],by simp [Store.empty],fun id => ?_⟩,
      List.nodup_nil,by simp⟩
    exact ⟨rfl,trivial,by simp [Store.intentsOf,Store.empty],fun row _ => row.pointed,by simp [Store.empty],by simp [Store.empty]⟩
  · obtain ⟨hinv,hnodup,hwon⟩ := hI
    cases hs
    have hnext := inv_commit hinv op
    obtain ⟨l,hl⟩ := commit_intents c.store op
    refine ⟨hnext,?_,fun x hx => ?_⟩
    · refine List.nodup_append.mpr ⟨hnodup,?_,fun a ha b hb hab => ?_⟩
      · cases hb : against c.store op with
        | nil => exact List.nodup_nil
        | cons y rest =>
          have hmem : y ∈ against c.store op := by rw [hb]; exact List.mem_cons_self
          have hy := (against_ok hinv hmem).1
          rw [← hb,hy]
          exact List.nodup_singleton _
      · subst hab
        obtain ⟨r,hr,hsup⟩ := hwon a ha
        exact (against_ok hinv hb).2.1 r hr hsup
    · rcases List.mem_append.mp hx with hx | hx
      · obtain ⟨r,hr,hsup⟩ := hwon x hx
        exact ⟨r,hl ▸ List.mem_append_left _ hr,hsup⟩
      · exact (against_ok hinv hx).2.2

end Runs

theorem intent_chain (c : State) (h : Machine.Reach machine Machine.free c) :
    (∀ id, Chain c.store id) ∧ c.won.Nodup ∧ ∀ kind sweep batch reported now,
      KeepsManaged c.store (commit c.store (.sweepNetwork sweep batch reported now)) ∧
        KeepsManaged c.store (commit c.store (.sweepOther kind sweep batch)) :=
  ⟨(reached_inv h).1.chain,(reached_inv h).2.1,fun kind sweep batch reported now =>
    kept_ingests c.store kind sweep batch reported now⟩

def eth0Sweep (observedAt : Instant) (mtu : Int) : Batch :=
  ⟨"host","network.observe","linux.network","ok",[⟨some 7,"eth0","eth0",observedAt,
    [("name",.str "eth0"),("kind",.str "ethernet"),("admin_up",.bool true),("mtu",.num mtu)]⟩]⟩

def eth0Record (s : Store) : ObjectRecord :=
  (s.estate.get 7).getD ⟨⟨7,"host",.networkInterface,"eth0","eth0",.observed,"",none,ManagementState.observed_unpointed⟩,none⟩

/-- Adopted, revised by value, drifting, the drift adopted as intent, released, and adopted again. -/
def lifecycle : List Operation :=
  let adoptNow (s : Store) (intentId : IntentId) : Operation := .adopt s ⟨30,60⟩ intentId (eth0Record s)
  let reviseNow (s : Store) (intentId : IntentId) (wanted : Wanted) (expected : IntentId) : Operation :=
    .revise s ⟨30,60⟩ intentId (eth0Record s) wanted expected none
  let o₀ : Operation := .sweepNetwork 0 (eth0Sweep 10 1500) [] 11
  let s₀ := commit Store.empty o₀
  let o₁ := adoptNow s₀ 100
  let s₁ := commit s₀ o₁
  let o₂ := reviseNow s₁ 101 (.explicit [("mtu",.num 1400)]) 100
  let s₂ := commit s₁ o₂
  let o₃ : Operation := .sweepNetwork 1 (eth0Sweep 20 1300) [] 21
  let s₃ := commit s₂ o₃
  let o₄ := reviseNow s₃ 102 .runtime 101
  let s₄ := commit s₃ o₄
  let o₅ : Operation := .release (eth0Record s₄)
  let s₅ := commit s₄ o₅
  [o₀,o₁,o₂,o₃,o₄,o₅,adoptNow s₅ 103]

theorem intent_chain_of_lifecycle : ∃ c : State, c.store.intents.map (·.version) = [1,2,3,4] ∧ c.won = [100,101] ∧
    (∀ id, Chain c.store id) := by
  obtain ⟨c,hc,hp⟩ := Machine.exists_of_play (M:=machine) (R:=Machine.free) (s:=⟨Store.empty,[]⟩) rfl lifecycle
    (fun c => decide (c.store.intents.map (·.version) = [1,2,3,4]) && decide (c.won = [100,101])) (by decide)
  obtain ⟨hversions,hwon⟩ := Bool.and_eq_true_iff.mp hp
  exact ⟨c,of_decide_eq_true hversions,of_decide_eq_true hwon,(intent_chain c hc).1⟩

end Managed
end LocalPlane
