import LocalPlane.Management

/-!
# What each operation on the management axis does to the store

One law for each operation that commits: what held of the object it was given, and which
tables it leaves as they were.
-/

set_option linter.dupNamespace false

namespace LocalPlane

open LineProtocol (Json Fields)

section Refusals

variable {α β : Type} {b : β}

theorem bind_ok {ε : Type} {x : Except ε α} {f : α → Except ε β} : (x >>= f) = .ok b ↔ ∃ a, x = .ok a ∧ f a = .ok b := by
  cases x with
  | error e => exact ⟨fun h => (nomatch h),fun ⟨_,h,_⟩ => (nomatch h)⟩
  | ok a => exact ⟨fun h => ⟨a,rfl,h⟩,fun ⟨_,h,hf⟩ => by cases h; exact hf⟩

@[simp] theorem orElse_ok {o : Option α} {code : String} {a : α} : orElse o code = .ok a ↔ o = some a := by
  cases o <;> simp [orElse]

@[simp] theorem refuseIf_ok {c : Prop} [Decidable c] {code : String} {g : Unit → Except String β} :
    (refuseIf c code >>= g) = .ok b ↔ ¬c ∧ g () = .ok b := by
  unfold refuseIf
  split
  · next h => exact ⟨fun he => (nomatch he),fun ⟨hn,_⟩ => absurd h hn⟩
  · next h => exact ⟨fun he => ⟨h,he⟩,fun ⟨_,he⟩ => he⟩

theorem foldlM_ok_nil {g : β → α → Except String β} {t t' : β} : ([] : List α).foldlM g t = .ok t' ↔ t = t' := by
  simp [pure,Except.pure]

theorem foldlM_ok_cons {g : β → α → Except String β} {a : α} {l : List α} {t t' : β} :
    (a :: l).foldlM g t = .ok t' ↔ ∃ u, g t a = .ok u ∧ l.foldlM g u = .ok t' := by
  rw [List.foldlM_cons,bind_ok]

end Refusals

namespace Store

variable {s s' : Store} {id : ObjectId}

theorem insertIntent_ok {row : IntentRow} (h : s.insertIntent row = .ok s') :
    (∀ r ∈ s.intents, r.intentId ≠ row.intentId) ∧ row.fields.all (·.value.storable) ∧
      s' = {s with intents := s.intents ++ [row]} := by
  unfold insertIntent at h
  split at h
  · cases h
  · next hc =>
    obtain ⟨hany,hst,-⟩ : _ ∧ _ ∧ _ := by simpa only [not_or,not_not] using hc
    refine ⟨fun r hr heq => hany (List.any_eq_true.mpr ⟨r,hr,by simp [heq]⟩),hst,(Except.ok.inj h).symm⟩

theorem intent?_new {t : Store} {row : IntentRow} (hfresh : ∀ r ∈ s.intents, r.intentId ≠ row.intentId)
    (ht : t.intents = s.intents ++ [row]) : t.intent? row.intentId = some {row with fields := sortBy (·.field) row.fields} := by
  have hnone : s.intents.find? (·.intentId = row.intentId) = none :=
    List.find?_eq_none.mpr fun r hr => by simpa using hfresh r hr
  simp [intent?,ht,List.find?_append,hnone]

theorem evaluate_ok {record : ObjectRecord} {intent : IntentRow} {now : Instant} {revised : List String}
    (h : s.evaluate record intent now revised = .ok s') : ∃ findings, s' = {s with findings := findings} ∧
      (reconcile intent.capability intent.provider intent.fields record.observation).foldlM
        (evaluateField record.row.objectId intent.intentId (record.observation.map (·.sweepId)) now revised) s.findings =
        .ok findings := by
  obtain ⟨findings,hf,h⟩ := bind_ok.mp h
  exact ⟨findings,(Except.ok.inj h).symm,hf⟩

theorem evaluateOwnership_ok {record : ObjectRecord} {intent : IntentRow} {evidence : ProviderEvidence} {now : Instant}
    (h : s.evaluateOwnership record intent evidence now = .ok s') : ∃ conflicts, s' = {s with conflicts := conflicts} ∧
      relations.foldlM (evaluateRelation record.row.objectId intent.intentId
        (forObject record.row.kind record.observation evidence) evidence now) s.conflicts = .ok conflicts := by
  obtain ⟨conflicts,hc,h⟩ := bind_ok.mp h
  exact ⟨conflicts,(Except.ok.inj h).symm,hc⟩

theorem get_some {record : ObjectRecord} (h : s.estate.get id = some record) :
    s.estate.objects id = some record.row ∧ record.observation = s.estate.newest id := by
  obtain ⟨row,hrow,rfl⟩ := Option.map_eq_some_iff.mp h
  exact ⟨hrow,rfl⟩

theorem verifyAdoptable_ok {clock : Clock} {record : ObjectRecord} {o : Observation} {capture : Capture}
    (h : s.verifyAdoptable clock record = .ok (o,capture)) : record.row.managementState = .observed ∧
      record.observation = some o ∧ capture = captureInterfaceIntent o.facts ∧ capture.complete := by
  simp only [verifyAdoptable,refuseIf_ok,bind_ok (x:=orElse _ _),orElse_ok] at h
  obtain ⟨hmanaged,hobserve,o',ho,-,-,h⟩ := h
  split at h
  · cases h
  · simp only [refuseIf_ok] at h
    obtain ⟨hc,h⟩ := h
    cases h
    refine ⟨?_,ho,rfl,not_not.mp hc⟩
    cases hs : record.row.managementState with
    | observed => rfl
    | managed => exact absurd hs hmanaged
    | observeOnly => exact absurd hs hobserve

/-- The version an adoption retains. -/
def adopted (s : Store) (id : ObjectId) (intentId : IntentId) (o : Observation) : IntentRow :=
  ⟨intentId,id,s.nextVersion id,s.previous id,intentSchemaVersion,o.capability,o.provider,o.sweepId,
    (captureInterfaceIntent o.facts).fields⟩

theorem adopt_ok {before : Store} {clock : Clock} {intentId : IntentId} {record : ObjectRecord}
    (h : adopt before s clock intentId record = .ok s') :
    ∃ row o findings, s.estate.objects record.row.objectId = some row ∧ row.managementState = .observed ∧
      s.estate.newest record.row.objectId = some o ∧ (captureInterfaceIntent o.facts).complete ∧
      (∀ r ∈ s.intents, r.intentId ≠ intentId) ∧
      s' = {(({s with intents := s.intents ++ [s.adopted record.row.objectId intentId o]}).setObject record.row.objectId
        (managedRow intentId)).recordTransition ⟨record.row.objectId,.adopt,intentId⟩ with findings := findings} ∧
      (reconcile o.capability o.provider (sortBy (·.field) (captureInterfaceIntent o.facts).fields) (some o)).foldlM
        (evaluateField row.objectId intentId (some o.sweepId) clock.now []) s.findings = .ok findings := by
  simp only [adopt,bind_ok,orElse_ok] at h
  obtain ⟨-,-,current,hget,⟨o,capture⟩,hverify,s₁,hinsert,intent,hintent,heval⟩ := h
  obtain ⟨hrow,hobs⟩ := get_some hget
  obtain ⟨hstate,ho,rfl,hcomplete⟩ := verifyAdoptable_ok hverify
  obtain ⟨hfresh,-,rfl⟩ := insertIntent_ok hinsert
  obtain ⟨findings,rfl,hfold⟩ := evaluate_ok heval
  cases (intent?_new hfresh rfl).symm.trans hintent
  refine ⟨current.row,o,findings,hrow,hstate,hobs ▸ ho,hcomplete,hfresh,rfl,?_⟩
  rw [ho] at hfold
  exact hfold

theorem activeFor_some {row : ObjectRow} {intent : IntentRow} (h : s.activeFor row = some intent) :
    ∃ stored ∈ s.intents, row.activeIntent = some stored.intentId ∧ stored.objectId = row.objectId ∧
      intent = {stored with fields := sortBy (·.field) stored.fields} := by
  obtain ⟨hbind,hobj⟩ := Option.filter_eq_some_iff.mp h
  obtain ⟨a,ha,hget⟩ := Option.bind_eq_some_iff.mp hbind
  obtain ⟨stored,hfind,rfl⟩ := Option.map_eq_some_iff.mp hget
  have hid := List.find?_some hfind
  simp only [decide_eq_true_eq] at hid hobj
  exact ⟨stored,List.mem_of_find?_eq_some hfind,hid ▸ ha,hobj,rfl⟩

theorem verifyRevisable_ok {clock : Clock} {record : ObjectRecord} {expected : IntentId} {expectedVersion : Option ℕ}
    {active : IntentRow} {o : Observation} (h : s.verifyRevisable clock record expected expectedVersion = .ok (active,o)) :
    record.row.managementState = .managed ∧ s.activeFor record.row = some active ∧ active.intentId = expected ∧
      record.observation = some o ∧ o.capability = active.capability ∧ o.provider = active.provider := by
  simp only [verifyRevisable,refuseIf_ok,bind_ok (x:=orElse _ _),orElse_ok] at h
  obtain ⟨-,hmanaged,active',hactive,-,hexpected,o',ho,-,hsource,h⟩ := h
  split at h
  · cases h
  · cases h
    simp only [not_or,not_not] at hexpected hsource hmanaged
    exact ⟨hmanaged,hactive,hexpected.1,ho,hsource.1,hsource.2⟩

/-- The version a revision retains. -/
def revised (s : Store) (id : ObjectId) (intentId expected : IntentId) (o : Observation) (plan : RevisionPlan) : IntentRow :=
  ⟨intentId,id,s.nextVersion id,some expected,intentSchemaVersion,o.capability,o.provider,o.sweepId,plan.fields⟩

theorem revise_ok {before : Store} {clock : Clock} {intentId : IntentId} {record : ObjectRecord} {wanted : Wanted}
    {expected : IntentId} {expectedVersion : Option ℕ}
    (h : revise before s clock intentId record wanted expected expectedVersion = .ok s') :
    ∃ row active o plan findings, s.estate.objects record.row.objectId = some row ∧ row.managementState = .managed ∧
      s.activeFor row = some active ∧ active.intentId = expected ∧ s.estate.newest record.row.objectId = some o ∧
      planRevision active o wanted = .ok plan ∧ (∀ r ∈ s.intents, r.intentId ≠ intentId) ∧
      s' = {(({s with intents := s.intents ++ [s.revised record.row.objectId intentId expected o plan]}).setObject
        record.row.objectId (repointedRow intentId)).recordRevision ⟨record.row.objectId,plan.kind,intentId⟩ with
          findings := findings} ∧
      (reconcile o.capability o.provider (sortBy (·.field) plan.fields) (some o)).foldlM
        (evaluateField row.objectId intentId (some o.sweepId) clock.now (plan.changed.map (·.field))) s.findings =
        .ok findings := by
  simp only [revise,bind_ok,orElse_ok] at h
  obtain ⟨-,-,current,hget,⟨active,o⟩,hverify,plan,hplan,s₁,hinsert,intent,hintent,heval⟩ := h
  obtain ⟨hrow,hobs⟩ := get_some hget
  obtain ⟨hstate,hactive,rfl,ho,hcap,hprov⟩ := verifyRevisable_ok hverify
  obtain ⟨hfresh,-,rfl⟩ := insertIntent_ok hinsert
  obtain ⟨findings,rfl,hfold⟩ := evaluate_ok heval
  cases (intent?_new hfresh rfl).symm.trans hintent
  refine ⟨current.row,active,o,plan,findings,hrow,hstate,hactive,rfl,hobs ▸ ho,hplan,hfresh,rfl,?_⟩
  rw [ho] at hfold
  exact hfold

theorem release_ok {record : ObjectRecord} (h : release s record = .ok s') :
    ∃ row intentId, s.estate.objects record.row.objectId = some row ∧ row.managementState = .managed ∧
      row.activeIntent = some intentId ∧
      s' = {(s.setObject record.row.objectId observedRow).recordTransition ⟨record.row.objectId,.release,intentId⟩ with
        findings := (s.findings.openWhere (·.1 = record.row.objectId)).foldl (fun t r => t.resolve r.id .intentReleased) s.findings
        conflicts :=
          (s.conflicts.openWhere (·.1 = record.row.objectId)).foldl (fun t r => t.resolve r.id .intentReleased) s.conflicts} := by
  simp only [release,refuseIf_ok,bind_ok (x:=orElse _ _),orElse_ok] at h
  obtain ⟨-,current,hget,hmanaged,intent,hintent,h⟩ := h
  obtain ⟨hrow,-⟩ := get_some hget
  obtain ⟨a,ha,hfind⟩ := Option.bind_eq_some_iff.mp hintent
  obtain ⟨stored,hstored,rfl⟩ := Option.map_eq_some_iff.mp hfind
  have hid := List.find?_some hstored
  simp only [decide_eq_true_eq] at hid
  cases h
  exact ⟨current.row,_,hrow,not_not.mp hmanaged,hid ▸ ha,rfl⟩

/-- Evaluating an object a sweep saw touches only the claims. -/
theorem evaluateSeen_ok {evidence : ProviderEvidence} {now : Instant} (h : evaluateSeen evidence now s id = .ok s') :
    s' = {s with findings := s'.findings,conflicts := s'.conflicts} := by
  unfold evaluateSeen at h
  repeat' split at h
  all_goals try cases h; rfl
  obtain ⟨s₁,h₁,h₂⟩ := bind_ok.mp h
  obtain ⟨f,rfl,-⟩ := evaluate_ok h₁
  obtain ⟨c,rfl,-⟩ := evaluateOwnership_ok h₂
  rfl

theorem foldlM_evaluateSeen_ok {evidence : ProviderEvidence} {now : Instant} {l : List ObjectId}
    (h : l.foldlM (evaluateSeen evidence now) s = .ok s') : s' = {s with findings := s'.findings,conflicts := s'.conflicts} := by
  induction l generalizing s with
  | nil =>
    cases foldlM_ok_nil.mp h
    rfl
  | cons a l ih =>
    obtain ⟨u,hu,h⟩ := foldlM_ok_cons.mp h
    have hrest := ih h
    rw [evaluateSeen_ok hu] at hrest
    exact hrest

theorem ingestNetwork_ok {sweep : SweepId} {batch : Batch} {reported : List ReportedReading} {now : Instant}
    (h : s.ingestNetwork sweep batch reported now = .ok s') :
    ∃ estate, s.estate.ingest .networkInterface sweep batch = some estate ∧
      (batch.identified.map (·.1)).dedup.foldlM (evaluateSeen (providerRows reported []) now)
        {s with
          estate := estate
          readings := s.readings ++ (providerRows reported []).map fun r => (batch.hostId,r)} = .ok s' := by
  simp only [ingestNetwork,bind_ok (x:=orElse _ _),orElse_ok] at h
  exact h

theorem ingestOther_ok {kind : ObjectKind} {sweep : SweepId} {batch : Batch} (h : s.ingestOther kind sweep batch = .ok s') :
    ∃ estate, s.estate.ingest kind sweep batch = some estate ∧ s' = {s with estate := estate} := by
  obtain ⟨estate,he,h⟩ := bind_ok.mp h
  exact ⟨estate,orElse_ok.mp he,(Except.ok.inj h).symm⟩

end Store

open Store (ReportedReading Clock Wanted)

/-- What a request or a sweep asks of the store. -/
inductive Operation where
  | sweepNetwork (sweep : SweepId) (batch : Batch) (reported : List ReportedReading) (now : Instant)
  | sweepOther (kind : ObjectKind) (sweep : SweepId) (batch : Batch)
  | adopt (before : Store) (clock : Clock) (intentId : IntentId) (record : ObjectRecord)
  | revise (before : Store) (clock : Clock) (intentId : IntentId) (record : ObjectRecord) (wanted : Wanted)
      (expected : IntentId) (expectedVersion : Option ℕ)
  | release (record : ObjectRecord)

def Operation.run (s : Store) : Operation → Except String Store
  | .sweepNetwork sweep batch reported now => s.ingestNetwork sweep batch reported now
  | .sweepOther kind sweep batch => s.ingestOther kind sweep batch
  | .adopt before clock intentId record => Store.adopt before s clock intentId record
  | .revise before clock intentId record wanted expected expectedVersion =>
    Store.revise before s clock intentId record wanted expected expectedVersion
  | .release record => s.release record

end LocalPlane
