import LocalPlane.IntentChain
import Mathlib.Data.List.Dedup

/-!
# Drift findings agree with the read path

The findings are brought up to date by four operations under different triggers; what is
open is at any time what the read path would compute from the newest observation.
-/

set_option linter.dupNamespace false

namespace LocalPlane

open Store (ReportedReading Clock Wanted adopted revised managedRow repointedRow observedRow evaluateField)

namespace Managed

/-- What is open on a field once a comparison of it has been brought in. -/
def Fits (c : FieldComparison) (after : Option (ℕ × Drift)) : Prop :=
  match c.comparison with
  | .agrees => after = none
  | .differs => ∃ x, after = some x ∧ x.2.comparison = .differs
  | .unknown => ∀ x ∈ after, x.2.comparison = .unknown

/-- Nothing is opened or resolved on a field nobody could read. -/
def Spares (c : FieldComparison) (before after : Option (ℕ × Drift)) : Prop :=
  c.comparison = .unknown → after.map Prod.fst = before.map Prod.fst

/-- What is open on a field states the value the comparison was made with. -/
def States (c : FieldComparison) (after : Option (ℕ × Drift)) : Prop := ∀ x ∈ after, x.2.intended = c.intended

section Fields

variable {objectId : ObjectId} {intentId : IntentId} {sweepId : Option SweepId} {now : Instant} {names : List String}
  {t t' : Findings}

theorem evaluateField_ok {c : FieldComparison} (h : evaluateField objectId intentId sweepId now names t c = .ok t') :
    ∃ after, t'.current = Function.update t.current (objectId,c.intended.field) after ∧ Fits c after ∧
      Spares c (t.current (objectId,c.intended.field)) after ∧ States c after := by
  have hsame : t.openForKey (objectId,c.intended.field) = none →
      t.current = Function.update t.current (objectId,c.intended.field) none := fun hnone => by
    rw [← Episodes.current_none.mpr hnone,Function.update_eq_self]
  simp only [evaluateField] at h
  split at h
  · next hnone hc =>
    cases h
    exact ⟨none,hsame hnone,by simp [Fits,hc],by simp [Spares,hc],by simp [States]⟩
  · next r hr hc =>
    cases h
    exact ⟨none,Episodes.current_resolve hr _,by simp [Fits,hc],by simp [Spares,hc],by simp [States]⟩
  · next hnone hc =>
    cases h
    exact ⟨none,hsame hnone,by simp [Fits,hc],fun _ => by rw [Episodes.current_none.mpr hnone],by simp [States]⟩
  · next hnone hc =>
    split at h
    · exact ⟨_,Episodes.current_insert (orElse_ok.mp h),by simp [Fits,hc],by simp [Spares,hc],by simp [States]⟩
    · cases h
  · next r hr hc =>
    split at h
    · cases h
      exact ⟨_,Episodes.current_update hr _,by simp [Fits,hc],by simp [Spares,hc],by simp [States]⟩
    · cases h
  · next r hr hc =>
    split at h
    · cases h
      refine ⟨_,Episodes.current_update hr _,by simp [Fits,hc],fun _ => ?_,by simp [States]⟩
      simp [Episodes.current,hr]
    · cases h

/-- Every field of one object in turn. -/
theorem evaluateFields_ok {l : List FieldComparison} (hnodup : (l.map (·.intended.field)).Nodup)
    (h : l.foldlM (evaluateField objectId intentId sweepId now names) t = .ok t') :
    (∀ key, (∀ c ∈ l, key ≠ (objectId,c.intended.field)) → t'.current key = t.current key) ∧
      ∀ c ∈ l, Fits c (t'.current (objectId,c.intended.field)) ∧
        Spares c (t.current (objectId,c.intended.field)) (t'.current (objectId,c.intended.field)) ∧
        States c (t'.current (objectId,c.intended.field)) := by
  induction l generalizing t with
  | nil =>
    cases foldlM_ok_nil.mp h
    exact ⟨fun _ _ => rfl,fun c hc => nomatch hc⟩
  | cons c l ih =>
    obtain ⟨u,hu,h⟩ := foldlM_ok_cons.mp h
    obtain ⟨after,hafter,hfits,hspares,hstates⟩ := evaluateField_ok hu
    obtain ⟨hnot,hnodup⟩ := List.nodup_cons.mp hnodup
    obtain ⟨hframe,heach⟩ := ih hnodup h
    have hfree : ∀ d ∈ l, (objectId,c.intended.field) ≠ (objectId,d.intended.field) := fun d hd heq =>
      hnot (List.mem_map.mpr ⟨d,hd,(congrArg Prod.snd heq).symm⟩)
    refine ⟨fun key hkey => ?_,fun d hd => ?_⟩
    · rw [hframe key fun d hd => hkey d (List.mem_cons_of_mem _ hd),hafter,Function.update_of_ne (hkey c List.mem_cons_self)]
    · rcases List.mem_cons.mp hd with rfl | hd
      · rw [hframe _ hfree,hafter,Function.update_self]
        exact ⟨hfits,hspares,hstates⟩
      · obtain ⟨hf,hs,ht⟩ := heach d hd
        rw [hafter,Function.update_of_ne (hfree d hd).symm] at hs
        exact ⟨hf,hs,ht⟩

end Fields

/-- What is open about an object, against what the read path computes of it. -/
structure Settled (s : Store) (id : ObjectId) : Prop where
  unmanaged : (∀ row, s.estate.objects id = some row → row.managementState ≠ .managed) →
    ∀ field, s.findings.current (id,field) = none
  fits : ∀ fields, s.reconciliationFor id = some fields → ∀ c ∈ fields, Fits c (s.findings.current (id,c.intended.field))
  foreign : ∀ fields, s.reconciliationFor id = some fields → ∀ field, (∀ c ∈ fields, c.intended.field ≠ field) →
    s.findings.current (id,field) = none

/-- No field an operation leaves unread has a finding opened or resolved. -/
def SparesUnknown (s s' : Store) : Prop :=
  ∀ id fields, s'.reconciliationFor id = some fields → ∀ c ∈ fields,
    Spares c (s.findings.current (id,c.intended.field)) (s'.findings.current (id,c.intended.field))

section Reading

variable {s s' : Store} {id : ObjectId}

theorem reconciliationFor_some {fields : List FieldComparison} (h : s.reconciliationFor id = some fields) :
    ∃ row intent, s.estate.objects id = some row ∧ row.managementState = .managed ∧ s.activeFor row = some intent ∧
      fields = reconcile intent.capability intent.provider intent.fields (s.estate.newest id) := by
  unfold Store.reconciliationFor at h
  obtain ⟨record,hget,h⟩ := Option.bind_eq_some_iff.mp h
  obtain ⟨hrow,hobs⟩ := Store.get_some hget
  split at h
  · cases h
  · next hm =>
    obtain ⟨intent,hintent,h⟩ := Option.bind_eq_some_iff.mp h
    cases h
    exact ⟨record.row,intent,hrow,not_not.mp hm,hintent,by rw [hobs]⟩

theorem reconciliationFor_of {row : ObjectRow} {intent : IntentRow} (hrow : s.estate.objects id = some row)
    (hm : row.managementState = .managed) (hintent : s.activeFor row = some intent) :
    s.reconciliationFor id = some (reconcile intent.capability intent.provider intent.fields (s.estate.newest id)) := by
  simp [Store.reconciliationFor,Estate.get,hrow,hm,hintent]

theorem activeFor_of (h : Inv s) {row : ObjectRow} {stored : IntentRow} (hstored : stored ∈ s.intents)
    (hobj : stored.objectId = row.objectId) (hpoints : row.activeIntent = some stored.intentId) :
    s.activeFor row = some stored := by
  have hfind : s.intents.find? (·.intentId = stored.intentId) = some stored := by
    cases hf : s.intents.find? (·.intentId = stored.intentId) with
    | none => simpa using List.find?_eq_none.mp hf stored hstored
    | some r =>
      have hid := List.find?_some hf
      simp only [decide_eq_true_eq] at hid
      rw [List.inj_on_of_nodup_map h.primary (List.mem_of_find?_eq_some hf) hstored hid]
  simp [Store.activeFor,Store.intent?,hpoints,hfind,← hobj,sort_keys (h.keys stored hstored)]

/-- A managed object always has an intent to compare with. -/
theorem exists_active (h : Inv s) {row : ObjectRow} (hrow : s.estate.objects id = some row)
    (hm : row.managementState = .managed) :
    ∃ stored, s.activeFor row = some stored ∧ stored.fields.map CapturedField.key = adoptableKeys := by
  obtain ⟨a,ha⟩ := Option.isSome_iff_exists.mp (row.pointed.mp hm)
  obtain ⟨last,hlast,rfl⟩ := (h.chain id).active row a hrow ha
  have hmem := Inv.intentsOf_mem (List.mem_of_getLast? hlast)
  exact ⟨last,activeFor_of h hmem.1 (hmem.2.trans (h.owned id row hrow).symm) ha,h.keys last hmem.1⟩

theorem nodup_reconcile {capability provider : String} {fields : List CapturedField} {o : Option Observation}
    (hkeys : fields.map CapturedField.key = adoptableKeys) :
    ((reconcile capability provider fields o).map (·.intended.field)).Nodup := by
  have hnames : (reconcile capability provider fields o).map (·.intended.field) = fields.map (·.field) :=
    calc (reconcile capability provider fields o).map (·.intended.field)
        = ((reconcile capability provider fields o).map (·.intended)).map (·.field) := by rw [List.map_map]; rfl
      _ = fields.map (·.field) := by rw [reconcile_intended]
  rw [hnames]
  exact names_nodup hkeys

/-- The intent in force for an object is found again among more intents. -/
theorem activeFor_grown {row row' : ObjectRow} {intent : IntentRow} (hactive : s.activeFor row = some intent)
    (hpoints : row'.activeIntent = row.activeIntent) (howned : row'.objectId = row.objectId)
    (hintents : ∃ l, s'.intents = s.intents ++ l) : s'.activeFor row' = some intent := by
  obtain ⟨l,hl⟩ := hintents
  obtain ⟨hbind,hobj⟩ := Option.filter_eq_some_iff.mp hactive
  obtain ⟨a,ha,hget⟩ := Option.bind_eq_some_iff.mp hbind
  obtain ⟨r,hfind,hr⟩ := Option.map_eq_some_iff.mp hget
  refine Option.filter_eq_some_iff.mpr ⟨Option.bind_eq_some_iff.mpr ⟨a,hpoints.trans ha,?_⟩,by rw [howned]; exact hobj⟩
  rw [Store.intent?,hl,List.find?_append,hfind]
  exact congrArg some hr

/-- Tables that say the same of an object read the same. -/
theorem reconciliationFor_congr (h : Inv s) (hrow : s'.estate.objects id = s.estate.objects id)
    (hnewest : s'.estate.newest id = s.estate.newest id) (hintents : ∃ l, s'.intents = s.intents ++ l) :
    s'.reconciliationFor id = s.reconciliationFor id := by
  cases hs : s.estate.objects id with
  | none => simp [Store.reconciliationFor,Estate.get,hrow,hs]
  | some row =>
    by_cases hm : row.managementState = .managed
    · obtain ⟨stored,hactive,-⟩ := exists_active h hs hm
      have hactive' := activeFor_grown hactive rfl rfl hintents
      rw [reconciliationFor_of (hrow.trans hs) hm hactive',reconciliationFor_of hs hm hactive,hnewest]
    · simp [Store.reconciliationFor,Estate.get,hrow,hs,hm]

theorem Settled.congr (h : Inv s) (hsettled : Settled s id) (hrow : s'.estate.objects id = s.estate.objects id)
    (hnewest : s'.estate.newest id = s.estate.newest id) (hintents : ∃ l, s'.intents = s.intents ++ l)
    (hfindings : ∀ field, s'.findings.current (id,field) = s.findings.current (id,field)) : Settled s' id := by
  have hread := reconciliationFor_congr h hrow hnewest hintents
  refine ⟨fun hun field => ?_,fun fields hf c hc => ?_,fun fields hf field hfield => ?_⟩
  · rw [hfindings]
    exact hsettled.unmanaged (fun row hr => hun row (hrow.trans hr)) field
  · rw [hfindings]
    exact hsettled.fits fields (hread ▸ hf) c hc
  · rw [hfindings]
    exact hsettled.foreign fields (hread ▸ hf) field hfield

end Reading

section Evaluating

variable {s u u' : Store} {id : ObjectId}

/-- What an evaluation of an object may start from. -/
structure Ready (s : Store) (id : ObjectId) : Prop where
  unmanaged : (∀ row, s.estate.objects id = some row → row.managementState ≠ .managed) →
    ∀ field, s.findings.current (id,field) = none
  foreign : ∀ field, field ∉ adoptableKeys.map Prod.fst → s.findings.current (id,field) = none

theorem fields_of_keys {capability provider : String} {fields : List CapturedField} {o : Option Observation}
    (hkeys : fields.map CapturedField.key = adoptableKeys) {c : FieldComparison} (hc : c ∈ reconcile capability provider fields o) :
    c.intended.field ∈ adoptableKeys.map Prod.fst := by
  rw [← hkeys,List.map_map]
  exact List.mem_map_of_mem (f:=fun f => f.field) (reconcile_mem hc)

/-- Every adoptable field is compared. -/
theorem exists_compared {capability provider : String} {fields : List CapturedField} {o : Option Observation}
    (hkeys : fields.map CapturedField.key = adoptableKeys) {field : String} (hfield : field ∈ adoptableKeys.map Prod.fst) :
    ∃ c ∈ reconcile capability provider fields o, c.intended.field = field := by
  rw [← hkeys,List.map_map] at hfield
  obtain ⟨f,hf,rfl⟩ := List.mem_map.mp hfield
  rw [← reconcile_intended capability provider fields o] at hf
  obtain ⟨c,hc,rfl⟩ := List.mem_map.mp hf
  exact ⟨c,hc,rfl⟩

theorem Settled.ready (h : Inv s) (hs : Settled s id) : Ready s id := by
  refine ⟨hs.unmanaged,fun field hfield => ?_⟩
  cases hrow : s.estate.objects id with
  | none => exact hs.unmanaged (fun row hr => by rw [hrow] at hr; cases hr) field
  | some row =>
    by_cases hm : row.managementState = .managed
    · obtain ⟨stored,hactive,hkeys⟩ := exists_active h hrow hm
      exact hs.foreign _ (reconciliationFor_of hrow hm hactive) field fun c hc he => hfield (he ▸ fields_of_keys hkeys hc)
    · exact hs.unmanaged (fun r hr => by rw [hrow] at hr; cases hr; exact hm) field

/-- An object whose every controlled field was just compared. -/
theorem settled_of_evaluated {row : ObjectRow} {intent : IntentRow} {t : Findings} {intentId : IntentId} {sweepId : Option SweepId}
    {now : Instant} {names : List String} (hrow : s.estate.objects id = some row) (hm : row.managementState = .managed)
    (hactive : s.activeFor row = some intent) (hkeys : intent.fields.map CapturedField.key = adoptableKeys)
    (hforeign : ∀ field, field ∉ adoptableKeys.map Prod.fst → t.current (id,field) = none)
    (hfold : (reconcile intent.capability intent.provider intent.fields (s.estate.newest id)).foldlM
      (evaluateField id intentId sweepId now names) t = .ok s.findings) :
    Settled s id ∧ (∀ fields, s.reconciliationFor id = some fields → ∀ c ∈ fields,
      Spares c (t.current (id,c.intended.field)) (s.findings.current (id,c.intended.field))) ∧
      ∀ other, other ≠ id → ∀ field, s.findings.current (other,field) = t.current (other,field) := by
  obtain ⟨hframe,heach⟩ := evaluateFields_ok (nodup_reconcile hkeys) hfold
  have hread := reconciliationFor_of hrow hm hactive
  refine ⟨⟨fun hun => absurd hm (hun row hrow),fun fields hf c hc => ?_,fun fields hf field hfield => ?_⟩,
    fun fields hf c hc => ?_,fun other ho field => hframe _ fun c _ heq => ho (congrArg Prod.fst heq)⟩
  · cases hread.symm.trans hf
    exact (heach c hc).1
  · cases hread.symm.trans hf
    rw [hframe _ fun c hc heq => hfield c hc (congrArg Prod.snd heq).symm]
    refine hforeign field fun hmem => ?_
    obtain ⟨c,hc,hname⟩ := exists_compared hkeys hmem
    exact hfield c hc hname
  · cases hread.symm.trans hf
    exact (heach c hc).2.1

theorem Inv.claims (h : Inv s) (findings : Findings) (conflicts : Conflicts) :
    Inv {s with findings := findings,conflicts := conflicts} :=
  h.repoint rfl rfl (fun _ => rfl) (fun _ ht => .inl ht) h.owned fun _ row _ hr ha => ⟨row,hr,ha⟩

/-- One object a sweep saw. -/
theorem evaluateSeen_settles {evidence : ProviderEvidence} {now : Instant} (h : Inv u) (hready : Ready u id)
    (hop : Store.evaluateSeen evidence now u id = .ok u') :
    Settled u' id ∧ (∀ fields, u'.reconciliationFor id = some fields → ∀ c ∈ fields,
      Spares c (u.findings.current (id,c.intended.field)) (u'.findings.current (id,c.intended.field))) ∧
      ∀ other, other ≠ id → ∀ field, u'.findings.current (other,field) = u.findings.current (other,field) := by
  have hidle : u' = u → (∀ row, u.estate.objects id = some row → row.managementState ≠ .managed) →
      Settled u' id ∧ (∀ fields, u'.reconciliationFor id = some fields → ∀ c ∈ fields,
        Spares c (u.findings.current (id,c.intended.field)) (u'.findings.current (id,c.intended.field))) ∧
        ∀ other, other ≠ id → ∀ field, u'.findings.current (other,field) = u.findings.current (other,field) := by
    rintro rfl hun
    have hnone : ∀ fields, u'.reconciliationFor id ≠ some fields := fun fields hf => by
      obtain ⟨row,-,hrow,hm,-⟩ := reconciliationFor_some hf
      exact hun row hrow hm
    exact ⟨⟨hready.unmanaged,fun fields hf => absurd hf (hnone fields),fun fields hf => absurd hf (hnone fields)⟩,
      fun fields hf => absurd hf (hnone fields),fun _ _ _ => rfl⟩
  unfold Store.evaluateSeen at hop
  split at hop
  · next hget =>
    cases hop
    refine hidle rfl fun row hrow => ?_
    simp [Estate.get,hrow] at hget
  · next record hget =>
    obtain ⟨hrow,hobs⟩ := Store.get_some hget
    split at hop
    · next hm =>
      cases hop
      exact hidle rfl fun row hr => by rw [hrow] at hr; cases hr; exact hm
    · next hm =>
      obtain ⟨stored,hactive,hkeys⟩ := exists_active h hrow (not_not.mp hm)
      rw [hactive] at hop
      obtain ⟨u₁,hev,hown⟩ := bind_ok.mp hop
      obtain ⟨findings,rfl,hfold⟩ := Store.evaluate_ok hev
      obtain ⟨conflicts,rfl,-⟩ := Store.evaluateOwnership_ok hown
      rw [hobs,h.owned id _ hrow] at hfold
      exact settled_of_evaluated (s:={u with findings := findings,conflicts := conflicts}) hrow (not_not.mp hm) hactive hkeys
        hready.foreign hfold

/-- Every object a sweep saw, in any order. -/
theorem evaluateSeens_settle {evidence : ProviderEvidence} {now : Instant} {l : List ObjectId} (hnodup : l.Nodup) (h : Inv u)
    (hready : ∀ id ∈ l, Ready u id) (hop : l.foldlM (Store.evaluateSeen evidence now) u = .ok u') :
    (∀ id ∈ l, Settled u' id ∧ ∀ fields, u'.reconciliationFor id = some fields → ∀ c ∈ fields,
      Spares c (u.findings.current (id,c.intended.field)) (u'.findings.current (id,c.intended.field))) ∧
      ∀ id, id ∉ l → ∀ field, u'.findings.current (id,field) = u.findings.current (id,field) := by
  induction l generalizing u with
  | nil =>
    cases foldlM_ok_nil.mp hop
    exact ⟨fun id hid => (nomatch hid),fun _ _ _ => rfl⟩
  | cons a l ih =>
    obtain ⟨u₁,hfirst,hrest⟩ := foldlM_ok_cons.mp hop
    obtain ⟨hnot,hnodup⟩ := List.nodup_cons.mp hnodup
    obtain ⟨hsettled,hspares,hframe⟩ := evaluateSeen_settles h (hready a List.mem_cons_self) hfirst
    have hu₁ := Store.evaluateSeen_ok hfirst
    have hinv : Inv u₁ := by
      rw [hu₁]
      exact h.claims _ _
    have hready' : ∀ id ∈ l, Ready u₁ id := fun id hid => by
      have hne : id ≠ a := fun heq => hnot (heq ▸ hid)
      obtain ⟨hun,hfor⟩ := hready id (List.mem_cons_of_mem _ hid)
      have hobjects : u₁.estate = u.estate := by rw [hu₁]
      exact ⟨fun hu field => by rw [hframe id hne]; exact hun (hobjects ▸ hu) field,
        fun field hf => by rw [hframe id hne]; exact hfor field hf⟩
    obtain ⟨hall,hother⟩ := ih hnodup hinv hready' hrest
    have hu' := Store.foldlM_evaluateSeen_ok hrest
    have hread : ∀ id, u'.reconciliationFor id = u₁.reconciliationFor id := fun id =>
      reconciliationFor_congr hinv (by rw [hu']) (by rw [hu']) ⟨[],by rw [hu',List.append_nil]⟩
    refine ⟨fun id hid => ?_,fun id hid field => ?_⟩
    · rcases List.mem_cons.mp hid with rfl | hid
      · refine ⟨hsettled.congr hinv (by rw [hu']) (by rw [hu']) ⟨[],by rw [hu',List.append_nil]⟩ fun field => hother id hnot field,
          fun fields hf c hc => ?_⟩
        rw [hother id hnot]
        exact hspares fields ((hread id) ▸ hf) c hc
      · obtain ⟨hs,hsp⟩ := hall id hid
        refine ⟨hs,fun fields hf c hc => ?_⟩
        rw [← hframe id fun heq => hnot (heq ▸ hid)]
        exact hsp fields hf c hc
    · have hne : id ≠ a := fun heq => hid (heq ▸ List.mem_cons_self)
      have hrest : id ∉ l := fun hm => hid (List.mem_cons_of_mem _ hm)
      rw [hother id hrest,hframe id hne]

end Evaluating

section Operations

variable {s s' : Store} {id : ObjectId}

theorem upserts_other (hostId : HostId) (kind : ObjectKind) (l : List (ObjectId × Reported)) (objects : ObjectId → Option ObjectRow)
    (h : id ∉ l.map (·.1)) : l.foldl (Estate.upsert hostId kind) objects id = objects id := by
  induction l generalizing objects with
  | nil => rfl
  | cons seen l ih =>
    have hne : id ≠ seen.1 := fun heq => h (heq ▸ List.mem_cons_self)
    rw [List.foldl_cons,ih _ fun hm => h (List.mem_cons_of_mem _ hm),Estate.upsert,Function.update_of_ne hne]

theorem newest_other {e e' : Estate} {kind : ObjectKind} {sweep : SweepId} {batch : Batch}
    (he : e.ingest kind sweep batch = some e') (h : id ∉ batch.identified.map (·.1)) : e'.newest id = e.newest id := by
  obtain ⟨-,rfl⟩ := Estate.ingest_eq he
  have hnone : (batch.identified.map (Estate.observationOf sweep batch)).filter (·.objectId = id) = [] := by
    refine List.filter_eq_nil_iff.mpr fun o ho => ?_
    obtain ⟨seen,hseen,rfl⟩ := List.mem_map.mp ho
    have hne : seen.1 ≠ id := fun heq => h (heq ▸ List.mem_map_of_mem hseen)
    exact fun hd => hne (of_decide_eq_true hd)
  rw [Estate.newest,Estate.newest,Estate.observationsOf,Estate.observationsOf,List.filter_append,hnone,List.append_nil]

/-- The claim is kept, and no unread field is touched. -/
def Kept (s s' : Store) : Prop := (∀ id, Settled s' id) ∧ SparesUnknown s s'

theorem kept_network {sweep : SweepId} {batch : Batch} {reported : List ReportedReading} {now : Instant} (h : Inv s)
    (hs : ∀ id, Settled s id) (hop : s.ingestNetwork sweep batch reported now = .ok s') : Kept s s' := by
  obtain ⟨estate,he,hfold⟩ := Store.ingestNetwork_ok hop
  let u : Store := {s with
    estate := estate
    readings := s.readings ++ (Store.providerRows reported []).map fun r => (batch.hostId,r)}
  have hinv : Inv u := inv_ingest h he rfl rfl rfl rfl
  have hready : ∀ id ∈ (batch.identified.map (·.1)).dedup, Ready u id := fun id _ => by
    obtain ⟨hun,hfor⟩ := (hs id).ready h
    refine ⟨fun hu => hun fun row hrow hm => ?_,hfor⟩
    have hkeeps : KeepsManaged s u := kept_ingest he rfl
    obtain ⟨row',hrow',hm',-⟩ := hkeeps id row hrow hm
    exact hu row' hrow' hm'
  obtain ⟨hseen,hother⟩ := evaluateSeens_settle (List.nodup_dedup _) hinv hready hfold
  have hs' := Store.foldlM_evaluateSeen_ok hfold
  have hunseen : ∀ id, id ∉ (batch.identified.map (·.1)).dedup → s'.estate.objects id = s.estate.objects id ∧
      s'.estate.newest id = s.estate.newest id := fun id hid => by
    have hnot : id ∉ batch.identified.map (·.1) := fun hm => hid (List.mem_dedup.mpr hm)
    rw [hs']
    refine ⟨?_,newest_other he hnot⟩
    obtain ⟨-,rfl⟩ := Estate.ingest_eq he
    exact upserts_other _ _ _ _ hnot
  have hintents : ∃ l, s'.intents = s.intents ++ l := ⟨[],by rw [hs',List.append_nil]⟩
  constructor
  · intro id
    by_cases hid : id ∈ (batch.identified.map (·.1)).dedup
    · exact (hseen id hid).1
    · obtain ⟨hobj,hnew⟩ := hunseen id hid
      exact (hs id).congr h hobj hnew hintents fun field => hother id hid field
  · intro id fields hf c hc
    by_cases hid : id ∈ (batch.identified.map (·.1)).dedup
    · exact (hseen id hid).2 fields hf c hc
    · rw [hother id hid]
      exact fun _ => rfl

/-- An operation on one object that leaves every other as it was. -/
theorem kept_one (h : Inv s) (hs : ∀ id, Settled s id) (hone : Settled s' id)
    (hspares : ∀ fields, s'.reconciliationFor id = some fields → ∀ c ∈ fields,
      Spares c (s.findings.current (id,c.intended.field)) (s'.findings.current (id,c.intended.field)))
    (hobjects : ∀ other, other ≠ id → s'.estate.objects other = s.estate.objects other)
    (hobservations : s'.estate.observations = s.estate.observations) (hintents : ∃ l, s'.intents = s.intents ++ l)
    (hfindings : ∀ other, other ≠ id → ∀ field, s'.findings.current (other,field) = s.findings.current (other,field)) :
    Kept s s' := by
  have hnewest : ∀ other, s'.estate.newest other = s.estate.newest other := fun other => by
    rw [Estate.newest,Estate.newest,Estate.observationsOf,Estate.observationsOf,hobservations]
  constructor
  · intro other
    by_cases ho : other = id
    · exact ho ▸ hone
    · exact (hs other).congr h (hobjects other ho) (hnewest other) hintents (hfindings other ho)
  · intro other fields hf c hc
    by_cases ho : other = id
    · subst ho
      exact hspares fields hf c hc
    · rw [hfindings other ho]
      exact fun _ => rfl

/-- A new version of an object's intent is in force, and every field it controls has been compared. -/
structure Enforced (s s' : Store) (id : ObjectId) (new : IntentRow) : Prop where
  keys : new.fields.map CapturedField.key = adoptableKeys
  row : ∃ row, s'.estate.objects = Function.update s.estate.objects id (some row) ∧ row.managementState = .managed ∧
    s'.activeFor row = some new
  observations : s'.estate.observations = s.estate.observations
  intents : s'.intents = s.intents ++ [new]
  compared : ∃ intentId sweepId now names, (reconcile new.capability new.provider new.fields (s.estate.newest id)).foldlM
    (evaluateField id intentId sweepId now names) s.findings = .ok s'.findings

theorem Enforced.newest {new : IntentRow} (he : Enforced s s' id new) (other : ObjectId) :
    s'.estate.newest other = s.estate.newest other := by
  rw [Estate.newest,Estate.newest,Estate.observationsOf,Estate.observationsOf,he.observations]

theorem enforced_adopt {before : Store} {clock : Clock} {intentId : IntentId} {record : ObjectRecord} (h : Inv s)
    (hop : Store.adopt before s clock intentId record = .ok s') :
    ∃ row o, s.estate.objects record.row.objectId = some row ∧ row.managementState = .observed ∧
      s.estate.newest record.row.objectId = some o ∧
      Enforced s s' record.row.objectId (s.adopted record.row.objectId intentId o) := by
  have hinv := inv_adopt h hop
  obtain ⟨row,o,findings,hrow,hstate,ho,hcomplete,hfresh,heq,hfold⟩ := Store.adopt_ok hop
  have hkeys := capture_complete hcomplete
  have hobjects : s'.estate.objects = Function.update s.estate.objects record.row.objectId (some (managedRow intentId row)) := by
    rw [heq]
    simp [Store.recordTransition,Store.setObject,hrow]
  have hnew : s.adopted record.row.objectId intentId o ∈ s'.intents := by
    rw [heq]
    exact List.mem_append_right _ (List.mem_singleton.mpr rfl)
  have hactive : s'.activeFor (managedRow intentId row) = some (s.adopted record.row.objectId intentId o) :=
    activeFor_of hinv hnew (h.owned _ row hrow).symm rfl
  have hfindings : s'.findings = findings := by rw [heq]
  rw [h.owned _ row hrow,sort_keys hkeys,← hfindings,← ho] at hfold
  exact ⟨row,o,hrow,hstate,ho,hkeys,⟨_,hobjects,rfl,hactive⟩,by rw [heq]; rfl,by rw [heq]; rfl,_,_,_,_,hfold⟩

theorem enforced_revise {before : Store} {clock : Clock} {intentId : IntentId} {record : ObjectRecord} {wanted : Wanted}
    {expected : IntentId} {expectedVersion : Option ℕ} (h : Inv s)
    (hop : Store.revise before s clock intentId record wanted expected expectedVersion = .ok s') :
    ∃ row active o plan, s.estate.objects record.row.objectId = some row ∧ s.activeFor row = some active ∧
      s.estate.newest record.row.objectId = some o ∧ Store.planRevision active o wanted = .ok plan ∧
      Enforced s s' record.row.objectId (s.revised record.row.objectId intentId expected o plan) := by
  have hinv := inv_revise h hop
  obtain ⟨row,active,o,plan,findings,hrow,hstate,hactive,-,ho,hplan,hfresh,heq,hfold⟩ := Store.revise_ok hop
  obtain ⟨stored,hlast,-,hstored⟩ := h.last_of_active hrow hactive
  have hkeys := keys_of_plan h (Inv.intentsOf_mem (List.mem_of_getLast? hlast)).1 hstored hplan
  have hobjects : s'.estate.objects = Function.update s.estate.objects record.row.objectId (some (repointedRow intentId row)) := by
    rw [heq]
    simp [Store.recordRevision,Store.setObject,hrow]
  have hrepointed : repointedRow intentId row = {row with activeIntent := some intentId,pointed := by simpa using hstate} := by
    rw [repointedRow,dif_pos hstate]
  have hnew : s.revised record.row.objectId intentId expected o plan ∈ s'.intents := by
    rw [heq]
    exact List.mem_append_right _ (List.mem_singleton.mpr rfl)
  have hactive' : s'.activeFor (repointedRow intentId row) = some (s.revised record.row.objectId intentId expected o plan) :=
    activeFor_of hinv hnew (by rw [hrepointed]; exact (h.owned _ row hrow).symm) (by rw [hrepointed]; rfl)
  have hfindings : s'.findings = findings := by rw [heq]
  rw [h.owned _ row hrow,sort_keys hkeys,← hfindings,← ho] at hfold
  exact ⟨row,active,o,plan,hrow,hactive,ho,hplan,hkeys,⟨_,hobjects,by rw [hrepointed]; exact hstate,hactive'⟩,
    by rw [heq]; rfl,by rw [heq]; rfl,_,_,_,_,hfold⟩

theorem kept_enforced {new : IntentRow} (h : Inv s) (hs : ∀ id, Settled s id) (he : Enforced s s' id new) : Kept s s' := by
  obtain ⟨row,hobjects,hm,hactive⟩ := he.row
  obtain ⟨intentId,sweepId,now,names,hfold⟩ := he.compared
  have hrow : s'.estate.objects id = some row := by rw [hobjects,Function.update_self]
  rw [← he.newest id] at hfold
  obtain ⟨hsettled,hspares,hframe⟩ := settled_of_evaluated hrow hm hactive he.keys ((hs id).ready h).foreign hfold
  exact kept_one h hs hsettled hspares (fun other hother => by rw [hobjects,Function.update_of_ne hother]) he.observations
    ⟨_,he.intents⟩ hframe

theorem kept_release {record : ObjectRecord} (h : Inv s) (hs : ∀ id, Settled s id) (hop : Store.release s record = .ok s') :
    Kept s s' := by
  obtain ⟨row,intentId,hrow,hstate,hactive,heq⟩ := Store.release_ok hop
  have hcurrent : s'.findings.current = fun key => if key.1 = record.row.objectId then none else s.findings.current key := by
    rw [heq]
    exact (Episodes.current_foldl_resolve (fun key : ObjectId × String => key.1 = record.row.objectId) _).trans
      (funext fun key => by simp only [decide_eq_true_eq])
  have hobjects : s'.estate.objects = Function.update s.estate.objects record.row.objectId (some (observedRow row)) := by
    rw [heq]
    simp [Store.recordTransition,Store.setObject,hrow]
  have hnone : ∀ fields, s'.reconciliationFor record.row.objectId ≠ some fields := fun fields hf => by
    obtain ⟨r,-,hr,hm,-⟩ := reconciliationFor_some hf
    rw [hobjects,Function.update_self] at hr
    cases hr
    cases hm
  have hsettled : Settled s' record.row.objectId :=
    ⟨fun _ field => by rw [hcurrent]; exact if_pos rfl,fun fields hf => absurd hf (hnone fields),
      fun fields hf => absurd hf (hnone fields)⟩
  exact kept_one h hs hsettled (fun fields hf => absurd hf (hnone fields))
    (fun other hother => by rw [hobjects,Function.update_of_ne hother]) (by rw [heq]; rfl) ⟨[],by rw [heq,List.append_nil]; rfl⟩
    fun other hother field => by rw [hcurrent]; exact if_neg hother

end Operations

/-- Every operation but the sweeps of resources nobody can adopt. -/
def ofNetwork (_ : State) : Operation → Prop
  | .sweepOther .. => False
  | _ => True

instance : ∀ (c : machine.State) (op : machine.Act), Decidable (ofNetwork c op)
  | _,.sweepOther .. => .isFalse id
  | _,.sweepNetwork .. | _,.adopt .. | _,.revise .. | _,.release .. => .isTrue trivial

theorem kept_commit {s : Store} {op : Operation} {c : State} (h : Inv s) (hs : ∀ id, Settled s id) (hop : ofNetwork c op) :
    Kept s (commit s op) := by
  unfold commit
  split
  · next s' hrun =>
    cases op with
    | sweepNetwork sweep batch reported now => exact kept_network h hs hrun
    | sweepOther kind sweep batch => exact hop.elim
    | adopt before clock intentId record =>
      obtain ⟨row,o,-,-,-,he⟩ := enforced_adopt h hrun
      exact kept_enforced h hs he
    | revise before clock intentId record wanted expected expectedVersion =>
      obtain ⟨row,active,o,plan,-,-,-,-,he⟩ := enforced_revise h hrun
      exact kept_enforced h hs he
    | release record => exact kept_release h hs hrun
  · exact ⟨hs,fun id fields hf c hc _ => rfl⟩

theorem reached_settled {c : State} (h : Machine.Reach machine ofNetwork c) : Inv c.store ∧ ∀ id, Settled c.store id := by
  let I : State → Prop := fun c => Inv c.store ∧ ∀ id, Settled c.store id
  refine Machine.Reach.invariant (M:=machine) (I:=I) (fun c hc => ?_) (fun op c c' hI hop hs => ?_) h
  · obtain rfl : c = ⟨Store.empty,[]⟩ := hc
    exact ⟨(reached_inv (.start rfl)).1,fun id => ⟨fun _ _ => rfl,fun fields hf => (nomatch hf),fun fields hf => (nomatch hf)⟩⟩
  · cases hs
    exact ⟨inv_commit hI.1 op,(kept_commit hI.1 hI.2 hop).1⟩

/-- The findings of one object, against what the read path computes of it. -/
structure Agrees (s : Store) (id : ObjectId) : Prop where
  unmanaged : (∀ row, s.estate.objects id = some row → row.managementState ≠ .managed) →
    ∀ field, s.findings.openForKey (id,field) = none
  reconciled : ∀ row, s.estate.objects id = some row → row.managementState = .managed → (s.reconciliationFor id).isSome
  single : ∀ field, (s.findings.openWhere (· = (id,field))).length ≤ 1
  differs : ∀ fields, s.reconciliationFor id = some fields → ∀ field,
    (∃ finding ∈ s.findings.rows, finding.isOpen ∧ finding.key = (id,field) ∧ finding.evidence.comparison = .differs) ↔
      ∃ c ∈ driftedFields fields, c.intended.field = field
  agreeing : ∀ fields, s.reconciliationFor id = some fields → ∀ c ∈ fields, c.comparison = .agrees →
    s.findings.openForKey (id,c.intended.field) = none

theorem Settled.agrees {s : Store} {id : ObjectId} (h : Inv s) (hs : Settled s id) : Agrees s id := by
  refine ⟨fun hun field => Episodes.current_none.mp (hs.unmanaged hun field),fun row hrow hm => ?_,
    fun field => s.findings.openWhere_single _,fun fields hf field => ⟨?_,?_⟩,fun fields hf c hc ha => ?_⟩
  · obtain ⟨stored,hactive,-⟩ := exists_active h hrow hm
    exact Option.isSome_iff_exists.mpr ⟨_,reconciliationFor_of hrow hm hactive⟩
  · rintro ⟨finding,hmem,hopen,hkey,hdiffers⟩
    have hcurrent : s.findings.current (id,field) = some (finding.id,finding.evidence) :=
      Episodes.current_some.mpr ⟨finding,hmem,hopen,hkey,rfl⟩
    by_cases hc : ∃ c ∈ fields, c.intended.field = field
    · obtain ⟨c,hc,rfl⟩ := hc
      have hfits := hs.fits fields hf c hc
      rw [hcurrent] at hfits
      refine ⟨c,List.mem_filter.mpr ⟨hc,decide_eq_true ?_⟩,rfl⟩
      cases hcmp : c.comparison with
      | differs => rfl
      | agrees =>
        simp only [Fits,hcmp] at hfits
        cases hfits
      | unknown =>
        simp only [Fits,hcmp] at hfits
        exact absurd (hdiffers.symm.trans (hfits _ rfl)) (by decide)
    · have hnone := hs.foreign fields hf field fun c hmem heq => hc ⟨c,hmem,heq⟩
      rw [hcurrent] at hnone
      cases hnone
  · rintro ⟨c,hc,rfl⟩
    obtain ⟨hc,hcmp⟩ := List.mem_filter.mp hc
    have hfits := hs.fits fields hf c hc
    simp only [Fits,of_decide_eq_true hcmp] at hfits
    obtain ⟨x,hx,hdiffers⟩ := hfits
    obtain ⟨finding,hmem,hopen,hkey,rfl⟩ := Episodes.current_some.mp hx
    exact ⟨finding,hmem,hopen,hkey,hdiffers⟩
  · have hfits := hs.fits fields hf c hc
    simp only [Fits,ha] at hfits
    exact Episodes.current_none.mp hfits

/-- The finding open on a field nobody could read is the one that was open before, if any. -/
def UnreadKept (s s' : Store) : Prop :=
  ∀ id fields, s'.reconciliationFor id = some fields → ∀ c ∈ fields, c.comparison = .unknown →
    (s'.findings.openForKey (id,c.intended.field)).map (·.id) = (s.findings.openForKey (id,c.intended.field)).map (·.id)

theorem findings_agree (c : State) (h : Machine.Reach machine ofNetwork c) :
    (∀ id, Agrees c.store id) ∧ ∀ op, ofNetwork c op → UnreadKept c.store (commit c.store op) := by
  obtain ⟨hinv,hs⟩ := reached_settled h
  refine ⟨fun id => (hs id).agrees hinv,fun op hop id fields hf comparison hc hunknown => ?_⟩
  have hspares := (kept_commit hinv hs hop).2 id fields hf comparison hc hunknown
  simpa [Episodes.current,Option.map_map,Function.comp_def] using hspares

/-- One drift opened by a sweep and ended by adopting the runtime. -/
theorem findings_agree_of_lifecycle : ∃ c : State, c.store.findings.rows.length = 1 ∧ ∀ id, Agrees c.store id := by
  obtain ⟨c,hc,hp⟩ := Machine.exists_of_play (M:=machine) (R:=ofNetwork) (s:=⟨Store.empty,[]⟩) rfl lifecycle
    (fun c => decide (c.store.findings.rows.length = 1)) (by decide +kernel)
  exact ⟨c,of_decide_eq_true hp,(findings_agree c hc).1⟩

end Managed
end LocalPlane
