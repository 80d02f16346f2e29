import LocalPlane.Estate
import LocalPlane.StableSort
import Mathlib.Algebra.Group.Int.Defs
import Mathlib.Data.String.Basic

/-!
# What is intended of an interface, and comparing it with what is observed

Reading intent out of an observation, planning the two kinds of revision, and the typed
field by field comparison of an intent with the newest observation.
-/

set_option linter.dupNamespace false

namespace LocalPlane

open LineProtocol (Json Fields)

def intentSchemaVersion : ℕ := 1

inductive ValueType where
  | boolean | integer
  deriving DecidableEq

inductive Value where
  | bool (value : Bool)
  | int (value : Int)
  deriving DecidableEq

/-- Both kinds of value sit in one integer column of 64 bits. -/
def Value.encode : Value → Int
  | .bool b => if b then 1 else 0
  | .int n => n

def Value.storable (v : Value) : Bool := -2 ^ 63 ≤ v.encode ∧ v.encode < 2 ^ 63

/-- A truth value is not taken for a number, and an MTU is positive. -/
def coerce : ValueType → Json → Option Value
  | .boolean,.bool b => some (.bool b)
  | .integer,.num n => if 0 < n then some (.int n) else none
  | _,_ => none

structure AdoptableField where
  name : String
  valueType : ValueType

def adoptableInterfaceFields : List AdoptableField := [⟨"admin_up",.boolean⟩,⟨"mtu",.integer⟩]

/-- The names and types of what every intent controls. -/
def adoptableKeys : List (String × ValueType) := adoptableInterfaceFields.map fun f => (f.name,f.valueType)

structure CapturedField where
  field : String
  valueType : ValueType
  value : Value
  deriving DecidableEq

/-- What a field is called and how its value reads. -/
def CapturedField.key (f : CapturedField) : String × ValueType := (f.field,f.valueType)

structure UncapturableField where
  field : String
  valueType : ValueType
  reason : String
  deriving DecidableEq

structure Capture where
  fields : List CapturedField
  uncapturable : List UncapturableField

def Capture.complete (c : Capture) : Bool := c.uncapturable.isEmpty

def captureField (facts : Fields) (f : AdoptableField) : CapturedField ⊕ UncapturableField :=
  match fact facts f.name with
  | .null => .inr ⟨f.name,f.valueType,"observed_value_unreadable"⟩
  | raw =>
    match coerce f.valueType raw with
    | none => .inr ⟨f.name,f.valueType,"observed_value_not_usable"⟩
    | some value => .inl ⟨f.name,f.valueType,value⟩

def captureInterfaceIntent (facts : Fields) : Capture where
  fields := adoptableInterfaceFields.filterMap fun f => (captureField facts f).getLeft?
  uncapturable := adoptableInterfaceFields.filterMap fun f => (captureField facts f).getRight?

structure FieldChange where
  field : String
  valueType : ValueType
  was : Value
  now : Value
  deriving DecidableEq

inductive RevisionKind where
  | explicit | runtimeAdoption
  deriving DecidableEq

structure RevisionPlan where
  kind : RevisionKind
  fields : List CapturedField
  changed : List FieldChange
  carriedForward : List String

/-- One supplied value: what it moves, or why it is refused. -/
def planField (current : List CapturedField) (field : String) (raw : Json) : Except String (CapturedField × CapturedField) :=
  if ¬adoptableInterfaceFields.any (·.name = field) then .error "unsupported_field"
  else match current.find? (·.field = field) with
    | none => .error "field_not_controlled"
    | some existing =>
      match coerce existing.valueType raw with
      | none => .error "invalid_field_value"
      | some value => .ok (existing,⟨field,existing.valueType,value⟩)

/-- The requested fields in turn, over what is planned and changed so far. -/
def planFields (current : List CapturedField) : List (String × Json) → List CapturedField → List FieldChange →
    Except String (List CapturedField × List FieldChange)
  | [],planned,changed => .ok (planned,changed)
  | (field,raw) :: rest,planned,changed =>
    match planField current field raw with
    | .error code => .error code
    | .ok (existing,new) => planFields current rest (planned.map fun f => if f.field = field then new else f)
        (if new.value ≠ existing.value then changed ++ [⟨field,existing.valueType,existing.value,new.value⟩] else changed)

def planExplicitRevision (current : List CapturedField) (requested : List (String × Json)) : Except String RevisionPlan :=
  if requested = [] then .error "empty_revision"
  else match planFields current requested current [] with
    | .error code => .error code
    | .ok (planned,changed) =>
      if changed = [] then .error "revision_changes_nothing"
      else .ok ⟨.explicit,planned,changed,
        (current.map (·.field)).filter fun field => ¬requested.any (·.1 = field)⟩

/-- Only the fields the active intent controls are taken, and every one of them must have been read. -/
def planRuntimeRevision (current : List CapturedField) (capture : Capture) : Except String RevisionPlan :=
  let observed (f : CapturedField) := capture.fields.find? (·.field = f.field)
  if current.any fun f => (observed f).isNone ∨ capture.uncapturable.any (·.field = f.field) then
    .error "controlled_values_unverified"
  else
    let fields := current.filterMap observed
    let changed := current.filterMap fun f => (observed f).bind fun now =>
      if now.value ≠ f.value then some ⟨f.field,f.valueType,f.value,now.value⟩ else none
    if changed = [] then .error "revision_changes_nothing" else .ok ⟨.runtimeAdoption,fields,changed,[]⟩

inductive Comparison where
  | agrees | differs | unknown
  deriving DecidableEq

structure FieldComparison where
  intended : CapturedField
  observed : Option Value
  comparison : Comparison
  reason : String
  deriving DecidableEq

def compareField (intended : CapturedField) (facts : Fields) : FieldComparison :=
  match fact facts intended.field with
  | .null => ⟨intended,none,.unknown,"observed_value_unreadable"⟩
  | raw =>
    match coerce intended.valueType raw with
    | none => ⟨intended,none,.unknown,"observed_value_not_usable"⟩
    | some observed =>
      if observed = intended.value then ⟨intended,some observed,.agrees,"observed_value_matches"⟩
      else ⟨intended,some observed,.differs,"observed_value_differs"⟩

/-- The verdict on each controlled field. An observation from another source is not compared at all. -/
def reconcile (capability provider : String) (intended : List CapturedField) : Option Observation → List FieldComparison
  | none => intended.map fun i => ⟨i,none,.unknown,"no_observation"⟩
  | some o =>
    if o.capability ≠ capability ∨ o.provider ≠ provider then
      intended.map fun i => ⟨i,none,.unknown,"observation_source_incompatible"⟩
    else intended.map fun i => compareField i o.facts

inductive ReconciliationState where
  | inSync | drifted | unknown
  deriving DecidableEq

/-- A proven disagreement outranks a field nobody could read, and that outranks agreement. -/
def reconciliationState (fields : List FieldComparison) : ReconciliationState :=
  if fields = [] then .unknown
  else if fields.any (·.comparison = .differs) then .drifted
  else if fields.any (·.comparison = .unknown) then .unknown
  else .inSync

def driftedFields (fields : List FieldComparison) : List FieldComparison := fields.filter (·.comparison = .differs)

/-- What an observation read of a controlled field, if it could be read. -/
def CapturedField.reading (f : CapturedField) (o : Observation) : Option Value := coerce f.valueType (fact o.facts f.field)

@[simp] theorem compareField_intended (f : CapturedField) (facts : Fields) : (compareField f facts).intended = f := by
  simp only [compareField]
  repeat' split
  all_goals rfl

/-- The verdict on a field is that on what was read of it. -/
theorem compareField_comparison (f : CapturedField) (o : Observation) : (compareField f o.facts).comparison =
    match f.reading o with
    | none => .unknown
    | some v => if v = f.value then .agrees else .differs := by
  have hnull : coerce f.valueType .null = none := by cases f.valueType <;> rfl
  simp only [compareField,CapturedField.reading]
  split
  · next h => rw [h,hnull]
  · cases coerce f.valueType (fact o.facts f.field) with
    | none => rfl
    | some v => by_cases hv : v = f.value <;> simp [hv]

theorem reconcile_intended (capability provider : String) (intended : List CapturedField) (o : Option Observation) :
    (reconcile capability provider intended o).map (·.intended) = intended := by
  cases o with
  | none => simp [reconcile,Function.comp_def]
  | some o =>
    simp only [reconcile]
    split <;> simp [Function.comp_def]

theorem reconcile_mem {capability provider : String} {intended : List CapturedField} {o : Option Observation} {c : FieldComparison}
    (hc : c ∈ reconcile capability provider intended o) : c.intended ∈ intended := by
  rw [← reconcile_intended capability provider intended o]
  exact List.mem_map_of_mem hc

/-- A field is seen to differ by the observation it is compared with. -/
theorem reconcile_differs {capability provider : String} {intended : List CapturedField} {o : Option Observation}
    {c : FieldComparison} (hc : c ∈ reconcile capability provider intended o) (h : c.comparison = .differs) :
    ∃ seen ∈ o, ∃ v ∈ c.intended.reading seen, v ≠ c.intended.value := by
  cases o with
  | none =>
    obtain ⟨i,-,rfl⟩ := List.mem_map.mp hc
    cases h
  | some o =>
    simp only [reconcile] at hc
    split at hc
    · obtain ⟨i,-,rfl⟩ := List.mem_map.mp hc
      cases h
    · obtain ⟨i,-,rfl⟩ := List.mem_map.mp hc
      rw [compareField_comparison] at h
      cases hread : i.reading o with
      | none =>
        rw [hread] at h
        cases h
      | some v =>
        have hv : v ≠ i.value := fun hv => by simp [hread,hv] at h
        exact ⟨o,rfl,v,by simpa using hread,by simpa using hv⟩

/-- Against an observation of its own source, a field is unknown exactly when it could not be read. -/
theorem reconcile_unknown {o : Observation} {intended : List CapturedField} {c : FieldComparison}
    (hc : c ∈ reconcile o.capability o.provider intended (some o)) : c.comparison = .unknown ↔ c.intended.reading o = none := by
  simp only [reconcile,ne_eq,not_true_eq_false,or_self,if_false] at hc
  obtain ⟨i,-,rfl⟩ := List.mem_map.mp hc
  rw [compareField_comparison,compareField_intended]
  cases i.reading o with
  | none => simp
  | some v => by_cases hv : v = i.value <;> simp [hv]

/-- An object is reported drifted exactly when a controlled field is seen to differ. -/
theorem drifted_iff (fields : List FieldComparison) : reconciliationState fields = .drifted ↔ driftedFields fields ≠ [] := by
  unfold reconciliationState driftedFields
  split
  · next h => simp [h]
  · split
    · next h => simpa [List.filter_eq_nil_iff] using h
    · next h => 
      have hnone : fields.filter (·.comparison = .differs) = [] := by simpa [List.filter_eq_nil_iff] using h
      split <;> simp [hnone]

theorem captureField_key (facts : Fields) (f : AdoptableField) :
    ∀ c ∈ (captureField facts f).getLeft?, c.key = (f.name,f.valueType) := by
  intro c hc
  unfold captureField at hc
  split at hc
  · cases hc
  · split at hc
    · cases hc
    · cases hc
      rfl

/-- A complete capture reads every adoptable field, in order. -/
theorem capture_complete {facts : Fields} (h : (captureInterfaceIntent facts).complete) :
    (captureInterfaceIntent facts).fields.map CapturedField.key = adoptableKeys := by
  have hleft : ∀ f ∈ adoptableInterfaceFields, ∃ c, (captureField facts f).getLeft? = some c := by
    intro f hf
    cases hc : captureField facts f with
    | inl c => exact ⟨c,rfl⟩
    | inr u =>
      have hu : u ∈ (captureInterfaceIntent facts).uncapturable := List.mem_filterMap.mpr ⟨f,hf,by rw [hc]; rfl⟩
      rw [List.isEmpty_iff.mp h] at hu
      cases hu
  obtain ⟨a,ha⟩ := hleft ⟨"admin_up",.boolean⟩ (by simp [adoptableInterfaceFields])
  obtain ⟨m,hm⟩ := hleft ⟨"mtu",.integer⟩ (by simp [adoptableInterfaceFields])
  simp [captureInterfaceIntent,adoptableKeys,adoptableInterfaceFields,ha,hm,captureField_key facts _ a ha,
    captureField_key facts _ m hm]

theorem captured_reading {o : Observation} {c : CapturedField} (h : c ∈ (captureInterfaceIntent o.facts).fields) :
    c.reading o = some c.value := by
  obtain ⟨f,-,hc⟩ := List.mem_filterMap.mp h
  unfold captureField at hc
  split at hc
  · cases hc
  · split at hc
    · cases hc
    · next hv =>
      cases hc
      exact hv

/-- A planned field was planned before, or is one that was requested. -/
theorem planFields_mem {current : List CapturedField} {requested : List (String × Json)} {planned out : List CapturedField}
    {changed changed' : List FieldChange} (h : planFields current requested planned changed = .ok (out,changed'))
    {f : CapturedField} (hf : f ∈ out) : f ∈ planned ∨ f.field ∈ requested.map (·.1) := by
  induction requested generalizing planned changed with
  | nil =>
    cases h
    exact .inl hf
  | cons request rest ih =>
    obtain ⟨field,raw⟩ := request
    simp only [planFields] at h
    split at h
    · cases h
    · next existing new hplan =>
      rcases ih h with hmem | hmem
      · obtain ⟨g,hg,hgf⟩ := List.mem_map.mp hmem
        split at hgf
        · -- the new value stands under the requested name
          have hname : new.field = field := by
            unfold planField at hplan
            repeat' split at hplan
            all_goals cases hplan
            rfl
          exact .inr (by simp [← hgf,hname])
        · exact .inl (hgf ▸ hg)
      · exact .inr (List.mem_cons_of_mem _ hmem)

theorem planExplicitRevision_mem {current : List CapturedField} {requested : List (String × Json)} {plan : RevisionPlan}
    (h : planExplicitRevision current requested = .ok plan) {f : CapturedField} (hf : f ∈ plan.fields) :
    f ∈ current ∨ f.field ∈ requested.map (·.1) := by
  unfold planExplicitRevision at h
  split at h
  · cases h
  · split at h
    · cases h
    · next hplan =>
      split at h <;> cases h
      exact planFields_mem hplan hf

/-- A runtime revision retains only what was read. -/
theorem planRuntimeRevision_mem {current : List CapturedField} {capture : Capture} {plan : RevisionPlan}
    (h : planRuntimeRevision current capture = .ok plan) {f : CapturedField} (hf : f ∈ plan.fields) : f ∈ capture.fields := by
  unfold planRuntimeRevision at h
  dsimp only at h
  split at h
  · cases h
  · split at h <;> cases h
    obtain ⟨g,-,hg⟩ := List.mem_filterMap.mp hf
    exact List.mem_of_find?_eq_some hg

theorem planFields_keys {current : List CapturedField} {requested : List (String × Json)} {planned out : List CapturedField}
    {changed changed' : List FieldChange} (hkeys : planned.map CapturedField.key = current.map CapturedField.key)
    (hnodup : (current.map (·.field)).Nodup) (h : planFields current requested planned changed = .ok (out,changed')) :
    out.map CapturedField.key = current.map CapturedField.key := by
  induction requested generalizing planned changed with
  | nil =>
    cases h
    exact hkeys
  | cons request rest ih =>
    obtain ⟨field,raw⟩ := request
    simp only [planFields] at h
    split at h
    · cases h
    · next existing new hplan =>
      refine ih ?_ h
      rw [← hkeys,List.map_map]
      refine List.map_congr_left fun f hf => ?_
      simp only [Function.comp_apply]
      split
      · next hfield =>
        -- the planned field of that name has the key of the controlled one
        unfold planField at hplan
        split at hplan
        · cases hplan
        · split at hplan
          · cases hplan
          · next hfind =>
            split at hplan <;> cases hplan
            have hmem : f.key ∈ current.map CapturedField.key := hkeys ▸ List.mem_map_of_mem hf
            obtain ⟨g,hg,hgf⟩ := List.mem_map.mp hmem
            have hname : existing.field = field := of_decide_eq_true (List.find?_some hfind :)
            have hsame : g = existing := List.inj_on_of_nodup_map hnodup hg (List.mem_of_find?_eq_some hfind)
              (by rw [hname,← hfield]; exact congrArg Prod.fst hgf)
            rw [← hgf,hsame]
            exact Prod.ext hname.symm rfl
      · rfl

theorem planExplicitRevision_keys {current : List CapturedField} {requested : List (String × Json)} {plan : RevisionPlan}
    (hnodup : (current.map (·.field)).Nodup) (h : planExplicitRevision current requested = .ok plan) :
    plan.fields.map CapturedField.key = current.map CapturedField.key := by
  unfold planExplicitRevision at h
  split at h
  · cases h
  · split at h
    · cases h
    · next hplan =>
      split at h <;> cases h
      exact planFields_keys rfl hnodup hplan

theorem adoptableKeys_inj {name : String} {t t' : ValueType} (h : (name,t) ∈ adoptableKeys) (h' : (name,t') ∈ adoptableKeys) :
    t = t' := by
  simp only [adoptableKeys,adoptableInterfaceFields,List.map_cons,List.map_nil,List.mem_cons,Prod.mk.injEq,
    List.not_mem_nil,or_false] at h h'
  rcases h with ⟨rfl,rfl⟩ | ⟨rfl,rfl⟩ <;> rcases h' with ⟨hname,rfl⟩ | ⟨hname,rfl⟩ <;> first | rfl | simp at hname

theorem captured_adoptable {facts : Fields} {c : CapturedField} (h : c ∈ (captureInterfaceIntent facts).fields) :
    c.key ∈ adoptableKeys := by
  obtain ⟨f,hf,hc⟩ := List.mem_filterMap.mp h
  exact List.mem_map.mpr ⟨f,hf,(captureField_key facts f c hc).symm⟩

theorem map_key_filterMap {l : List CapturedField} {g : CapturedField → Option CapturedField}
    (h : ∀ f ∈ l, ∃ c, g f = some c ∧ c.key = f.key) : (l.filterMap g).map CapturedField.key = l.map CapturedField.key := by
  induction l with
  | nil => rfl
  | cons f rest ih =>
    obtain ⟨c,hc,hkey⟩ := h f (by simp)
    rw [List.filterMap_cons_some hc,List.map_cons,List.map_cons,hkey,ih fun g hg => h g (by simp [hg])]

/-- A runtime revision takes the fields of the intent it replaces, and all of them. -/
theorem planRuntimeRevision_keys {current : List CapturedField} {facts : Fields} {plan : RevisionPlan}
    (hcurrent : ∀ f ∈ current, f.key ∈ adoptableKeys)
    (h : planRuntimeRevision current (captureInterfaceIntent facts) = .ok plan) :
    plan.fields.map CapturedField.key = current.map CapturedField.key := by
  unfold planRuntimeRevision at h
  dsimp only at h
  split at h
  · cases h
  · next hread =>
    split at h <;> cases h
    simp only [List.any_eq_true,not_exists,not_and,decide_eq_true_eq,not_or] at hread
    refine map_key_filterMap fun f hf => ?_
    obtain ⟨c,hc⟩ := Option.ne_none_iff_exists'.mp fun hn => (hread f hf).1 (Option.isNone_iff_eq_none.mpr hn)
    have hname : c.field = f.field := of_decide_eq_true (List.find?_some hc :)
    have hcaptured := captured_adoptable (List.mem_of_find?_eq_some hc)
    have hown := hcurrent f hf
    rw [CapturedField.key,hname] at hcaptured
    exact ⟨c,hc,by rw [CapturedField.key,CapturedField.key,hname,adoptableKeys_inj hcaptured hown]⟩

end LocalPlane
