import LocalPlane.Containment
import LocalPlane.StoredPlan

/-!
# A lifecycle context on the wire

The agent sends its context as a JSON object and the backend reads one back. The reader takes
a flag by its truth, prints what is not a text and skips an edge that is no object, so what it
reads as complete need not have been said.
-/

set_option linter.dupNamespace false

namespace LocalPlane

open LineProtocol (Json Fields)
open Planning (SystemdLifecycleContext RuntimeOwnerCorrelation EffectEdge read_some optional_optional)

def Planning.SystemdLifecycleContext.complete (c : SystemdLifecycleContext) : Bool :=
  c.status = "complete" ∧ c.effectComplete ∧ c.managementComplete ∧ c.agentComplete ∧ c.gaps = []

namespace Lifecycle

def LifecycleContextObservation.asDict (o : LifecycleContextObservation) : Fields :=
  [("status",.str o.status),("observed_at",.str o.observedAt),("target_unit",.str o.targetUnit),("action",.str o.action),
    ("target_facts",.obj o.targetFacts),("effect_units",Planning.Json.texts o.effectUnits),
    ("effect_edges",.arr (o.effectEdges.map (·.asDict))),("effect_complete",.bool o.effectComplete),
    ("active_activation_sources",Planning.Json.texts o.activeActivationSources),
    ("active_upholding_sources",Planning.Json.texts o.activeUpholdingSources),
    ("management_units",Planning.Json.texts o.managementUnits),("management_complete",.bool o.managementComplete),
    ("connection_unit",Planning.Json.optional o.connectionUnit),
    ("connection_unit_type",Planning.Json.optional o.connectionUnitType),("agent_unit",Planning.Json.optional o.agentUnit),
    ("agent_complete",.bool o.agentComplete),("agent_unit_type",Planning.Json.optional o.agentUnitType),
    ("gaps",Planning.Json.texts o.gaps),("evidence",.obj o.evidence),("runtime_owner",o.runtimeOwner.elim .null (·.asDict))]

/-- `bool(x)`. -/
def truthy : Json → Bool
  | .null => false
  | .bool b => b
  | .num n => n ≠ 0
  | .str t => t ≠ ""
  | .arr items => !items.isEmpty
  | .obj fields => !fields.isEmpty

/-- What a loop over a value goes through: an object's keys, a text's characters. -/
def iterated : Json → Option (List Json)
  | .arr items => some items
  | .obj fields => some (fields.map fun field => .str field.1)
  | .str t => some (t.toList.map fun c => .str (String.singleton c))
  | _ => none

/-- A missing list is the empty one. -/
def each (raw : Fields) (key : String) : Option (List Json) := (raw.lookup key).elim (some []) iterated

def mapping : Json → Fields
  | .obj fields => fields
  | _ => []

section Lenient

-- how the language prints a value that is not a text
variable (print : Json → String)

/-- `str(x)`. -/
def text : Json → String
  | .str t => t
  | j => print j

def texts (raw : Fields) (key : String) : Option (List String) := (each raw key).map fun items => items.map (text print)

/-- An edge that is no object is skipped; one that lacks an end is refused. -/
def edge? : Json → Option (Option EffectEdge)
  | .obj e => do
    let source ← e.lookup "source"
    let relation ← e.lookup "relation"
    let target ← e.lookup "target"
    return some ⟨text print source,text print relation,text print target⟩
  | _ => some none

def edges (raw : Fields) : Option (List EffectEdge) :=
  ((each raw "effect_edges").bind fun items => items.mapM (edge? print)).map fun found => found.filterMap id

def present? : Json → Option String
  | .null => none
  | j => some (text print j)

variable (shapes : RuntimeOwnerCorrelation → Bool)

def fromDict (raw : Fields) : Option SystemdLifecycleContext := do
  let context : SystemdLifecycleContext :=
    ⟨text print ((raw.lookup "status").getD (.str "failed")),text print ((raw.lookup "observed_at").getD (.str "")),
      text print ((raw.lookup "target_unit").getD (.str "")),
      ← Spelled.read (text print ((raw.lookup "action").getD (.str "start"))),mapping (fact raw "target_facts"),
      ← texts print raw "effect_units",← edges print raw,truthy (fact raw "effect_complete"),
      ← texts print raw "active_activation_sources",← texts print raw "active_upholding_sources",
      ← texts print raw "management_units",truthy (fact raw "management_complete"),
      ← Planning.Json.optional? (fact raw "connection_unit"),← Planning.Json.optional? (fact raw "connection_unit_type"),
      present? print (fact raw "agent_unit"),truthy (fact raw "agent_complete"),
      ← Planning.Json.optional? (fact raw "agent_unit_type"),← texts print raw "gaps",mapping (fact raw "evidence"),
      ← SystemdLifecycleContext.ownerFromDict shapes (fact raw "runtime_owner"),
      present? print (fact raw "observation_id")⟩
  if context.check then return context else none

/-- A context holds what each field of an object is read as. -/
structure Reads (raw : Fields) (c : SystemdLifecycleContext) : Prop where
  status : text print ((raw.lookup "status").getD (.str "failed")) = c.status
  observedAt : text print ((raw.lookup "observed_at").getD (.str "")) = c.observedAt
  targetUnit : text print ((raw.lookup "target_unit").getD (.str "")) = c.targetUnit
  action : Spelled.read (text print ((raw.lookup "action").getD (.str "start"))) = some c.action
  targetFacts : mapping (fact raw "target_facts") = c.targetFacts
  effectUnits : texts print raw "effect_units" = some c.effectUnits
  effectEdges : edges print raw = some c.effectEdges
  effectComplete : truthy (fact raw "effect_complete") = c.effectComplete
  activeActivationSources : texts print raw "active_activation_sources" = some c.activeActivationSources
  activeUpholdingSources : texts print raw "active_upholding_sources" = some c.activeUpholdingSources
  managementUnits : texts print raw "management_units" = some c.managementUnits
  managementComplete : truthy (fact raw "management_complete") = c.managementComplete
  connectionUnit : Planning.Json.optional? (fact raw "connection_unit") = some c.connectionUnit
  connectionUnitType : Planning.Json.optional? (fact raw "connection_unit_type") = some c.connectionUnitType
  agentUnit : present? print (fact raw "agent_unit") = c.agentUnit
  agentComplete : truthy (fact raw "agent_complete") = c.agentComplete
  agentUnitType : Planning.Json.optional? (fact raw "agent_unit_type") = some c.agentUnitType
  gaps : texts print raw "gaps" = some c.gaps
  evidence : mapping (fact raw "evidence") = c.evidence
  runtimeOwner : SystemdLifecycleContext.ownerFromDict shapes (fact raw "runtime_owner") = some c.runtimeOwner
  observationId : present? print (fact raw "observation_id") = c.observationId

end Lenient

section Reading

variable {print : Json → String} {shapes : RuntimeOwnerCorrelation → Bool} {raw : Fields} {c : SystemdLifecycleContext}

theorem fromDict_some : fromDict print shapes raw = some c ↔ Reads print shapes raw c ∧ c.check = true := by
  constructor
  · intro h
    unfold fromDict at h
    obtain ⟨action,hA,h⟩ := Option.bind_eq_some_iff.mp h
    obtain ⟨units,hU,h⟩ := Option.bind_eq_some_iff.mp h
    obtain ⟨found,hE,h⟩ := Option.bind_eq_some_iff.mp h
    obtain ⟨activation,hAc,h⟩ := Option.bind_eq_some_iff.mp h
    obtain ⟨upholding,hUp,h⟩ := Option.bind_eq_some_iff.mp h
    obtain ⟨management,hM,h⟩ := Option.bind_eq_some_iff.mp h
    obtain ⟨connection,hC,h⟩ := Option.bind_eq_some_iff.mp h
    obtain ⟨connectionType,hCt,h⟩ := Option.bind_eq_some_iff.mp h
    obtain ⟨agentType,hAt,h⟩ := Option.bind_eq_some_iff.mp h
    obtain ⟨gaps,hG,h⟩ := Option.bind_eq_some_iff.mp h
    obtain ⟨owner,hO,h⟩ := Option.bind_eq_some_iff.mp h
    dsimp only at h
    split at h
    · next hcheck =>
      cases h
      exact ⟨⟨rfl,rfl,rfl,hA,rfl,hU,hE,rfl,hAc,hUp,hM,rfl,hC,hCt,rfl,rfl,hAt,hG,rfl,hO,rfl⟩,hcheck⟩
    · cases h
  · rintro ⟨h,hcheck⟩
    rw [fromDict,h.status,h.observedAt,h.targetUnit,h.targetFacts,h.effectComplete,h.managementComplete,h.agentUnit,
      h.agentComplete,h.evidence,h.observationId]
    exact read_some h.action <| read_some h.effectUnits <| read_some h.effectEdges <|
      read_some h.activeActivationSources <| read_some h.activeUpholdingSources <| read_some h.managementUnits <|
      read_some h.connectionUnit <| read_some h.connectionUnitType <| read_some h.agentUnitType <| read_some h.gaps <|
      read_some h.runtimeOwner <| if_pos hcheck

end Reading

section Agent

variable {s : Sources} {connection : Fields} {part : ManagementPart} {providers : List String} {owner : RuntimeOwnerCorrelation}
  {q : Asked}

/-- The reader asks who owns what runs in a cgroup: the accepted socket is in a unit that is not a service. -/
def AsksOwner (s : Sources) (connection : Fields) (path : String) : Prop :=
  (∃ inode, integer (fact connection "backend_netns_inode") = some inode ∧ s.networkNamespaceInode = some inode) ∧
    ∃ query unit unitType, acceptedTuple s connection = some query ∧ isLoopback s query.peerIp = false ∧
      isLoopback s query.localIp = false ∧ ContainsConnection s connection path unit unitType ∧ unitType ≠ some "service"

/-- The correlation a context carries, and what became of it. -/
structure Carries (s : Sources) (connection : Fields) (part : ManagementPart) (owner : RuntimeOwnerCorrelation) : Prop where
  asked : ∃ correlate path, s.correlate = some correlate ∧ AsksOwner s connection path ∧ correlate path = owner
  settled : (owner.status = .resolved ∧ ∃ unit, owner.ownerUnitId = some unit ∧ unit ∈ part.units) ∨
    ((owner.status = .resolved → ∀ unit ∈ owner.ownerUnitId, unit = "") ∧ part.complete = false ∧
      Planning.runtimeOwnerUmbrellaGap ∈ part.gaps ∧ ∀ gap ∈ owner.gaps, gap ∈ part.gaps)

theorem socketContext_asks {found : SocketContext} {path : String} (hs : socketContext s connection = found) (h : found.gap = none)
    (hpath : found.cgroupPath = some path) : ∃ query unit, acceptedTuple s connection = some query ∧
      isLoopback s query.peerIp = false ∧ isLoopback s query.localIp = false ∧
      ContainsConnection s connection path unit found.unitType := by
  obtain ⟨path',unit,-,hpath',hcontains⟩ := socketContext_contains hs h
  obtain rfl := Option.some.inj (hpath.symm.trans hpath')
  have hcontained := hcontains
  obtain ⟨query,-,hquery,-⟩ := hcontains
  have houtside : isLoopback s query.peerIp = false ∧ isLoopback s query.localIp = false := by
    unfold socketContext at hs
    rw [hquery] at hs
    dsimp only at hs
    split at hs
    · subst hs
      cases h
    · next hloopback => exact Bool.or_eq_false_iff.mp (Bool.eq_false_iff.mpr hloopback)
  exact ⟨query,unit,hquery,houtside.1,houtside.2,hcontained⟩

theorem connectionPart_carries (hp : connectionPart s connection = part) (h : part.runtimeOwner = some owner) :
    Carries s connection part owner := by
  unfold connectionPart at hp
  split at hp
  · next backend agent hbackend hagent =>
    dsimp only at hp
    split at hp
    · subst hp
      cases h
    · next hsame =>
      split at hp
      · subst hp
        cases h
      · next hgap =>
        split at hp
        · subst hp
          cases h
        · next hservice =>
          split at hp
          · next correlate path hcorrelate hpath =>
            obtain ⟨query,unit,hquery,hpeer,hlocal,hcontains⟩ := socketContext_asks rfl hgap hpath
            have hinode : s.networkNamespaceInode = some backend := by rw [hagent,not_not.mp hsame]
            have hasks : AsksOwner s connection path :=
              ⟨⟨backend,hbackend,hinode⟩,query,unit,_,hquery,hpeer,hlocal,hcontains,hservice⟩
            split at hp
            · next owning hstatus howner =>
              split at hp
              · next hne =>
                subst hp
                cases h
                exact ⟨⟨correlate,path,hcorrelate,hasks,rfl⟩,.inl ⟨hstatus,owning,howner,by simp⟩⟩
              · next hempty =>
                subst hp
                cases h
                refine ⟨⟨correlate,path,hcorrelate,hasks,rfl⟩,.inr ⟨fun _ unit hunit => ?_,rfl,.head _,fun gap hgap => .tail _ hgap⟩⟩
                rw [howner] at hunit
                cases hunit
                exact not_not.mp hempty
            · next hunproven =>
              subst hp
              cases h
              refine ⟨⟨correlate,path,hcorrelate,hasks,rfl⟩,.inr ⟨fun hstatus unit hunit => ?_,rfl,.head _,fun gap hgap => .tail _ hgap⟩⟩
              exact absurd hunit (hunproven unit hstatus)
          · subst hp
            cases h
  · subst hp
    cases h

/-- The correlation the reader asks for is the one the context carries. -/
theorem connectionPart_asked {correlate : String → RuntimeOwnerCorrelation} {path : String} (hcorrelate : s.correlate = some correlate)
    (h : AsksOwner s connection path) : (connectionPart s connection).runtimeOwner = some (correlate path) := by
  obtain ⟨⟨inode,hbackend,hagent⟩,query,unit,unitType,hquery,hpeer,hlocal,hcontains,hservice⟩ := h
  obtain ⟨query',cgroupId,hquery',hmatched,hid,hresolved,hpath,hunit,rfl⟩ := hcontains
  obtain rfl := Option.some.inj (hquery.symm.trans hquery')
  have hsocket : socketContext s connection = ⟨some unit,some path,(s.resolveControlGroupUnit path).unitType,none⟩ := by
    simp [socketContext,hquery,hpeer,hlocal,hmatched,hid,hresolved,hpath,hunit]
  unfold connectionPart
  rw [hbackend,hagent]
  dsimp only
  rw [if_neg (not_not.mpr rfl),hsocket]
  dsimp only
  rw [if_neg hservice,hcorrelate]
  dsimp only
  split
  · split <;> rfl
  · rfl

/-- What is said of a part that is not complete, and what no later step takes back. -/
structure Extends (part next : ManagementPart) : Prop where
  units : ∀ unit ∈ part.units, unit ∈ next.units
  gaps : ∀ gap ∈ part.gaps, gap ∈ next.gaps
  complete : part.complete = false → next.complete = false
  flagged : next.complete = false → part.complete = false ∨ next.gaps ≠ []
  runtimeOwner : next.runtimeOwner = part.runtimeOwner

theorem Extends.refl (part : ManagementPart) : Extends part part := ⟨fun _ h => h,fun _ h => h,id,.inl,rfl⟩

theorem Extends.trans {a b c : ManagementPart} (h : Extends a b) (h' : Extends b c) : Extends a c where
  units unit hu := h'.units unit (h.units unit hu)
  gaps gap hg := h'.gaps gap (h.gaps gap hg)
  complete hc := h'.complete (h.complete hc)
  flagged hc := by
    rcases h'.flagged hc with hb | hgaps
    · rcases h.flagged hb with ha | hgaps
      · exact .inl ha
      · obtain ⟨gap,hgap⟩ := List.exists_mem_of_ne_nil _ hgaps
        exact .inr (List.ne_nil_of_mem (h'.gaps gap hgap))
    · exact .inr hgaps
  runtimeOwner := h'.runtimeOwner.trans h.runtimeOwner

/-- A gap is all that is said of a step that failed. -/
theorem Extends.gap (part : ManagementPart) (gap : String) : Extends part {part with complete := false,gaps := part.gaps ++ [gap]} :=
  ⟨fun _ h => h,fun _ h => List.mem_append_left _ h,fun _ => rfl,fun _ => .inr (by simp),rfl⟩

theorem addProvider_extends (part : ManagementPart) (provider : String) : Extends part (addProvider s part provider) := by
  unfold addProvider
  split
  · exact .gap part _
  · split
    · exact ⟨fun _ h => List.mem_append_left _ h,fun _ h => h,id,.inl,rfl⟩
    · exact .gap part _

theorem providers_extend (providers : List String) (part : ManagementPart) : Extends part (providers.foldl (addProvider s) part) := by
  induction providers generalizing part with
  | nil => exact .refl part
  | cons provider providers ih => exact (addProvider_extends part provider).trans (ih _)

theorem managementPart_extends (s : Sources) (q : Asked) :
    Extends (connectionPart s q.connection) (managementPart s q.connection q.providers q.evidenceComplete) := by
  unfold managementPart
  cases q.evidenceComplete with
  | true => exact providers_extend q.providers _
  | false => exact (Extends.gap _ _).trans (providers_extend q.providers _)

/-- Every provider of a complete part was resolved. -/
theorem providers_resolved (providers : List String) (part : ManagementPart) (h : (providers.foldl (addProvider s) part).complete = true) :
    ∀ provider ∈ providers, provider ∈ managementProviders ∧ (s.resolveProviderUnit provider).resolved.isSome := by
  induction providers generalizing part with
  | nil => exact fun provider hp => absurd hp List.not_mem_nil
  | cons first providers ih =>
    rw [List.foldl_cons] at h
    have hstep : (addProvider s part first).complete = true := by
      by_contra hc
      rw [(providers_extend providers _).complete (Bool.eq_false_iff.mpr hc)] at h
      cases h
    intro provider hmem
    rcases List.mem_cons.mp hmem with rfl | hmem
    · unfold addProvider at hstep
      split at hstep
      · cases hstep
      · next hknown =>
        split at hstep
        · next unit hunit => exact ⟨not_not.mp hknown,by rw [hunit]; rfl⟩
        · cases hstep
    · exact ih _ h provider hmem

/-- A connection part that is not complete says why. -/
theorem connectionPart_flagged (hp : connectionPart s connection = part) (h : part.complete = false) : part.gaps ≠ [] := by
  unfold connectionPart at hp
  split at hp
  · dsimp only at hp
    split at hp
    · subst hp
      exact List.cons_ne_nil _ _
    · split at hp
      · subst hp
        exact List.cons_ne_nil _ _
      · split at hp
        · subst hp
          cases h
        · split at hp
          · split at hp
            · split at hp
              · subst hp
                cases h
              · subst hp
                exact List.cons_ne_nil _ _
            · subst hp
              exact List.cons_ne_nil _ _
          · subst hp
            exact List.cons_ne_nil _ _
  · subst hp
    exact List.cons_ne_nil _ _

/-- What a context that is complete rests on. -/
structure Earned (s : Sources) (q : Asked) : Prop where
  graph : (q.graph s).complete = true
  namespaces : ∃ inode, integer (fact q.connection "backend_netns_inode") = some inode ∧ s.networkNamespaceInode = some inode
  connection : ∃ path unit unitType, ContainsConnection s q.connection path unit unitType ∧ unit ∈ (q.observed s).managementUnits ∧
    (unitType = some "service" ∨ ∃ owner, OwnerProven s path owner ∧ owner ∈ (q.observed s).managementUnits)
  providers : ∀ provider ∈ q.providers, provider ∈ managementProviders ∧ (s.resolveProviderUnit provider).resolved.isSome
  evidence : q.evidenceComplete = true
  agent : s.resolveCurrentProcessUnit.resolved.isSome

theorem namespaces_of_complete (h : (connectionPart s connection).complete = true) :
    ∃ inode, integer (fact connection "backend_netns_inode") = some inode ∧ s.networkNamespaceInode = some inode := by
  generalize hp : connectionPart s connection = part at h
  unfold connectionPart at hp
  split at hp
  · next backend agent hbackend hagent =>
    dsimp only at hp
    split at hp
    · subst hp
      cases h
    · next hsame => exact ⟨backend,hbackend,by rw [hagent,not_not.mp hsame]⟩
  · subst hp
    cases h

theorem evidence_of_complete {evidenceComplete : Bool}
    (h : (managementPart s connection providers evidenceComplete).complete = true) : evidenceComplete = true := by
  cases evidenceComplete with
  | true => rfl
  | false => exact absurd ((providers_grow providers _).2 h) Bool.false_ne_true

theorem mem_managementUnits {unit : String} : unit ∈ (q.observed s).managementUnits ↔
    unit ∈ (managementPart s q.connection q.providers q.evidenceComplete).units := SortBy.mem.trans List.mem_dedup

theorem mem_gaps {gap : String} : gap ∈ (q.observed s).gaps ↔
    gap ∈ graphGaps (q.graph s) ++ (managementPart s q.connection q.providers q.evidenceComplete).gaps ++
      agentGaps s.resolveCurrentProcessUnit := SortBy.mem.trans List.mem_dedup

theorem earned (h : (q.observed s).status = "complete") : Earned s q := by
  have hall : ((q.graph s).complete && (managementPart s q.connection q.providers q.evidenceComplete).complete &&
      s.resolveCurrentProcessUnit.resolved.isSome && List.isEmpty (graphGaps (q.graph s) ++
        (managementPart s q.connection q.providers q.evidenceComplete).gaps ++ agentGaps s.resolveCurrentProcessUnit)) = true := by
    by_contra hc
    have hstatus : (q.observed s).status = "partial" := if_neg hc
    rw [hstatus] at h
    exact absurd h (by decide)
  obtain ⟨hrest,-⟩ := Bool.and_eq_true_iff.mp hall
  obtain ⟨hrest,hagent⟩ := Bool.and_eq_true_iff.mp hrest
  obtain ⟨hgraph,hpart⟩ := Bool.and_eq_true_iff.mp hrest
  obtain ⟨hconnection,hunits⟩ := managementPart_complete hpart
  have hevidence := evidence_of_complete hpart
  have hproviders := hpart
  rw [managementPart,hevidence] at hproviders
  obtain ⟨path,unit,unitType,hcontains,hunit,howner⟩ := connectionPart_complete rfl hconnection
  refine ⟨hgraph,namespaces_of_complete hconnection,⟨path,unit,unitType,hcontains,mem_managementUnits.mpr (hunits unit hunit),?_⟩,
    providers_resolved q.providers _ hproviders,hevidence,hagent⟩
  rcases howner with hservice | ⟨owner,hproven,howner⟩
  · exact .inl hservice
  · exact .inr ⟨owner,hproven,mem_managementUnits.mpr (hunits owner howner)⟩

/-- Whatever a context says is not complete comes with a gap. -/
theorem flagged (h : ¬((q.observed s).effectComplete = true ∧ (q.observed s).managementComplete = true ∧
    (q.observed s).agentComplete = true)) : (q.observed s).gaps ≠ [] := by
  have hsome : ∃ gap, gap ∈ graphGaps (q.graph s) ++ (managementPart s q.connection q.providers q.evidenceComplete).gaps ++
      agentGaps s.resolveCurrentProcessUnit := by
    by_cases hgraph : (q.graph s).complete = true
    · by_cases hpart : (managementPart s q.connection q.providers q.evidenceComplete).complete = true
      · have hagent : ¬s.resolveCurrentProcessUnit.resolved.isSome = true := fun hagent => h ⟨hgraph,hpart,hagent⟩
        exact ⟨_,List.mem_append_right _ (by rw [agentGaps,if_neg hagent]; exact .head _)⟩
      · have hne : (managementPart s q.connection q.providers q.evidenceComplete).gaps ≠ [] := by
          have hextends := managementPart_extends s q
          rcases hextends.flagged (Bool.eq_false_iff.mpr hpart) with hconnection | hgaps
          · obtain ⟨gap,hgap⟩ := List.exists_mem_of_ne_nil _ (connectionPart_flagged rfl hconnection)
            exact List.ne_nil_of_mem (hextends.gaps gap hgap)
          · exact hgaps
        obtain ⟨gap,hgap⟩ := List.exists_mem_of_ne_nil _ hne
        exact ⟨gap,List.mem_append_left _ (List.mem_append_right _ hgap)⟩
    · exact ⟨_,List.mem_append_left _ (List.mem_append_left _ (List.mem_append_right _
        (by rw [if_neg hgraph]; exact .head _)))⟩
  obtain ⟨gap,hgap⟩ := hsome
  exact List.ne_nil_of_mem (mem_gaps.mpr hgap)

variable {shapes : RuntimeOwnerCorrelation → Bool}

/-- A correlation that passes its own checks is one the context can be built around. -/
theorem context_check (hchecked : ∀ owner ∈ (q.observed s).runtimeOwner, owner.check shapes = true) :
    (q.context s none).check = true := by
  have hextends := managementPart_extends s q
  show Option.all _ (q.observed s).runtimeOwner = true
  rw [Option.all_eq_true]
  intro owner howner
  have hcheck := hchecked owner howner
  have hcarries := connectionPart_carries rfl (hextends.runtimeOwner.symm.trans howner)
  rcases hcarries.settled with ⟨hstatus,unit,hunit,hmem⟩ | ⟨hunproven,hcomplete,humbrella,hgaps⟩
  · rw [hstatus]
    show owner.ownerUnitId.any _ = true
    rw [hunit]
    exact decide_eq_true (mem_managementUnits.mpr (hextends.units unit hmem))
  · cases hstatus : owner.status with
    | resolved =>
      exfalso
      have hproven : owner.ownerUnitId.any (· ≠ "") = true := by
        simp only [RuntimeOwnerCorrelation.check,hstatus,Bool.and_eq_true,List.all_eq_true] at hcheck
        exact hcheck.2.1.1.1 _ (by simp [RuntimeOwnerCorrelation.proven])
      obtain ⟨unit,hunit,hne⟩ := (Option.any_eq_true ..).mp hproven
      exact of_decide_eq_true hne (hunproven hstatus unit hunit)
    | incomplete =>
      have hin : ∀ gap ∈ (connectionPart s q.connection).gaps, gap ∈ (q.observed s).gaps := fun gap hgap =>
        mem_gaps.mpr (List.mem_append_left _ (List.mem_append_right _ (hextends.gaps gap hgap)))
      have hmanagement : (q.observed s).managementComplete = false := hextends.complete hcomplete
      show (!(q.observed s).managementComplete && decide (Planning.runtimeOwnerUmbrellaGap ∈ (q.observed s).gaps) &&
        owner.gaps.all fun gap => decide (gap ∈ (q.observed s).gaps)) = true
      rw [hmanagement,decide_eq_true (hin _ humbrella),List.all_eq_true.mpr fun gap hgap => decide_eq_true (hin gap (hgaps gap hgap))]
      rfl

end Agent

section Wire

variable {print : Json → String} {shapes : RuntimeOwnerCorrelation → Bool} {raw : Fields} {key : String} {s : Sources} {q : Asked}

theorem texts_of_lookup {l : List String} (h : raw.lookup key = some (Planning.Json.texts l)) : texts print raw key = some l := by
  have hitems : each raw key = some (l.map .str) := by
    rw [each,h]
    rfl
  rw [texts,hitems]
  show some ((l.map Json.str).map (text print)) = some l
  rw [List.map_map]
  exact congrArg some (List.map_id l)

theorem edges_of_lookup {l : List EffectEdge} (h : raw.lookup "effect_edges" = some (.arr (l.map (·.asDict)))) :
    edges print raw = some l := by
  have hitems : each raw "effect_edges" = some (l.map (·.asDict)) := by
    rw [each,h]
    rfl
  have hread : (l.map (·.asDict)).mapM (edge? print) = some (l.map some) := by
    clear h hitems
    induction l with
    | nil => rfl
    | cons e l ih =>
      rw [List.map_cons,List.mapM_cons,ih]
      rfl
  rw [edges,hitems]
  show ((l.map (·.asDict)).mapM (edge? print)).map _ = some l
  rw [hread]
  exact congrArg some (by simp)

theorem present_optional (t : Option String) : present? print (Planning.Json.optional t) = t := by cases t <;> rfl

/-- What the agent observed, read back field by field. -/
theorem reads_observed (h : ∀ owner ∈ (q.observed s).runtimeOwner, owner.check shapes = true) :
    Reads print shapes (q.observed s).asDict (q.context s none) where
  status := rfl
  observedAt := rfl
  targetUnit := rfl
  action := Spelled.read_code q.action
  targetFacts := rfl
  effectUnits := texts_of_lookup rfl
  effectEdges := edges_of_lookup rfl
  effectComplete := rfl
  activeActivationSources := texts_of_lookup rfl
  activeUpholdingSources := texts_of_lookup rfl
  managementUnits := texts_of_lookup rfl
  managementComplete := rfl
  connectionUnit := optional_optional _
  connectionUnitType := optional_optional _
  agentUnit := present_optional _
  agentComplete := rfl
  agentUnitType := optional_optional _
  gaps := texts_of_lookup rfl
  evidence := rfl
  runtimeOwner := Planning.owner_roundTrip h
  observationId := rfl

theorem owner_checked {j : Json} {owner : RuntimeOwnerCorrelation} (h : RuntimeOwnerCorrelation.fromDict shapes j = some owner) :
    owner.check shapes = true := by
  unfold RuntimeOwnerCorrelation.fromDict at h
  obtain ⟨fields,-,h⟩ := Option.bind_eq_some_iff.mp h
  split at h
  · -- the fifteen fields are read before anything is checked
    iterate 15 obtain ⟨_,-,h⟩ := Option.bind_eq_some_iff.mp h
    dsimp only at h
    split at h
    · next hcheck =>
      cases h
      exact hcheck
    · cases h
  · cases h

theorem ownerFromDict_checked {j : Json} {owner : RuntimeOwnerCorrelation}
    (h : SystemdLifecycleContext.ownerFromDict shapes j = some (some owner)) : owner.check shapes = true := by
  unfold SystemdLifecycleContext.ownerFromDict at h
  split at h
  · cases h
  · obtain ⟨read,hread,heq⟩ := Option.map_eq_some_iff.mp h
    cases heq
    exact owner_checked hread

/-- A context survives the wire exactly when the correlation it carries passes the checks made on arrival. -/
theorem survives_iff : fromDict print shapes (q.observed s).asDict = some (q.context s none) ↔
    ∀ owner ∈ (q.observed s).runtimeOwner, owner.check shapes = true := by
  constructor
  · intro h owner howner
    have hreads := (fromDict_some.mp h).1.runtimeOwner
    have hcontext : (q.context s none).runtimeOwner = some owner := howner
    rw [hcontext] at hreads
    exact ownerFromDict_checked hreads
  · intro h
    exact fromDict_some.mpr ⟨reads_observed h,context_check h⟩

end Wire

def completenessFlags : List String := ["effect_complete","management_complete","agent_complete"]

/-- Everything completeness rests on was in the object, as what it ought to be. -/
structure Shaped (raw : Fields) : Prop where
  flags : ∀ key ∈ completenessFlags, ∃ b, raw.lookup key = some (.bool b)
  lists : ∀ key ∈ ["effect_units","management_units","gaps"], ∃ l, raw.lookup key = some (Planning.Json.texts l)
  edges : ∃ items, raw.lookup "effect_edges" = some (.arr items) ∧ ∀ item ∈ items, ∃ e, item = .obj e ∧
    ∀ key ∈ ["source","relation","target"], ∃ t, e.lookup key = some (.str t)

section Claim

variable (print : Json → String) (shapes : RuntimeOwnerCorrelation → Bool)

/-- What passes for complete in an object: true flags of any kind, no gap to go through, and nothing that is refused. -/
structure Passes (raw : Fields) : Prop where
  status : text print ((raw.lookup "status").getD (.str "failed")) = "complete"
  action : ∃ action : Planning.SystemdServiceAction, Spelled.read (text print ((raw.lookup "action").getD (.str "start"))) = some action
  flags : ∀ key ∈ completenessFlags, truthy (fact raw key) = true
  lists : ∀ key ∈ ["effect_units","active_activation_sources","active_upholding_sources","management_units"],
    (texts print raw key).isSome
  edges : (edges print raw).isSome
  gaps : texts print raw "gaps" = some []
  optionals : ∀ key ∈ ["connection_unit","connection_unit_type","agent_unit_type"],
    (Planning.Json.optional? (fact raw key)).isSome
  owner : ∃ owner, SystemdLifecycleContext.ownerFromDict shapes (fact raw "runtime_owner") = some owner ∧
    ∀ o ∈ owner, o.status = .resolved ∧ ∃ units, texts print raw "management_units" = some units ∧
      o.ownerUnitId.any (· ∈ units) = true

variable {print shapes} {raw : Fields}

theorem passes_of_complete {c : SystemdLifecycleContext} (h : fromDict print shapes raw = some c) (hc : c.complete = true) :
    Passes print shapes raw := by
  obtain ⟨hreads,hcheck⟩ := fromDict_some.mp h
  obtain ⟨hstatus,heffect,hmanagement,hagent,hgaps⟩ := of_decide_eq_true hc
  refine ⟨hreads.status.trans hstatus,⟨_,hreads.action⟩,?_,?_,?_,by rw [hreads.gaps,hgaps],?_,⟨_,hreads.runtimeOwner,?_⟩⟩
  · simp only [completenessFlags,List.forall_mem_cons]
    exact ⟨hreads.effectComplete.trans heffect,hreads.managementComplete.trans hmanagement,hreads.agentComplete.trans hagent,
      fun key hkey => absurd hkey List.not_mem_nil⟩
  · simp [hreads.effectUnits,hreads.activeActivationSources,hreads.activeUpholdingSources,hreads.managementUnits]
  · rw [hreads.effectEdges]
    rfl
  · simp [hreads.connectionUnit,hreads.connectionUnitType,hreads.agentUnitType]
  · intro o ho
    have hsettled := (Option.all_eq_true ..).mp hcheck o ho
    cases hs : o.status with
    | resolved =>
      rw [hs] at hsettled
      exact ⟨rfl,c.managementUnits,hreads.managementUnits,hsettled⟩
    | incomplete =>
      rw [hs] at hsettled
      simp [hmanagement] at hsettled

theorem complete_of_passes (h : Passes print shapes raw) : ∃ c, fromDict print shapes raw = some c ∧ c.complete = true := by
  obtain ⟨action,haction⟩ := h.action
  obtain ⟨effectUnits,hU⟩ := Option.isSome_iff_exists.mp (h.lists "effect_units" (by simp))
  obtain ⟨activation,hA⟩ := Option.isSome_iff_exists.mp (h.lists "active_activation_sources" (by simp))
  obtain ⟨upholding,hUp⟩ := Option.isSome_iff_exists.mp (h.lists "active_upholding_sources" (by simp))
  obtain ⟨management,hM⟩ := Option.isSome_iff_exists.mp (h.lists "management_units" (by simp))
  obtain ⟨found,hE⟩ := Option.isSome_iff_exists.mp h.edges
  obtain ⟨connection,hC⟩ := Option.isSome_iff_exists.mp (h.optionals "connection_unit" (by simp))
  obtain ⟨connectionType,hCt⟩ := Option.isSome_iff_exists.mp (h.optionals "connection_unit_type" (by simp))
  obtain ⟨agentType,hAt⟩ := Option.isSome_iff_exists.mp (h.optionals "agent_unit_type" (by simp))
  obtain ⟨owner,hO,howner⟩ := h.owner
  refine ⟨⟨"complete",_,_,action,_,effectUnits,found,true,activation,upholding,management,true,connection,connectionType,_,true,
    agentType,[],_,owner,_⟩,fromDict_some.mpr ⟨⟨h.status,rfl,rfl,haction,rfl,hU,hE,h.flags _ (by decide),hA,hUp,hM,
      h.flags _ (by decide),hC,hCt,rfl,h.flags _ (by decide),hAt,h.gaps,rfl,hO,rfl⟩,?_⟩,rfl⟩
  refine (Option.all_eq_true ..).mpr fun o ho => ?_
  obtain ⟨hstatus,units,hunits,hmem⟩ := howner o ho
  rw [hM] at hunits
  cases hunits
  rw [hstatus]
  exact hmem

end Claim

/-- Completeness is earned by the agent, never said without a reason where it is not, kept by the wire, and read from
no object that does not say it. -/
structure Sound (print : Json → String) (shapes : RuntimeOwnerCorrelation → Bool) (s : Sources) (q : Asked) (raw : Fields) : Prop where
  earned : (q.observed s).status = "complete" → Earned s q
  flagged : ¬((q.observed s).effectComplete = true ∧ (q.observed s).managementComplete = true ∧
    (q.observed s).agentComplete = true) → (q.observed s).gaps ≠ []
  survives : fromDict print shapes (q.observed s).asDict = some (q.context s none)
  said : ∀ c, fromDict print shapes raw = some c → c.complete = true → Shaped raw

/-- The agent's half holds where the correlation it asks for has the texts the backend insists on; the backend's,
where an object that passes for complete is shaped like one. -/
theorem complete_said_iff (print : Json → String) (shapes : RuntimeOwnerCorrelation → Bool) (s : Sources) (q : Asked) (raw : Fields) :
    Sound print shapes s q raw ↔
      (∀ correlate path, s.correlate = some correlate → AsksOwner s q.connection path → (correlate path).check shapes = true) ∧
        (Passes print shapes raw → Shaped raw) := by
  have hpart : (q.observed s).runtimeOwner = (connectionPart s q.connection).runtimeOwner :=
    (managementPart_extends s q).runtimeOwner
  constructor
  · intro h
    refine ⟨fun correlate path hcorrelate hasks => ?_,fun hpasses => ?_⟩
    · exact survives_iff.mp h.survives _ (hpart.trans (connectionPart_asked hcorrelate hasks))
    · obtain ⟨c,hc,hcomplete⟩ := complete_of_passes hpasses
      exact h.said c hc hcomplete
  · rintro ⟨hcorrelation,hshaped⟩
    refine ⟨Lifecycle.earned,Lifecycle.flagged,survives_iff.mpr fun owner howner => ?_,fun c hc hcomplete =>
      hshaped (passes_of_complete hc hcomplete)⟩
    obtain ⟨correlate,path,hcorrelate,hasks,rfl⟩ := (connectionPart_carries rfl (hpart.symm.trans howner)).asked
    exact hcorrelation correlate path hcorrelate hasks

/-- A flag that is the word no, one that is a number, and one that is a list. -/
def unsaid : Fields :=
  [("status",.str "complete"),("effect_complete",.str "no"),("management_complete",.num 1),("agent_complete",.arr [.null])]

theorem unsaid_reads_complete : ¬∀ (print : Json → String) (shapes : RuntimeOwnerCorrelation → Bool) (s : Sources) (q : Asked)
    (raw : Fields), Sound print shapes s q raw := by
  intro hall
  have hread : (fromDict (fun _ => "None") (fun _ => true) unsaid).any (·.complete) = true := by decide
  obtain ⟨c,hc,hcomplete⟩ := (Option.any_eq_true ..).mp hread
  obtain ⟨b,hb⟩ := ((hall _ _ scopedAgent stopContainerd unsaid).said c hc hcomplete).flags "effect_complete" (by decide)
  have hno : unsaid.lookup "effect_complete" = some (.str "no") := rfl
  rw [hno] at hb
  cases hb

end Lifecycle
end LocalPlane
