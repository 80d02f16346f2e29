import LocalPlane.EffectSoundness

/-!
# The order of entries

What a relation names, and the notes it leaves, hang on which entries it lists and not on
where they stand. So two walks over the same units that met no ceiling gathered the same.
-/

set_option linter.dupNamespace false

namespace LocalPlane

open LineProtocol (Json Fields)
open Planning (EffectEdge SystemdServiceAction)

namespace Effects

def relations : List String := (startRules ++ stopRules .stop ++ handlerRules).map Rule.relation

/-- The same properties, with the entries of its relations in any order. -/
def SameFacts (properties properties' : Fields) : Prop :=
  ∀ key, fact properties key = fact properties' key ∨ key ∈ relations ∧
    ∃ items items', fact properties key = .arr items ∧ fact properties' key = .arr items' ∧ items.Perm items'

/-- The same manager with the same units, with the entries of their relations in any order. -/
structure Reordered (bus bus' : Bus) : Prop where
  unavailable : bus.unavailable = bus'.unavailable
  managerProperties : bus.managerProperties = bus'.managerProperties
  observeTarget : bus.observeTarget = bus'.observeTarget
  read : ∀ name, (∃ error, bus.read name = .error error ∧ bus'.read name = .error error) ∨
    ∃ properties properties', bus.read name = .ok properties ∧ bus'.read name = .ok properties' ∧ SameFacts properties properties'

/-- A unit has the same properties by whatever name it is read. -/
def Coherent (bus : Bus) : Prop :=
  ∀ name name' unit properties properties', Answers bus name unit properties → Answers bus name' unit properties' → properties = properties'

section Same

variable {bus bus' : Bus} {target name unit : String} {action : SystemdServiceAction} {kind : Work} {depth : ℕ}
  {properties properties' : Fields} {rule : Rule}

theorem SameFacts.symm (h : SameFacts properties properties') : SameFacts properties' properties := fun key =>
  (h key).imp Eq.symm fun ⟨hkey,items,items',hi,hi',hperm⟩ => ⟨hkey,items',items,hi',hi,hperm.symm⟩

theorem SameFacts.fact (h : SameFacts properties properties') (key : String) (hkey : key ∉ relations) :
    LocalPlane.fact properties key = LocalPlane.fact properties' key := (h key).resolve_right fun hr => hkey hr.1

theorem SameFacts.names (h : SameFacts properties properties') {relation : String} (hname : Names properties relation name) :
    Names properties' relation name := by
  obtain ⟨items,hitems,hmem,hunit⟩ := hname
  rcases h relation with heq | ⟨-,listed,listed',hlisted,hlisted',hperm⟩
  · exact ⟨items,heq ▸ hitems,hmem,hunit⟩
  · obtain rfl := Json.arr.inj (hlisted.symm.trans hitems)
    exact ⟨listed',hlisted',hperm.mem_iff.mp hmem,hunit⟩

theorem SameFacts.ruleNotes (h : SameFacts properties properties') {g : String} (hnote : RuleNotes rule unit properties g) :
    RuleNotes rule unit properties' g := by
  unfold RuleNotes at hnote ⊢
  rcases h rule.relation with heq | ⟨-,items,items',hitems,hitems',hperm⟩
  · rw [← heq]
    exact hnote
  · rw [hitems] at hnote
    rw [hitems']
    obtain ⟨item,hitem,hnote⟩ := hnote
    exact ⟨item,hperm.mem_iff.mp hitem,hnote⟩

theorem SameFacts.evidence (h : SameFacts properties properties') : reactivationSourceEvidence properties = reactivationSourceEvidence properties' := by
  unfold reactivationSourceEvidence
  rw [h.fact "ActiveState" (by decide),h.fact "Job" (by decide)]

theorem SameFacts.visitNotes (h : SameFacts properties properties') :
    Effects.visitNotes action unit kind properties = Effects.visitNotes action unit kind properties' := by
  unfold Effects.visitNotes unneededNotes
  rw [h.evidence,h.fact "StopWhenUnneeded" (by decide),h.fact "LoadState" (by decide)]

theorem SameFacts.affected (h : SameFacts properties properties') (ha : Affected action kind properties) : Affected action kind properties' := by
  unfold Affected at ha ⊢
  rw [← h.fact "StopWhenUnneeded" (by decide)]
  exact ha

namespace Reordered

theorem symm (h : Reordered bus bus') : Reordered bus' bus where
  unavailable := h.unavailable.symm
  managerProperties := h.managerProperties.symm
  observeTarget := h.observeTarget.symm
  read other := (h.read other).imp (fun ⟨error,he,he'⟩ => ⟨error,he',he⟩)
    fun ⟨found,found',hf,hf',hsame⟩ => ⟨found',found,hf',hf,hsame.symm⟩

theorem answers (h : Reordered bus bus') (ha : Answers bus name unit properties) :
    ∃ properties', Answers bus' name unit properties' ∧ SameFacts properties properties' := by
  obtain ⟨hread,hid,hname⟩ := ha
  rcases h.read name with ⟨error,herror,-⟩ | ⟨found,found',hfound,hfound',hsame⟩
  · rw [hread] at herror
    cases herror
  · obtain rfl := Except.ok.inj (hread.symm.trans hfound)
    exact ⟨found',⟨hfound',(hsame.fact "Id" (by decide)).symm.trans hid,hname⟩,hsame⟩

theorem reached (h : Reordered bus bus') (hreached : Reached bus target action depth name kind) : Reached bus' target action depth name kind := by
  induction hreached with
  | root => exact .root
  | child _ hread hrule hname ih =>
    obtain ⟨found,hfound,hsame⟩ := h.answers hread
    exact .child ih hfound hrule (hsame.names hname)

theorem isEdge (h : Reordered bus bus') {e : EffectEdge} (he : IsEdge bus target action e) : IsEdge bus' target action e := by
  obtain ⟨depth,name,kind,properties,rule,hreached,hanswer,hrule,hf,hrelation,hname⟩ := he
  obtain ⟨found,hfound,hsame⟩ := h.answers hanswer
  exact ⟨depth,name,kind,found,rule,h.reached hreached,hfound,hrule,hf,hrelation,hsame.names hname⟩

theorem readNotes (h : Reordered bus bus') (name : String) : Effects.readNotes bus name = Effects.readNotes bus' name := by
  unfold Effects.readNotes
  rcases h.read name with ⟨error,he,he'⟩ | ⟨found,found',hf,hf',hsame⟩
  · rw [he,he']
  · rw [hf,hf']
    dsimp only
    rw [hsame.fact "Id" (by decide)]

theorem due (h : Reordered bus bus') {g : String} (hdue : Due bus action name kind g) : Due bus' action name kind g := by
  rcases hdue with hread | ⟨unit,properties,hanswer,hnote⟩
  · exact .inl (h.readNotes name ▸ hread)
  · obtain ⟨found,hfound,hsame⟩ := h.answers hanswer
    refine .inr ⟨unit,found,hfound,hnote.imp (fun hvisited => hsame.visitNotes ▸ hvisited) ?_⟩
    rintro ⟨rule,hrule,hrules⟩
    exact ⟨rule,hrule,hsame.ruleNotes hrules⟩

end Reordered

end Same

section Agree

variable {bus bus' : Bus} {limits limits' : Limits} {patience patience' : ℕ} {target : String} {action : SystemdServiceAction}
  {t t' s s' : Traversal} {e : EffectEdge}

theorem sorted_dedup_congr {l l' : List String} (h : ∀ x, x ∈ l ↔ x ∈ l') : sorted l.dedup = sorted l'.dedup := by
  refine sorted_perm ((List.perm_ext_iff_of_nodup (List.nodup_dedup l) (List.nodup_dedup l')).mpr fun x => ?_)
  rw [List.mem_dedup,List.mem_dedup]
  exact h x

theorem edgeKey_inj {e f : EffectEdge} (h : e.key = f.key) : e = f := by
  obtain ⟨source,relation,referenced⟩ := e
  obtain ⟨source',relation',referenced'⟩ := f
  obtain ⟨hsource,hrest⟩ := Prod.mk.inj (toLex.injective h)
  obtain ⟨hrelation,hreferenced⟩ := Prod.mk.inj (toLex.injective hrest)
  obtain rfl : source = source' := hsource
  obtain rfl : relation = relation' := hrelation
  obtain rfl : referenced = referenced' := hreferenced
  rfl

theorem sortedEdges_congr {l l' : List EffectEdge} (h : ∀ e, e ∈ l ↔ e ∈ l') :
    sortBy EffectEdge.key l.dedup = sortBy EffectEdge.key l'.dedup := by
  refine SortBy.eq_of_perm ((List.perm_ext_iff_of_nodup (List.nodup_dedup l) (List.nodup_dedup l')).mpr fun e => ?_)
    fun _ _ _ _ => edgeKey_inj
  rw [List.mem_dedup,List.mem_dedup]
  exact h e

/-- All names that are known resolve alike. -/
theorem aliases_agree (h : Reordered bus bus') (ht : Gathered bus limits target action t) (hs : Gathered bus' limits' target action s) :
    t.aliases = s.aliases := by
  funext name
  refine Option.ext fun unit => ?_
  refine (ht.aliases name unit).trans (Iff.trans ?_ (hs.aliases name unit).symm)
  constructor
  · rintro ⟨⟨depth,kind,hreached⟩,properties,hanswer⟩
    obtain ⟨found,hfound,-⟩ := h.answers hanswer
    exact ⟨⟨depth,kind,h.reached hreached⟩,found,hfound⟩
  · rintro ⟨⟨depth,kind,hreached⟩,properties,hanswer⟩
    obtain ⟨found,hfound,-⟩ := h.symm.answers hanswer
    exact ⟨⟨depth,kind,h.symm.reached hreached⟩,found,hfound⟩

theorem nodes_agree (h : Reordered bus bus') (ht : Gathered bus limits target action t) (hs : Gathered bus' limits' target action s)
    {unit : String} {properties : Fields} (hnode : t.nodes unit = some properties) :
    ∃ properties', s.nodes unit = some properties' ∧ SameFacts properties properties' := by
  obtain ⟨depth,name,kind,hreached,hanswer⟩ := (ht.nodes unit properties).mp hnode
  obtain ⟨found,hfound,hsame⟩ := h.answers hanswer
  exact ⟨found,(hs.nodes unit found).mpr ⟨depth,name,kind,h.reached hreached,hfound⟩,hsame⟩

theorem visited_agree (h : Reordered bus bus') (ht : Gathered bus limits target action t) (hs : Gathered bus' limits' target action s)
    {unit : String} {kind : Work} (hvisited : (unit,kind) ∈ t.visited) : (unit,kind) ∈ s.visited := by
  obtain ⟨depth,name,properties,hreached,hanswer⟩ := (ht.visited unit kind).mp hvisited
  obtain ⟨found,hfound,-⟩ := h.answers hanswer
  exact (hs.visited unit kind).mpr ⟨depth,name,found,h.reached hreached,hfound⟩

theorem edgeNotes_agree (h : Reordered bus bus') (ht : Gathered bus limits target action t) (hs : Gathered bus' limits' target action s) :
    edgeNotes target t e = edgeNotes target s e := by
  have halias : resolved t e = resolved s e := by
    unfold resolved
    rw [aliases_agree h ht hs]
  have hvisited : inClosure t.visited (resolved s e) = inClosure s.visited (resolved s e) := by
    have hmem : ∀ kind, decide ((resolved s e,kind) ∈ t.visited) = decide ((resolved s e,kind) ∈ s.visited) := fun kind =>
      decide_eq_decide.mpr ⟨visited_agree h ht hs,visited_agree h.symm hs ht⟩
    unfold inClosure
    simp only [hmem]
  unfold edgeNotes
  rw [halias,hvisited]
  cases hnode : t.nodes (resolved s e) with
  | none =>
    cases hother : s.nodes (resolved s e) with
    | none => rfl
    | some properties =>
      obtain ⟨found,hfound,-⟩ := nodes_agree h.symm hs ht hother
      rw [hnode] at hfound
      cases hfound
  | some properties =>
    obtain ⟨found,hfound,hsame⟩ := nodes_agree h ht hs hnode
    rw [hfound,Option.elim_some,Option.elim_some,hsame.evidence]

theorem activates_agree (h : Reordered bus bus') (ht : Gathered bus limits target action t) (hs : Gathered bus' limits' target action s)
    (ha : Activates target t e) : Activates target s e := by
  obtain ⟨hsource,hrelation,properties,hnode,hactive⟩ := ha
  obtain ⟨found,hfound,hsame⟩ := nodes_agree h ht hs hnode
  refine ⟨hsource,hrelation,found,?_,hsame.evidence ▸ hactive⟩
  unfold resolved at hfound ⊢
  rw [← aliases_agree h ht hs]
  exact hfound

/-- One half of the agreement: what the one run tells the other tells as well. -/
theorem tallied_agree (h : Reordered bus bus') (ht : Gathered bus limits target action t) (hs : Gathered bus' limits' target action s)
    (htally : Tallied target t.provisional t t') (hstally : Tallied target s.provisional s s')
    (hjudged : t.judgement = ([],[],[])) :
    (∀ g ∈ t'.gaps, g ∈ s'.gaps) ∧ (∀ unit ∈ t'.units, unit ∈ s'.units) ∧ (∀ e ∈ t'.edges, e ∈ s'.edges) ∧
      (∀ unit ∈ t'.activeSources, unit ∈ s'.activeSources) ∧ ∀ unit ∈ t'.activeUpholdingSources, unit ∈ s'.activeUpholdingSources := by
  obtain ⟨hedges,hactive,hupholding⟩ : t.edges = [] ∧ t.activeSources = [] ∧ t.activeUpholdingSources = [] := by
    unfold Traversal.judgement at hjudged
    simpa using hjudged
  have hprovisional : ∀ e ∈ t.provisional, e ∈ s.provisional := fun e he =>
    (hs.provisional e).mpr (h.isEdge ((ht.provisional e).mp he))
  have hresolved : ∀ e, resolved t e = resolved s e := fun e => by
    unfold resolved
    rw [aliases_agree h ht hs]
  refine ⟨fun g hg => ?_,fun unit hunit => ?_,fun e he => ?_,fun unit hunit => ?_,fun unit hunit => ?_⟩
  · refine (hstally.gaps g).mpr (((htally.gaps g).mp hg).imp (fun hg => ?_) fun ⟨e,he,hnote⟩ => ?_)
    · obtain ⟨depth,name,kind,hreached,hdue⟩ := (ht.gaps g).mp hg
      exact (hs.gaps g).mpr ⟨depth,name,kind,h.reached hreached,h.due hdue⟩
    · exact ⟨e,hprovisional e he,edgeNotes_agree h ht hs ▸ hnote⟩
  · rw [htally.units] at hunit
    rw [hstally.units]
    obtain ⟨depth,name,kind,properties,hreached,hanswer,haffected⟩ := (ht.units unit).mp hunit
    obtain ⟨found,hfound,hsame⟩ := h.answers hanswer
    exact (hs.units unit).mpr ⟨depth,name,kind,found,h.reached hreached,hfound,hsame.affected haffected⟩
  · rcases (htally.edges e).mp he with hno | ⟨found,hfound,rfl⟩
    · rw [hedges] at hno
      exact (List.not_mem_nil hno).elim
    · exact (hstally.edges _).mpr (.inr ⟨found,hprovisional found hfound,by rw [hresolved]⟩)
  · rcases (htally.active unit).mp hunit with hno | ⟨e,he,rfl,ha,hrelation⟩
    · rw [hactive] at hno
      exact (List.not_mem_nil hno).elim
    · exact (hstally.active _).mpr (.inr ⟨e,hprovisional e he,hresolved e,activates_agree h ht hs ha,hrelation⟩)
  · rcases (htally.upholding unit).mp hunit with hno | ⟨e,he,rfl,ha,hrelation⟩
    · rw [hupholding] at hno
      exact (List.not_mem_nil hno).elim
    · exact (hstally.upholding _).mpr (.inr ⟨e,hprovisional e he,hresolved e,activates_agree h ht hs ha,hrelation⟩)

theorem answerOf_congr (hgaps : ∀ g, g ∈ t'.gaps ↔ g ∈ s'.gaps) (hunits : ∀ unit, unit ∈ t'.units ↔ unit ∈ s'.units)
    (hedges : ∀ e, e ∈ t'.edges ↔ e ∈ s'.edges) (hactive : ∀ unit, unit ∈ t'.activeSources ↔ unit ∈ s'.activeSources)
    (hupholding : ∀ unit, unit ∈ t'.activeUpholdingSources ↔ unit ∈ s'.activeUpholdingSources) (status : String) (reason : Option String) :
    answerOf t' status reason = answerOf s' status reason := by
  unfold answerOf
  rw [sorted_dedup_congr hgaps,sorted_dedup_congr hunits,sortedEdges_congr hedges,sorted_dedup_congr hactive,sorted_dedup_congr hupholding]

theorem Finished.agree (h : Reordered bus bus') (hf : Finished bus limits patience target action t t')
    (hf' : Finished bus' limits' patience' target action s s') (ht : Gathered bus limits target action t)
    (hs : Gathered bus' limits' target action s) (hnodes : 1 ≤ limits.nodes) (hnodes' : 1 ≤ limits'.nodes) : judged t' = judged s' := by
  have htally := tallied hf.settled
  have hstally := tallied hf'.settled
  obtain ⟨hg,hu,he,ha,hup⟩ := tallied_agree h ht hs htally hstally (hf.bounded hnodes).unjudged
  obtain ⟨hg',hu',he',ha',hup'⟩ := tallied_agree h.symm hs ht hstally htally (hf'.bounded hnodes').unjudged
  have hgaps : ∀ g, g ∈ t'.gaps ↔ g ∈ s'.gaps := fun g => ⟨hg g,hg' g⟩
  have hanswer : ∀ status reason, answerOf t' status reason = answerOf s' status reason :=
    answerOf_congr hgaps (fun unit => ⟨hu unit,hu' unit⟩) (fun e => ⟨he e,he' e⟩) (fun unit => ⟨ha unit,ha' unit⟩)
      fun unit => ⟨hup unit,hup' unit⟩
  have hnil : t'.gaps = [] ↔ s'.gaps = [] := by
    rw [List.eq_nil_iff_forall_not_mem,List.eq_nil_iff_forall_not_mem]
    exact forall_congr' fun g => not_congr (hgaps g)
  unfold judged
  by_cases hcomplete : t'.gaps = []
  · rw [if_pos hcomplete,if_pos (hnil.mp hcomplete),hanswer]
  · rw [if_neg hcomplete,if_neg fun h => hcomplete (hnil.mpr h),hanswer]

open Classical in
/-- The properties a unit is known by, where there is one for all its names. -/
theorem Coherent.fair (h : Coherent bus) : ∃ props, ∀ gaps, Fair bus props gaps := by
  refine ⟨fun unit => if hknown : ∃ name properties, Answers bus name unit properties then hknown.choose_spec.choose else [],?_⟩
  intro gaps name unit properties hanswer
  have hknown : ∃ name properties, Answers bus name unit properties := ⟨name,properties,hanswer⟩
  refine .inl ?_
  dsimp only
  rw [dif_pos hknown]
  exact h name _ unit properties _ hanswer hknown.choose_spec.choose_spec

end Agree

end Effects
end LocalPlane
