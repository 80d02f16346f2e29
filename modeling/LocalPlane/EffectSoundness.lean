import LocalPlane.EffectExact
import Mathlib.Algebra.Order.BigOperators.Group.List

/-!
# What a complete answer promises

An answer is complete when nothing in the closure owes a note. Its units and edges are then
the closure itself, every name in it is a loaded unit that answers for itself, and nothing
was cut. The other way round, whatever troubles the closure leaves the answer partial.
-/

set_option linter.dupNamespace false

namespace LocalPlane

open LineProtocol (Json Fields)
open Planning (EffectEdge SystemdServiceAction)

namespace Effects

/-- A unit that is loaded and certain, and is not stopped for want of use. -/
structure Steady (action : SystemdServiceAction) (kind : Work) (properties : Fields) : Prop where
  loaded : fact properties "LoadState" = .str "loaded"
  certain : (reactivationSourceEvidence properties).2 = []
  needed : stopping action kind = true → fact properties "StopWhenUnneeded" = .bool false

/-- A relation that is a list of names, and of none where a name would set off more than the tables say. -/
def Clean (rule : Rule) (properties : Fields) : Prop :=
  ∃ items, fact properties rule.relation = .arr items ∧
    ∀ item ∈ items, (∃ name, item = .str name ∧ unitName name = true) ∧ rule.mark = none

def propertiesOf (bus : Bus) (unit : String) : Fields :=
  match bus.read unit with
  | .ok properties => properties
  | .error _ => []

/-- A closure that owes no note and fits under every ceiling. -/
structure Untroubled (bus : Bus) (limits : Limits) (target : String) (action : SystemdServiceAction) : Prop where
  loaded : ∀ depth name kind, Reached bus target action depth name kind → ∃ properties, Answers bus name name properties ∧
    Steady action kind properties ∧ ∀ rule ∈ rulesFor kind, Clean rule properties
  settled : ∀ e properties, IsEdge bus target action e → e.relation ∈ reactivationRelationships → Answers bus e.target e.target properties →
    (∀ kind ∈ [Work.start,.stop,.restart], ∀ depth, ¬Reached bus target action depth e.target kind) ∧
      ((reactivationSourceEvidence properties).1 = true → e.source = target)
  within : ∀ depth name kind, Reached bus target action depth name kind → ∃ near ≤ limits.depth, Reached bus target action near name kind
  names : ∀ names : List String, names.Nodup → (∀ name ∈ names, ∃ depth kind, Reached bus target action depth name kind) →
    names.length ≤ limits.nodes
  drawn : ∀ es : List EffectEdge, es.Nodup → (∀ e ∈ es, IsEdge bus target action e) → es.length ≤ limits.edges
  entries : ∀ pairs : List (String × Work), pairs.Nodup → (∀ p ∈ pairs, ∃ depth, Reached bus target action depth p.1 p.2) →
    (pairs.map fun p => ((rulesFor p.2).map (entries (propertiesOf bus p.1))).sum).sum ≤ limits.edges * Work.all.length

/-- An answer that is the closure itself. -/
structure Exact (bus : Bus) (target : String) (action : SystemdServiceAction) (answer : EffectGraphAnswer) : Prop where
  gaps : answer.gaps = []
  units : ∀ unit, unit ∈ answer.units ↔ ∃ depth kind, Reached bus target action depth unit kind ∧ kind ≠ .inspect
  edges : ∀ e, e ∈ answer.edges ↔ IsEdge bus target action e
  activation : ∀ unit, unit ∈ answer.activeActivationSources ↔ IsEdge bus target action ⟨target,"TriggeredBy",unit⟩ ∧
    (reactivationSourceEvidence (propertiesOf bus unit)).1 = true
  upholding : ∀ unit, unit ∈ answer.activeUpholdingSources ↔ IsEdge bus target action ⟨target,"UpheldBy",unit⟩ ∧
    (reactivationSourceEvidence (propertiesOf bus unit)).1 = true

section Complete

variable {bus : Bus} {limits : Limits} {patience : ℕ} {target name unit : String} {action : SystemdServiceAction} {kind : Work}
  {properties : Fields} {rule : Rule} {t t' : Traversal}

theorem Answers.propertiesOf (h : Answers bus name unit properties) : Effects.propertiesOf bus name = properties := by
  unfold Effects.propertiesOf
  rw [h.1]

theorem steady_of_notes (h : ∀ g, g ∉ visitNotes action unit kind properties) : Steady action kind properties := by
  have hnil := List.eq_nil_iff_forall_not_mem.mpr h
  unfold visitNotes at hnil
  obtain ⟨hfirst,hload⟩ := List.append_eq_nil_iff.mp hnil
  obtain ⟨hneeded,hcertain⟩ := List.append_eq_nil_iff.mp hfirst
  refine ⟨?_,List.map_eq_nil_iff.mp hcertain,fun hstop => ?_⟩
  · by_contra hnot
    rw [if_pos hnot] at hload
    cases hload
  · rw [if_pos hstop] at hneeded
    unfold unneededNotes at hneeded
    split at hneeded
    · cases hneeded
    · cases hneeded
    · assumption
    · cases hneeded

theorem clean_of_notes (h : ∀ g, ¬RuleNotes rule unit properties g) : Clean rule properties := by
  unfold RuleNotes at h
  split at h
  · exact (h _ rfl).elim
  · next items hitems =>
    refine ⟨items,hitems,fun item hitem => ?_⟩
    have hnone : ∀ g, ¬EntryNotes rule unit item g := fun g hg => h g ⟨item,hitem,hg⟩
    by_cases hname : ∃ name, item = .str name ∧ unitName name = true
    · refine ⟨hname,?_⟩
      cases hmark : rule.mark with
      | none => rfl
      | some mark => exact (hnone _ (.inl ⟨hname,mark,hmark,rfl⟩)).elim
    · exact (hnone _ (.inr ⟨hname,rfl⟩)).elim
  · exact (h _ rfl).elim

/-- A name that owes no note and could be read answers for itself. -/
theorem answers_of_notes (hreadable : bus.read name ≠ .error .other) (h : ∀ g, g ∉ readNotes bus name) :
    ∃ properties, Answers bus name name properties := by
  have hnil := List.eq_nil_iff_forall_not_mem.mpr h
  unfold readNotes at hnil
  split at hnil
  · cases hnil
  · exact absurd ‹_› hreadable
  · next properties hread =>
    split at hnil
    · next unit hid =>
      split at hnil
      · next hname =>
        split at hnil
        · cases hnil
        · next hself =>
          obtain rfl := not_not.mp hself
          exact ⟨properties,hread,hid,hname⟩
      · cases hnil
    · cases hnil

theorem Gathered.loaded (h : Gathered bus limits target action t) (hg : t.gaps = []) {depth : ℕ} (hreached : Reached bus target action depth name kind) :
    ∃ properties, Answers bus name name properties ∧ Steady action kind properties ∧ ∀ rule ∈ rulesFor kind, Clean rule properties := by
  have hdue : ∀ g, ¬Due bus action name kind g := fun g hdue => by
    have hmem : g ∈ t.gaps := (h.gaps g).mpr ⟨depth,name,kind,hreached,hdue⟩
    rw [hg] at hmem
    exact List.not_mem_nil hmem
  obtain ⟨properties,hanswer⟩ := answers_of_notes (h.readable depth name kind hreached) fun g hnote => hdue g (.inl hnote)
  refine ⟨properties,hanswer,steady_of_notes fun g hnote => hdue g (.inr ⟨name,properties,hanswer,.inl hnote⟩),fun rule hrule => ?_⟩
  exact clean_of_notes fun g hnote => hdue g (.inr ⟨name,properties,hanswer,.inr ⟨rule,hrule,hnote⟩⟩)

/-- In a closure without a note a name stands for nothing but itself. -/
theorem Gathered.self (h : Gathered bus limits target action t) (hg : t.gaps = []) {depth : ℕ} (hreached : Reached bus target action depth name kind)
    (hanswer : Answers bus name unit properties) : name = unit := by
  obtain ⟨other,hother,-⟩ := h.loaded hg hreached
  exact (hother.unique hanswer).1

theorem IsEdge.reached {e : EffectEdge} (h : IsEdge bus target action e) : ∃ depth kind, Reached bus target action depth e.target kind := by
  obtain ⟨depth,name,kind,properties,rule,hreached,hanswer,hrule,-,-,hname⟩ := h
  exact ⟨depth + 1,rule.child,.child hreached hanswer hrule hname⟩

theorem Gathered.resolved (h : Gathered bus limits target action t) (hg : t.gaps = []) {e : EffectEdge} (he : IsEdge bus target action e) :
    Effects.resolved t e = e.target ∧ ∃ properties, Answers bus e.target e.target properties ∧ t.nodes e.target = some properties := by
  obtain ⟨depth,kind,hreached⟩ := he.reached
  obtain ⟨properties,hanswer,-⟩ := h.loaded hg hreached
  have halias : t.aliases e.target = some e.target := (h.aliases _ _).mpr ⟨⟨depth,kind,hreached⟩,properties,hanswer⟩
  refine ⟨?_,properties,hanswer,(h.nodes _ _).mpr ⟨depth,e.target,kind,hreached,hanswer⟩⟩
  unfold Effects.resolved
  rw [halias]
  rfl

theorem mem_sortedEdges {l : List EffectEdge} {e : EffectEdge} : e ∈ sortBy EffectEdge.key l.dedup ↔ e ∈ l := SortBy.mem.trans List.mem_dedup

theorem Answers.fair (hg : ∀ g : String, g ∉ t.gaps) : Fair bus (Effects.propertiesOf bus) t.gaps := by
  intro name unit properties hanswer
  by_cases hself : name = unit
  · subst hself
    exact .inl hanswer.propertiesOf.symm
  · exact .inr ⟨hself,hg _⟩

theorem Finished.bounded (h : Finished bus limits patience target action t t') (hnodes : 1 ≤ limits.nodes) : Bounded limits t :=
  walk_bounded (opening_bounded target patience hnodes) h.walked

/-- A run that leaves no gap leaves the closure no trouble. -/
theorem Finished.untroubled (h : Finished bus limits patience target action t t') (hnodes : 1 ≤ limits.nodes) (hgaps : t'.gaps = []) :
    Untroubled bus limits target action ∧ Gathered bus limits target action t ∧ t.gaps = [] := by
  have htally := tallied h.settled
  have hnone : ∀ g : String, g ∉ t'.gaps := List.eq_nil_iff_forall_not_mem.mp hgaps
  obtain ⟨hwalking,hp⟩ := h.walking (fun g _ => hnone g) (Answers.fair hnone)
  have hgathered := hwalking.gathered hp
  have hbefore : t.gaps = [] := List.eq_nil_iff_forall_not_mem.mpr fun g hg => hnone g ((htally.gaps g).mpr (.inl hg))
  have hbounded := h.bounded hnodes
  refine ⟨⟨fun depth name kind => hgathered.loaded hbefore,?_,fun depth name kind hreached => ?_,?_,?_,?_⟩,hgathered,hbefore⟩
  · intro e properties he hrelation hanswer
    obtain ⟨hresolved,found,hfound,hnode⟩ := hgathered.resolved hbefore he
    obtain ⟨-,rfl⟩ := hanswer.unique hfound
    have hnotes : edgeNotes target t e = [] := List.eq_nil_iff_forall_not_mem.mpr fun g hg =>
      hnone g ((htally.gaps g).mpr (.inr ⟨e,(hgathered.provisional e).mpr he,hg⟩))
    unfold edgeNotes at hnotes
    rw [hresolved,hnode,Option.elim_some,if_pos hrelation] at hnotes
    obtain ⟨hfirst,-⟩ := List.append_eq_nil_iff.mp hnotes
    obtain ⟨htransitive,hclosure⟩ := List.append_eq_nil_iff.mp hfirst
    refine ⟨fun kind hkind depth hreached => ?_,fun hactive => ?_⟩
    · rw [if_pos] at hclosure
      · cases hclosure
      · refine List.any_eq_true.mpr ⟨kind,hkind,decide_eq_true ?_⟩
        exact (hgathered.visited e.target kind).mpr ⟨depth,e.target,properties,hreached,hanswer⟩
    · by_contra hsource
      rw [if_pos ⟨hactive,hsource⟩] at htransitive
      cases htransitive
  · exact hgathered.within name kind ((hgathered.queued name kind).mpr ⟨depth,hreached⟩)
  · intro names hnodup hall
    have hsub : names ⊆ t.admitted := fun name hname =>
      have ⟨depth,kind,hreached⟩ := hall name hname
      hbounded.names _ ((hgathered.queued name kind).mpr ⟨depth,hreached⟩)
    exact (List.subperm_of_subset hnodup hsub).length_le.trans hbounded.nodes
  · intro es hnodup hall
    have hsub : es ⊆ t.provisional := fun e he => (hgathered.provisional e).mpr (hall e he)
    exact (List.subperm_of_subset hnodup hsub).length_le.trans hbounded.edges
  · intro pairs hnodup hall
    have hsub : pairs ⊆ t.visited := fun p hp => by
      obtain ⟨depth,hreached⟩ := hall p hp
      obtain ⟨properties,hanswer,-⟩ := hgathered.loaded hbefore hreached
      exact (hgathered.visited p.1 p.2).mpr ⟨depth,p.1,properties,hreached,hanswer⟩
    obtain ⟨among,hperm,hsublist⟩ := List.subperm_of_subset hnodup hsub
    have hsum : (among.map fun p => ((rulesFor p.2).map (entries (Effects.propertiesOf bus p.1))).sum).sum ≤
        (t.visited.map fun p => ((rulesFor p.2).map (entries (Effects.propertiesOf bus p.1))).sum).sum :=
      (hsublist.map _).sum_le_sum fun _ _ => Nat.zero_le _
    rw [List.Perm.sum_nat (hperm.map _)] at hsum
    have hspent := hwalking.spent
    omega

/-- And its answer is the closure. -/
theorem Finished.exact (h : Finished bus limits patience target action t t') (hnodes : 1 ≤ limits.nodes) (hgaps : t'.gaps = []) :
    Exact bus target action (judged t') := by
  obtain ⟨-,hgathered,hbefore⟩ := h.untroubled hnodes hgaps
  have htally := tallied h.settled
  have hunjudged := (h.bounded hnodes).unjudged
  obtain ⟨hedges,hactive,hupholding⟩ : t.edges = [] ∧ t.activeSources = [] ∧ t.activeUpholdingSources = [] := by
    unfold Traversal.judgement at hunjudged
    simpa using hunjudged
  have hsources : ∀ (relation unit : String), relation ∈ reactivationRelationships →
      ((∃ e ∈ t.provisional, unit = Effects.resolved t e ∧ Activates target t e ∧ e.relation = relation) ↔
        IsEdge bus target action ⟨target,relation,unit⟩ ∧ (reactivationSourceEvidence (Effects.propertiesOf bus unit)).1 = true) := by
    intro relation unit hrelation
    constructor
    · rintro ⟨⟨source,_,referenced⟩,he,rfl,⟨rfl,-,found,hfound,hon⟩,rfl⟩
      have hedge := (hgathered.provisional _).mp he
      obtain ⟨hresolved,properties,hanswer,hnode⟩ := hgathered.resolved hbefore hedge
      rw [hresolved] at hfound ⊢
      obtain rfl := Option.some.inj (hnode.symm.trans hfound)
      exact ⟨hedge,hanswer.propertiesOf ▸ hon⟩
    · rintro ⟨hedge,hon⟩
      obtain ⟨hresolved,properties,hanswer,hnode⟩ := hgathered.resolved hbefore hedge
      refine ⟨_,(hgathered.provisional _).mpr hedge,hresolved.symm,⟨rfl,hrelation,properties,hresolved ▸ hnode,?_⟩,rfl⟩
      rw [← hanswer.propertiesOf]
      exact hon
  have hjudged : judged t' = answerOf t' "complete" none := if_pos hgaps
  rw [hjudged]
  refine ⟨?_,fun unit => ?_,fun e => ?_,fun unit => ?_,fun unit => ?_⟩
  · show sorted t'.gaps.dedup = []
    rw [hgaps]
    rfl
  · refine mem_sorted_dedup.trans ?_
    rw [htally.units,hgathered.units]
    constructor
    · rintro ⟨depth,name,kind,properties,hreached,hanswer,haffected⟩
      obtain rfl := hgathered.self hbefore hreached hanswer
      refine ⟨depth,kind,hreached,haffected.elim id fun hneedless => ?_⟩
      obtain ⟨found,hfound,hsteady,-⟩ := hgathered.loaded hbefore hreached
      obtain ⟨-,rfl⟩ := hanswer.unique hfound
      rw [hsteady.needed hneedless.1] at hneedless
      cases hneedless.2
    · rintro ⟨depth,kind,hreached,hkind⟩
      obtain ⟨properties,hanswer,-⟩ := hgathered.loaded hbefore hreached
      exact ⟨depth,unit,kind,properties,hreached,hanswer,.inl hkind⟩
  · refine mem_sortedEdges.trans ?_
    rw [htally.edges,hedges]
    constructor
    · rintro (hno | ⟨found,hfound,rfl⟩)
      · exact (List.not_mem_nil hno).elim
      · have hedge := (hgathered.provisional _).mp hfound
        rw [(hgathered.resolved hbefore hedge).1]
        exact hedge
    · intro hedge
      refine .inr ⟨e,(hgathered.provisional e).mpr hedge,?_⟩
      rw [(hgathered.resolved hbefore hedge).1]
  · refine mem_sorted_dedup.trans ?_
    rw [htally.active,hactive,← hsources "TriggeredBy" unit (by decide)]
    exact or_iff_right List.not_mem_nil
  · refine mem_sorted_dedup.trans ?_
    rw [htally.upholding,hupholding,← hsources "UpheldBy" unit (by decide),or_iff_right List.not_mem_nil]
    refine exists_congr fun e => and_congr_right fun _ => and_congr_right fun _ => and_congr_right fun hactivates => ?_
    have hrelation := hactivates.2.1
    unfold reactivationRelationships at hrelation
    simp only [List.mem_cons,List.not_mem_nil,or_false] at hrelation
    rcases hrelation with hrelation | hrelation <;> simp [hrelation]

end Complete

end Effects
end LocalPlane
