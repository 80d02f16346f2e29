import LocalPlane.EffectBounds

/-!
# A complete answer is the closure

What the walk has gathered is the closure as the tables define it, and the edges are judged
on what was gathered. Without a gap nothing in the closure owes a note, so every name answers
for itself and nothing reaches further than its tables say.
-/

set_option linter.dupNamespace false

namespace LocalPlane

open LineProtocol (Json Fields)
open Planning (EffectEdge SystemdServiceAction)

namespace Effects

section Gathered

variable {bus : Bus} {limits : Limits} {target : String} {action : SystemdServiceAction} {props : String → Fields} {t t' : Traversal}

/-- What is in hand once all of the closure was taken up. -/
structure Gathered (bus : Bus) (limits : Limits) (target : String) (action : SystemdServiceAction) (t : Traversal) : Prop where
  queued : ∀ name kind, (name,kind) ∈ t.queued ↔ ∃ depth, Reached bus target action depth name kind
  within : ∀ name kind, (name,kind) ∈ t.queued → ∃ depth ≤ limits.depth, Reached bus target action depth name kind
  visited : ∀ unit kind, (unit,kind) ∈ t.visited ↔
    ∃ depth name properties, Reached bus target action depth name kind ∧ Answers bus name unit properties
  provisional : ∀ e, e ∈ t.provisional ↔ IsEdge bus target action e
  units : ∀ unit, unit ∈ t.units ↔ ∃ depth name kind properties, Reached bus target action depth name kind ∧
    Answers bus name unit properties ∧ Affected action kind properties
  gaps : ∀ g, g ∈ t.gaps ↔ ∃ depth name kind, Reached bus target action depth name kind ∧ Due bus action name kind g
  aliases : ∀ name unit, t.aliases name = some unit ↔
    (∃ depth kind, Reached bus target action depth name kind) ∧ ∃ properties, Answers bus name unit properties
  nodes : ∀ unit properties, t.nodes unit = some properties ↔
    ∃ depth name kind, Reached bus target action depth name kind ∧ Answers bus name unit properties
  readable : ∀ depth name kind, Reached bus target action depth name kind → bus.read name ≠ .error .other

theorem Walking.closed (h : Walking bus limits target action props none t) (hp : t.pending = []) {depth : ℕ} {name : String} {kind : Work}
    (hreached : Reached bus target action depth name kind) :
    (name,kind) ∈ t.queued ∧ name ∈ t.attempted ∧ ∀ unit properties, Answers bus name unit properties → (unit,kind) ∈ t.visited := by
  have hdone : ∀ p ∈ t.queued, p.1 ∈ t.attempted ∧ ∀ unit properties, Answers bus p.1 unit properties → (unit,p.2) ∈ t.visited := by
    intro p hq
    rcases h.queued p hq with hnow | ⟨d,hd⟩ | hdone
    · cases hnow
    · rw [hp] at hd
      exact (List.not_mem_nil hd).elim
    · exact hdone
  have hqueued : (name,kind) ∈ t.queued := by
    induction hreached with
    | root => exact h.root
    | @child depth name unit referenced kind properties rule _ hread hrule hname ih =>
      obtain ⟨ha,hv⟩ := hdone _ ih
      obtain rfl := h.known.same name ha unit properties hread
      exact ((h.visited _ (hv unit _ hread)).brings rule hrule referenced hname).1
  exact ⟨hqueued,hdone _ hqueued⟩

theorem Walking.gathered (h : Walking bus limits target action props none t) (hp : t.pending = []) : Gathered bus limits target action t where
  queued name kind := by
    constructor
    · intro hq
      obtain ⟨depth,-,hreached⟩ := h.reached _ hq
      exact ⟨depth,hreached⟩
    · rintro ⟨depth,hreached⟩
      exact (h.closed hp hreached).1
  within name kind hq := h.reached _ hq
  visited unit kind := by
    constructor
    · intro hv
      obtain ⟨name,properties,hq,-,hanswer⟩ := h.origin _ hv
      obtain ⟨depth,-,hreached⟩ := h.reached _ hq
      exact ⟨depth,name,properties,hreached,hanswer⟩
    · rintro ⟨depth,name,properties,hreached,hanswer⟩
      exact (h.closed hp hreached).2.2 unit properties hanswer
  provisional e := by
    refine ⟨h.provisional e,?_⟩
    rintro ⟨depth,name,kind,properties,rule,hreached,hanswer,hrule,hf,hrelation,hname⟩
    obtain ⟨-,ha,hv⟩ := h.closed hp hreached
    obtain rfl := h.known.same name ha e.source properties hanswer
    have hedge := ((h.visited _ (hv _ _ hanswer)).brings rule hrule e.target hname).2 hf
    rw [← hrelation] at hedge
    exact hedge
  units unit := by
    rw [h.units]
    constructor
    · rintro ⟨kind,hv,haffected⟩
      obtain ⟨name,properties,hq,ha,hanswer⟩ := h.origin _ hv
      obtain ⟨depth,-,hreached⟩ := h.reached _ hq
      obtain rfl := h.known.same name ha unit properties hanswer
      exact ⟨depth,name,kind,_,hreached,hanswer,haffected⟩
    · rintro ⟨depth,name,kind,properties,hreached,hanswer,haffected⟩
      obtain ⟨-,ha,hv⟩ := h.closed hp hreached
      obtain rfl := h.known.same name ha unit properties hanswer
      exact ⟨kind,hv unit _ hanswer,haffected⟩
  gaps g := by
    constructor
    · intro hg
      obtain ⟨name,kind,hq,hdue⟩ := h.gaps g hg
      obtain ⟨depth,-,hreached⟩ := h.reached _ hq
      exact ⟨depth,name,kind,hreached,hdue⟩
    · rintro ⟨depth,name,kind,hreached,hdue⟩
      obtain ⟨-,ha,hv⟩ := h.closed hp hreached
      rcases hdue with hread | ⟨unit,properties,hanswer,hnote⟩
      · exact h.known.told name ha g hread
      · obtain rfl := h.known.same name ha unit properties hanswer
        exact (h.visited _ (hv unit _ hanswer)).noted g hnote
  aliases name unit := by
    rw [h.known.aliases]
    refine and_congr_left fun _ => ⟨fun ha => ?_,fun ⟨depth,kind,hreached⟩ => (h.closed hp hreached).2.1⟩
    obtain ⟨kind,hq⟩ := h.attempted name ha
    obtain ⟨depth,-,hreached⟩ := h.reached _ hq
    exact ⟨depth,kind,hreached⟩
  nodes unit properties := by
    rw [h.known.nodes]
    constructor
    · rintro ⟨rfl,name,ha,answer,hanswer⟩
      obtain ⟨kind,hq⟩ := h.attempted name ha
      obtain ⟨depth,-,hreached⟩ := h.reached _ hq
      exact ⟨depth,name,kind,hreached,h.known.same name ha unit answer hanswer ▸ hanswer⟩
    · rintro ⟨depth,name,kind,hreached,hanswer⟩
      have ha := (h.closed hp hreached).2.1
      exact ⟨h.known.same name ha unit properties hanswer,name,ha,properties,hanswer⟩
  readable _ name _ hreached := h.known.readable name (h.closed hp hreached).2.1

end Gathered

section Settle

variable {target : String} {t t' : Traversal} {e : EffectEdge}

def resolved (t : Traversal) (e : EffectEdge) : String := (t.aliases e.target).getD e.target

/-- The notes on an edge, once every name in it can be resolved. -/
def edgeNotes (target : String) (t : Traversal) (e : EffectEdge) : List String :=
  (t.nodes (resolved t e)).elim ["effect_graph.unresolved:" ++ e.target] fun properties =>
    if e.relation ∈ reactivationRelationships then
      (if (reactivationSourceEvidence properties).1 ∧ e.source ≠ target then
        ["effect_graph.transitive_reactivation:" ++ e.relation ++ ":" ++ e.source] else []) ++
      (if inClosure t.visited (resolved t e) then
        ["effect_graph.reactivation_source_in_closure:" ++ e.relation ++ ":" ++ resolved t e] else []) ++
      (reactivationSourceEvidence properties).2.map fun g => "effect_graph.reactivation_source_" ++ g ++ ":" ++ e.relation ++ ":" ++ resolved t e
    else []

/-- An edge along which the target may be activated again at once. -/
def Activates (target : String) (t : Traversal) (e : EffectEdge) : Prop :=
  e.source = target ∧ e.relation ∈ reactivationRelationships ∧
    ∃ properties, t.nodes (resolved t e) = some properties ∧ (reactivationSourceEvidence properties).1 = true

theorem settleEdge_ok (h : settleEdge target t e = .ok t') :
    ∃ patience active upholding, (∀ unit, unit ∈ active ↔ unit ∈ t.activeSources ∨ unit = resolved t e ∧ Activates target t e ∧ e.relation = "TriggeredBy") ∧
      (∀ unit, unit ∈ upholding ↔ unit ∈ t.activeUpholdingSources ∨ unit = resolved t e ∧ Activates target t e ∧ e.relation ≠ "TriggeredBy") ∧
      t' = {t with
        patience := patience
        edges := ⟨e.source,e.relation,resolved t e⟩ :: t.edges
        gaps := edgeNotes target t e ++ t.gaps
        activeSources := active
        activeUpholdingSources := upholding } := by
  unfold settleEdge at h
  obtain ⟨looked,hlooked,h⟩ := step_bind_ok h
  obtain ⟨patience,rfl⟩ := remaining_ok hlooked
  dsimp only at h
  unfold edgeNotes Activates resolved
  cases hnode : t.nodes ((t.aliases e.target).getD e.target) with
  | none =>
    rw [hnode] at h
    obtain rfl := Except.ok.inj h
    exact ⟨patience,t.activeSources,t.activeUpholdingSources,fun unit => by simp,fun unit => by simp,rfl⟩
  | some properties =>
    rw [hnode] at h
    dsimp only [Option.elim_some] at h ⊢
    by_cases hrelation : e.relation ∈ reactivationRelationships
    · rw [if_pos hrelation] at h ⊢
      cases hactive : (reactivationSourceEvidence properties).1 with
      | false =>
        rw [hactive,if_neg Bool.false_ne_true] at h
        obtain rfl := Except.ok.inj h
        refine ⟨patience,t.activeSources,t.activeUpholdingSources,fun unit => by simp [hactive],fun unit => by simp [hactive],?_⟩
        split <;> simp [Traversal.gap]
      | true =>
        rw [hactive,if_pos rfl] at h
        by_cases hsource : e.source = target
        · rw [if_neg (not_not.mpr hsource)] at h
          have hactivates : e.source = target ∧ e.relation ∈ reactivationRelationships ∧
              ∃ found, some properties = some found ∧ (reactivationSourceEvidence found).1 = true := ⟨hsource,hrelation,properties,rfl,hactive⟩
          by_cases htrigger : e.relation = "TriggeredBy"
          · rw [if_pos htrigger] at h
            obtain rfl := Except.ok.inj h
            refine ⟨patience,((t.aliases e.target).getD e.target) :: t.activeSources,t.activeUpholdingSources,
              fun unit => ?_,fun unit => by simp [htrigger],?_⟩
            · rw [List.mem_cons,or_comm]
              exact or_congr_right ⟨fun hunit => ⟨hunit,hactivates,htrigger⟩,And.left⟩
            split <;> simp [Traversal.gap,hsource]
          · rw [if_neg htrigger] at h
            obtain rfl := Except.ok.inj h
            refine ⟨patience,t.activeSources,((t.aliases e.target).getD e.target) :: t.activeUpholdingSources,
              fun unit => by simp [htrigger],fun unit => ?_,?_⟩
            · rw [List.mem_cons,or_comm]
              exact or_congr_right ⟨fun hunit => ⟨hunit,hactivates,htrigger⟩,And.left⟩
            split <;> simp [Traversal.gap,hsource]
        · rw [if_pos hsource] at h
          obtain rfl := Except.ok.inj h
          refine ⟨patience,t.activeSources,t.activeUpholdingSources,fun unit => by simp [hsource],fun unit => by simp [hsource],?_⟩
          split <;> simp [Traversal.gap,hsource]
    · rw [if_neg hrelation] at h ⊢
      obtain rfl := Except.ok.inj h
      exact ⟨patience,t.activeSources,t.activeUpholdingSources,fun unit => by simp [hrelation],fun unit => by simp [hrelation],rfl⟩

/-- The edges that were judged so far, each on what the walk has gathered. -/
structure Tallied (target : String) (es : List EffectEdge) (t t' : Traversal) : Prop where
  visited : t'.visited = t.visited
  aliases : t'.aliases = t.aliases
  nodes : t'.nodes = t.nodes
  units : t'.units = t.units
  gaps : ∀ g, g ∈ t'.gaps ↔ g ∈ t.gaps ∨ ∃ e ∈ es, g ∈ edgeNotes target t e
  edges : ∀ e', e' ∈ t'.edges ↔ e' ∈ t.edges ∨ ∃ e ∈ es, e' = ⟨e.source,e.relation,resolved t e⟩
  active : ∀ unit, unit ∈ t'.activeSources ↔
    unit ∈ t.activeSources ∨ ∃ e ∈ es, unit = resolved t e ∧ Activates target t e ∧ e.relation = "TriggeredBy"
  upholding : ∀ unit, unit ∈ t'.activeUpholdingSources ↔
    unit ∈ t.activeUpholdingSources ∨ ∃ e ∈ es, unit = resolved t e ∧ Activates target t e ∧ e.relation ≠ "TriggeredBy"

theorem tallied {es : List EffectEdge} (h : es.foldlM (settleEdge target) t = .ok t') : Tallied target es t t' := by
  induction es generalizing t with
  | nil =>
    obtain rfl := Except.ok.inj h
    exact ⟨rfl,rfl,rfl,rfl,by simp,by simp,by simp,by simp⟩
  | cons e es ih =>
    rw [List.foldlM_cons] at h
    obtain ⟨after,hafter,h⟩ := step_bind_ok h
    obtain ⟨patience,active,upholding,hactive,hupholding,rfl⟩ := settleEdge_ok hafter
    have hrest := ih h
    refine ⟨hrest.visited,hrest.aliases,hrest.nodes,hrest.units,fun g => ?_,fun e' => ?_,fun unit => ?_,fun unit => ?_⟩
    · rw [hrest.gaps,List.mem_append,List.exists_mem_cons_iff,or_comm (b:=g ∈ t.gaps),or_assoc]
      rfl
    · rw [hrest.edges,List.mem_cons,List.exists_mem_cons_iff,or_comm (b:=e' ∈ t.edges),or_assoc]
      rfl
    · rw [hrest.active,hactive,List.exists_mem_cons_iff,or_assoc]
      rfl
    · rw [hrest.upholding,hupholding,List.exists_mem_cons_iff,or_assoc]
      rfl

end Settle

section Outcome

variable {bus : Bus} {limits : Limits} {patience : ℕ} {target unitId : String} {action : SystemdServiceAction} {t t' : Traversal}

/-- The target is a service, by its own name, of a manager that answers. -/
structure Begun (bus : Bus) (unitId : String) : Prop where
  service : ".service".toList.isSuffixOf unitId.toList = true
  available : bus.unavailable = none
  manager : bus.managerProperties = .ok ()
  target : bus.observeTarget unitId = .ok unitId

/-- What is answered once every edge was judged. -/
def judged (t : Traversal) : EffectGraphAnswer :=
  if t.gaps = [] then answerOf t "complete" none else answerOf t "partial" (some "effect_graph_incomplete")

/-- A run that was not cut off by the clock or by a failed reading. -/
structure Finished (bus : Bus) (limits : Limits) (patience : ℕ) (target : String) (action : SystemdServiceAction) (t t' : Traversal) : Prop where
  walked : walk bus limits action (Work.all.length * limits.nodes) (opening limits target action patience) = some (.ok t)
  settled : t.provisional.foldlM (settleEdge target) t = .ok t'

theorem mem_sorted_dedup {l : List String} {x : String} : x ∈ sorted l.dedup ↔ x ∈ l := SortBy.mem.trans List.mem_dedup

theorem observe_unbegun (h : ¬Begun bus unitId) (limits : Limits) (patience : ℕ) (action : SystemdServiceAction) :
    ∃ answer, observeEffectGraph bus limits patience unitId action = some answer ∧
    answer.status = "failed" := by
  unfold observeEffectGraph
  split
  · exact ⟨_,rfl,rfl⟩
  · next hservice =>
    split
    · exact ⟨_,rfl,rfl⟩
    · next havailable =>
      split
      · exact ⟨_,rfl,rfl⟩
      · next hmanager =>
        split
        · exact ⟨_,rfl,rfl⟩
        · exact ⟨_,rfl,rfl⟩
        · next canonical htarget =>
          split
          · exact ⟨_,rfl,rfl⟩
          · next hself => exact absurd ⟨not_not.mp hservice,havailable,hmanager,not_not.mp hself ▸ htarget⟩ h

theorem observe_begun (h : Begun bus unitId) (hnodes : 1 ≤ limits.nodes) (patience : ℕ) (action : SystemdServiceAction) :
    ∃ answer, observeEffectGraph bus limits patience unitId action = some answer ∧
      (answer.status = "partial" ∧ "effect_graph.read_failed" ∈ answer.gaps ∨
        ∃ t t', Finished bus limits patience unitId action t t' ∧ answer = judged t') := by
  have hopening : Bounded limits (opening limits unitId action patience) := opening_bounded unitId patience hnodes
  have hends : ∃ walked, walk bus limits action (Work.all.length * limits.nodes) (opening limits unitId action patience) = some walked :=
    walk_ends hopening rfl
  obtain ⟨walked,hwalked⟩ := hends
  have hfailed : ∀ t : Traversal, "effect_graph.read_failed" ∈
      (answerOf (t.gap "effect_graph.read_failed") "partial" (some "effect_graph_read_failed")).gaps := fun t =>
    mem_sorted_dedup.mpr (.head _)
  unfold observeEffectGraph
  rw [if_neg (not_not.mpr h.service),h.available,h.manager,h.target]
  dsimp only
  rw [if_neg (not_not.mpr rfl),hwalked]
  cases walked with
  | error t => exact ⟨_,rfl,.inl ⟨rfl,hfailed t⟩⟩
  | ok t =>
    cases hsettled : t.provisional.foldlM (settleEdge unitId) t with
    | error t' =>
      refine ⟨_,rfl,.inl ?_⟩
      simp only [Except.bind,hsettled]
      exact ⟨rfl,hfailed t'⟩
    | ok t' =>
      refine ⟨_,rfl,.inr ⟨t,t',⟨hwalked,hsettled⟩,?_⟩⟩
      simp only [Except.bind,hsettled]
      rfl

/-- Where no ceiling was met and no alias was passed over, all of the closure was gathered. -/
theorem Finished.walking (h : Finished bus limits patience target action t t') {props : String → Fields} (hw : Whole t')
    (hfair : Fair bus props t'.gaps) : Walking bus limits target action props none t ∧ t.pending = [] := by
  have hmono : ∀ g ∈ t.gaps, g ∈ t'.gaps := fun g hg => ((tallied h.settled).gaps g).mpr (.inl hg)
  refine (Walking.opening bus limits target action props patience).run h.walked (fun g hg hmem => hw g hg (hmono g hmem)) ?_
  exact fun name unit properties ha => (hfair name unit properties ha).imp_right fun hb => ⟨hb.1,fun hg => hb.2 (hmono _ hg)⟩

end Outcome

end Effects
end LocalPlane
