import LocalPlane.EffectOrder
import LocalPlane.EffectPatience

/-!
# The closure of a service

Every request is answered. A complete answer is the closure and a closure with any trouble is
answered in part; as long as nothing was cut short, neither more patience nor another order
of entries makes a difference.
-/

set_option linter.dupNamespace false

namespace LocalPlane

open LineProtocol (Json Fields)
open Planning (EffectEdge SystemdServiceAction)

namespace Effects

/-- Neither a ceiling nor the deadline nor a failed reading cut an answer short. -/
def Uncut (answer : EffectGraphAnswer) : Prop := ∀ g ∈ "effect_graph.read_failed" :: ceilings, g ∉ answer.gaps

section Answer

variable {bus bus' : Bus} {limits limits' : Limits} {patience patience' : ℕ} {unitId : String} {action : SystemdServiceAction}
  {answer answer' : EffectGraphAnswer} {t t' : Traversal}

theorem limitsOf_nodes (maxNodes maxDepth maxEdges : Int) : 1 ≤ (limitsOf maxNodes maxDepth maxEdges).nodes := by
  unfold limitsOf
  dsimp only
  omega

theorem judged_status (t' : Traversal) : (judged t').status = "complete" ∧ t'.gaps = [] ∨ (judged t').status = "partial" ∧ t'.gaps ≠ [] := by
  unfold judged
  split
  · next hgaps => exact .inl ⟨rfl,hgaps⟩
  · next hgaps => exact .inr ⟨rfl,hgaps⟩

theorem judged_gaps (g : String) : g ∈ (judged t').gaps ↔ g ∈ t'.gaps := by
  unfold judged
  split <;> exact mem_sorted_dedup

theorem Begun.reordered (h : Reordered bus bus') (hb : Begun bus unitId) : Begun bus' unitId where
  service := hb.service
  available := h.unavailable ▸ hb.available
  manager := h.managerProperties ▸ hb.manager
  target := h.observeTarget ▸ hb.target

/-- Before the walk begins nothing is read that has an order. -/
theorem observe_unbegun_eq (h : Reordered bus bus') (hb : ¬Begun bus unitId) :
    observeEffectGraph bus limits patience unitId action = observeEffectGraph bus' limits' patience' unitId action := by
  unfold observeEffectGraph
  rw [← h.unavailable,← h.managerProperties,← h.observeTarget]
  split
  · rfl
  · next hservice =>
    split
    · rfl
    · next havailable =>
      split
      · rfl
      · next hmanager =>
        split
        · rfl
        · rfl
        · next canonical htarget =>
          split
          · rfl
          · next hself => exact absurd ⟨not_not.mp hservice,havailable,hmanager,not_not.mp hself ▸ htarget⟩ hb

theorem observe_finished (hb : Begun bus unitId) (h : Finished bus limits patience unitId action t t') :
    observeEffectGraph bus limits patience unitId action = some (judged t') := by
  unfold observeEffectGraph
  rw [if_neg (not_not.mpr hb.service),hb.available,hb.manager,hb.target]
  dsimp only
  rw [if_neg (not_not.mpr rfl),h.walked]
  simp only [Option.map_some,Except.bind,h.settled]
  rfl

/-- What is not cut short was finished. -/
theorem finished_of_answer (hb : Begun bus unitId) (hnodes : 1 ≤ limits.nodes)
    (h : observeEffectGraph bus limits patience unitId action = some answer) (hread : "effect_graph.read_failed" ∉ answer.gaps) :
    ∃ t t', Finished bus limits patience unitId action t t' ∧ answer = judged t' := by
  obtain ⟨found,hfound,hcase⟩ := observe_begun hb hnodes patience action
  obtain rfl := Option.some.inj (hfound.symm.trans h)
  exact hcase.resolve_left fun hpart => hread hpart.2

theorem Finished.gathered (h : Finished bus limits patience unitId action t t') (hcoherent : Coherent bus) (huncut : Uncut (judged t')) :
    Gathered bus limits unitId action t := by
  obtain ⟨props,hfair⟩ := hcoherent.fair
  obtain ⟨hwalking,hp⟩ := h.walking (fun g hg hmem => huncut g (.tail _ hg) ((judged_gaps g).mpr hmem)) (hfair t'.gaps)
  exact hwalking.gathered hp

theorem uncut_agree (h : Reordered bus bus') (hcoherent : Coherent bus) (hcoherent' : Coherent bus') (hnodes : 1 ≤ limits.nodes)
    (hnodes' : 1 ≤ limits'.nodes) (ha : observeEffectGraph bus limits patience unitId action = some answer)
    (ha' : observeEffectGraph bus' limits' patience' unitId action = some answer') (huncut : Uncut answer) (huncut' : Uncut answer') :
    answer = answer' := by
  by_cases hb : Begun bus unitId
  · obtain ⟨t,t',hf,rfl⟩ := finished_of_answer hb hnodes ha (huncut _ (.head _))
    obtain ⟨s,s',hf',rfl⟩ := finished_of_answer (hb.reordered h) hnodes' ha' (huncut' _ (.head _))
    exact hf.agree h hf' (hf.gathered hcoherent huncut) (hf'.gathered hcoherent' huncut') hnodes hnodes'
  · rw [observe_unbegun_eq h hb] at ha
    exact Option.some.inj (ha.symm.trans ha')

/-- A run that was cut off is told so, and one that was not is judged. -/
theorem begun_cases (hb : Begun bus unitId) (hnodes : 1 ≤ limits.nodes) (patience : ℕ) (action : SystemdServiceAction) :
    ∃ answer, observeEffectGraph bus limits patience unitId action = some answer ∧
      (answer.status = "complete" → Untroubled bus limits unitId action ∧ Exact bus unitId action answer) ∧
      (answer.status ≠ "complete" → answer.status = "partial" ∧ answer.gaps ≠ []) ∧
      (answer.status = "complete" → ∀ more, observeEffectGraph bus limits (patience + more) unitId action = some answer) := by
  obtain ⟨answer,hanswer,⟨hpart,hread⟩ | ⟨t,t',hf,rfl⟩⟩ := observe_begun hb hnodes patience action
  · have hincomplete : answer.status ≠ "complete" := by rw [hpart]; decide
    exact ⟨answer,hanswer,fun h => absurd h hincomplete,fun _ => ⟨hpart,List.ne_nil_of_mem hread⟩,fun h => absurd h hincomplete⟩
  · rcases judged_status t' with ⟨hstatus,hgaps⟩ | ⟨hstatus,hgaps⟩
    · refine ⟨_,hanswer,fun _ => ⟨(hf.untroubled hnodes hgaps).1,hf.exact hnodes hgaps⟩,fun h => absurd hstatus h,fun _ more => ?_⟩
      have hlonger : Finished bus limits (patience + more) unitId action (t.wait more) (t'.wait more) := hf.wait
      have hanswered : observeEffectGraph bus limits (patience + more) unitId action = some (judged (t'.wait more)) := observe_finished hb hlonger
      exact hanswered
    · have hincomplete : (judged t').status ≠ "complete" := by rw [hstatus]; decide
      refine ⟨_,hanswer,fun h => absurd h hincomplete,fun _ => ⟨hstatus,fun hnil => hgaps ?_⟩,fun h => absurd h hincomplete⟩
      refine List.eq_nil_iff_forall_not_mem.mpr fun g hg => ?_
      have hmem := (judged_gaps g).mpr hg
      rw [hnil] at hmem
      exact List.not_mem_nil hmem

/-- A request is answered, completely only with its closure and in part where that has any trouble; more patience changes
nothing of a complete answer, and the order of entries nothing of one that was not cut short. -/
theorem closure_exact (bus : Bus) (maxNodes maxDepth maxEdges : Int) (patience : ℕ) (unitId : String) (action : SystemdServiceAction) :
    ∃ answer, observeEffectGraph bus (limitsOf maxNodes maxDepth maxEdges) patience unitId action = some answer ∧
      (answer.status = "complete" → Begun bus unitId ∧ Untroubled bus (limitsOf maxNodes maxDepth maxEdges) unitId action ∧
        Exact bus unitId action answer) ∧
      (Begun bus unitId → ¬Untroubled bus (limitsOf maxNodes maxDepth maxEdges) unitId action →
        answer.status = "partial" ∧ answer.gaps ≠ []) ∧
      (Begun bus unitId → (∃ more, observeEffectGraph bus (limitsOf maxNodes maxDepth maxEdges) (patience + more) unitId action ≠ some answer) →
        answer.status = "partial" ∧ answer.gaps ≠ []) ∧
      ∀ (bus' : Bus) (patience' : ℕ) (answer' : EffectGraphAnswer), Coherent bus → Coherent bus' → Reordered bus bus' →
        observeEffectGraph bus' (limitsOf maxNodes maxDepth maxEdges) patience' unitId action = some answer' →
        Uncut answer → Uncut answer' → answer = answer' := by
  have hnodes := limitsOf_nodes maxNodes maxDepth maxEdges
  generalize limitsOf maxNodes maxDepth maxEdges = limits at hnodes ⊢
  by_cases hb : Begun bus unitId
  · obtain ⟨answer,hanswer,hcomplete,hpart,hpatient⟩ := begun_cases hb hnodes patience action
    refine ⟨answer,hanswer,fun h => ⟨hb,hcomplete h⟩,fun _ htrouble => hpart fun h => htrouble (hcomplete h).1,?_,?_⟩
    · rintro - ⟨more,hmore⟩
      exact hpart fun h => hmore (hpatient h more)
    · exact fun bus' patience' answer' hc hc' hr ha' => uncut_agree hr hc hc' hnodes hnodes hanswer ha'
  · obtain ⟨answer,hanswer,hfailed⟩ := observe_unbegun hb limits patience action
    have hincomplete : answer.status ≠ "complete" := by rw [hfailed]; decide
    refine ⟨answer,hanswer,fun h => absurd h hincomplete,fun h => absurd h hb,fun h => absurd h hb,?_⟩
    exact fun bus' patience' answer' hc hc' hr ha' => uncut_agree hr hc hc' hnodes hnodes hanswer ha'

end Answer

namespace Examples

def services : List String := ["t.service","a.service","b.service"]

def facts (name : String) (requires : List String) : Fields :=
  ("Requires",.arr (requires.map .str)) :: ("Id",.str name) :: ("LoadState",.str "loaded") :: ("ActiveState",.str "active") ::
    ("Job",.arr [.num 0,.str "/"]) :: ("StopWhenUnneeded",.bool false) :: relations.map fun relation => (relation,.arr [])

def board (requires : List String) : Bus where
  unavailable := none
  managerProperties := .ok ()
  observeTarget name := if name ∈ services then .ok name else .error .absent
  read name := if name ∈ services then .ok (facts name (if name = "t.service" then requires else [])) else .error .absent

theorem board_answers {requires : List String} {name unit : String} {properties : Fields} (h : Answers (board requires) name unit properties) :
    name = unit ∧ name ∈ services ∧ properties = facts name (if name = "t.service" then requires else []) := by
  obtain ⟨hread,hid,-⟩ := h
  unfold board at hread
  dsimp only at hread
  split at hread
  · next hservice =>
    obtain rfl := Except.ok.inj hread
    exact ⟨Json.str.inj hid,hservice,rfl⟩
  · cases hread

theorem board_coherent (requires : List String) : Coherent (board requires) := by
  intro name name' unit properties properties' h h'
  obtain ⟨rfl,-,rfl⟩ := board_answers h
  obtain ⟨rfl,-,rfl⟩ := board_answers h'
  rfl

theorem facts_same (name : String) {requires requires' : List String} (h : requires.Perm requires') :
    SameFacts (facts name requires) (facts name requires') := by
  intro key
  by_cases hkey : key = "Requires"
  · subst hkey
    exact .inr ⟨by decide,_,_,rfl,rfl,h.map _⟩
  · refine .inl ?_
    have hmiss : (key == "Requires") = false := beq_false_of_ne hkey
    simp only [facts,fact,List.lookup_cons,hmiss]

theorem board_reordered {requires requires' : List String} (h : requires.Perm requires') : Reordered (board requires) (board requires') where
  unavailable := rfl
  managerProperties := rfl
  observeTarget := rfl
  read name := by
    unfold board
    dsimp only
    split
    · refine .inr ⟨_,_,rfl,rfl,?_⟩
      split
      · exact facts_same name h
      · exact facts_same name (.refl [])
    · exact .inl ⟨_,rfl,rfl⟩

/-- With room for two names only, the first of two that are listed is let in. -/
theorem first_listed : Coherent (board ["a.service","b.service"]) ∧ Coherent (board ["b.service","a.service"]) ∧
    Reordered (board ["a.service","b.service"]) (board ["b.service","a.service"]) ∧
    (observeEffectGraph (board ["a.service","b.service"]) (limitsOf 2 12 2048) 1000 "t.service" .start).map
      EffectGraphAnswer.units = some ["a.service","t.service"] ∧
    (observeEffectGraph (board ["b.service","a.service"]) (limitsOf 2 12 2048) 1000 "t.service" .start).map
      EffectGraphAnswer.units = some ["b.service","t.service"] :=
  ⟨board_coherent _,board_coherent _,board_reordered (.swap ..),by decide +kernel,by decide +kernel⟩

/-- With room for all of them the answer is the closure. -/
theorem all_listed : Exact (board ["a.service","b.service"]) "t.service" .start
    ⟨"complete",none,["a.service","b.service","t.service"],
      [⟨"t.service","Requires","a.service"⟩,⟨"t.service","Requires","b.service"⟩],[],[],[]⟩ := by
  obtain ⟨answer,hanswer,hcomplete,-⟩ := closure_exact (board ["a.service","b.service"]) 128 12 2048 1000 "t.service" .start
  have hrun : observeEffectGraph (board ["a.service","b.service"]) (limitsOf 128 12 2048) 1000 "t.service" .start =
    some ⟨"complete",none,["a.service","b.service","t.service"],
      [⟨"t.service","Requires","a.service"⟩,⟨"t.service","Requires","b.service"⟩],[],[],[]⟩ := by decide +kernel
  obtain rfl := Option.some.inj (hanswer.symm.trans hrun)
  exact (hcomplete rfl).2.2

end Examples

end Effects
end LocalPlane
