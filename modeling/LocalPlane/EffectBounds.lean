import LocalPlane.EffectWalk
import Mathlib.Data.List.ProdSigma

/-!
# The walk ends

No piece of work is queued twice, and there are at most seven for each name that was let in.
What waits and what was taken up are together what is queued, so the walk takes no more
steps than that.
-/

set_option linter.dupNamespace false

namespace LocalPlane

open LineProtocol (Json Fields)
open Planning (EffectEdge SystemdServiceAction)

namespace Effects

/-- What is said of the edges once the walk is over. -/
def Traversal.judgement (t : Traversal) : List EffectEdge × List String × List String := (t.edges,t.activeSources,t.activeUpholdingSources)

/-- What the ceilings leave room for, while no edge is judged. -/
structure Bounded (limits : Limits) (t : Traversal) : Prop where
  once : t.queued.Nodup
  names : ∀ p ∈ t.queued, p.1 ∈ t.admitted
  nodes : t.admitted.length ≤ limits.nodes
  drawn : t.provisional.Nodup
  edges : t.provisional.length ≤ limits.edges
  unjudged : t.judgement = ([],[],[])

theorem Work.mem_all (kind : Work) : kind ∈ Work.all := by
  cases kind <;> decide

theorem Bounded.length {limits : Limits} {t : Traversal} (h : Bounded limits t) : t.queued.length ≤ Work.all.length * limits.nodes := by
  have hsub : t.queued ⊆ t.admitted.product Work.all := fun p hp => List.mem_product.mpr ⟨h.names p hp,Work.mem_all p.2⟩
  calc t.queued.length ≤ (t.admitted.product Work.all).length := (List.subperm_of_subset h.once hsub).length_le
    _ = t.admitted.length * Work.all.length := List.length_product ..
    _ ≤ limits.nodes * Work.all.length := Nat.mul_le_mul_right _ h.nodes
    _ = Work.all.length * limits.nodes := Nat.mul_comm ..

/-- A part of a step keeps within the ceilings, and lets as much wait as it queues. -/
def Kept (limits : Limits) (t t' : Traversal) : Prop :=
  (Bounded limits t → Bounded limits t') ∧ t'.pending.length + t.queued.length = t.pending.length + t'.queued.length

section Kept

variable {bus : Bus} {limits : Limits} {action : SystemdServiceAction} {depth : ℕ} {t t' t'' : Traversal}
  {referenced canonical name : String} {kind : Work} {rule : Rule} {items : List Json} {properties : Fields}

theorem Kept.trans (h : Kept limits t t') (h' : Kept limits t' t'') : Kept limits t t'' := by
  refine ⟨h'.1 ∘ h.1,?_⟩
  have h₁ := h.2
  have h₂ := h'.2
  omega

/-- What queues nothing, lets nothing in and draws no edge is within the ceilings. -/
theorem Kept.of_same (hq : t'.queued = t.queued) (hp : t'.pending = t.pending) (ha : t'.admitted = t.admitted)
    (he : t'.provisional = t.provisional) (hj : t'.judgement = t.judgement) : Kept limits t t' := by
  refine ⟨fun h => ⟨hq ▸ h.once,?_,ha ▸ h.nodes,he ▸ h.drawn,he ▸ h.edges,hj.trans h.unjudged⟩,by rw [hq,hp]⟩
  rw [hq,ha]
  exact h.names

theorem enqueue_kept : Kept limits t (enqueue limits referenced kind depth t) := by
  unfold enqueue
  split
  · exact .of_same rfl rfl rfl rfl rfl
  · next hnew =>
    split
    · exact .of_same rfl rfl rfl rfl rfl
    · split
      · next hvisited =>
        refine ⟨fun h => ⟨List.nodup_cons.mpr ⟨hnew,h.once⟩,fun p hp => ?_,h.nodes,h.drawn,h.edges,h.unjudged⟩,by simp; omega⟩
        rcases List.mem_cons.mp hp with rfl | hp
        · exact hvisited
        · exact h.names p hp
      · split
        · exact .of_same rfl rfl rfl rfl rfl
        · next hroom =>
          refine ⟨fun h => ⟨List.nodup_cons.mpr ⟨hnew,h.once⟩,fun p hp => ?_,not_le.mp hroom,h.drawn,h.edges,h.unjudged⟩,by simp; omega⟩
          rcases List.mem_cons.mp hp with rfl | hp
          · exact .head _
          · exact .tail _ (h.names p hp)

theorem follow_kept {relation : String} : Kept limits t (follow limits canonical relation referenced kind depth t) := by
  unfold follow
  dsimp only
  split
  · exact enqueue_kept
  · next hnew =>
    split
    · exact .of_same rfl rfl rfl rfl rfl
    · next hroom =>
      have hdraw : Kept limits t {t with provisional := (⟨canonical,relation,referenced⟩ : EffectEdge) :: t.provisional} :=
        ⟨fun h => ⟨h.once,h.names,h.nodes,List.nodup_cons.mpr ⟨hnew,h.drawn⟩,not_le.mp hroom,h.unjudged⟩,rfl⟩
      exact hdraw.trans enqueue_kept

theorem takeName_kept : Kept limits t (takeName limits rule canonical depth referenced t) := by
  unfold takeName
  cases rule.mark with
  | none =>
    dsimp only
    split
    · exact follow_kept
    · exact enqueue_kept
  | some mark =>
    have hmark : Kept limits t (t.gap (mark ++ ":" ++ canonical)) := .of_same rfl rfl rfl rfl rfl
    dsimp only
    split
    · exact hmark.trans follow_kept
    · exact hmark.trans enqueue_kept

theorem takeEach_kept (h : takeEach limits rule canonical depth items t = .ok t') : Kept limits t t' := by
  induction items generalizing t with
  | nil =>
    obtain rfl := Except.ok.inj h
    exact .of_same rfl rfl rfl rfl rfl
  | cons item rest ih =>
    rw [takeEach] at h
    obtain ⟨looked,hlooked,h⟩ := step_bind_ok h
    obtain ⟨patience,rfl⟩ := remaining_ok hlooked
    split at h
    · obtain rfl := Except.ok.inj h
      exact .of_same rfl rfl rfl rfl rfl
    · have hlook : Kept limits t {t with references := t.references - 1,patience := patience} := .of_same rfl rfl rfl rfl rfl
      have hskip : ∀ g : String, Kept limits t (Traversal.gap {t with references := t.references - 1,patience := patience} g) :=
        fun g => .of_same rfl rfl rfl rfl rfl
      cases item with
      | str name =>
        dsimp only at h
        split at h
        · exact (hlook.trans takeName_kept).trans (ih h)
        · exact (hskip _).trans (ih h)
      | null | bool _ | num _ | arr _ | obj _ => exact (hskip _).trans (ih h)

theorem takeRule_kept (h : takeRule limits canonical depth properties t rule = .ok t') : Kept limits t t' := by
  unfold takeRule at h
  split at h
  · obtain rfl := Except.ok.inj h
    exact .of_same rfl rfl rfl rfl rfl
  · exact takeEach_kept h
  · obtain rfl := Except.ok.inj h
    exact .of_same rfl rfl rfl rfl rfl

theorem takeRules_kept {rules : List Rule} (h : rules.foldlM (takeRule limits canonical depth properties) t = .ok t') : Kept limits t t' := by
  induction rules generalizing t with
  | nil =>
    obtain rfl := Except.ok.inj h
    exact .of_same rfl rfl rfl rfl rfl
  | cons rule rules ih =>
    rw [List.foldlM_cons] at h
    obtain ⟨after,hafter,h⟩ := step_bind_ok h
    exact (takeRule_kept hafter).trans (ih h)

theorem take_kept (h : take bus limits action name kind depth t = .ok t') : Kept limits t t' := by
  unfold take at h
  obtain ⟨looked,hlooked,h⟩ := step_bind_ok h
  obtain ⟨patience,rfl⟩ := remaining_ok hlooked
  obtain ⟨after,hafter,h⟩ := step_bind_ok h
  have hread : Kept limits t after := by
    rcases readUnit_ok hafter with ⟨-,rfl⟩ | ⟨-,_,_,_,rfl,-⟩ <;> exact .of_same rfl rfl rfl rfl rfl
  split at h
  · exact Except.ok.inj h ▸ hread
  · next canonical _ =>
    split at h
    · exact Except.ok.inj h ▸ hread
    · split at h
      · cases h
      · next properties _ =>
        obtain ⟨units,-,hvisit⟩ := visitUnit_eq action canonical kind properties after
        have hvisited : Kept limits after (visitUnit action canonical kind properties after) := by
          rw [hvisit]
          exact .of_same rfl rfl rfl rfl rfl
        exact (hread.trans hvisited).trans (takeRules_kept h)

theorem walk_bounded {fuel : ℕ} (hb : Bounded limits t) (h : walk bus limits action fuel t = some (.ok t')) : Bounded limits t' := by
  induction fuel generalizing t with
  | zero =>
    unfold walk at h
    split at h
    · cases h
      exact hb
    · cases h
    · next hfuel => cases hfuel
  | succ fuel ih =>
    unfold walk at h
    split at h
    · cases h
      exact hb
    · next hfuel => cases hfuel
    · next name kind depth rest fuel' hp hfuel =>
      obtain rfl := Nat.succ.inj hfuel
      split at h
      · cases h
      · next after hafter =>
        have hpop : Bounded limits {t with pending := rest} := {hb with}
        exact ih ((take_kept hafter).1 hpop) h

/-- There is fuel for each step that may still come. -/
theorem walk_ends {fuel : ℕ} (hb : Bounded limits t) (hfuel : fuel + t.queued.length = Work.all.length * limits.nodes + t.pending.length) :
    ∃ walked, walk bus limits action fuel t = some walked := by
  have hlength := hb.length
  induction fuel generalizing t with
  | zero =>
    unfold walk
    cases hp : t.pending with
    | nil => exact ⟨_,rfl⟩
    | cons x rest =>
      rw [hp,List.length_cons] at hfuel
      omega
  | succ fuel ih =>
    unfold walk
    cases hp : t.pending with
    | nil => exact ⟨_,rfl⟩
    | cons x rest =>
      obtain ⟨name,kind,depth⟩ := x
      dsimp only
      cases htake : take bus limits action name kind depth {t with pending := rest} with
      | error after => exact ⟨_,rfl⟩
      | ok after =>
        have hpop : Bounded limits {t with pending := rest} := {hb with}
        obtain ⟨hbound,hbalance⟩ := take_kept htake
        have hafter := hbound hpop
        refine ih hafter ?_ hafter.length
        rw [hp,List.length_cons] at hfuel
        dsimp only at hbalance
        omega

theorem opening_bounded (target : String) (patience : ℕ) (hnodes : 1 ≤ limits.nodes) :
    Bounded limits (opening limits target action patience) where
  once := List.nodup_singleton _
  names p hp := by
    rw [List.mem_singleton.mp hp]
    exact .head _
  nodes := hnodes
  drawn := List.nodup_nil
  edges := Nat.zero_le _
  unjudged := rfl

end Kept

end Effects
end LocalPlane
