import LocalPlane.EffectSoundness

/-!
# More patience

The clock is looked at and nothing is made of what it says, except that the walk may end. A
run that was not cut off goes the same way with any patience beyond what it used.
-/

set_option linter.dupNamespace false

namespace LocalPlane

open LineProtocol (Json Fields)
open Planning (EffectEdge SystemdServiceAction)

namespace Effects

def Traversal.wait (more : ℕ) (t : Traversal) : Traversal := {t with patience := t.patience + more}

section Wait

variable {bus : Bus} {limits : Limits} {patience more : ℕ} {target canonical referenced name : String} {action : SystemdServiceAction}
  {kind : Work} {depth : ℕ} {rule : Rule} {items : List Json} {properties : Fields} {t t' : Traversal}

theorem remaining_wait (h : t.remaining = .ok t') : (t.wait more).remaining = .ok (t'.wait more) := by
  unfold Traversal.remaining at h
  split at h
  · cases h
  · next n hn =>
    obtain rfl := Except.ok.inj h
    unfold Traversal.remaining Traversal.wait
    dsimp only
    rw [hn,Nat.succ_add]

theorem enqueue_wait : enqueue limits referenced kind depth (t.wait more) = (enqueue limits referenced kind depth t).wait more := by
  unfold enqueue
  repeat' split
  all_goals first | rfl | contradiction

theorem follow_wait {relation : String} : follow limits canonical relation referenced kind depth (t.wait more) =
    (follow limits canonical relation referenced kind depth t).wait more := by
  have hprovisional : (t.wait more).provisional = t.provisional := rfl
  unfold follow
  dsimp only
  rw [hprovisional]
  split
  · exact enqueue_wait
  · split
    · rfl
    · exact enqueue_wait (t:={t with provisional := (⟨canonical,relation,referenced⟩ : EffectEdge) :: t.provisional})

theorem takeName_wait : takeName limits rule canonical depth referenced (t.wait more) =
    (takeName limits rule canonical depth referenced t).wait more := by
  unfold takeName
  cases rule.mark with
  | none =>
    dsimp only
    split
    · exact follow_wait
    · exact enqueue_wait
  | some mark =>
    dsimp only
    have hgap : (t.wait more).gap (mark ++ ":" ++ canonical) = (t.gap (mark ++ ":" ++ canonical)).wait more := rfl
    rw [hgap]
    split
    · exact follow_wait
    · exact enqueue_wait

theorem step_bind_eq {x : Step} {f : Traversal → Step} {s : Traversal} (h : x = .ok s) : (x >>= f) = f s := by
  rw [h]
  rfl

theorem takeEach_wait (h : takeEach limits rule canonical depth items t = .ok t') :
    takeEach limits rule canonical depth items (t.wait more) = .ok (t'.wait more) := by
  induction items generalizing t with
  | nil =>
    obtain rfl := Except.ok.inj h
    rfl
  | cons item rest ih =>
    rw [takeEach] at h ⊢
    obtain ⟨looked,hlooked,h⟩ := step_bind_ok h
    rw [step_bind_eq (remaining_wait hlooked)]
    by_cases hspent : looked.references = 0
    · rw [if_pos hspent] at h
      obtain rfl := Except.ok.inj h
      rw [if_pos (show (looked.wait more).references = 0 from hspent)]
      rfl
    · rw [if_neg hspent] at h
      rw [if_neg (show (looked.wait more).references ≠ 0 from hspent)]
      dsimp only at h ⊢
      cases item with
      | str name =>
        dsimp only at h ⊢
        split at h
        · next hname =>
          rw [if_pos hname]
          have htake := ih h
          rw [← takeName_wait] at htake
          exact htake
        · next hname =>
          rw [if_neg hname]
          exact ih h
      | null | bool _ | num _ | arr _ | obj _ => exact ih h

theorem takeRule_wait (h : takeRule limits canonical depth properties t rule = .ok t') :
    takeRule limits canonical depth properties (t.wait more) rule = .ok (t'.wait more) := by
  unfold takeRule at h ⊢
  split at h
  · obtain rfl := Except.ok.inj h
    rfl
  · exact takeEach_wait h
  · obtain rfl := Except.ok.inj h
    rfl

theorem takeRules_wait {rules : List Rule} (h : rules.foldlM (takeRule limits canonical depth properties) t = .ok t') :
    rules.foldlM (takeRule limits canonical depth properties) (t.wait more) = .ok (t'.wait more) := by
  induction rules generalizing t with
  | nil =>
    obtain rfl := Except.ok.inj h
    rfl
  | cons rule rules ih =>
    rw [List.foldlM_cons] at h ⊢
    obtain ⟨after,hafter,h⟩ := step_bind_ok h
    rw [step_bind_eq (takeRule_wait hafter)]
    exact ih h

theorem visitUnit_wait : visitUnit action canonical kind properties (t.wait more) = (visitUnit action canonical kind properties t).wait more := by
  unfold visitUnit stopWhenUnneeded
  dsimp only
  repeat' split
  all_goals rfl

theorem readUnit_wait (h : readUnit bus name t = .ok t') : readUnit bus name (t.wait more) = .ok (t'.wait more) := by
  unfold readUnit at h ⊢
  by_cases hread : name ∈ t.attempted
  · rw [if_pos hread] at h
    rw [if_pos (show name ∈ (t.wait more).attempted from hread)]
    obtain rfl := Except.ok.inj h
    rfl
  · rw [if_neg hread] at h
    rw [if_neg (show name ∉ (t.wait more).attempted from hread)]
    obtain ⟨looked,hlooked,h⟩ := step_bind_ok h
    have hwait : (Traversal.remaining {t.wait more with attempted := name :: (t.wait more).attempted}) = .ok (looked.wait more) :=
      remaining_wait hlooked
    rw [step_bind_eq hwait]
    split at h
    · obtain rfl := Except.ok.inj h
      rfl
    · cases h
    · split at h
      · split at h
        · next hname =>
          obtain rfl := Except.ok.inj h
          rw [if_pos hname]
          dsimp only
          split <;> rfl
        · next hname =>
          obtain rfl := Except.ok.inj h
          rw [if_neg hname]
          rfl
      · obtain rfl := Except.ok.inj h
        rfl

theorem take_wait (h : take bus limits action name kind depth t = .ok t') :
    take bus limits action name kind depth (t.wait more) = .ok (t'.wait more) := by
  unfold take at h ⊢
  obtain ⟨looked,hlooked,h⟩ := step_bind_ok h
  obtain ⟨after,hafter,h⟩ := step_bind_ok h
  rw [step_bind_eq (remaining_wait hlooked),step_bind_eq (readUnit_wait hafter)]
  have haliases : (after.wait more).aliases = after.aliases := rfl
  have hvisited : (after.wait more).visited = after.visited := rfl
  have hnodes : (after.wait more).nodes = after.nodes := rfl
  rw [haliases,hvisited,hnodes]
  split at h
  · obtain rfl := Except.ok.inj h
    rfl
  · split at h
    · next hold =>
      obtain rfl := Except.ok.inj h
      rw [if_pos hold]
    · next hnew =>
      rw [if_neg hnew]
      split at h
      · cases h
      · rw [visitUnit_wait]
        exact takeRules_wait h

theorem walk_wait {fuel : ℕ} (h : walk bus limits action fuel t = some (.ok t')) :
    walk bus limits action fuel (t.wait more) = some (.ok (t'.wait more)) := by
  induction fuel generalizing t with
  | zero =>
    unfold walk at h ⊢
    have hpending : (t.wait more).pending = t.pending := rfl
    rw [hpending]
    split at h
    · cases h
      rfl
    · cases h
    · next hfuel => cases hfuel
  | succ fuel ih =>
    unfold walk at h ⊢
    have hpending : (t.wait more).pending = t.pending := rfl
    rw [hpending]
    split at h
    · cases h
      rfl
    · next hfuel => cases hfuel
    · next name kind depth rest fuel' hp hfuel =>
      obtain rfl := Nat.succ.inj hfuel
      split at h
      · cases h
      · next after hafter =>
        have htake : take bus limits action name kind depth {t.wait more with pending := rest} = .ok (after.wait more) := take_wait hafter
        rw [htake]
        exact ih h

theorem settleEdge_wait {e : EffectEdge} (h : settleEdge target t e = .ok t') : settleEdge target (t.wait more) e = .ok (t'.wait more) := by
  unfold settleEdge at h ⊢
  obtain ⟨looked,hlooked,h⟩ := step_bind_ok h
  rw [step_bind_eq (remaining_wait hlooked)]
  have haliases : (looked.wait more).aliases = looked.aliases := rfl
  have hvisited : (looked.wait more).visited = looked.visited := rfl
  have hnodes : (looked.wait more).nodes = looked.nodes := rfl
  dsimp only at h ⊢
  rw [haliases,hvisited,hnodes]
  split at h
  · obtain rfl := Except.ok.inj h
    rfl
  · split at h
    · next hrelation =>
      rw [if_pos hrelation]
      split at h
      · next hactive =>
        rw [if_pos hactive]
        split at h
        · next hsource =>
          rw [if_pos hsource]
          obtain rfl := Except.ok.inj h
          split <;> rfl
        · next hsource =>
          rw [if_neg hsource]
          split at h
          · next htrigger =>
            rw [if_pos htrigger]
            obtain rfl := Except.ok.inj h
            split <;> rfl
          · next htrigger =>
            rw [if_neg htrigger]
            obtain rfl := Except.ok.inj h
            split <;> rfl
      · next hactive =>
        rw [if_neg hactive]
        obtain rfl := Except.ok.inj h
        split <;> rfl
    · next hrelation =>
      rw [if_neg hrelation]
      obtain rfl := Except.ok.inj h
      rfl

theorem settle_wait {es : List EffectEdge} (h : es.foldlM (settleEdge target) t = .ok t') :
    es.foldlM (settleEdge target) (t.wait more) = .ok (t'.wait more) := by
  induction es generalizing t with
  | nil =>
    obtain rfl := Except.ok.inj h
    rfl
  | cons e es ih =>
    rw [List.foldlM_cons] at h ⊢
    obtain ⟨after,hafter,h⟩ := step_bind_ok h
    rw [step_bind_eq (settleEdge_wait hafter)]
    exact ih h

theorem Finished.wait (h : Finished bus limits patience target action t t') :
    Finished bus limits (patience + more) target action (t.wait more) (t'.wait more) where
  walked := walk_wait h.walked
  settled := settle_wait h.settled

end Wait

end Effects
end LocalPlane
